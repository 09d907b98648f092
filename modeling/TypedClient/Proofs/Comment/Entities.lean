import Mathlib.Data.List.Infix
import TypedClient.Comment

/-!
Replacements in a text, and the decoding of entities as five of them. A text changes exactly where a
pattern occurs in it, and each entity that is decoded takes a semicolon out of the text.
-/

namespace TypedClient

namespace Text

variable {pattern replacement text : Text}

theorem replaceSkipped (skipped : Nat) (text : Text) :
    replaceFrom pattern replacement skipped text =
      replaceAll pattern replacement (text.drop skipped) := by
  induction text generalizing skipped with
  | nil => cases skipped <;> rfl
  | cons c rest ih =>
    cases skipped with
    | zero => rfl
    | succ skipped => exact ih skipped

theorem replaceHere (filled : pattern ≠ []) (rest : Text) :
    replaceAll pattern replacement (pattern ++ rest) =
      replacement ++ replaceAll pattern replacement rest := by
  cases pattern with
  | nil => contradiction
  | cons c others =>
    have here : (c :: others).isPrefixOf (c :: (others ++ rest)) = true :=
      List.isPrefixOf_iff_prefix.mpr (List.prefix_append (c :: others) rest)
    rw [replaceAll, List.cons_append, replaceFrom, if_pos here, replaceSkipped, List.length_cons,
      Nat.add_sub_cancel, List.drop_left]

theorem replaceLater {c : Char} (other : ¬ pattern <+: c :: text) :
    replaceAll pattern replacement (c :: text) = c :: replaceAll pattern replacement text := by
  rw [replaceAll, replaceFrom, if_neg (mt List.isPrefixOf_iff_prefix.mp other)]
  rfl

theorem replacingInduction {motive : Text → Prop} (filled : pattern ≠ []) (nil : motive [])
    (here : ∀ rest, motive rest → motive (pattern ++ rest))
    (later : ∀ c rest, ¬ pattern <+: c :: rest → motive rest → motive (c :: rest)) (text : Text) :
    motive text := by
  induction long : text.length using Nat.strongRecOn generalizing text with
  | ind length ih =>
    subst long
    cases text with
    | nil => exact nil
    | cons c rest =>
      by_cases occurs : pattern <+: c :: rest
      · obtain ⟨others, whole⟩ := occurs
        have long := List.length_pos_iff.mpr filled
        have shorter : others.length < (c :: rest).length := by
          rw [← whole, List.length_append]
          omega
        exact whole ▸ here others (ih others.length shorter others rfl)
      · exact later c rest occurs (ih rest.length (Nat.lt_succ_self _) rest rfl)

theorem infixConsOf {c : Char} (other : ¬ pattern <+: c :: text) :
    pattern <:+: c :: text ↔ pattern <:+: text := by
  rw [List.infix_cons_iff, or_iff_right other]

theorem replaceAbsent (absent : ¬ pattern <:+: text) :
    replaceAll pattern replacement text = text := by
  induction text with
  | nil => rfl
  | cons c rest ih =>
    obtain ⟨other, later⟩ := not_or.mp (mt List.infix_cons_iff.mpr absent)
    rw [replaceLater other, ih later]

theorem countReplaced {c : Char} (filled : pattern ≠ []) (free : c ∉ replacement) (text : Text) :
    (replaceAll pattern replacement text).count c ≤ text.count c ∧
      (c ∈ pattern → pattern <:+: text →
        (replaceAll pattern replacement text).count c < text.count c) := by
  have none : replacement.count c = 0 := List.count_eq_zero.mpr free
  induction text using replacingInduction filled with
  | nil => exact ⟨Nat.le_refl _, fun _ within => absurd (List.infix_nil.mp within) filled⟩
  | here rest ih =>
    rw [replaceHere filled, List.count_append, List.count_append, none]
    refine ⟨by omega, fun member _ => ?_⟩
    have some := List.count_pos_iff.mpr member
    omega
  | later d rest other ih =>
    rw [replaceLater other, List.count_cons, List.count_cons, infixConsOf other]
    refine ⟨Nat.add_le_add_right ih.1 _, fun member within => ?_⟩
    exact Nat.add_lt_add_right (ih.2 member within) _

end Text

namespace Comment

variable {text : Text}

def decodeEach : List (Text × Char) → Text → Text
  | [], text => text
  | (entity, c) :: others, text => decodeEach others (Text.replaceAll entity [c] text)

theorem decodeEachAll (text : Text) : decodeEntities text = decodeEach entities text := rfl

def Plain (text : Text) : Prop :=
  ∀ entity ∈ entities, ¬ entity.1 <:+: text

instance (text : Text) : Decidable (Plain text) :=
  inferInstanceAs (Decidable (∀ entity ∈ entities, ¬ entity.1 <:+: text))

def Marked (entity : Text × Char) : Prop :=
  ';' ∈ entity.1 ∧ entity.2 ≠ ';'

theorem entitiesMarked : ∀ entity ∈ entities, Marked entity := by
  simp only [Marked]
  decide

theorem decodeAbsent {listed : List (Text × Char)}
    (absent : ∀ entity ∈ listed, ¬ entity.1 <:+: text) : decodeEach listed text = text := by
  induction listed with
  | nil => rfl
  | cons entity others ih =>
    obtain ⟨here, later⟩ := List.forall_mem_cons.mp absent
    rw [decodeEach, Text.replaceAbsent here, ih later]

/- A decoding that takes out no semicolon has found nothing. -/
theorem decodeSemicolons {listed : List (Text × Char)} (marked : ∀ entity ∈ listed, Marked entity)
    (text : Text) :
    (decodeEach listed text).count ';' ≤ text.count ';' ∧
      ((decodeEach listed text).count ';' = text.count ';' →
        ∀ entity ∈ listed, ¬ entity.1 <:+: text) := by
  induction listed generalizing text with
  | nil => exact ⟨Nat.le_refl _, by simp⟩
  | cons entity others ih =>
    obtain ⟨entity, c⟩ := entity
    obtain ⟨here, later⟩ := List.forall_mem_cons.mp marked
    have semicolon : ';' ∈ entity := here.1
    have free : ';' ∉ [c] := mt List.mem_singleton.mp here.2.symm
    obtain ⟨less, fewer⟩ := Text.countReplaced (List.ne_nil_of_mem semicolon) free text
    obtain ⟨below, same⟩ := ih later (Text.replaceAll entity [c] text)
    rw [decodeEach]
    refine ⟨Nat.le_trans below less, fun equal => ?_⟩
    have absent : ¬ entity <:+: text := fun within => by
      have strictly := fewer semicolon within
      omega
    rw [Text.replaceAbsent absent] at same equal
    exact List.forall_mem_cons.mpr ⟨absent, same equal⟩

theorem decodePlain (plain : Plain text) : decodeEntities text = text :=
  (decodeEachAll text).trans (decodeAbsent plain)

theorem plainOfSemicolons (same : text.count ';' ≤ (decodeEntities text).count ';') : Plain text := by
  rw [decodeEachAll] at same
  obtain ⟨less, absent⟩ := decodeSemicolons entitiesMarked text
  exact absent (Nat.le_antisymm less same)

end Comment

end TypedClient
