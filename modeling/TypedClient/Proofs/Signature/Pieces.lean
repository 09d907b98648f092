import Mathlib.Data.List.Basic
import TypedClient.Signature

/-!
Arguments between brackets. A piece is solid when its brackets balance and it has no comma outside of
them; a text is cut into pieces exactly where it is a join of solid pieces that are not blank.
-/

namespace TypedClient.Text

theorem infixIntercalate (between : Text) {texts : List Text} {text : Text} (member : text ∈ texts) :
    text <:+: between.intercalate texts := by
  induction texts with
  | nil => contradiction
  | cons first rest ih =>
    cases rest with
    | nil => simp_all
    | cons second others =>
      rw [List.intercalate_cons_cons]
      rcases List.mem_cons.mp member with rfl | inside
      · exact ⟨[], _, by simp; rfl⟩
      · exact (ih inside).trans (List.suffix_append _ _).isInfix

end TypedClient.Text

namespace TypedClient.Signature

def comma : Text := [',']

/- The open brackets after a text, or nothing at a bracket that closes too much and at a comma
outside all brackets. -/
def levelAfter : Nat → Text → Option Nat
  | depth, [] => some depth
  | depth, c :: rest =>
    if c = ',' ∧ depth = 0 then none
    else (depthAfter depth c).bind fun next => levelAfter next rest

def Solid (text : Text) : Prop :=
  levelAfter 0 text = some 0

instance (text : Text) : Decidable (Solid text) :=
  inferInstanceAs (Decidable (levelAfter 0 text = some 0))

def Plain (c : Char) : Prop :=
  c ≠ '<' ∧ c ≠ '>' ∧ c ≠ ','

instance (c : Char) : Decidable (Plain c) :=
  inferInstanceAs (Decidable (_ ∧ _ ∧ _))

theorem plainOf {text : Text} (all : text.all (fun c => decide (Plain c)) = true) :
    ∀ c ∈ text, Plain c := by
  simpa using all

theorem levelAppend (depth : Nat) (first second : Text) :
    levelAfter depth (first ++ second) =
      (levelAfter depth first).bind fun next => levelAfter next second := by
  induction first generalizing depth with
  | nil => rfl
  | cons c rest ih =>
    simp only [List.cons_append, levelAfter]
    split
    · rfl
    · cases depthAfter depth c with
      | none => rfl
      | some next => exact ih next

theorem levelPlain {text : Text} (plain : ∀ c ∈ text, Plain c) (depth : Nat) :
    levelAfter depth text = some depth := by
  induction text generalizing depth with
  | nil => rfl
  | cons c rest ih =>
    obtain ⟨noOpening, noClosing, noComma⟩ := plain c List.mem_cons_self
    have later : ∀ c ∈ rest, Plain c := fun c member => plain c (List.mem_cons_of_mem _ member)
    simp [levelAfter, depthAfter, noOpening, noClosing, noComma, ih later]

theorem depthRaise {depth next : Nat} {c : Char} (found : depthAfter depth c = some next) :
    depthAfter (depth + 1) c = some (next + 1) := by
  unfold depthAfter at *
  split
  · simp_all
  · split
    · rename_i closing
      cases depth with
      | zero => simp_all
      | succ outer => simp_all
    · simp_all

theorem levelRaise {depth next : Nat} {text : Text} (found : levelAfter depth text = some next) :
    levelAfter (depth + 1) text = some (next + 1) := by
  induction text generalizing depth with
  | nil =>
    cases Option.some.inj found
    rfl
  | cons c rest ih =>
    simp only [levelAfter] at found
    split at found
    · contradiction
    · obtain ⟨between, step, later⟩ := Option.bind_eq_some_iff.mp found
      simp [levelAfter, depthRaise step, ih later]

theorem levelEnclosed {text : Text} (solid : Solid text) (depth : Nat) :
    levelAfter depth text = some depth := by
  induction depth with
  | zero => exact solid
  | succ depth ih => exact levelRaise ih

theorem blankPlain {c : Char} (blank : Text.blank c = true) : Plain c := by
  refine ⟨?_, ?_, ?_⟩ <;> rintro rfl <;> exact absurd blank (by decide)

theorem solidPlain {text : Text} (plain : ∀ c ∈ text, Plain c) : Solid text :=
  levelPlain plain 0

theorem solidBlank {text : Text} (blanks : Text.isBlank text = true) : Solid text :=
  solidPlain fun c member => blankPlain (List.all_eq_true.mp blanks c member)

theorem levelStart {before : Text} (plain : ∀ c ∈ before, Plain c) (depth : Nat) (text : Text) :
    levelAfter depth (before ++ text) = levelAfter depth text := by
  rw [levelAppend, levelPlain plain]
  rfl

theorem levelEnd {after : Text} (plain : ∀ c ∈ after, Plain c) (depth : Nat) (text : Text) :
    levelAfter depth (text ++ after) = levelAfter depth text := by
  rw [levelAppend]
  cases levelAfter depth text with
  | none => rfl
  | some next => exact levelPlain plain next

/- Before its first bracket a text can only fail at a comma or at a closing bracket. -/
theorem plainFront {front rest : Text} (free : '<' ∉ front) (solid : Solid (front ++ rest)) :
    ∀ c ∈ front, Plain c := by
  induction front with
  | nil => simp
  | cons d others ih =>
    obtain ⟨noOpening, free⟩ := not_or.mp (fun member => free (List.mem_cons.mpr member))
    have here : Plain d := by
      refine ⟨Ne.symm noOpening, ?_, ?_⟩ <;> rintro rfl <;>
        simp [Solid, levelAfter, depthAfter] at solid
    have later : Solid (others ++ rest) := by
      have single : ∀ c ∈ [d], Plain c := by simpa using here
      rwa [Solid, List.cons_append, ← List.singleton_append, levelStart single] at solid
    intro c member
    rcases List.mem_cons.mp member with rfl | inside
    · exact here
    · exact ih free later c inside

theorem solidAppend {first second : Text} (here : Solid first) (there : Solid second) :
    Solid (first ++ second) := by
  rw [Solid, levelAppend, here]
  exact there

theorem levelJoin {pieces : List Text} (solid : ∀ piece ∈ pieces, Solid piece) (depth : Nat) :
    levelAfter (depth + 1) (comma.intercalate pieces) = some (depth + 1) := by
  induction pieces with
  | nil => rfl
  | cons first rest ih =>
    have here := levelEnclosed (solid first List.mem_cons_self) (depth + 1)
    have later := ih fun piece member => solid piece (List.mem_cons_of_mem _ member)
    cases rest with
    | nil => simpa using here
    | cons second others =>
      rw [List.intercalate_cons_cons, List.append_assoc, levelAppend, here]
      exact later

theorem solidBracketed {front : Text} {pieces : List Text} (plain : ∀ c ∈ front, Plain c)
    (solid : ∀ piece ∈ pieces, Solid piece) :
    Solid (front ++ '<' :: comma.intercalate pieces ++ ['>']) := by
  have inner := levelJoin solid 0
  rw [List.append_assoc, Solid, levelAppend, levelPlain plain, List.cons_append]
  simp [levelAfter, depthAfter, levelAppend, inner]

theorem extendFirstAll (text first : Text) (others : List Text) :
    text.foldr Text.extendFirst (first :: others) = (text ++ first) :: others := by
  induction text with
  | nil => rfl
  | cons c rest ih => rw [List.foldr_cons, ih]; rfl

theorem piecesAppend {depth next : Nat} {text : Text} (found : levelAfter depth text = some next)
    (rest : Text) :
    piecesAt (text ++ rest) depth =
      (piecesAt rest next).map fun pieces => text.foldr Text.extendFirst pieces := by
  induction text generalizing depth with
  | nil =>
    cases Option.some.inj found
    simp
  | cons c others ih =>
    simp only [levelAfter] at found
    split at found
    · contradiction
    · rename_i inside
      obtain ⟨between, step, later⟩ := Option.bind_eq_some_iff.mp found
      simp only [List.cons_append, piecesAt, if_neg inside, step, Option.bind_some, ih later,
        Option.map_map]
      rfl

theorem piecesOfSolid {text : Text} (solid : Solid text) : piecesAt text 0 = some [text] := by
  have cut := piecesAppend solid []
  rw [List.append_nil, show piecesAt [] 0 = some [[]] from rfl, Option.map_some, extendFirstAll,
    List.append_nil] at cut
  exact cut

theorem piecesJoin {pieces : List Text} (nonempty : pieces ≠ []) (solid : ∀ piece ∈ pieces, Solid piece) :
    piecesAt (comma.intercalate pieces) 0 = some pieces := by
  induction pieces with
  | nil => contradiction
  | cons first rest ih =>
    cases rest with
    | nil => simpa using piecesOfSolid (solid first List.mem_cons_self)
    | cons second others =>
      have later := ih (by simp) fun piece member => solid piece (List.mem_cons_of_mem _ member)
      rw [List.intercalate_cons_cons, List.append_assoc,
        piecesAppend (solid first List.mem_cons_self)]
      have cut : piecesAt (comma ++ comma.intercalate (second :: others)) 0 =
          some ([] :: second :: others) := by
        simp only [comma, List.singleton_append, piecesAt, and_self, if_true]
        exact congrArg (Option.map _) later
      rw [cut, Option.map_some, extendFirstAll, List.append_nil]

theorem piecesOfCut {text : Text} {depth : Nat} {pieces : List Text}
    (found : piecesAt text depth = some pieces) :
    ∃ first others, pieces = first :: others ∧ levelAfter depth first = some 0 ∧
      (∀ piece ∈ others, Solid piece) ∧ text = comma.intercalate pieces := by
  induction text generalizing depth pieces with
  | nil =>
    simp only [piecesAt, Option.ite_none_right_eq_some, Option.some.injEq] at found
    obtain ⟨rfl, rfl⟩ := found
    exact ⟨[], [], rfl, rfl, by simp, rfl⟩
  | cons c rest ih =>
    simp only [piecesAt] at found
    split at found
    · rename_i outside
      obtain ⟨later, cut, rfl⟩ := Option.map_eq_some_iff.mp found
      obtain ⟨first, others, rfl, level, solid, rfl⟩ := ih cut
      refine ⟨[], first :: others, rfl, by rw [outside.2]; rfl, ?_, ?_⟩
      · intro piece member
        rcases List.mem_cons.mp member with rfl | inside
        · exact level
        · exact solid piece inside
      · rw [List.intercalate_cons_cons, outside.1]
        rfl
    · rename_i inside
      obtain ⟨next, step, after⟩ := Option.bind_eq_some_iff.mp found
      obtain ⟨later, cut, rfl⟩ := Option.map_eq_some_iff.mp after
      obtain ⟨first, others, rfl, level, solid, rfl⟩ := ih cut
      refine ⟨c :: first, others, rfl, ?_, solid, ?_⟩
      · simp [levelAfter, inside, step, level]
      · cases others with
        | nil => simp [Text.extendFirst]
        | cons second others => simp [Text.extendFirst, List.intercalate_cons_cons]

theorem splitArgumentsIff {inner : Text} {pieces : List Text} :
    splitArguments inner = some pieces ↔
      pieces ≠ [] ∧ (∀ piece ∈ pieces, Solid piece ∧ Text.isBlank piece = false) ∧
        inner = comma.intercalate pieces := by
  unfold splitArguments
  constructor
  · intro found
    split at found
    · rename_i cut
      split at found
      · contradiction
      · rename_i visible
        cases Option.some.inj found
        obtain ⟨first, others, rfl, level, solid, whole⟩ := piecesOfCut cut
        refine ⟨by simp, ?_, whole⟩
        intro piece member
        refine ⟨?_, ?_⟩
        · rcases List.mem_cons.mp member with rfl | inside
          · exact level
          · exact solid piece inside
        · simp only [List.any_eq_true, not_exists, not_and, Bool.not_eq_true] at visible
          exact visible piece member
    · contradiction
  · rintro ⟨nonempty, each, rfl⟩
    have visible : ¬ pieces.any Text.isBlank = true := by
      simp only [List.any_eq_true, not_exists, not_and, Bool.not_eq_true]
      exact fun piece member => (each piece member).2
    rw [piecesJoin nonempty fun piece member => (each piece member).1]
    exact if_neg visible

theorem splitSolid {text : Text} (visible : Text.isBlank text = false) :
    splitArguments text = some [text] ↔ Solid text := by
  rw [splitArgumentsIff]
  simp [visible]

end TypedClient.Signature
