import Mathlib.Data.List.Infix
import TypedClient.Proofs.Signature.Rereading
import TypedClient.Proofs.Signature.Spelling

/-!
Texts whose brackets do not balance. Such a text is kept whole, whatever suffixes, commas and blanks it
has, with one exception: a bracket that closes before the first one opens is not seen. It becomes part
of a name that has arguments.
-/

namespace TypedClient.Signature

variable {text core first second : Text}

structure Balanced (text : Text) : Prop where
  closes : ∀ front, front <+: text → front.count '>' ≤ front.count '<'
  total : text.count '<' = text.count '>'

instance (text : Text) : Decidable (Balanced text) :=
  decidable_of_iff
    ((∀ front ∈ text.inits, front.count '>' ≤ front.count '<') ∧ text.count '<' = text.count '>')
    ⟨fun ⟨closes, total⟩ => ⟨fun front start => closes front ((List.mem_inits _ _).mpr start), total⟩,
     fun balanced => ⟨fun front member => balanced.closes front ((List.mem_inits _ _).mp member),
      balanced.total⟩⟩

theorem balancedPlain (plain : ∀ c ∈ text, c ≠ '<' ∧ c ≠ '>') : Balanced text where
  closes := by
    intro front start
    have free : '>' ∉ front := fun member => (plain '>' (start.subset member)).2 rfl
    rw [List.count_eq_zero_of_not_mem free]
    exact Nat.zero_le _
  total := by
    have noOpening : '<' ∉ text := fun member => (plain '<' member).1 rfl
    have noClosing : '>' ∉ text := fun member => (plain '>' member).2 rfl
    rw [List.count_eq_zero_of_not_mem noOpening, List.count_eq_zero_of_not_mem noClosing]

theorem balancedBlank (blanks : Text.isBlank text = true) : Balanced text := by
  refine balancedPlain fun c member => ?_
  obtain ⟨noOpening, noClosing, _⟩ := blankPlain (List.all_eq_true.mp blanks c member)
  exact ⟨noOpening, noClosing⟩

theorem balancedAppend (here : Balanced first) (there : Balanced second) :
    Balanced (first ++ second) where
  closes := by
    intro front start
    rcases List.prefix_or_prefix_of_prefix start (List.prefix_append first second) with short | long
    · exact here.closes front short
    · obtain ⟨rest, rfl⟩ := long
      have closed := there.closes rest ((List.prefix_append_right_inj first).mp start)
      have total := here.total
      rw [List.count_append, List.count_append]
      omega
  total := by
    rw [List.count_append, List.count_append, here.total, there.total]

theorem balancedPadded (padded : Padded core text) (balanced : Balanced core) : Balanced text := by
  obtain ⟨before, after, leading, trailing, rfl⟩ := padded
  exact balancedAppend (balancedAppend (balancedBlank leading) balanced) (balancedBlank trailing)

theorem depthCount {depth next : Nat} {c : Char} (found : depthAfter depth c = some next) :
    next + [c].count '>' = depth + [c].count '<' := by
  unfold depthAfter at found
  split at found
  · rename_i opening
    subst opening
    simpa using found.symm
  · split at found
    · rename_i closing
      subst closing
      cases depth with
      | zero => contradiction
      | succ outer => simpa using found.symm
    · rename_i noOpening noClosing
      simpa [List.count_singleton, noOpening, noClosing] using found.symm

theorem levelCount {depth next : Nat} (found : levelAfter depth text = some next) :
    (∀ front, front <+: text → front.count '>' ≤ depth + front.count '<') ∧
      next + text.count '>' = depth + text.count '<' := by
  induction text generalizing depth with
  | nil =>
    cases Option.some.inj found
    simp
  | cons c rest ih =>
    simp only [levelAfter] at found
    split at found
    · contradiction
    · obtain ⟨between, step, later⟩ := Option.bind_eq_some_iff.mp found
      obtain ⟨closes, total⟩ := ih later
      have counted := depthCount step
      have split : ∀ (d : Char) (others : Text),
          (c :: others).count d = [c].count d + others.count d := by
        intro d others
        rw [← List.singleton_append, List.count_append]
      refine ⟨fun front start => ?_, ?_⟩
      · rcases List.prefix_cons_iff.mp start with rfl | ⟨others, rfl, within⟩
        · simp
        · have closed := closes others within
          rw [split '>' others, split '<' others]
          omega
      · rw [split '>' rest, split '<' rest]
        omega

theorem solidBalanced (solid : Solid text) : Balanced text := by
  obtain ⟨closes, total⟩ := levelCount solid
  exact ⟨by simpa using closes, by omega⟩

theorem unbalancedBracket (unbalanced : ¬ Balanced text) : IsBroken text := by
  by_contra neither
  obtain ⟨noOpening, noClosing⟩ := not_or.mp neither
  refine unbalanced (balancedPlain fun c member => ⟨?_, ?_⟩)
  · rintro rfl
    exact noOpening member
  · rintro rfl
    exact noClosing member

/- A bracket closes before the first one opens, and from the first one on the text is a generic
signature. Suffixes and blanks may follow. -/
inductive ClosedEarly : Text → Prop where
  | generic {front text pieces} (early : '>' ∈ front) (unopened : '<' ∉ front) (nonempty : pieces ≠ [])
      (each : ∀ piece ∈ pieces, Solid piece ∧ Text.isBlank piece = false)
      (padded : Padded (front ++ '<' :: comma.intercalate pieces ++ ['>']) text) : ClosedEarly text
  | array {inner text} (within : ClosedEarly inner) (padded : Padded (inner ++ arrayName) text) :
      ClosedEarly text
  | nullable {inner text} (within : ClosedEarly inner) (padded : Padded (inner ++ ['?']) text) :
      ClosedEarly text

theorem paddedStrip (nonempty : Text.strip text ≠ []) : Padded (Text.strip text) text := by
  have visible : Text.isBlank text = false := by
    cases seen : Text.isBlank text with
    | false => rfl
    | true => exact absurd (Text.stripBlank seen) nonempty
  obtain ⟨before, after, whole, leading, trailing, _⟩ := Text.stripCore visible
  exact ⟨before, after, leading, trailing, whole⟩

theorem malformedWhole (unbalanced : ¬ Balanced text) :
    (leaf (Text.strip text)).isMalformed = true := by
  refine malformedIff.mpr ⟨rfl, (unbalancedBracket unbalanced).imp ?_ ?_⟩
  · exact fun opening => Text.memStrip opening (by decide)
  · exact fun closing => Text.memStrip closing (by decide)

/- What stands before a suffix does not balance either, so that it is kept whole and the suffix with it,
or a bracket closes early there. -/
theorem unbalancedSuffix {inner suffix : Text} (unbalanced : ¬ Balanced text)
    (span : Text.strip text = inner ++ suffix) (nonempty : suffix ≠ []) (plain : Balanced suffix)
    (kept : Kept (parse inner))
    (ih : ¬ Balanced inner → parse inner = leaf (Text.strip inner) ∨ ClosedEarly inner) :
    ClosedEarly inner ∧ Padded (inner ++ suffix) text := by
  have padded : Padded (inner ++ suffix) text := span ▸ paddedStrip (by simp [span, nonempty])
  have inside : ¬ Balanced inner := fun balanced =>
    unbalanced (balancedPadded padded (balancedAppend balanced plain))
  refine ⟨(ih inside).resolve_left fun whole => ?_, padded⟩
  rw [whole] at kept
  exact absurd (kept.2.symm.trans (malformedWhole inside)) (by decide)

theorem wholeOrEarly (text : Text) :
    ¬ Balanced text → parse text = leaf (Text.strip text) ∨ ClosedEarly text := by
  induction text using readingInduction with
  | whole text read => exact fun _ => .inl read
  | array text inner span kept _ ih =>
    intro unbalanced
    obtain ⟨early, padded⟩ := unbalancedSuffix unbalanced span (by decide) (by decide) kept ih
    exact .inr (.array early padded)
  | nullable text inner span kept _ ih =>
    intro unbalanced
    obtain ⟨early, padded⟩ := unbalancedSuffix unbalanced span (by decide) (by decide) kept ih
    exact .inr (.nullable early padded)
  | generic text front inner pieces span _ unopened cut _ _ =>
    intro unbalanced
    obtain ⟨nonempty, each, rfl⟩ := splitArgumentsIff.mp cut
    have padded : Padded (front ++ '<' :: comma.intercalate pieces ++ ['>']) text :=
      span ▸ paddedStrip (by simp [span])
    have solid : Solid ([] ++ '<' :: comma.intercalate pieces ++ ['>']) :=
      solidBracketed (by simp) fun piece member => (each piece member).1
    have early : '>' ∈ front := by
      by_contra absent
      have plain : Balanced front := balancedPlain fun c member =>
        ⟨fun same => unopened (same ▸ member), fun same => absent (same ▸ member)⟩
      refine unbalanced (balancedPadded padded ?_)
      rw [List.append_assoc]
      exact balancedAppend plain (solidBalanced solid)
    exact .inr (.generic early unopened nonempty each padded)

theorem keptArguments {inner : Text} (some : (parse inner).arguments ≠ []) : Kept (parse inner) := by
  have visible : Text.isBlank inner = false := by
    cases seen : Text.isBlank inner with
    | false => rfl
    | true =>
      rw [parseBlank seen] at some
      exact absurd rfl some
  exact ⟨nameVisible visible, by simp [isMalformed, some]⟩

theorem earlyArguments (early : ClosedEarly text) : (parse text).arguments ≠ [] := by
  induction early with
  | @generic front text pieces early unopened nonempty each padded =>
    have cut := splitArgumentsIff.mpr ⟨nonempty, each, rfl⟩
    rw [paddedPart padded, parseBracketed (Text.visibleMember early (by decide)) unopened, cut]
    simpa [arguments] using nonempty
  | array _ padded ih =>
    have kept := keptArguments ih
    rw [paddedPart padded, parseArray (keptVisible kept), wrapKept kept]
    exact List.cons_ne_nil _ _
  | nullable _ padded ih =>
    have kept := keptArguments ih
    rw [paddedPart padded, parseNullable (keptVisible kept), wrapKept kept]
    exact List.cons_ne_nil _ _

def OpensLate (text : Text) : Prop :=
  ∃ front rest, text = front ++ '<' :: rest ∧ '<' ∉ front ∧ '>' ∈ front

theorem opensLatePadded {front rest suffix : Text}
    (padded : Padded (front ++ '<' :: rest ++ suffix) text) (unopened : '<' ∉ front)
    (early : '>' ∈ front) : OpensLate text := by
  obtain ⟨before, after, blanks, _, rfl⟩ := padded
  refine ⟨before ++ front, rest ++ suffix ++ after, by simp, fun member => ?_,
    List.mem_append_right _ early⟩
  rcases List.mem_append.mp member with here | there
  · exact absurd (List.all_eq_true.mp blanks '<' here) (by decide)
  · exact unopened there

theorem earlyOpensLate (early : ClosedEarly text) : OpensLate text := by
  induction early with
  | generic early unopened _ _ padded => exact opensLatePadded padded unopened early
  | array _ padded ih =>
    obtain ⟨front, rest, rfl, unopened, early⟩ := ih
    exact opensLatePadded padded unopened early
  | nullable _ padded ih =>
    obtain ⟨front, rest, rfl, unopened, early⟩ := ih
    exact opensLatePadded padded unopened early

theorem unbalancedWholeIff (unbalanced : ¬ Balanced text) :
    parse text = leaf (Text.strip text) ↔ ¬ ClosedEarly text := by
  constructor
  · intro whole early
    exact earlyArguments early (by rw [whole]; rfl)
  · exact (wholeOrEarly text unbalanced).resolve_right

def unclosedText : Text :=
  " Page<Shop.Widget, List<int>>? , Pair<A>> [] ? "

theorem unbalancedWholeSuffixes :
    ¬ Balanced unclosedText ∧ ¬ ClosedEarly unclosedText ∧
      parse unclosedText = leaf "Page<Shop.Widget, List<int>>? , Pair<A>> [] ?" := by
  have unbalanced : ¬ Balanced unclosedText := by decide +kernel
  have opens : Text.splitFirst '<' unclosedText =
      some ((" Page" : Text), ("Shop.Widget, List<int>>? , Pair<A>> [] ? " : Text)) := by decide
  have late : ¬ ClosedEarly unclosedText := by
    intro early
    obtain ⟨front, rest, whole, unopened, closing⟩ := earlyOpensLate early
    rw [whole, Text.splitFirstOf unopened] at opens
    cases opens
    exact absurd closing (by decide)
  have trimmed : Text.strip unclosedText = "Page<Shop.Widget, List<int>>? , Pair<A>> [] ?" := by decide
  exact ⟨unbalanced, late, trimmed ▸ (unbalancedWholeIff unbalanced).mpr late⟩

theorem closedEarlyRead :
    (¬ Balanced "A><B>" ∧ parse "A><B>" = node "A>" [leaf "B"]) ∧
      ¬ ∀ text, ¬ Balanced text → parse text = leaf (Text.strip text) := by
  have unbalanced : ¬ Balanced "A><B>" := by decide
  have read : parse "A><B>" = node "A>" [leaf "B"] := by decide +kernel
  refine ⟨⟨unbalanced, read⟩, fun all => ?_⟩
  exact absurd (read.symm.trans (all "A><B>" unbalanced)) (by decide)

end TypedClient.Signature
