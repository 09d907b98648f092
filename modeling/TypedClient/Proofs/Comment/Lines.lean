import Mathlib.Data.List.Chain
import TypedClient.Comment
import TypedClient.Proofs.Text.Trimmed

/-!
Lines of documentation. Whatever the text and the limits, a line that was made safe has no star right
before a slash and no line break: each step keeps what the steps before it have reached.
-/

namespace TypedClient.Comment

def Apart (c d : Char) : Prop :=
  ¬ (c = '*' ∧ d = '/')

instance (c d : Char) : Decidable (Apart c d) :=
  inferInstanceAs (Decidable (¬ _))

/- Every character that ends a line in some reading of the text. -/
def lineBreaks : Text :=
  [0x0A, 0x0B, 0x0C, 0x0D, 0x1C, 0x1D, 0x1E, 0x85, 0x2028, 0x2029].map Char.ofNat

def Unbroken (text : Text) : Prop :=
  ∀ c ∈ text, c ∉ lineBreaks

instance (text : Text) : Decidable (Unbroken text) :=
  decidable_of_iff (text.all fun c => !lineBreaks.contains c) (by simp [Unbroken])

structure SafeLine (line : Text) : Prop where
  apart : line.IsChain Apart
  unbroken : Unbroken line

theorem Unbroken.append {first second : Text} (here : Unbroken first) (there : Unbroken second) :
    Unbroken (first ++ second) := by
  intro c member
  rcases List.mem_append.mp member with inFirst | inSecond
  · exact here c inFirst
  · exact there c inSecond

theorem apartBefore {c : Char} (other : c ≠ '*') (d : Char) : Apart c d :=
  fun both => other both.1

theorem apartAfter (c : Char) {d : Char} (other : d ≠ '/') : Apart c d :=
  fun both => other both.2

structure Quiet (text : Text) : Prop where
  apart : text.IsChain Apart
  begins : '/' ∉ text.head?

theorem apartAppend {first second : Text} (apart : first.IsChain Apart) (quiet : Quiet second) :
    (first ++ second).IsChain Apart := by
  refine List.isChain_append.mpr ⟨apart, quiet.apart, fun c _ d here => apartAfter c ?_⟩
  rintro rfl
  exact quiet.begins here

theorem Quiet.append {first second : Text} (quiet : Quiet first) (quiet' : Quiet second) :
    Quiet (first ++ second) := by
  refine ⟨apartAppend quiet.apart quiet', ?_⟩
  cases first with
  | nil => exact quiet'.begins
  | cons c rest => exact quiet.begins

theorem quietSpace {line : Text} (apart : line.IsChain Apart) : Quiet (' ' :: line) where
  apart := .cons apart fun _ _ => apartBefore (by decide) _
  begins := by simp

theorem headSeparate (first second c : Char) (rest : Text) :
    (separate first second (c :: rest)).head? = some c := by
  cases rest with
  | nil => rfl
  | cons d rest =>
    rw [separate]
    split <;> rfl

/- Only a `first` right before a `second` changes its neighbour, and that becomes the zero-width space. -/
theorem separateKeeps {first second : Char} {keeps : Char → Char → Prop}
    (before : ∀ c, keeps c zeroWidthSpace) (after : ∀ c, keeps zeroWidthSpace c) {text : Text}
    (kept : text.IsChain fun c d => (c = first ∧ d = second) ∨ keeps c d) :
    (separate first second text).IsChain keeps := by
  induction text using separate.induct first second with
  | case1 => exact .nil
  | case2 c => exact .singleton c
  | case3 c d rest delimits ih =>
    rw [separate, if_pos delimits]
    have later := ih (List.isChain_cons_cons.mp kept).2
    exact .cons_cons (before c) (.cons later fun _ _ => after _)
  | case4 c d rest other ih =>
    rw [separate, if_neg other]
    obtain ⟨here, later⟩ := List.isChain_cons_cons.mp kept
    refine .cons (ih later) ?_
    rw [headSeparate]
    rintro _ ⟨rfl⟩
    exact here.resolve_left other

theorem apartSpace (c : Char) : Apart c zeroWidthSpace ∧ Apart zeroWidthSpace c :=
  ⟨apartAfter c (by decide), apartBefore (by decide) c⟩

def Loose (c d : Char) : Prop :=
  Apart c d ∧ Apart d c

instance (c d : Char) : Decidable (Loose c d) :=
  inferInstanceAs (Decidable (_ ∧ _))

theorem escapeLoose (text : Text) : (escapeDelimiters text).IsChain Loose := by
  have closing : (separate '*' '/' text).IsChain Apart := by
    refine separateKeeps (fun c => (apartSpace c).1) (fun c => (apartSpace c).2) ?_
    refine List.isChain_iff_forall_rel_of_append_cons_cons.mpr ?_
    intro c d _ _ _
    exact Decidable.em (c = '*' ∧ d = '/')
  refine separateKeeps apartSpace (fun c => (apartSpace c).symm) (closing.imp ?_)
  intro c d apart
  by_cases opens : Apart d c
  · exact .inr ⟨apart, opens⟩
  · exact .inl (not_not.mp opens).symm

theorem escapeApart (text : Text) : (escapeDelimiters text).IsChain Apart :=
  (escapeLoose text).imp fun _ _ loose => loose.1

theorem headCollapse (c : Char) (rest : Text) :
    (Text.collapse (c :: rest)).head? = some (if Text.blank c then ' ' else c) := by
  induction rest generalizing c with
  | nil => rw [Text.collapse]; split <;> rfl
  | cons d rest ih =>
    rw [Text.collapse]
    cases here : Text.blank c with
    | false => rfl
    | true =>
      cases next : Text.blank d with
      | false => rfl
      | true =>
        have later := ih d
        rw [next] at later
        exact later

theorem collapseKeeps {keeps : Char → Char → Prop} (before : ∀ c, keeps c ' ')
    (after : ∀ c, keeps ' ' c) {text : Text} (kept : text.IsChain keeps) :
    (Text.collapse text).IsChain keeps := by
  induction text using Text.collapse.induct with
  | case1 => exact .nil
  | case2 c blank | case3 c visible =>
    rw [Text.collapse]
    split <;> exact .singleton _
  | case4 c d rest blank next ih =>
    rw [Text.collapse, if_pos blank, if_pos next]
    exact ih (List.isChain_cons_cons.mp kept).2
  | case5 c d rest blank next ih =>
    rw [Text.collapse, if_pos blank, if_neg next]
    exact .cons (ih (List.isChain_cons_cons.mp kept).2) fun _ _ => after _
  | case6 c d rest visible ih =>
    rw [Text.collapse, if_neg visible]
    obtain ⟨here, later⟩ := List.isChain_cons_cons.mp kept
    refine .cons (ih later) ?_
    rw [headCollapse]
    rintro _ ⟨rfl⟩
    split
    · exact before c
    · exact here

theorem collapseApart {text : Text} (apart : text.IsChain Apart) :
    (Text.collapse text).IsChain Apart :=
  collapseKeeps (fun c => apartAfter c (by decide)) (fun c => apartBefore (by decide) c) apart

theorem breakBlank {c : Char} (breaks : c ∈ lineBreaks) : Text.blank c = true ∧ c ≠ ' ' := by
  have all : lineBreaks.all (fun c => Text.blank c && c != ' ') = true := by decide +kernel
  simpa using List.all_eq_true.mp all c breaks

theorem blankCollapsed {text : Text} {c : Char} (member : c ∈ Text.collapse text)
    (blank : Text.blank c = true) : c = ' ' := by
  induction text using Text.collapse.induct with
  | case1 => contradiction
  | case2 d here =>
    rw [Text.collapse, if_pos here] at member
    exact List.mem_singleton.mp member
  | case3 d visible =>
    rw [Text.collapse, if_neg visible] at member
    cases List.mem_singleton.mp member
    contradiction
  | case4 d next rest here following ih =>
    rw [Text.collapse, if_pos here, if_pos following] at member
    exact ih member
  | case5 d next rest here following ih =>
    rw [Text.collapse, if_pos here, if_neg following] at member
    exact (List.mem_cons.mp member).elim id ih
  | case6 d next rest visible ih =>
    rw [Text.collapse, if_neg visible] at member
    rcases List.mem_cons.mp member with rfl | later
    · contradiction
    · exact ih later

theorem safeCollapse {text : Text} (apart : text.IsChain Apart) : SafeLine (Text.collapse text) where
  apart := collapseApart apart
  unbroken := by
    intro c member breaks
    obtain ⟨blank, other⟩ := breakBlank breaks
    exact other (blankCollapsed member blank)

theorem SafeLine.part {line part : Text} (safe : SafeLine line) (within : part <:+: line) :
    SafeLine part := by
  refine ⟨?_, fun c member => safe.unbroken c (within.subset member)⟩
  obtain ⟨before, after, rfl⟩ := within
  exact safe.apart.left_of_append.right_of_append

theorem SafeLine.append {first second : Text} (safe : SafeLine first) (safe' : SafeLine second)
    (begins : '/' ∉ second.head?) : SafeLine (first ++ second) where
  apart := apartAppend safe.apart ⟨safe'.apart, begins⟩
  unbroken := safe.unbroken.append safe'.unbroken

theorem safeEllipsis : SafeLine ellipsis :=
  ⟨by decide, by decide +kernel⟩

theorem takeWithin (count : Nat) (line : Text) : line.take count <:+: line :=
  ⟨[], line.drop count, List.take_append_drop count line⟩

theorem safeTruncate {line : Text} (safe : SafeLine line) (length : Nat) :
    SafeLine (truncate length line) := by
  unfold truncate
  split
  · exact safe
  · exact (safe.part (takeWithin _ line)).append safeEllipsis (by decide)

theorem neutralApart (limits : CommentLimits) (text : Text) : (neutralize limits text).IsChain Apart :=
  escapeApart _

theorem safeNil : SafeLine [] :=
  ⟨.nil, by decide⟩

theorem safeSpace {line : Text} (safe : SafeLine line) : SafeLine (' ' :: line) where
  apart := (quietSpace safe.apart).apart
  unbroken := by
    have spaced : Unbroken [' '] := by decide +kernel
    exact spaced.append safe.unbroken

theorem safeSingleLine (limits : CommentLimits) (text : Text) : SafeLine (singleLine limits text) := by
  unfold singleLine
  split
  · exact safeNil
  · exact safeTruncate ((safeCollapse (neutralApart limits _)).part (Text.stripWithin _)) _

theorem safeLineOf (limits : CommentLimits) (line : Text) : SafeLine (lineOf limits line) :=
  safeTruncate (safeCollapse (neutralApart limits line)) _

theorem memLimitLines {count : Nat} {lines : List Text} {line : Text}
    (member : line ∈ limitLines count lines) : line ∈ lines ∨ line = ellipsis := by
  unfold limitLines at member
  split at member
  · exact (List.mem_append.mp member).imp List.mem_of_mem_take List.mem_singleton.mp
  · exact .inl member

theorem safeMultiLine (limits : CommentLimits) (text : Text) :
    ∀ line ∈ multiLine limits text, SafeLine line := by
  intro line member
  unfold multiLine at member
  split at member
  · contradiction
  · split at member
    · rcases memLimitLines member with among | rfl
      · obtain ⟨source, _, rfl⟩ := List.mem_map.mp among
        exact safeLineOf limits source
      · exact safeEllipsis
    · cases List.mem_singleton.mp member
      exact safeSingleLine limits text

end TypedClient.Comment
