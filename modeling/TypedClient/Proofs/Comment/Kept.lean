import TypedClient.Proofs.Comment.Settled
import TypedClient.Proofs.Text.Words

/-!
What a line keeps of its text. A line that is not cut shows, without its zero-width spaces, the words of
the text with one space between them, and the zero-width spaces stand inside the delimiters alone.
-/

namespace TypedClient.Comment

variable {limits : CommentLimits}

/- A zero-width space between the two signs of each delimiter, and nowhere else. -/
def guarded : Text → Text
  | [] => []
  | [c] => [c]
  | c :: d :: rest =>
    if Loose c d then c :: guarded (d :: rest) else c :: zeroWidthSpace :: guarded (d :: rest)

theorem separateBegins (first second c : Char) (rest : Text) :
    ∃ others, separate first second (c :: rest) = c :: others :=
  List.head?_eq_some_iff.mp (headSeparate first second c rest)

theorem separateNext {c d : Char} {rest : Text} (next : rest.head? = some d) (first second : Char) :
    separate first second (c :: rest) =
      if c = first ∧ d = second then c :: zeroWidthSpace :: separate first second rest
      else c :: separate first second rest := by
  obtain ⟨others, rfl⟩ := List.head?_eq_some_iff.mp next
  rw [separate]

theorem separatePast {first c : Char} (other : c ≠ first) (second : Char) (rest : Text) :
    separate first second (c :: rest) = c :: separate first second rest := by
  cases rest with
  | nil => rfl
  | cons d rest => rw [separate, if_neg fun both => other both.1]

theorem escapeGuarded (text : Text) : escapeDelimiters text = guarded text := by
  unfold escapeDelimiters
  -- The second replacement meets the marks of the first, and a mark is neither sign.
  induction text using guarded.induct with
  | case1 => rfl
  | case2 c => rfl
  | case3 c d rest loose ih =>
    have first : (separate '*' '/' (d :: rest)).head? = some d := headSeparate _ _ d rest
    rw [guarded, if_pos loose, separate, if_neg loose.1, separateNext first,
      if_neg (mt And.symm loose.2), ih]
  | case4 c d rest delimits ih =>
    have first : (separate '*' '/' (d :: rest)).head? = some d := headSeparate _ _ d rest
    rw [guarded, if_neg delimits, separate]
    by_cases closes : Apart c d
    · obtain ⟨rfl, rfl⟩ := not_not.mp fun opens => delimits ⟨closes, opens⟩
      rw [if_neg closes, separateNext first, if_pos ⟨rfl, rfl⟩, ih]
    · obtain ⟨rfl, rfl⟩ := not_not.mp closes
      rw [if_pos ⟨rfl, rfl⟩, separatePast (by decide), separatePast (by decide), ih]

theorem collapseSeparate {first second : Char} (shown : Text.blank first = false)
    (shown' : Text.blank second = false) (text : Text) :
    Text.collapse (separate first second text) = separate first second (Text.collapse text) := by
  have mark : Text.blank zeroWidthSpace = false := by decide
  have space : Text.blank ' ' = true := by decide
  -- Neither sign of the pair is blank, so either step may come first.
  induction text using Text.collapse.induct with
  | case1 => rfl
  | case2 c blank =>
    rw [separate, Text.collapse, if_pos blank]
    rfl
  | case3 c visible =>
    rw [separate, Text.collapse, if_neg visible]
    rfl
  | case4 c d rest blank next ih =>
    obtain ⟨others, begins⟩ := separateBegins first second d rest
    rw [separatePast (Text.blankOther blank shown), Text.collapse, if_pos blank, if_pos next, ← ih, begins,
      Text.collapse, if_pos blank, if_pos next]
  | case5 c d rest blank next ih =>
    obtain ⟨others, begins⟩ := separateBegins first second d rest
    rw [separatePast (Text.blankOther blank shown), Text.collapse, if_pos blank, if_neg next,
      separatePast (Text.blankOther space shown), ← ih, begins, Text.collapse, if_pos blank, if_neg next]
  | case6 c d rest visible ih =>
    have here : Text.blank c = false := by simpa using visible
    have pair : (c = first ∧ (if Text.blank d then ' ' else d) = second) ↔ c = first ∧ d = second := by
      cases next : Text.blank d with
      | true => simp [Text.blankOther space shown', Text.blankOther next shown']
      | false => simp
    rw [Text.collapseNext here, separateNext (headCollapse d rest), separate]
    simp only [pair]
    split
    · rw [Text.collapseNext here, Text.collapseNext mark, ih]
    · rw [Text.collapseNext here, ih]

theorem collapseEscape (text : Text) :
    Text.collapse (escapeDelimiters text) = escapeDelimiters (Text.collapse text) := by
  rw [escapeDelimiters, collapseSeparate (by decide) (by decide),
    collapseSeparate (by decide) (by decide), escapeDelimiters]

theorem startsSeparate (first second : Char) {text : Text} (starts : Text.Starts text) :
    Text.Starts (separate first second text) := by
  obtain ⟨c, rest, rfl, visible⟩ := starts
  obtain ⟨others, begins⟩ := separateBegins first second c rest
  exact ⟨c, others, begins, visible⟩

theorem endsSeparate (first second : Char) {text : Text} (ends : Text.Ends text) :
    Text.Ends (separate first second text) := by
  induction text using separate.induct first second with
  | case1 => exact ends
  | case2 c => exact ends
  | case3 c d rest delimits ih =>
    rw [separate, if_pos delimits]
    exact ((ih (Text.endsTail ends)).cons zeroWidthSpace).cons c
  | case4 c d rest other ih =>
    rw [separate, if_neg other]
    exact (ih (Text.endsTail ends)).cons c

def wholeLine (text : Text) : Text :=
  Text.collapse (escapeDelimiters (Text.strip text))

theorem wholeBlank {text : Text} (blanks : Text.isBlank text = true) : wholeLine text = [] := by
  rw [wholeLine, Text.stripBlank blanks]
  rfl

theorem stripWhole (text : Text) : Text.strip (wholeLine text) = wholeLine text := by
  cases visible : Text.isBlank text with
  | true => rw [wholeBlank visible]; rfl
  | false =>
    have starts := startsSeparate '*' '/' (Text.startsStrip visible)
    have ends := endsSeparate '*' '/' (Text.endsStrip visible)
    exact Text.stripOf (Text.startsCollapse (startsSeparate '/' '*' starts))
      (Text.endsCollapse (endsSeparate '/' '*' ends))

theorem wholeGuarded (text : Text) : wholeLine text = guarded (Text.collapse (Text.strip text)) := by
  rw [wholeLine, collapseEscape, escapeGuarded]

theorem withoutWhole {text : Text} (unmarked : zeroWidthSpace ∉ text) :
    withoutMarks (wholeLine text) = Text.collapse (Text.strip text) := by
  have free : zeroWidthSpace ∉ Text.collapse (Text.strip text) := by
    rw [← List.count_eq_zero, countCollapse (by decide), List.count_eq_zero]
    exact fun member => unmarked ((Text.stripWithin text).subset member)
  rw [wholeLine, collapseEscape, withoutEscape, withoutMarks, List.filter_eq_self]
  intro c member
  exact bne_iff_ne.mpr fun same => free (same ▸ member)

theorem singleLineWhole (keeps : limits.preserveHtmlTags = true) (text : Text) :
    singleLine limits text = truncate limits.maxLength (wholeLine text) := by
  cases visible : Text.isBlank text with
  | true =>
    rw [singleLine, if_pos visible, wholeBlank visible]
    exact (if_pos (Nat.zero_le limits.maxLength)).symm
  | false =>
    rw [singleLine, visible, if_neg Bool.false_ne_true, neutralize, if_pos keeps, ← wholeLine, stripWhole]

theorem singleLineKeeps (keeps : limits.preserveHtmlTags = true) (room : 4 ≤ limits.maxLength)
    {text : Text} (unmarked : zeroWidthSpace ∉ text) :
    (singleLine limits text).length ≤ limits.maxLength ∧
      ((wholeLine text).length ≤ limits.maxLength →
        singleLine limits text = wholeLine text ∧
          withoutMarks (singleLine limits text) = Text.collapse (Text.strip text)) ∧
      (limits.maxLength < (wholeLine text).length →
        singleLine limits text = (wholeLine text).take (limits.maxLength - 3) ++ ellipsis) ∧
      wholeLine text = guarded (Text.collapse (Text.strip text)) ∧
      Text.collapse (Text.strip text) = Text.sentence (Text.words text) := by
  refine ⟨(settledSingleLine room text).2, fun short => ?_, fun long => ?_, wholeGuarded text,
    Text.collapseStrip text⟩
  · have kept : singleLine limits text = wholeLine text := by
      rw [singleLineWhole keeps, truncate, if_pos short]
    exact ⟨kept, kept ▸ withoutWhole unmarked⟩
  · rw [singleLineWhole keeps, truncate, if_neg (Nat.not_le.mpr long)]
    rfl

theorem singleLineKeepsShared :
    zeroWidthSpace ∉ (" */*  a\n/*/\t" : Text) ∧
      withoutMarks (singleLine .standard " */*  a\n/*/\t") = ("*/* a /*/" : Text) ∧
      singleLine ⟨8, 1, true, true⟩ " */*  a\n/*/\t" =
        '*' :: zeroWidthSpace :: '/' :: zeroWidthSpace :: '*' :: ellipsis := by
  have unmarked : zeroWidthSpace ∉ (" */*  a\n/*/\t" : Text) := by decide +kernel
  obtain ⟨_, uncut, _⟩ := @singleLineKeeps .standard rfl (by decide) _ unmarked
  obtain ⟨_, _, cut, _⟩ := @singleLineKeeps ⟨8, 1, true, true⟩ rfl (by decide) _ unmarked
  exact ⟨unmarked, (uncut (by decide +kernel)).2.trans (by decide +kernel),
    (cut (by decide +kernel)).trans (by decide +kernel)⟩

end TypedClient.Comment
