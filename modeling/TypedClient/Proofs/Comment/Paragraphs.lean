import TypedClient.Proofs.Comment.Kept

/-!
Documentation of several lines. Each line is made safe by itself and holds no line break afterwards, so the
lines of a result are read back one by one and stay as they are, the line for those left out among them.
-/

namespace TypedClient

namespace Text

def OneLine (line : Text) : Prop :=
  '\n' ∉ line ∧ '\r' ∉ line

theorem splitOther {c : Char} (noFeed : c ≠ '\n') (noReturn : c ≠ '\r') (rest : Text) :
    splitLines (c :: rest) = extendFirst c (splitLines rest) := by
  rw [splitLines, if_neg (not_or.mpr ⟨noFeed, noReturn⟩)]
  exact fun _ same _ => noReturn same

theorem OneLine.cons {c : Char} {line : Text} (single : OneLine (c :: line)) :
    c ≠ '\n' ∧ c ≠ '\r' ∧ OneLine line := by
  obtain ⟨noFeed, noReturn⟩ := single
  exact ⟨fun same => noFeed (same ▸ List.mem_cons_self), fun same => noReturn (same ▸ List.mem_cons_self),
    mt (List.mem_cons_of_mem c) noFeed, mt (List.mem_cons_of_mem c) noReturn⟩

theorem splitOne {line : Text} (single : OneLine line) : splitLines line = [line] := by
  induction line with
  | nil => rfl
  | cons c line ih =>
    obtain ⟨noFeed, noReturn, later⟩ := single.cons
    rw [splitOther noFeed noReturn, ih later, extendFirst]

theorem splitFeed {line : Text} (single : OneLine line) (rest : Text) :
    splitLines (line ++ '\n' :: rest) = line :: splitLines rest := by
  induction line with
  | nil => rfl
  | cons c line ih =>
    obtain ⟨noFeed, noReturn, later⟩ := single.cons
    rw [List.cons_append, splitOther noFeed noReturn, ih later, extendFirst]

theorem linesOne (line : Text) : Text.lines [line] = line := by
  simp [Text.lines]

theorem splitJoined (first : Text) (rest : List Text) (single : ∀ line ∈ first :: rest, OneLine line) :
    splitLines (Text.lines (first :: rest)) = first :: rest := by
  induction rest generalizing first with
  | nil =>
    rw [linesOne, splitOne (single first List.mem_cons_self)]
  | cons second rest ih =>
    have whole : Text.lines (first :: second :: rest) = first ++ '\n' :: Text.lines (second :: rest) := by
      simp [Text.lines, List.intercalate_cons_cons]
    rw [whole, splitFeed (single first List.mem_cons_self),
      ih second fun line member => single line (List.mem_cons_of_mem first member)]

theorem blankExtended (c : Char) (pieces : List Text) :
    (extendFirst c pieces).all isBlank = (blank c && pieces.all isBlank) := by
  cases pieces with
  | nil => simp [extendFirst, isBlank]
  | cons first others => simp [extendFirst, isBlank, Bool.and_assoc]

theorem blankLines (text : Text) : (splitLines text).all isBlank = isBlank text := by
  have feed : blank '\n' = true := by decide
  have back : blank '\r' = true := by decide
  induction text using splitLines.induct with
  | case1 => rfl
  | case2 rest ih =>
    rw [splitLines, List.all_cons, ih]
    simp [isBlank, feed, back]
  | case3 c rest other breaks ih =>
    have here : blank c = true := by
      rcases breaks with rfl | rfl
      · exact feed
      · exact back
    rw [splitLines, if_pos breaks, List.all_cons, ih]
    · simp [isBlank, here]
    · exact other
  | case4 c rest other inside ih =>
    rw [splitLines, if_neg inside, blankExtended, ih]
    · simp [isBlank]
    · exact other

end Text

namespace Comment

variable {limits : CommentLimits}

theorem visibleWhole {text : Text} (visible : Text.isBlank text = false) : wholeLine text ≠ [] := by
  have starts := startsSeparate '*' '/' (Text.startsStrip visible)
  exact (Text.startsCollapse (startsSeparate '/' '*' starts)).ne

theorem truncateNonempty {line : Text} (filled : line ≠ []) (length : Nat) : truncate length line ≠ [] := by
  unfold truncate
  split
  · exact filled
  · exact List.append_ne_nil_of_right_ne_nil _ (by decide)

theorem singleLineVisible (keeps : limits.preserveHtmlTags = true) {text : Text}
    (visible : Text.isBlank text = false) : singleLine limits text ≠ [] := by
  rw [singleLineWhole keeps]
  exact truncateNonempty (visibleWhole visible) limits.maxLength

/- A line of a result: it fits, and no step changes it. -/
structure Steady (limits : CommentLimits) (line : Text) : Prop where
  filled : line ≠ []
  short : line.length ≤ limits.maxLength
  again : singleLine limits line = line

theorem steadySingleLine (keeps : limits.preserveHtmlTags = true) (room : 4 ≤ limits.maxLength) {text : Text}
    (visible : Text.isBlank text = false) : Steady limits (singleLine limits text) := by
  obtain ⟨settled, short⟩ := settledSingleLine room text
  exact ⟨singleLineVisible keeps visible, short, singleLineKept settled short (.inl keeps)⟩

theorem steadyEllipsis (keeps : limits.preserveHtmlTags = true) (room : 4 ≤ limits.maxLength) :
    Steady limits ellipsis := by
  have short : ellipsis.length ≤ limits.maxLength := Nat.le_of_succ_le room
  have same : Text.strip (Text.collapse (escapeDelimiters ellipsis)) = ellipsis := by decide
  have settled : Settled ellipsis := same ▸ settledOfEscaped ellipsis
  exact ⟨by decide, short, singleLineKept settled short (.inl keeps)⟩

namespace Steady

variable {line : Text}

theorem visible (steady : Steady limits line) : Text.isBlank line = false := by
  cases blank : Text.isBlank line with
  | false => rfl
  | true =>
    have empty : singleLine limits line = [] := if_pos blank
    exact absurd (steady.again.symm.trans empty) steady.filled

theorem oneLine (steady : Steady limits line) : Text.OneLine line := by
  have safe := safeSingleLine limits line
  rw [steady.again] at safe
  exact ⟨fun feed => safe.unbroken _ feed (by decide), fun back => safe.unbroken _ back (by decide)⟩

end Steady

/- A line is trimmed before it is made safe, so both forms make it safe in the same way. -/
theorem lineOfStrip (keeps : limits.preserveHtmlTags = true) (line : Text) :
    lineOf limits (Text.strip line) = singleLine limits line := by
  rw [singleLineWhole keeps, lineOf, neutralize, if_pos keeps, wholeLine]

theorem stripEmpty {line : Text} : Text.strip line = [] ↔ Text.isBlank line = true := by
  cases blank : Text.isBlank line with
  | true => simp [Text.stripBlank blank]
  | false => simp [(Text.startsStrip blank).ne]

def shownLines (text : Text) : List Text :=
  (Text.splitLines text).filter fun line => !Text.isBlank line

theorem multiLineShown (keeps : limits.preserveHtmlTags = true) {text : Text}
    (visible : Text.isBlank text = false) :
    multiLine limits text =
      if limits.preserveLineBreaks then
        limitLines limits.maxLines ((shownLines text).map (singleLine limits))
      else [singleLine limits text] := by
  have shown : ∀ line, (Text.strip line != []) = !Text.isBlank line := by
    intro line
    rw [Bool.eq_iff_iff]
    simp [stripEmpty]
  have lines : (((Text.splitLines text).map Text.strip).filter (· != [])).map (lineOf limits) =
      (shownLines text).map (singleLine limits) := by
    rw [List.filter_map, List.map_map]
    simp only [Function.comp_def, shown, lineOfStrip keeps, shownLines]
  rw [multiLine, visible, if_neg Bool.false_ne_true, ← lines]

theorem limitTwice (count : Nat) (lines : List Text) :
    limitLines count (limitLines count lines) = limitLines count lines := by
  unfold limitLines
  split
  · rename_i longer
    have taken : (lines.take count).length = count := List.length_take_of_le (Nat.le_of_lt longer)
    have still : count < (lines.take count ++ [ellipsis]).length := by
      rw [List.length_append, taken]
      exact Nat.lt_succ_self count
    rw [if_pos still, List.take_left' taken]
  · rfl

theorem lengthLimit (count : Nat) (lines : List Text) : (limitLines count lines).length ≤ count + 1 := by
  unfold limitLines
  split
  · rw [List.length_append, List.length_take]
    exact Nat.succ_le_succ (Nat.min_le_left _ _)
  · rename_i within
    exact Nat.le_succ_of_le (Nat.not_lt.mp within)

theorem limitEmpty {count : Nat} {lines : List Text} : limitLines count lines = [] ↔ lines = [] := by
  unfold limitLines
  split
  · rename_i longer
    have some : lines ≠ [] := List.ne_nil_of_length_pos (Nat.zero_lt_of_lt longer)
    simp [some]
  · rfl

theorem multiLineEmpty (keeps : limits.preserveHtmlTags = true) (text : Text) :
    multiLine limits text = [] ↔ Text.isBlank text = true := by
  cases visible : Text.isBlank text with
  | true => simp [multiLine, visible]
  | false =>
    have some : shownLines text ≠ [] := by
      intro none
      have blanks : (Text.splitLines text).all Text.isBlank = true := by
        simpa [shownLines, List.filter_eq_nil_iff] using none
      rw [Text.blankLines, visible] at blanks
      contradiction
    rw [multiLineShown keeps visible]
    split <;> simp [limitEmpty, some]

theorem steadyMultiLine (keeps : limits.preserveHtmlTags = true) (room : 4 ≤ limits.maxLength) (text : Text) :
    ∀ line ∈ multiLine limits text, Steady limits line := by
  intro line member
  cases visible : Text.isBlank text with
  | true =>
    rw [(multiLineEmpty keeps text).mpr visible] at member
    contradiction
  | false =>
    rw [multiLineShown keeps visible] at member
    split at member
    · rcases memLimitLines member with among | rfl
      · obtain ⟨source, shown, rfl⟩ := List.mem_map.mp among
        exact steadySingleLine keeps room (by simpa using (List.mem_filter.mp shown).2)
      · exact steadyEllipsis keeps room
    · cases List.mem_singleton.mp member
      exact steadySingleLine keeps room visible

def Counted (limits : CommentLimits) (lines : List Text) : Prop :=
  if limits.preserveLineBreaks then limitLines limits.maxLines lines = lines else lines.length ≤ 1

theorem lengthCounted {lines : List Text} (counted : Counted limits lines) :
    lines.length ≤ limits.maxLines + 1 := by
  unfold Counted at counted
  split at counted
  · rw [← counted]
    exact lengthLimit limits.maxLines lines
  · exact Nat.le_trans counted (Nat.le_add_left 1 limits.maxLines)

theorem countedMultiLine (keeps : limits.preserveHtmlTags = true) (text : Text) :
    Counted limits (multiLine limits text) := by
  unfold Counted
  cases visible : Text.isBlank text with
  | true =>
    rw [(multiLineEmpty keeps text).mpr visible]
    split
    · rfl
    · exact Nat.zero_le 1
  | false =>
    rw [multiLineShown keeps visible]
    split
    · exact limitTwice _ _
    · exact Nat.le_refl 1

theorem shownJoined {first : Text} {rest : List Text} (steady : ∀ line ∈ first :: rest, Steady limits line) :
    Text.isBlank (Text.lines (first :: rest)) = false ∧
      (shownLines (Text.lines (first :: rest))).map (singleLine limits) = first :: rest := by
  have split := Text.splitJoined first rest fun line member => (steady line member).oneLine
  have shown : shownLines (Text.lines (first :: rest)) = first :: rest := by
    rw [shownLines, split, List.filter_eq_self]
    intro line member
    simp [(steady line member).visible]
  refine ⟨?_, ?_⟩
  · rw [← Text.blankLines, split, List.all_cons, (steady first List.mem_cons_self).visible, Bool.false_and]
  · rw [shown, List.map_congr_left fun line member => (steady line member).again, List.map_id']

theorem multiLineJoined (keeps : limits.preserveHtmlTags = true) {lines : List Text}
    (steady : ∀ line ∈ lines, Steady limits line) (counted : Counted limits lines) :
    multiLine limits (Text.lines lines) = lines := by
  cases lines with
  | nil => rfl
  | cons first rest =>
    obtain ⟨visible, again⟩ := shownJoined steady
    unfold Counted at counted
    rw [multiLineShown keeps visible, again]
    split
    · rename_i breaks
      rwa [if_pos breaks] at counted
    · rename_i joins
      rw [if_neg joins] at counted
      cases List.length_eq_zero_iff.mp (Nat.le_zero.mp (Nat.le_of_succ_le_succ counted))
      rw [Text.linesOne, (steady first List.mem_cons_self).again]

theorem multiLineStable (keeps : limits.preserveHtmlTags = true) (room : 4 ≤ limits.maxLength) (text : Text) :
    (multiLine limits text).length ≤ limits.maxLines + 1 ∧
      (∀ line ∈ multiLine limits text,
        line ≠ [] ∧ line.length ≤ limits.maxLength ∧ singleLine limits line = line) ∧
      multiLine limits (Text.lines (multiLine limits text)) = multiLine limits text ∧
      (multiLine limits text = [] ↔ Text.isBlank text = true) := by
  have steady := steadyMultiLine keeps room text
  have counted := countedMultiLine keeps text
  refine ⟨lengthCounted counted, ?_, multiLineJoined keeps steady counted, multiLineEmpty keeps text⟩
  intro line member
  obtain ⟨filled, short, again⟩ := steady line member
  exact ⟨filled, short, again⟩

def sampleRemarks : Text := "\t*/  a\r\n \rlong lines/*\nb"

theorem multiLineStableCut :
    multiLine ⟨8, 2, true, true⟩ sampleRemarks = ["*\u200b/ a", "long ...", "..."] ∧
      multiLine ⟨8, 2, true, true⟩ "*\u200b/ a\nlong ...\n..." = ["*\u200b/ a", "long ...", "..."] ∧
      multiLine ⟨8, 2, true, false⟩ sampleRemarks = ["*\u200b/ a..."] ∧
      multiLine ⟨8, 2, true, false⟩ "*\u200b/ a..." = ["*\u200b/ a..."] := by
  have broken : multiLine ⟨8, 2, true, true⟩ sampleRemarks = ["*\u200b/ a", "long ...", "..."] := by
    decide +kernel
  have joined : multiLine ⟨8, 2, true, false⟩ sampleRemarks = ["*\u200b/ a..."] := by decide +kernel
  obtain ⟨_, _, again, _⟩ := @multiLineStable ⟨8, 2, true, true⟩ rfl (by decide) sampleRemarks
  obtain ⟨_, _, again', _⟩ := @multiLineStable ⟨8, 2, true, false⟩ rfl (by decide) sampleRemarks
  rw [broken] at again
  rw [joined] at again'
  exact ⟨broken, again, joined, again'⟩

end Comment

end TypedClient
