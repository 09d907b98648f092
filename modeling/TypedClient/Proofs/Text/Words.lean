import TypedClient.Proofs.Text.Trimmed

/-!
The words of a text: what stands between its blanks. Blanks around a text do not change its words, and
a trimmed text in which each run of blanks has become one space is its words with a space between them.
-/

namespace TypedClient.Text

def words (text : Text) : List Text :=
  (pieces blank text).filter fun piece => piece ≠ []

def sentence (words : List Text) : Text :=
  ([' '] : Text).intercalate words

variable {c d : Char} {text rest : Text}

theorem wordsBlank (here : blank c = true) (rest : Text) : words (c :: rest) = words rest := by
  rw [words, pieces, if_pos here]
  rfl

theorem wordsAlone (here : blank c = false) : words [c] = [[c]] := by
  rw [words, pieces, here]
  rfl

theorem wordsEnd (here : blank c = false) (next : blank d = true) (rest : Text) :
    words (c :: d :: rest) = [c] :: words (d :: rest) := by
  rw [wordsBlank next, words, pieces, pieces, here, next]
  rfl

theorem wordsGrow (here : blank c = false) (next : blank d = false) (rest : Text) :
    words (c :: d :: rest) = extendFirst c (words (d :: rest)) := by
  rw [words, words, pieces, pieces, here, next]
  cases pieces blank rest <;> rfl

theorem blankCons (blanks : isBlank (c :: rest) = true) : blank c = true ∧ isBlank rest = true :=
  (Bool.and_eq_true _ _).mp (List.all_cons.symm.trans blanks)

theorem wordsOfBlank (blanks : isBlank text = true) : words text = [] := by
  induction text with
  | nil => rfl
  | cons c rest ih =>
    obtain ⟨here, later⟩ := blankCons blanks
    rw [wordsBlank here, ih later]

theorem wordsNonempty (visible : isBlank text = false) : words text ≠ [] := by
  induction text with
  | nil => contradiction
  | cons c rest ih =>
    cases here : blank c with
    | true =>
      rw [wordsBlank here]
      exact ih (by simpa [isBlank, here] using visible)
    | false =>
      rw [words, pieces, here]
      cases pieces blank rest <;> simp [extendFirst]

theorem wordsBefore {before : Text} (blanks : isBlank before = true) (text : Text) :
    words (before ++ text) = words text := by
  induction before with
  | nil => rfl
  | cons c rest ih =>
    obtain ⟨here, later⟩ := blankCons blanks
    rw [List.cons_append, wordsBlank here, ih later]

theorem wordsAfter {after : Text} (blanks : isBlank after = true) (text : Text) :
    words (text ++ after) = words text := by
  induction text with
  | nil => exact wordsOfBlank blanks
  | cons c rest ih =>
    cases here : blank c with
    | true => rw [List.cons_append, wordsBlank here, wordsBlank here, ih]
    | false =>
      cases rest with
      | nil =>
        cases after with
        | nil => rfl
        | cons d others =>
          rw [List.cons_append, List.nil_append, wordsEnd here (blankCons blanks).1, wordsOfBlank blanks,
            wordsAlone here]
      | cons d others =>
        rw [List.cons_append] at ih
        rw [List.cons_append, List.cons_append]
        cases next : blank d with
        | true => rw [wordsEnd here next, wordsEnd here next, ih]
        | false => rw [wordsGrow here next, wordsGrow here next, ih]

theorem wordsStrip (text : Text) : words (strip text) = words text := by
  cases visible : isBlank text with
  | true => rw [stripBlank visible, wordsOfBlank visible]; rfl
  | false =>
    obtain ⟨before, after, whole, leading, trailing, _⟩ := stripCore visible
    calc words (strip text) = words (before ++ strip text ++ after) := by
          rw [wordsAfter trailing, wordsBefore leading]
      _ = words text := congrArg words whole.symm

theorem endsTail (ends : Ends (c :: d :: rest)) : Ends (d :: rest) := by
  obtain ⟨front, e, whole, visible⟩ := ends
  cases front with
  | nil => simp at whole
  | cons first front => exact ⟨front, e, (List.cons.inj whole).2, visible⟩

theorem Ends.visible (ends : Ends text) : isBlank text = false := by
  obtain ⟨front, e, rfl, visible⟩ := ends
  exact visibleMember (List.mem_append_right front List.mem_cons_self) visible

theorem Ends.cons (ends : Ends text) (c : Char) : Ends (c :: text) := by
  obtain ⟨front, e, rfl, visible⟩ := ends
  exact ⟨c :: front, e, rfl, visible⟩

theorem collapseNext (visible : blank c = false) (rest : Text) :
    collapse (c :: rest) = c :: collapse rest := by
  cases rest with
  | nil => simp [collapse, visible]
  | cons d rest => simp [collapse, visible]

theorem startsCollapse (starts : Starts text) : Starts (collapse text) := by
  obtain ⟨c, rest, rfl, visible⟩ := starts
  exact ⟨c, collapse rest, collapseNext visible rest, visible⟩

theorem endsCollapse (ends : Ends text) : Ends (collapse text) := by
  induction text using collapse.induct with
  | case1 => exact ends
  | case2 c blank => exact absurd blank (by simpa [isBlank] using ends.visible)
  | case3 c visible =>
    rw [collapse, if_neg visible]
    exact ends
  | case4 c d rest blank next ih =>
    rw [collapse, if_pos blank, if_pos next]
    exact ih (endsTail ends)
  | case5 c d rest blank next ih =>
    rw [collapse, if_pos blank, if_neg next]
    exact (ih (endsTail ends)).cons ' '
  | case6 c d rest visible ih =>
    rw [collapse, if_neg visible]
    exact (ih (endsTail ends)).cons c

theorem sentenceGrow (c : Char) (word : Text) (others : List Text) :
    sentence ((c :: word) :: others) = c :: sentence (word :: others) := by
  cases others <;> rfl

theorem sentenceNext (word : Text) {others : List Text} (more : others ≠ []) :
    sentence (word :: others) = word ++ ' ' :: sentence others := by
  cases others with
  | nil => contradiction
  | cons second others => rfl

def beforeWords (text : Text) : Text :=
  if text.head?.any blank then [' '] else []

/- A text that ends with a word; only a first blank is left beside its words. -/
theorem collapseWords (ends : Ends text) :
    collapse text = beforeWords text ++ sentence (words text) := by
  induction text using collapse.induct with
  | case1 => exact absurd ends.visible (by simp [isBlank])
  | case2 c here => exact absurd here (by simpa [isBlank] using ends.visible)
  | case3 c here =>
    have shown : blank c = false := by simpa using here
    rw [collapse, if_neg here, wordsAlone shown]
    simp [beforeWords, shown, sentence]
  | case4 c d rest here next ih =>
    rw [collapse, if_pos here, if_pos next, ih (endsTail ends), wordsBlank here]
    simp [beforeWords, here, next]
  | case5 c d rest here next ih =>
    rw [collapse, if_pos here, if_neg next, ih (endsTail ends), wordsBlank here]
    simp [beforeWords, here, next]
  | case6 c d rest here ih =>
    have shown : blank c = false := by simpa using here
    have more : words (d :: rest) ≠ [] := wordsNonempty (endsTail ends).visible
    rw [collapse, if_neg here, ih (endsTail ends)]
    cases next : blank d with
    | true =>
      rw [wordsEnd shown next, sentenceNext [c] more]
      simp [beforeWords, shown, next]
    | false =>
      obtain ⟨word, others, listed⟩ := List.exists_cons_of_ne_nil more
      rw [wordsGrow shown next, listed, extendFirst, sentenceGrow]
      simp [beforeWords, shown, next]

theorem collapseStrip (text : Text) : collapse (strip text) = sentence (words text) := by
  cases visible : isBlank text with
  | true =>
    rw [stripBlank visible, wordsOfBlank visible]
    rfl
  | false =>
    obtain ⟨c, rest, begins, shown⟩ := startsStrip visible
    rw [collapseWords (endsStrip visible), wordsStrip, begins]
    simp [beforeWords, shown]

end TypedClient.Text
