import TypedClient.Text.Blank

/-!
Texts without the blanks at their ends. What is left of a text is the part from its first to its last
visible character, and it stays the same when blanks are put around the text.
-/

namespace TypedClient.Text

def Starts (text : Text) : Prop :=
  ∃ c rest, text = c :: rest ∧ blank c = false

def Ends (text : Text) : Prop :=
  ∃ front c, text = front ++ [c] ∧ blank c = false

theorem Starts.append {text : Text} (starts : Starts text) (rest : Text) : Starts (text ++ rest) := by
  obtain ⟨c, others, rfl, visible⟩ := starts
  exact ⟨c, others ++ rest, rfl, visible⟩

theorem Starts.ne {text : Text} (starts : Starts text) : text ≠ [] := by
  obtain ⟨c, rest, rfl, _⟩ := starts
  simp

theorem Starts.visible {text : Text} (starts : Starts text) : isBlank text = false := by
  obtain ⟨c, rest, rfl, visible⟩ := starts
  simp [isBlank, visible]

theorem visibleMember {text : Text} {c : Char} (member : c ∈ text) (visible : blank c = false) :
    isBlank text = false := by
  rw [isBlank, List.all_eq_false]
  exact ⟨c, member, by simp [visible]⟩

theorem visibleAppend {first : Text} (visible : isBlank first = false) (second : Text) :
    isBlank (first ++ second) = false := by
  simp only [isBlank, List.all_append] at *
  simp [visible]

theorem dropWhileBlank {before : Text} (blanks : isBlank before = true) (text : Text) :
    (before ++ text).dropWhile blank = text.dropWhile blank := by
  induction before with
  | nil => rfl
  | cons c rest ih =>
    simp only [isBlank, List.all_cons, Bool.and_eq_true] at blanks
    rw [List.cons_append, List.dropWhile_cons, if_pos blanks.1]
    exact ih blanks.2

theorem dropWhileStarts {text : Text} (starts : Starts text) : text.dropWhile blank = text := by
  obtain ⟨c, rest, rfl, visible⟩ := starts
  rw [List.dropWhile_cons, if_neg (by simp [visible])]

theorem dropEndBlank {after : Text} (blanks : isBlank after = true) (text : Text) :
    dropEndWhile blank (text ++ after) = dropEndWhile blank text := by
  have reversed : isBlank after.reverse = true := by simpa [isBlank] using blanks
  rw [dropEndWhile, List.reverse_append, dropWhileBlank reversed, dropEndWhile]

theorem dropEndEnds {text : Text} (ends : Ends text) : dropEndWhile blank text = text := by
  obtain ⟨front, c, rfl, visible⟩ := ends
  rw [dropEndWhile, List.reverse_append]
  simp [visible]

theorem blanksFirst {text : Text} (visible : isBlank text = false) :
    ∃ before rest, text = before ++ rest ∧ isBlank before = true ∧ Starts rest := by
  induction text with
  | nil => simp [isBlank] at visible
  | cons c rest ih =>
    cases here : blank c with
    | false => exact ⟨[], c :: rest, rfl, rfl, c, rest, rfl, here⟩
    | true =>
      have later : isBlank rest = false := by simpa [isBlank, here] using visible
      obtain ⟨before, others, rfl, blanks, starts⟩ := ih later
      exact ⟨c :: before, others, rfl, by simpa [isBlank, here] using blanks, starts⟩

theorem blanksLast {text : Text} (visible : isBlank text = false) :
    ∃ front after, text = front ++ after ∧ isBlank after = true ∧ Ends front := by
  have reversed : isBlank text.reverse = false := by simpa [isBlank] using visible
  obtain ⟨before, rest, whole, blanks, c, others, rfl, here⟩ := blanksFirst reversed
  refine ⟨others.reverse ++ [c], before.reverse, ?_, by simpa [isBlank] using blanks,
    others.reverse, c, rfl, here⟩
  simpa using congrArg List.reverse whole

theorem stripOf {text : Text} (starts : Starts text) (ends : Ends text) : strip text = text := by
  rw [strip, dropWhileStarts starts, dropEndEnds ends]

theorem stripBefore {before : Text} (blanks : isBlank before = true) (text : Text) :
    strip (before ++ text) = strip text := by
  rw [strip, dropWhileBlank blanks, strip]

theorem stripBlank {text : Text} (blanks : isBlank text = true) : strip text = [] := by
  rw [← List.append_nil text, stripBefore blanks]
  rfl

theorem stripAfter {after : Text} (blanks : isBlank after = true) (text : Text) :
    strip (text ++ after) = strip text := by
  cases visible : isBlank text with
  | true =>
    have all : isBlank (text ++ after) = true := by
      simp only [isBlank, List.all_append, Bool.and_eq_true]
      exact ⟨visible, blanks⟩
    rw [stripBlank visible, stripBlank all]
  | false =>
    obtain ⟨before, rest, rfl, leading, starts⟩ := blanksFirst visible
    rw [List.append_assoc, stripBefore leading, stripBefore leading, strip,
      dropWhileStarts (starts.append after), dropEndBlank blanks, strip, dropWhileStarts starts]

theorem stripCore {text : Text} (visible : isBlank text = false) :
    ∃ before after, text = before ++ strip text ++ after ∧ isBlank before = true ∧
      isBlank after = true ∧ Starts (strip text) ∧ Ends (strip text) := by
  obtain ⟨before, rest, rfl, leading, starts⟩ := blanksFirst visible
  obtain ⟨front, after, rfl, trailing, ends⟩ := blanksLast starts.visible
  have begins : Starts front := by
    obtain ⟨others, d, rfl, seen⟩ := ends
    obtain ⟨c, tail, whole, here⟩ := starts
    cases others with
    | nil => exact ⟨d, [], rfl, seen⟩
    | cons first others =>
      cases (List.cons.inj whole).1
      exact ⟨c, others ++ [d], rfl, here⟩
  rw [stripBefore leading, stripAfter trailing, stripOf begins ends]
  exact ⟨before, after, by simp, leading, trailing, begins, ends⟩

theorem startsStrip {text : Text} (visible : isBlank text = false) : Starts (strip text) := by
  obtain ⟨_, _, _, _, _, starts, _⟩ := stripCore visible
  exact starts

theorem endsStrip {text : Text} (visible : isBlank text = false) : Ends (strip text) := by
  obtain ⟨_, _, _, _, _, _, ends⟩ := stripCore visible
  exact ends

theorem stripStrip (text : Text) : strip (strip text) = strip text := by
  cases visible : isBlank text with
  | true => rw [stripBlank visible]; rfl
  | false => exact stripOf (startsStrip visible) (endsStrip visible)

theorem stripWithin (text : Text) : strip text <:+: text := by
  cases visible : isBlank text with
  | true => simp [stripBlank visible]
  | false =>
    obtain ⟨before, after, whole, _⟩ := stripCore visible
    exact ⟨before, after, whole.symm⟩

theorem memStrip {text : Text} {c : Char} (member : c ∈ text) (visible : blank c = false) :
    c ∈ strip text := by
  obtain ⟨before, after, whole, leading, trailing, _⟩ := stripCore (visibleMember member visible)
  have inside : ∀ {blanks : Text}, isBlank blanks = true → c ∉ blanks := by
    intro blanks all here
    rw [List.all_eq_true.mp all c here] at visible
    contradiction
  rw [whole] at member
  rcases List.mem_append.mp member with first | last
  · exact (List.mem_append.mp first).resolve_left (inside leading)
  · exact absurd last (inside trailing)

end TypedClient.Text
