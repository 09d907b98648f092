import TypedClient.Proofs.Signature.Pieces
import TypedClient.Proofs.Signature.Tree
import TypedClient.Proofs.Text.Trimmed

/-!
How a text is read as a signature: one equation for each outermost construct, and the induction that
follows the reading. A text is kept whole, or it is an array, a nullable or a generic signature whose
parts are read in the same way. Blanks around a text do not matter.
-/

namespace TypedClient

namespace Text

theorem beforeEqNone {ending text : Text} :
    before? ending text = none ↔ ¬ ending <:+ text := by
  constructor
  · rintro missing ⟨front, whole⟩
    rw [beforeEqSome.mpr whole.symm] at missing
    contradiction
  · intro never
    cases found : before? ending text with
    | none => rfl
    | some front => exact absurd ⟨front, (beforeEqSome.mp found).symm⟩ never

theorem splitFirstOf {c : Char} {before : Text} (free : c ∉ before) (after : Text) :
    splitFirst c (before ++ c :: after) = some (before, after) := by
  induction before with
  | nil => simp [splitFirst]
  | cons d rest ih =>
    obtain ⟨different, free⟩ := not_or.mp (fun member => free (List.mem_cons.mpr member))
    simp [splitFirst, Ne.symm different, ih free]

theorem splitFirstMissing {c : Char} {text : Text} (free : c ∉ text) : splitFirst c text = none := by
  cases found : splitFirst c text with
  | none => rfl
  | some parts =>
    have member : c ∈ text := by
      rw [(splitFirstEqSome found).1]
      exact List.mem_append_right _ List.mem_cons_self
    exact absurd member free

end Text

namespace Signature

def Shape.Spans (text : Text) : Shape → Prop
  | .array inner => inner ≠ [] ∧ text = inner ++ arrayName
  | .nullable inner => inner ≠ [] ∧ text = inner ++ ['?']
  | .generic base arguments => ∃ front inner, front ≠ [] ∧ '<' ∉ front ∧
      text = front ++ '<' :: inner ++ ['>'] ∧ base = Text.strip front ∧
      splitArguments inner = some arguments
  | .atom => True

theorem shapeSpans (text : Text) : (shape text).Spans text := by
  unfold shape
  split
  · rename_i found
    exact ⟨by simp, Text.beforeEqSome.mp found⟩
  · split
    · rename_i found
      exact ⟨by simp, Text.beforeEqSome.mp found⟩
    · split
      · rename_i opened
        obtain ⟨whole, free⟩ := Text.splitFirstEqSome opened
        split
        · rename_i closed
          rw [Text.beforeEqSome] at closed
          split
          · rename_i cut
            exact ⟨_, _, by simp, free, by rw [whole, closed]; simp, rfl, cut⟩
          · trivial
        · trivial
      · trivial

theorem shapeArray {inner : Text} (nonempty : inner ≠ []) :
    shape (inner ++ arrayName) = .array inner := by
  obtain ⟨c, rest, rfl⟩ := List.exists_cons_of_ne_nil nonempty
  have cut : Text.before? arrayName (c :: rest ++ arrayName) = some (c :: rest) :=
    Text.beforeEqSome.mpr rfl
  rw [shape, cut]

theorem endingApart (ending : Text) {text : Text} {c d : Char} (differ : c ≠ d) :
    ¬ (ending ++ [c]) <:+ text ++ [d] := by
  rintro ⟨front, whole⟩
  rw [← List.append_assoc] at whole
  exact differ (List.append_inj_right' whole rfl |> List.cons.inj).1

theorem shapeNullable {inner : Text} (nonempty : inner ≠ []) :
    shape (inner ++ ['?']) = .nullable inner := by
  obtain ⟨c, rest, rfl⟩ := List.exists_cons_of_ne_nil nonempty
  have noArray : Text.before? arrayName (c :: rest ++ ['?']) = none :=
    Text.beforeEqNone.mpr (endingApart ['['] (by decide))
  have cut : Text.before? ['?'] (c :: rest ++ ['?']) = some (c :: rest) :=
    Text.beforeEqSome.mpr rfl
  rw [shape, noArray, cut]

theorem shapeBracketed {front : Text} (nonempty : front ≠ []) (free : '<' ∉ front) (inner : Text) :
    shape (front ++ '<' :: inner ++ ['>']) =
      match splitArguments inner with
      | some arguments => .generic (Text.strip front) arguments
      | none => .atom := by
  obtain ⟨c, rest, rfl⟩ := List.exists_cons_of_ne_nil nonempty
  have noArray : Text.before? arrayName (c :: rest ++ '<' :: inner ++ ['>']) = none :=
    Text.beforeEqNone.mpr (endingApart ['['] (by decide))
  have noNullable : Text.before? ['?'] (c :: rest ++ '<' :: inner ++ ['>']) = none :=
    Text.beforeEqNone.mpr (endingApart [] (by decide))
  have opened : Text.splitFirst '<' (c :: rest ++ '<' :: inner ++ ['>']) =
      some (c :: rest, inner ++ ['>']) := by
    simpa using Text.splitFirstOf free (inner ++ ['>'])
  have closed : Text.before? ['>'] (inner ++ ['>']) = some inner := Text.beforeEqSome.mpr rfl
  cases cut : splitArguments inner with
  | none =>
    rw [shape, noArray, noNullable, opened]
    simp only [closed, cut]
  | some arguments =>
    rw [shape, noArray, noNullable, opened]
    simp only [closed, cut]

theorem shapeName {name : Text} (noArray : ¬ arrayName <:+ name) (noNullable : ¬ ['?'] <:+ name)
    (free : '<' ∉ name) : shape name = .atom := by
  rw [shape, Text.beforeEqNone.mpr noArray, Text.beforeEqNone.mpr noNullable,
    Text.splitFirstMissing free]

theorem parseEq (text : Text) :
    parse text =
      match shape (Text.strip text) with
      | .array inner => wrap (Text.strip text) arrayName (parse inner)
      | .nullable inner => wrap (Text.strip text) nullableName (parse inner)
      | .generic base arguments => node base (arguments.map parse)
      | .atom => leaf (Text.strip text) := by
  rw [parse]
  split <;> rename_i shaped <;> rw [shaped]
  simp

theorem parseStrip (text : Text) : parse (Text.strip text) = parse text := by
  rw [parseEq, parseEq text, Text.stripStrip]

theorem parseBefore {before : Text} (blanks : Text.isBlank before = true) (text : Text) :
    parse (before ++ text) = parse text := by
  rw [← parseStrip, Text.stripBefore blanks, parseStrip]

theorem parseAfter {after : Text} (blanks : Text.isBlank after = true) (text : Text) :
    parse (text ++ after) = parse text := by
  rw [← parseStrip, Text.stripAfter blanks, parseStrip]

theorem textArray (element : Text) : textWith arrayName [element] = element ++ arrayName := by
  simp [textWith]

theorem textBracketed {name : Text} {arguments : List Text} (nonempty : arguments ≠ [])
    (bracketed : name = arrayName → arguments.length ≠ 1) :
    textWith name arguments = name ++ '<' :: comma.intercalate arguments ++ ['>'] := by
  match arguments with
  | [] => contradiction
  | [argument] =>
    have noArray : name ≠ arrayName := fun same => bracketed same rfl
    simp [textWith, noArray]
  | _ :: _ :: _ => rfl

theorem argumentWithin {name : Text} {arguments : List Signature} {argument : Signature}
    (member : argument ∈ arguments) : argument.text <:+: (node name arguments).text := by
  have listed : argument.text ∈ arguments.map text := List.mem_map_of_mem member
  rw [textNode]
  by_cases suffixed : name = arrayName ∧ (arguments.map text).length = 1
  · obtain ⟨element, single⟩ := List.length_eq_one_iff.mp suffixed.2
    rw [single] at listed ⊢
    rw [suffixed.1, textArray, List.mem_singleton.mp listed]
    exact (List.prefix_append _ _).isInfix
  · rw [textBracketed (List.ne_nil_of_mem listed) (by simpa using suffixed)]
    exact (Text.infixIntercalate comma listed).trans ⟨name ++ ['<'], ['>'], by simp⟩

def Kept (inner : Signature) : Prop :=
  inner.name ≠ [] ∧ inner.isMalformed = false

theorem wrapKept {inner : Signature} (kept : Kept inner) (whole name : Text) :
    wrap whole name inner = node name [inner] := by
  obtain ⟨named, wellFormed⟩ := kept
  simp [wrap, named, wellFormed]

theorem wrapWhole {inner : Signature} (lost : ¬ Kept inner) (whole name : Text) :
    wrap whole name inner = leaf whole := by
  refine if_pos ?_
  by_cases named : inner.name = []
  · exact .inl (by simp [named])
  · refine .inr (Bool.of_not_eq_false fun wellFormed => lost ⟨named, wellFormed⟩)

theorem parseArray {inside : Text} (visible : Text.isBlank inside = false) :
    parse (inside ++ arrayName) = wrap (Text.strip (inside ++ arrayName)) arrayName (parse inside) := by
  obtain ⟨before, rest, rfl, blanks, starts⟩ := Text.blanksFirst visible
  have trimmed : Text.strip (rest ++ arrayName) = rest ++ arrayName :=
    Text.stripOf (starts.append _) ⟨rest ++ ['['], ']', by simp [arrayName], by decide⟩
  rw [List.append_assoc, parseBefore blanks, parseBefore blanks, Text.stripBefore blanks, parseEq,
    trimmed, shapeArray starts.ne]

theorem parseNullable {inside : Text} (visible : Text.isBlank inside = false) :
    parse (inside ++ ['?']) = wrap (Text.strip (inside ++ ['?'])) nullableName (parse inside) := by
  obtain ⟨before, rest, rfl, blanks, starts⟩ := Text.blanksFirst visible
  have trimmed : Text.strip (rest ++ ['?']) = rest ++ ['?'] :=
    Text.stripOf (starts.append _) ⟨rest, '?', rfl, by decide⟩
  rw [List.append_assoc, parseBefore blanks, parseBefore blanks, Text.stripBefore blanks, parseEq,
    trimmed, shapeNullable starts.ne]

theorem parseBracketed {front : Text} (visible : Text.isBlank front = false) (free : '<' ∉ front)
    (inner : Text) :
    parse (front ++ '<' :: inner ++ ['>']) =
      match splitArguments inner with
      | some arguments => node (Text.strip front) (arguments.map parse)
      | none => leaf (Text.strip (front ++ '<' :: inner ++ ['>'])) := by
  obtain ⟨before, rest, rfl, blanks, starts⟩ := Text.blanksFirst visible
  have trimmed : Text.strip (rest ++ '<' :: inner ++ ['>']) = rest ++ '<' :: inner ++ ['>'] :=
    Text.stripOf (by rw [List.append_assoc]; exact starts.append _)
      ⟨rest ++ '<' :: inner, '>', rfl, by decide⟩
  have free : '<' ∉ rest := fun member => free (List.mem_append_right _ member)
  rw [List.append_assoc before, List.append_assoc before, parseBefore blanks, Text.stripBefore blanks,
    Text.stripBefore blanks, parseEq, trimmed, shapeBracketed starts.ne free]
  cases splitArguments inner <;> rfl

theorem parseName {name : Text} (trimmed : Text.strip name = name) (noArray : ¬ arrayName <:+ name)
    (noNullable : ¬ ['?'] <:+ name) (free : '<' ∉ name) : parse name = leaf name := by
  rw [parseEq, trimmed, shapeName noArray noNullable free]

/- The induction that follows the reading of a text. -/
theorem readingInduction {motive : Text → Prop}
    (whole : ∀ text, parse text = leaf (Text.strip text) → motive text)
    (array : ∀ text inner, Text.strip text = inner ++ arrayName → Kept (parse inner) →
      parse text = node arrayName [parse inner] → motive inner → motive text)
    (nullable : ∀ text inner, Text.strip text = inner ++ ['?'] → Kept (parse inner) →
      parse text = node nullableName [parse inner] → motive inner → motive text)
    (generic : ∀ text front inner pieces, Text.strip text = front ++ '<' :: inner ++ ['>'] →
      Text.Starts front → '<' ∉ front → splitArguments inner = some pieces →
      parse text = node (Text.strip front) (pieces.map parse) →
      (∀ piece ∈ pieces, motive piece) → motive text) :
    ∀ text, motive text := by
  intro text
  induction long : text.length using Nat.strongRecOn generalizing text with
  | ind length ih =>
    subst long
    have parts : ∀ part ∈ (shape (Text.strip text)).parts, motive part := by
      intro part member
      have shorter := lengthShapeParts member
      exact ih part.length (Nat.lt_of_lt_of_le shorter (Text.lengthStrip text)) part rfl
    have spans := shapeSpans (Text.strip text)
    have read := parseEq text
    cases shaped : shape (Text.strip text) with
    | array inner =>
      rw [shaped] at parts spans read
      by_cases kept : Kept (parse inner)
      · exact array text inner spans.2 kept (read.trans (wrapKept kept _ _)) (parts inner (by simp [Shape.parts]))
      · exact whole text (read.trans (wrapWhole kept _ _))
    | nullable inner =>
      rw [shaped] at parts spans read
      by_cases kept : Kept (parse inner)
      · exact nullable text inner spans.2 kept (read.trans (wrapKept kept _ _)) (parts inner (by simp [Shape.parts]))
      · exact whole text (read.trans (wrapWhole kept _ _))
    | generic base arguments =>
      rw [shaped] at parts spans read
      obtain ⟨front, inner, nonempty, free, span, rfl, cut⟩ := spans
      have visible : Text.isBlank text = false := by
        cases seen : Text.isBlank text with
        | false => rfl
        | true => simp [Text.stripBlank seen] at span
      obtain ⟨c, rest, start, here⟩ := Text.startsStrip visible
      obtain ⟨d, others, rfl⟩ := List.exists_cons_of_ne_nil nonempty
      have same : c = d := by
        rw [start] at span
        exact (List.cons.inj span).1
      exact generic text (d :: others) inner arguments span ⟨d, others, rfl, same ▸ here⟩ free cut read parts
    | atom =>
      rw [shaped] at read
      exact whole text read

theorem parseAlone {text : Text} (alone : (parse text).arguments = []) :
    parse text = leaf (Text.strip text) := by
  induction text using readingInduction with
  | whole text read => exact read
  | array text inner _ _ read _ =>
    rw [read] at alone
    exact absurd alone (List.cons_ne_nil _ _)
  | nullable text inner _ _ read _ =>
    rw [read] at alone
    exact absurd alone (List.cons_ne_nil _ _)
  | generic text front inner pieces _ _ _ cut read _ =>
    rw [read] at alone
    exact absurd (List.map_eq_nil_iff.mp alone) (splitArgumentsIff.mp cut).1

/- A name that was kept whole for its brackets. -/
def IsBroken (name : Text) : Prop :=
  '<' ∈ name ∨ '>' ∈ name

instance (name : Text) : Decidable (IsBroken name) :=
  inferInstanceAs (Decidable (_ ∨ _))

theorem IsBroken.ne {name other : Text} (broken : IsBroken name) (plain : ¬ IsBroken other) :
    name ≠ other := by
  rintro rfl
  exact plain broken

theorem malformedIff {signature : Signature} :
    signature.isMalformed = true ↔ signature.arguments = [] ∧ IsBroken signature.name := by
  simp [isMalformed, IsBroken]

end Signature

end TypedClient
