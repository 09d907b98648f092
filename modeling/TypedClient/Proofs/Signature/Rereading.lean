import TypedClient.Proofs.Signature.Reading

/-!
Reading the canonical text of what was read. It gives the same signature, with two exceptions: what
stands before a `?` may hold brackets and commas that become structure between the brackets that are
written for it, and the brackets of a generic signature with the base `[]` may hold a malformed text,
which is no element of an array.
-/

namespace TypedClient.Signature

def Rereadable (node : Signature) : Prop :=
  ∀ argument, node.arguments = [argument] →
    (node.name = arrayName → argument.isMalformed = false) ∧
      (node.name = nullableName → Solid argument.text)

theorem solidStrip {text : Text} (solid : Solid text) : Solid (Text.strip text) := by
  cases visible : Text.isBlank text with
  | true =>
    rw [Text.stripBlank visible]
    rfl
  | false =>
    obtain ⟨before, after, whole, leading, trailing, _⟩ := Text.stripCore visible
    have plain : ∀ {blanks : Text}, Text.isBlank blanks = true → ∀ c ∈ blanks, Plain c :=
      fun blanks c member => blankPlain (List.all_eq_true.mp blanks c member)
    rwa [Solid, whole, levelEnd (plain trailing), levelStart (plain leading)] at solid

theorem parseBlank {text : Text} (blanks : Text.isBlank text = true) : parse text = leaf [] := by
  rw [← parseStrip, Text.stripBlank blanks, parseEq]
  rfl

theorem keptVisible {text : Text} (kept : Kept (parse text)) : Text.isBlank text = false := by
  cases visible : Text.isBlank text with
  | false => rfl
  | true =>
    rw [parseBlank visible] at kept
    exact absurd rfl kept.1

theorem nameVisible {text : Text} (visible : Text.isBlank text = false) : (parse text).name ≠ [] := by
  induction text using readingInduction with
  | whole text read =>
    rw [read]
    exact (Text.startsStrip visible).ne
  | array text inner _ _ read _ =>
    rw [read]
    exact List.cons_ne_nil _ _
  | nullable text inner _ _ read _ =>
    rw [read]
    exact List.cons_ne_nil _ _
  | generic text front inner pieces _ starts _ _ read _ =>
    rw [read]
    exact (Text.startsStrip starts.visible).ne

theorem nullableText (inner : Signature) :
    text (node nullableName [inner]) = nullableName ++ '<' :: comma.intercalate [inner.text] ++ ['>'] := by
  rw [textNode]
  exact textBracketed (by simp) fun same => absurd same (by decide)

theorem startsText {text : Text} (visible : Text.isBlank text = false) :
    Text.Starts (parse text).text := by
  induction text using readingInduction with
  | whole text read =>
    rw [read]
    exact Text.startsStrip visible
  | array text inner _ kept read ih =>
    rw [read, textNode, List.map_singleton, textArray]
    exact (ih (keptVisible kept)).append _
  | nullable text inner _ _ read _ =>
    rw [read, nullableText]
    exact ⟨'S', _, rfl, by decide⟩
  | generic text front inner pieces _ starts _ cut read ih =>
    obtain ⟨nonempty, each, _⟩ := splitArgumentsIff.mp cut
    have named := Text.startsStrip starts.visible
    rw [read, textNode]
    by_cases suffixed : Text.strip front = arrayName ∧ pieces.length = 1
    · obtain ⟨piece, rfl⟩ := List.length_eq_one_iff.mp suffixed.2
      rw [suffixed.1, List.map_singleton, List.map_singleton, textArray]
      exact (ih piece List.mem_cons_self (each piece List.mem_cons_self).2).append _
    · rw [textBracketed (by simpa using nonempty) (by simpa using suffixed), List.append_assoc]
      exact named.append _

theorem solidText {text : Text} (solid : Solid text) : Solid (parse text).text := by
  induction text using readingInduction with
  | whole text read =>
    rw [read]
    exact solidStrip solid
  | array text inner span _ read ih =>
    have trimmed := solidStrip solid
    rw [span, Solid, levelEnd (plainOf (by decide))] at trimmed
    rw [read, textNode, List.map_singleton, textArray]
    exact solidAppend (ih trimmed) (by decide)
  | nullable text inner span _ read ih =>
    have trimmed := solidStrip solid
    rw [span, Solid, levelEnd (plainOf (by decide))] at trimmed
    rw [read, nullableText]
    exact solidBracketed (plainOf (by decide)) (by simpa using ih trimmed)
  | generic text front inner pieces span _ free cut read ih =>
    obtain ⟨nonempty, each, _⟩ := splitArgumentsIff.mp cut
    have trimmed := solidStrip solid
    rw [span, List.append_assoc] at trimmed
    have plain := plainFront free trimmed
    have below : ∀ piece ∈ pieces, Solid (parse piece).text := fun piece member =>
      ih piece member (each piece member).1
    rw [read, textNode]
    by_cases suffixed : Text.strip front = arrayName ∧ pieces.length = 1
    · obtain ⟨piece, rfl⟩ := List.length_eq_one_iff.mp suffixed.2
      rw [suffixed.1, List.map_singleton, List.map_singleton, textArray]
      exact solidAppend (below piece List.mem_cons_self) (by decide)
    · rw [textBracketed (by simpa using nonempty) (by simpa using suffixed)]
      exact solidBracketed (fun c member => plain c ((Text.stripWithin _).subset member)) (by simpa using below)

theorem leafNotNode {whole name : Text} {inner : Signature} : leaf whole ≠ node name [inner] := by
  intro same
  exact absurd (node.inj same).2 (by simp)

theorem wrapEq {whole name : Text} {inner other : Signature} :
    wrap whole name inner = node name [other] ↔ inner = other ∧ Kept other := by
  by_cases kept : Kept inner
  · rw [wrapKept kept]
    constructor
    · intro same
      cases same
      exact ⟨rfl, kept⟩
    · rintro ⟨rfl, _⟩
      rfl
  · rw [wrapWhole kept]
    refine ⟨fun same => absurd same leafNotNode, ?_⟩
    rintro ⟨rfl, there⟩
    exact absurd there kept

/- What is read between brackets is one piece only where the text is solid. -/
theorem nullableRead {inner : Signature} (visible : Text.isBlank inner.text = false) :
    parse (text (node nullableName [inner])) = node nullableName [inner] ↔
      Solid inner.text ∧ parse inner.text = inner := by
  have trimmed : Text.strip nullableName = nullableName := by decide
  rw [nullableText, parseBracketed (by decide) (by decide), List.intercalate_singleton]
  constructor
  · intro same
    cases cut : splitArguments inner.text with
    | none =>
      rw [cut] at same
      exact absurd same leafNotNode
    | some pieces =>
      rw [cut] at same
      obtain ⟨_, read⟩ := node.inj same
      obtain ⟨piece, rfl, here⟩ := List.map_eq_singleton_iff.mp read
      obtain ⟨_, each, whole⟩ := splitArgumentsIff.mp cut
      rw [List.intercalate_singleton] at whole
      rw [whole]
      exact ⟨(each piece List.mem_cons_self).1, here⟩
  · rintro ⟨solid, read⟩
    rw [(splitSolid visible).mpr solid]
    simp only [trimmed, List.map_cons, List.map_nil, read]

theorem arrayRead {element : Signature} (visible : Text.isBlank element.text = false) :
    parse (text (node arrayName [element])) = node arrayName [element] ↔
      Kept element ∧ parse element.text = element := by
  rw [textNode, List.map_singleton, textArray, parseArray visible, wrapEq]
  constructor
  · rintro ⟨read, kept⟩
    exact ⟨read ▸ kept, read⟩
  · rintro ⟨kept, read⟩
    exact ⟨read, kept⟩

theorem bracketedRead {name : Text} {arguments : List Signature} (nonempty : arguments ≠ [])
    (bracketed : name = arrayName → arguments.length ≠ 1) (trimmed : Text.strip name = name)
    (starts : Text.Starts name) (free : '<' ∉ name)
    (pieces : ∀ argument ∈ arguments,
      Solid argument.text ∧ Text.isBlank argument.text = false) :
    parse (text (node name arguments)) = node name arguments ↔
      ∀ argument ∈ arguments, parse argument.text = argument := by
  have cut : splitArguments (comma.intercalate (arguments.map text)) = some (arguments.map text) :=
    splitArgumentsIff.mpr ⟨by simpa using nonempty, by simpa using pieces, rfl⟩
  rw [textNode, textBracketed (by simpa using nonempty) (by simpa using bracketed),
    parseBracketed starts.visible free, cut]
  simp only [trimmed, List.map_map, node.injEq, true_and]
  simpa using List.map_inj_left (f := parse ∘ text) (g := id) (l := arguments)

theorem walkRereadable {name : Text} {arguments : List Signature} :
    (∀ below ∈ walk (node name arguments), Rereadable below) ↔
      Rereadable (node name arguments) ∧
        ∀ argument ∈ arguments, ∀ below ∈ argument.walk, Rereadable below := by
  rw [walkNode]
  constructor
  · intro all
    refine ⟨all _ List.mem_cons_self, fun argument member below inside => ?_⟩
    exact all below (List.mem_cons_of_mem _ (List.mem_flatMap.mpr ⟨argument, member, inside⟩))
  · rintro ⟨here, later⟩ below member
    rcases List.mem_cons.mp member with rfl | inside
    · exact here
    · obtain ⟨argument, among, found⟩ := List.mem_flatMap.mp inside
      exact later argument among below found

theorem namesApart : arrayName ≠ nullableName := by
  decide

theorem rereadableArray {element : Signature} (named : element.name ≠ []) :
    Rereadable (node arrayName [element]) ↔ Kept element := by
  constructor
  · intro here
    exact ⟨named, (here element rfl).1 rfl⟩
  · rintro ⟨_, wellFormed⟩ argument same
    cases (List.cons.inj same).1
    exact ⟨fun _ => wellFormed, fun other => absurd other namesApart⟩

theorem rereadableNullable {inner : Signature} :
    Rereadable (node nullableName [inner]) ↔ Solid inner.text := by
  constructor
  · intro here
    exact (here inner rfl).2 rfl
  · intro solid argument same
    cases (List.cons.inj same).1
    exact ⟨fun other => absurd other.symm namesApart, fun _ => solid⟩

theorem piecesText {inner : Text} {pieces : List Text} (cut : splitArguments inner = some pieces) :
    ∀ argument ∈ pieces.map parse, Solid argument.text ∧ Text.isBlank argument.text = false := by
  obtain ⟨_, each, _⟩ := splitArgumentsIff.mp cut
  intro argument member
  obtain ⟨piece, among, rfl⟩ := List.mem_map.mp member
  obtain ⟨solid, visible⟩ := each piece among
  exact ⟨solidText solid, (startsText visible).visible⟩

theorem rereadableBracketed {name : Text} {arguments : List Signature}
    (bracketed : name = arrayName → arguments.length ≠ 1)
    (pieces : ∀ argument ∈ arguments, Solid argument.text) :
    Rereadable (node name arguments) := by
  intro argument single
  change arguments = [argument] at single
  subst single
  exact ⟨fun same => absurd rfl (bracketed same), fun _ => pieces argument List.mem_cons_self⟩

theorem rereadIff (text : Text) :
    parse (parse text).text = parse text ↔ ∀ node ∈ (parse text).walk, Rereadable node := by
  induction text using readingInduction with
  | whole text read =>
    rw [read, leaf, walkRereadable]
    have again : parse (Text.strip text) = leaf (Text.strip text) := by rw [parseStrip, read]
    refine ⟨fun _ => ⟨fun argument absent => ?_, by simp⟩, fun _ => again⟩
    cases absent
  | array text inner span kept read ih =>
    have visible := (startsText (keptVisible kept)).visible
    rw [read, arrayRead visible, walkRereadable, rereadableArray kept.1, ih]
    simp
  | nullable text inner span kept read ih =>
    have visible := (startsText (keptVisible kept)).visible
    rw [read, nullableRead visible, walkRereadable, rereadableNullable, ih]
    simp
  | generic text front inner pieces span starts free cut read ih =>
    obtain ⟨nonempty, each, _⟩ := splitArgumentsIff.mp cut
    rw [read, walkRereadable]
    by_cases suffixed : Text.strip front = arrayName ∧ pieces.length = 1
    · obtain ⟨piece, rfl⟩ := List.length_eq_one_iff.mp suffixed.2
      have seen := (each piece List.mem_cons_self).2
      rw [suffixed.1, List.map_singleton, arrayRead (startsText seen).visible,
        rereadableArray (nameVisible seen), ih piece List.mem_cons_self]
      simp
    · have bracketed : Text.strip front = arrayName → (pieces.map parse).length ≠ 1 := by
        simpa using suffixed
      have below := piecesText cut
      rw [bracketedRead (by simpa using nonempty) bracketed (Text.stripStrip front)
          (Text.startsStrip starts.visible) (fun member => free ((Text.stripWithin _).subset member)) below,
        and_iff_right (rereadableBracketed bracketed fun argument member => (below argument member).1)]
      simp only [List.forall_mem_map]
      exact forall₂_congr ih

theorem rereadOtherwise :
    (parse "a,b?" = node nullableName [leaf "a,b"] ∧
        parse (parse "a,b?").text = node nullableName [leaf "a", leaf "b"]) ∧
      (parse "[]<<a>>" = node arrayName [leaf "<a>"] ∧
        parse (parse "[]<<a>>").text = leaf "<a>[]") ∧
      ¬ ∀ text, parse (parse text).text = parse text := by
  refine ⟨by decide +kernel, by decide +kernel, fun all => ?_⟩
  exact absurd (all "a,b?") (by decide +kernel)

end TypedClient.Signature
