import TypedClient.Proofs.Collections
import TypedClient.Proofs.Signature.Reading

/-!
Spellings of a signature: its arguments in brackets, `[]` after the element of an array, `?` after what
may be missing, and blanks around every part. Each spelling of a well-formed signature is read as that
signature; the canonical text is one of the spellings.
-/

namespace TypedClient.Signature

structure WellNamed (node : Signature) : Prop where
  nonempty : node.name ≠ []
  trimmed : Text.strip node.name = node.name
  plain : ∀ c ∈ node.name, Plain c
  noArray : node.arguments = [] → ¬ arrayName <:+ node.name
  noNullable : node.arguments = [] → ¬ ['?'] <:+ node.name
  element : node.name = arrayName → node.arguments.length = 1

instance (node : Signature) : Decidable (WellNamed node) :=
  decidable_of_iff
    (node.name ≠ [] ∧ Text.strip node.name = node.name ∧
      node.name.all (fun c => decide (Plain c)) = true ∧
      (node.arguments = [] → ¬ arrayName <:+ node.name) ∧
      (node.arguments = [] → ¬ ['?'] <:+ node.name) ∧
      (node.name = arrayName → node.arguments.length = 1))
    ⟨fun ⟨nonempty, trimmed, plain, noArray, noNullable, element⟩ =>
      ⟨nonempty, trimmed, plainOf plain, noArray, noNullable, element⟩,
     fun named => ⟨named.nonempty, named.trimmed, by simpa using named.plain, named.noArray, named.noNullable,
      named.element⟩⟩

def WellFormed (tree : Signature) : Prop :=
  ∀ node ∈ tree.walk, WellNamed node

instance (tree : Signature) : Decidable (WellFormed tree) :=
  inferInstanceAs (Decidable (∀ node ∈ tree.walk, WellNamed node))

def Padded (core text : Text) : Prop :=
  ∃ before after, Text.isBlank before = true ∧ Text.isBlank after = true ∧
    text = before ++ core ++ after

inductive Spells : Signature → Text → Prop where
  | leaf {name text} (padded : Padded name text) : Spells (node name []) text
  | generic (gap : Text) {name text arguments spellings} (nonempty : arguments ≠ [])
      (each : List.Forall₂ Spells arguments spellings) (blanks : Text.isBlank gap = true)
      (padded : Padded (name ++ gap ++ '<' :: comma.intercalate spellings ++ ['>']) text) :
      Spells (node name arguments) text
  | array {element inside text} (inner : Spells element inside)
      (padded : Padded (inside ++ arrayName) text) : Spells (node arrayName [element]) text
  | nullable {value inside text} (inner : Spells value inside)
      (padded : Padded (inside ++ ['?']) text) : Spells (node nullableName [value]) text

theorem wellFormedNode {name : Text} {arguments : List Signature} :
    WellFormed (node name arguments) ↔
      WellNamed (node name arguments) ∧ ∀ argument ∈ arguments, WellFormed argument := by
  unfold WellFormed
  rw [walkNode]
  simp only [List.mem_cons, List.mem_flatMap, forall_eq_or_imp]
  refine and_congr_right fun _ => ⟨fun all argument member below inside =>
    all below ⟨argument, member, inside⟩, ?_⟩
  rintro all below ⟨argument, member, inside⟩
  exact all argument member below inside

theorem paddedPart {core text : Text} (padded : Padded core text) : parse text = parse core := by
  obtain ⟨before, after, leading, trailing, rfl⟩ := padded
  rw [parseAfter trailing, parseBefore leading]

theorem paddedSolid {core text : Text} (padded : Padded core text) (solid : Solid core) :
    Solid text := by
  obtain ⟨before, after, leading, trailing, rfl⟩ := padded
  exact solidAppend (solidAppend (solidBlank leading) solid) (solidBlank trailing)

theorem paddedVisible {core text : Text} (padded : Padded core text)
    (visible : Text.isBlank core = false) : Text.isBlank text = false := by
  obtain ⟨before, after, _, _, rfl⟩ := padded
  simp only [Text.isBlank, List.all_append] at *
  simp [visible]

theorem WellNamed.visible {node : Signature} (named : WellNamed node) :
    Text.isBlank node.name = false := by
  cases seen : Text.isBlank node.name with
  | false => rfl
  | true => exact absurd (named.trimmed.symm.trans (Text.stripBlank seen)) named.nonempty

theorem WellNamed.kept {node : Signature} (named : WellNamed node) : Kept node := by
  have noOpening : '<' ∉ node.name := fun member => (named.plain '<' member).1 rfl
  have noClosing : '>' ∉ node.name := fun member => (named.plain '>' member).2.1 rfl
  exact ⟨named.nonempty, by simp [isMalformed, noOpening, noClosing]⟩

theorem WellFormed.kept {tree : Signature} (formed : WellFormed tree) : Kept tree := by
  obtain ⟨name, arguments⟩ := tree
  exact (wellFormedNode.mp formed).1.kept

theorem spellingPiece {tree : Signature} (wellFormed : WellFormed tree) {text : Text}
    (spells : Spells tree text) : Solid text ∧ Text.isBlank text = false := by
  induction tree using treeInduction generalizing text with
  | node name arguments ih =>
    obtain ⟨named, below⟩ := wellFormedNode.mp wellFormed
    have word : Solid name := solidPlain named.plain
    cases spells with
    | leaf padded => exact ⟨paddedSolid padded word, paddedVisible padded named.visible⟩
    | @generic gap _ _ _ spellings nonempty each blanks padded =>
      have solid : ∀ spelling ∈ spellings, Solid spelling := by
        intro spelling member
        obtain ⟨argument, inside, spelled⟩ := Results.eachSource each member
        exact (ih argument inside (below argument inside) spelled).1
      have plain : ∀ c ∈ name ++ gap, Plain c := by
        intro c member
        rcases List.mem_append.mp member with inName | inGap
        · exact named.plain c inName
        · exact blankPlain (List.all_eq_true.mp blanks c inGap)
      refine ⟨paddedSolid padded (solidBracketed plain solid), paddedVisible padded ?_⟩
      rw [List.append_assoc, List.append_assoc]
      exact Text.visibleAppend named.visible _
    | @array element inside _ inner padded =>
      obtain ⟨solid, visible⟩ :=
        ih element List.mem_cons_self (below element List.mem_cons_self) inner
      exact ⟨paddedSolid padded (solidAppend solid (by decide)),
        paddedVisible padded (Text.visibleAppend visible _)⟩
    | @nullable value inside _ inner padded =>
      obtain ⟨solid, visible⟩ := ih value List.mem_cons_self (below value List.mem_cons_self) inner
      exact ⟨paddedSolid padded (solidAppend solid (by decide)),
        paddedVisible padded (Text.visibleAppend visible _)⟩

theorem parseSpelled {tree : Signature} (wellFormed : WellFormed tree) {text : Text}
    (spells : Spells tree text) : parse text = tree := by
  induction tree using treeInduction generalizing text with
  | node name arguments ih =>
    obtain ⟨named, below⟩ := wellFormedNode.mp wellFormed
    have noOpening : '<' ∉ name := fun member => (named.plain '<' member).1 rfl
    cases spells with
    | leaf padded =>
      rw [paddedPart padded]
      exact parseName named.trimmed (named.noArray rfl) (named.noNullable rfl) noOpening
    | @generic gap _ _ _ spellings nonempty each blanks padded =>
      have cut : splitArguments (comma.intercalate spellings) = some spellings := by
        refine splitArgumentsIff.mpr ⟨?_, ?_, rfl⟩
        · rintro rfl
          cases each
          exact nonempty rfl
        · intro spelling member
          obtain ⟨argument, inside, spelled⟩ := Results.eachSource each member
          exact spellingPiece (below argument inside) spelled
      have free : '<' ∉ name ++ gap := by
        intro member
        rcases List.mem_append.mp member with inName | inGap
        · exact noOpening inName
        · exact absurd (List.all_eq_true.mp blanks '<' inGap) (by decide)
      have read : spellings.map parse = arguments :=
        Results.mapOfEach ((Results.eachWithin each).imp fun argument spelling ⟨inside, spelled⟩ =>
          ih argument inside (below argument inside) spelled)
      have seen : Text.isBlank name = false := named.visible
      have trimmed : Text.strip name = name := named.trimmed
      rw [paddedPart padded, parseBracketed (Text.visibleAppend seen gap) free, cut]
      simp only [read, Text.stripAfter blanks, trimmed]
    | @array element inside _ inner padded =>
      have formed := below element List.mem_cons_self
      have read := ih element List.mem_cons_self formed inner
      rw [paddedPart padded, parseArray (spellingPiece formed inner).2, read, wrapKept formed.kept]
    | @nullable value inside _ inner padded =>
      have formed := below value List.mem_cons_self
      have read := ih value List.mem_cons_self formed inner
      rw [paddedPart padded, parseNullable (spellingPiece formed inner).2, read, wrapKept formed.kept]

theorem paddedSelf (core : Text) : Padded core core :=
  ⟨[], [], rfl, rfl, by simp⟩

theorem spellsText (tree : Signature) : Spells tree tree.text := by
  induction tree using treeInduction with
  | node name arguments ih =>
    have each : ∀ below ∈ arguments, Spells below below.text := ih
    rw [textNode]
    match arguments with
    | [] => exact .leaf (paddedSelf name)
    | first :: rest =>
      by_cases suffixed : name = arrayName ∧ rest = []
      · obtain ⟨rfl, rfl⟩ := suffixed
        exact .array (each first List.mem_cons_self) (paddedSelf _)
      · have bracketed : name = arrayName → ((first :: rest).map text).length ≠ 1 := by
          intro same long
          exact suffixed ⟨same, by simpa using long⟩
        rw [textBracketed (by simp) bracketed]
        refine .generic [] (by simp) ?_ rfl (by simpa using paddedSelf _)
        exact List.forall₂_map_right_iff.mpr (List.forall₂_same.mpr each)

theorem everySpellingRead {tree : Signature} (wellFormed : WellFormed tree) :
    (∀ text, Spells tree text → parse text = tree) ∧ Spells tree tree.text ∧
      parse tree.text = tree :=
  ⟨fun _ => parseSpelled wellFormed, spellsText tree, parseSpelled wellFormed (spellsText tree)⟩

def sampleTree : Signature :=
  node "Result" [node arrayName [node nullableName [leaf "Shop.Widget"]],
    node nullableName [node arrayName [leaf "int"]]]

def sampleSpelling : Text :=
  "\tResult < Shop.Widget ? [] ,System.Nullable<int []> > "

theorem sampleSpelled : Spells sampleTree sampleSpelling := by
  have value : Spells (leaf "Shop.Widget") " Shop.Widget " := .leaf ⟨" ", " ", by decide⟩
  have nullable : Spells (node nullableName [leaf "Shop.Widget"]) " Shop.Widget ? " :=
    .nullable value ⟨[], " ", by decide⟩
  have first : Spells (node arrayName [node nullableName [leaf "Shop.Widget"]]) " Shop.Widget ? [] " :=
    .array nullable ⟨[], " ", by decide⟩
  have number : Spells (leaf "int") "int " := .leaf ⟨[], " ", by decide⟩
  have array : Spells (node arrayName [leaf "int"]) "int []" := .array number ⟨[], [], by decide⟩
  have second : Spells (node nullableName [node arrayName [leaf "int"]]) "System.Nullable<int []> " :=
    .generic [] (by simp) (.cons array .nil) rfl ⟨[], " ", by decide⟩
  exact .generic " " (by simp) (.cons first (.cons second .nil)) rfl ⟨"\t", " ", by decide⟩

theorem everySpellingReadBlanks :
    WellFormed sampleTree ∧ Spells sampleTree sampleSpelling ∧ parse sampleSpelling = sampleTree := by
  have wellFormed : WellFormed sampleTree := by decide +kernel
  exact ⟨wellFormed, sampleSpelled, (everySpellingRead wellFormed).1 _ sampleSpelled⟩

end TypedClient.Signature
