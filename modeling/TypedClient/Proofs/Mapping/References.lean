import TypedClient.Proofs.Collections
import TypedClient.Proofs.Mapping.Marked

/-!
The domain types that a signature refers to, against those that its mapped type prints. References
do not look into a type that is TypeScript already, while the mapping does: what is printed outside
such types is referred to, and what is printed inside one only if it is named elsewhere too.
-/

namespace TypedClient.Mapping

variable {mapping : Mapping} {placeholders : Placeholders}

structure Open (mapping : Mapping) (placeholders : Placeholders) (node : Signature) : Prop where
  free : placeholders.lookup node.text = none
  source : mapping.isTarget node = false

inductive Names (mapping : Mapping) (placeholders : Placeholders) : Signature → Text → Prop where
  | here {node : Signature} (visible : Open mapping placeholders node)
      (domain : mapping.isDomain node.name = true) :
      Names mapping placeholders node (simpleName node.name)
  | deeper {node argument : Signature} {name : Text} (visible : Open mapping placeholders node)
      (member : argument ∈ node.arguments) (next : Names mapping placeholders argument name) :
      Names mapping placeholders node name

theorem referencesOpen {node : Signature} (visible : Open mapping placeholders node)
    (below : List (List Text)) :
    mapping.referencesNode placeholders node below =
      (if mapping.isDomain node.name then [simpleName node.name] else []) ++ below.flatten := by
  unfold referencesNode
  rw [visible.free, visible.source]
  cases mapping.isDomain node.name <;> rfl

theorem referencesClosed {node : Signature} (closed : ¬ Open mapping placeholders node)
    (below : List (List Text)) : mapping.referencesNode placeholders node below = [] := by
  unfold referencesNode
  split
  · rfl
  · rename_i visible
    obtain ⟨free, source⟩ := not_or.mp (mt (Bool.or_eq_true _ _).mpr visible)
    exact absurd ⟨Option.not_isSome_iff_eq_none.mp free, by simpa using source⟩ closed

theorem namesIff (signature : Signature) (name : Text) :
    name ∈ signature.fold (mapping.referencesNode placeholders) ↔
      Names mapping placeholders signature name := by
  induction signature using Signature.treeInduction with
  | node own arguments ih =>
    rw [Signature.foldNode]
    by_cases visible : Open mapping placeholders (.node own arguments)
    · rw [referencesOpen visible, List.mem_append, List.mem_flatten]
      constructor
      · rintro (here | ⟨names, listed, member⟩)
        · split at here
          · rename_i domain
            cases List.mem_singleton.mp here
            exact .here visible domain
          · simp at here
        · obtain ⟨argument, inside, rfl⟩ := List.mem_map.mp listed
          exact .deeper visible inside ((ih argument inside).mp member)
      · intro named
        cases named with
        | here _ domain => exact .inl (by simp [domain])
        | @deeper _ argument _ _ member next =>
          exact .inr ⟨_, List.mem_map.mpr ⟨argument, member, rfl⟩, (ih argument member).mpr next⟩
    · rw [referencesClosed visible]
      constructor
      · simp
      · intro named
        cases named with
        | here shown _ => exact absurd shown visible
        | deeper shown _ _ => exact absurd shown visible

theorem memReferences {signature : Signature} {name : Text} :
    name ∈ mapping.references placeholders signature ↔
      Names mapping placeholders signature name := by
  rw [references, Text.memDistinct, namesIff]

def NamesText (mapping : Mapping) (placeholders : Placeholders) (text name : Text) : Prop :=
  '|' ∉ text ∧ Names mapping placeholders (Signature.parse text) name

theorem memReferencesText {text name : Text} :
    name ∈ mapping.referencesText placeholders text ↔ NamesText mapping placeholders text name := by
  unfold referencesText NamesText
  split
  · rename_i union
    simp [union]
  · rename_i signature
    rw [memReferences, and_iff_right signature]

/- Every construct keeps the domain pieces of the arguments that it prints and adds none. -/

theorem domainOfIntercalate {separator : Text} {items : List Marked} {sheltered : Bool} {name : Text}
    (member : .domain sheltered name ∈ ([.plain separator] : Marked).intercalate items) :
    ∃ item ∈ items, .domain sheltered name ∈ item := by
  induction items with
  | nil => simp at member
  | cons first rest ih =>
    cases rest with
    | nil => exact ⟨first, List.mem_cons_self, by simpa using member⟩
    | cons second rest =>
      rw [List.intercalate_cons_cons] at member
      simp only [List.mem_append, List.mem_singleton, reduceCtorEq, or_false] at member
      rcases member with here | later
      · exact ⟨first, List.mem_cons_self, here⟩
      · obtain ⟨item, inside, found⟩ := ih later
        exact ⟨item, List.mem_cons_of_mem _ inside, found⟩

theorem domainOfApplied {head : Marked} {arguments : List Marked} {sheltered : Bool} {name : Text}
    (member : .domain sheltered name ∈ markedApplied head arguments) :
    .domain sheltered name ∈ head ∨ ∃ argument ∈ arguments, .domain sheltered name ∈ argument := by
  unfold markedApplied at member
  split at member
  · exact .inl member
  · simp only [List.mem_append, List.mem_cons, reduceCtorEq, List.not_mem_nil, or_false,
      false_or] at member
    exact member.imp_right domainOfIntercalate

theorem domainOfArray {element : Marked} {sheltered : Bool} {name : Text}
    (member : .domain sheltered name ∈ markedArray element) : .domain sheltered name ∈ element := by
  unfold markedArray at member
  split at member <;> simpa using member

theorem domainOfNullable {inner : Marked} {sheltered : Bool} {name : Text}
    (member : .domain sheltered name ∈ markedNullable inner) : .domain sheltered name ∈ inner := by
  unfold markedNullable at member
  split at member
  · exact member
  · simpa using member

theorem domainOfRecord {key value : Marked} {sheltered : Bool} {name : Text}
    (member : .domain sheltered name ∈ markedRecord key value) :
    .domain sheltered name ∈ key ∨ .domain sheltered name ∈ value := by
  unfold markedRecord at member
  split at member
  · simpa using member
  · exact .inr (by simpa using member)

theorem domainOfWrapper {isArray : Bool} {framework : Option Text} {arguments : List Marked}
    {printed : Marked} (wraps : markedWrapper? isArray framework arguments = some printed)
    {sheltered : Bool} {name : Text} (member : .domain sheltered name ∈ printed) :
    ∃ argument ∈ arguments, .domain sheltered name ∈ argument := by
  match arguments with
  | [argument] =>
    refine ⟨argument, List.mem_cons_self, ?_⟩
    simp only [markedWrapper?] at wraps
    split at wraps
    · cases Option.some.inj wraps
      exact domainOfNullable member
    · split at wraps
      · cases Option.some.inj wraps
        exact domainOfArray member
      · split at wraps
        · cases Option.some.inj wraps
          exact member
        · contradiction
  | [key, value] =>
    simp only [markedWrapper?] at wraps
    split at wraps
    · cases Option.some.inj wraps
      simp at member
    · split at wraps
      · cases Option.some.inj wraps
        simp at member
      · split at wraps
        · cases Option.some.inj wraps
          rcases domainOfRecord member with inKey | inValue
          · exact ⟨key, List.mem_cons_self, inKey⟩
          · exact ⟨value, by simp, inValue⟩
        · contradiction
  | [] | _ :: _ :: _ :: _ =>
    simp only [markedWrapper?] at wraps
    split at wraps
    · cases Option.some.inj wraps
      simp at member
    · split at wraps
      · cases Option.some.inj wraps
        simp at member
      · contradiction

theorem notOpenSheltered {name : Text} {marked : Marked} : .domain false name ∉ shelter marked := by
  intro member
  obtain ⟨piece, _, same⟩ := List.mem_map.mp member
  cases piece <;> simp [Piece.shelter] at same

theorem openPieceOfNode {node : Signature} {arguments : List Marked} {name : Text}
    (member : .domain false name ∈ mapping.markedNode placeholders node arguments) :
    Open mapping placeholders node ∧
      ((mapping.isDomain node.name = true ∧ name = simpleName node.name) ∨
        ∃ argument ∈ arguments, .domain false name ∈ argument) := by
  unfold markedNode at member
  cases free : placeholders.lookup node.text with
  | some placeholder => simp [free] at member
  | none =>
    cases source : mapping.isTarget node with
    | true =>
      simp only [free, source, if_true] at member
      rcases domainOfApplied member with head | ⟨argument, inside, found⟩
      · simp at head
      · obtain ⟨original, _, rfl⟩ := List.mem_map.mp inside
        exact absurd found notOpenSheltered
    | false =>
      refine ⟨⟨free, source⟩, ?_⟩
      simp only [free, source, Bool.false_eq_true, if_false] at member
      split at member
      · rename_i wraps
        exact .inr (domainOfWrapper wraps member)
      · split at member
        · simp at member
        · split at member
          · rename_i domain
            rcases domainOfApplied member with head | below
            · exact .inl ⟨domain, by simpa using head⟩
            · exact .inr below
          · simp at member

theorem namesOfOpenPiece {signature : Signature} {name : Text}
    (member : .domain false name ∈ mapping.marked placeholders signature) :
    Names mapping placeholders signature name := by
  induction signature using Signature.treeInduction with
  | node own arguments ih =>
    rw [marked, Signature.foldNode] at member
    obtain ⟨visible, ⟨domain, rfl⟩ | ⟨printed, inside, found⟩⟩ := openPieceOfNode member
    · exact .here visible domain
    · obtain ⟨argument, listed, rfl⟩ := List.mem_map.mp inside
      exact .deeper visible listed (ih argument listed found)

theorem namesTextOfOpenPiece {text name : Text}
    (member : .domain false name ∈ mapping.markedText placeholders text) :
    NamesText mapping placeholders text name := by
  unfold markedText at member
  split at member
  · simp at member
  · rename_i signature
    exact ⟨signature, namesOfOpenPiece member⟩

end TypedClient.Mapping
