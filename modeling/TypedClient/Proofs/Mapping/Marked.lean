import TypedClient.Mapping
import TypedClient.Proofs.Signature.Tree

/-!
Mapped types with marks: the pieces of the text that the rule for domain types wrote are told from
all other pieces, and from those that were written inside a type that was TypeScript already. Without
its marks a marked type is the mapped type.
-/

namespace TypedClient.Mapping

/- A domain piece is sheltered when it stands in the arguments of a TypeScript type. -/
inductive Piece where
  | plain (text : Text)
  | domain (sheltered : Bool) (name : Text)
  deriving DecidableEq, Repr

def Piece.text : Piece → Text
  | plain text => text
  | domain _ name => name

def Piece.shelter : Piece → Piece
  | plain text => plain text
  | domain _ name => domain true name

abbrev Marked := List Piece

def erase (marked : Marked) : Text :=
  marked.flatMap Piece.text

def shelter (marked : Marked) : Marked :=
  marked.map Piece.shelter

def markedApplied (head : Marked) (arguments : List Marked) : Marked :=
  if arguments.isEmpty then head
  else head ++ .plain ['<'] :: ([.plain ", "] : Marked).intercalate arguments ++ [.plain ['>']]

def markedArray (element : Marked) : Marked :=
  if '|' ∈ erase element ∨ '&' ∈ erase element then .plain ['('] :: element ++ [.plain ")[]"]
  else element ++ [.plain "[]"]

def markedNullable (inner : Marked) : Marked :=
  if nullablePrefix.isPrefixOf (erase inner) then inner else .plain nullablePrefix :: inner

def markedRecord (key value : Marked) : Marked :=
  .plain "Record<" ::
    (if erase key = "string" ∨ erase key = "number" then key else [.plain "string"]) ++
      .plain ", " :: value ++ [.plain ">"]

def markedWrapper? (isArray : Bool) (framework : Option Text) (arguments : List Marked) :
    Option Marked :=
  let named (names : List Text) : Bool := framework.any (· ∈ names)
  match arguments with
  | [argument] =>
    if named nullableNames then some (markedNullable argument)
    else if isArray || named sequenceNames then some (markedArray argument)
    else if named asyncNames || named resultNames then some argument
    else none
  | _ =>
    if isArray || named sequenceNames then some [.plain (anyType ++ "[]")]
    else if named asyncNames then some [.plain voidType]
    else match arguments with
      | [key, value] => if named dictionaryNames then some (markedRecord key value) else none
      | _ => none

def markedNode (mapping : Mapping) (placeholders : Placeholders) (node : Signature)
    (arguments : List Marked) : Marked :=
  match placeholders.lookup node.text with
  | some placeholder => [.plain placeholder]
  | none =>
    if mapping.isTarget node then markedApplied [.plain node.name] (arguments.map shelter)
    else
      let framework := if node.isArray then none else frameworkName? node.name
      match markedWrapper? node.isArray framework arguments with
      | some marked => marked
      | none =>
        match scalar? node.name with
        | some type => [.plain type]
        | none =>
          if mapping.isDomain node.name then
            markedApplied [.plain mapping.qualifier, .domain false (simpleName node.name)] arguments
          else [.plain anyType]

def marked (mapping : Mapping) (placeholders : Placeholders) : Signature → Marked :=
  Signature.fold (mapping.markedNode placeholders)

def markedText (mapping : Mapping) (placeholders : Placeholders) (text : Text) : Marked :=
  if '|' ∈ text then [.plain (Text.strip text)]
  else mapping.marked placeholders (Signature.parse text)

@[simp] theorem eraseNil : erase [] = [] := rfl

@[simp] theorem eraseCons (piece : Piece) (rest : Marked) :
    erase (piece :: rest) = piece.text ++ erase rest := rfl

@[simp] theorem eraseAppend (first second : Marked) :
    erase (first ++ second) = erase first ++ erase second :=
  List.flatMap_append

@[simp] theorem plainText (text : Text) : (Piece.plain text).text = text := rfl

@[simp] theorem domainText (sheltered : Bool) (name : Text) :
    (Piece.domain sheltered name).text = name := rfl

theorem eraseShelter (marked : Marked) : erase (shelter marked) = erase marked := by
  induction marked with
  | nil => rfl
  | cons piece rest ih =>
    rw [shelter, List.map_cons, eraseCons, eraseCons, ← ih]
    cases piece <;> rfl

theorem eraseIntercalate (separator : Marked) (items : List Marked) :
    erase (separator.intercalate items) = (erase separator).intercalate (items.map erase) := by
  induction items with
  | nil => rfl
  | cons first rest ih =>
    cases rest with
    | nil => simp
    | cons second rest => simp [List.intercalate_cons_cons, ih]

theorem eraseApplied (head : Marked) (arguments : List Marked) :
    erase (markedApplied head arguments) = applied (erase head) (arguments.map erase) := by
  unfold markedApplied applied
  cases arguments with
  | nil => rfl
  | cons first rest => simp [eraseIntercalate]

theorem eraseArray (element : Marked) : erase (markedArray element) = arrayOf (erase element) := by
  unfold markedArray arrayOf
  split <;> simp

theorem eraseNullable (inner : Marked) : erase (markedNullable inner) = nullable (erase inner) := by
  unfold markedNullable nullable
  split <;> simp

theorem eraseRecord (key value : Marked) :
    erase (markedRecord key value) =
      "Record<" ++ (if erase key = "string" ∨ erase key = "number" then erase key else "string") ++
        ", " ++ erase value ++ ">" := by
  unfold markedRecord
  split <;> simp

theorem eraseWrapper (isArray : Bool) (framework : Option Text) (arguments : List Marked) :
    (markedWrapper? isArray framework arguments).map erase =
      wrapper? isArray framework (arguments.map erase) := by
  match arguments with
  | [] =>
    simp only [markedWrapper?, wrapper?, List.map_nil, apply_ite (Option.map erase),
      Option.map_some, Option.map_none, eraseCons, eraseNil, plainText, List.append_nil]
  | [argument] =>
    simp only [markedWrapper?, wrapper?, List.map_cons, List.map_nil, apply_ite (Option.map erase),
      Option.map_some, Option.map_none, eraseNullable, eraseArray]
  | [key, value] =>
    simp only [markedWrapper?, wrapper?, List.map_cons, List.map_nil, apply_ite (Option.map erase),
      Option.map_some, Option.map_none, eraseRecord, eraseCons, eraseNil, plainText, List.append_nil]
  | _ :: _ :: _ :: _ =>
    simp only [markedWrapper?, wrapper?, List.map_cons, apply_ite (Option.map erase),
      Option.map_some, Option.map_none, eraseCons, eraseNil, plainText, List.append_nil]

theorem eraseNode (mapping : Mapping) (placeholders : Placeholders) (node : Signature)
    (arguments : List Marked) :
    erase (mapping.markedNode placeholders node arguments) =
      mapping.mapNode placeholders node (arguments.map erase) := by
  unfold markedNode mapNode
  cases placeholders.lookup node.text with
  | some placeholder => simp
  | none =>
    by_cases target : mapping.isTarget node = true
    · have same : (arguments.map shelter).map erase = arguments.map erase := by
        simp [List.map_map, Function.comp_def, eraseShelter]
      simp only [target, if_true, eraseApplied, same]
      simp
    · simp only [target, if_false, Bool.false_eq_true, ← eraseWrapper]
      cases markedWrapper? node.isArray (if node.isArray then none else frameworkName? node.name)
          arguments with
      | some marked => rfl
      | none =>
        simp only [Option.map_none]
        cases scalar? node.name with
        | some type => simp
        | none =>
          simp only []
          split
          · rw [eraseApplied]
            simp
          · simp

theorem eraseMarked (mapping : Mapping) (placeholders : Placeholders) (signature : Signature) :
    erase (mapping.marked placeholders signature) = mapping.map placeholders signature := by
  induction signature using Signature.treeInduction with
  | node name arguments ih =>
    unfold marked map at *
    rw [Signature.foldNode, Signature.foldNode, eraseNode, List.map_map]
    exact congrArg _ (List.map_congr_left ih)

theorem eraseMarkedText (mapping : Mapping) (placeholders : Placeholders) (text : Text) :
    erase (mapping.markedText placeholders text) = mapping.mapText placeholders text := by
  unfold markedText mapText
  split
  · simp
  · exact eraseMarked mapping placeholders _

end TypedClient.Mapping
