import TypedClient.Declaration
import TypedClient.Proofs.Mapping.References

/-!
The imports of a declaration against the names that its text prints. Imports come from the base, from
the arguments that the base gets, and from the properties. A declared name that is printed outside
every TypeScript type is imported; one that is printed only inside of them is left out, unless the
base has that name.
-/

namespace TypedClient.DeclarationScope

open Declaration (placeholders unimportable)
open Mapping (Piece)

def writtenImports (scope : DeclarationScope) (type : DataType) : List Text :=
  if type.isEnum then [] else scope.imports type

def body (scope : DeclarationScope) (type : DataType) : List Text :=
  scope.documentation type ++ if type.isEnum then scope.enumLines type else scope.recordLines type

theorem renderEq (scope : DeclarationScope) (type : DataType) :
    scope.render type =
      Text.lines (importBlock (scope.writtenImports type) ++ scope.body type) ++ ['\n'] := by
  unfold render writtenImports body
  split <;> simp [importBlock]

def mappedTexts (scope : DeclarationScope) (type : DataType) : List Text :=
  ((scope.base? type).map (·.genericArguments)).getD [] ++ type.properties.map (·.type)

def importedBase? (scope : DeclarationScope) (type : DataType) : Option Text :=
  (scope.base? type).bind fun base =>
    if base.name ∈ unimportable ∨ base.name = type.name then none else some base.name

variable {scope : DeclarationScope} {type : DataType} {name : Text}

theorem memReferred {text : Text} :
    name ∈ scope.referred type text ↔
      scope.mapping.NamesText (placeholders type.genericArguments) text name ∧
        name ∈ scope.declared ∧ name ≠ type.name := by
  simp [referred, Mapping.memReferencesText]

theorem memImports :
    name ∈ scope.imports type ↔
      scope.importedBase? type = some name ∨
        ∃ text ∈ scope.mappedTexts type, name ∈ scope.referred type text := by
  unfold imports importedBase? mappedTexts
  rw [Text.memDistinct, List.mem_append, List.mem_flatMap]
  cases scope.base? type with
  | none => simp
  | some base =>
    by_cases hidden : base.name ∈ unimportable ∨ base.name = type.name
    · simp [hidden, List.mem_flatMap, or_and_right, exists_or]
    · simp only [hidden, if_false, List.mem_append, List.mem_flatMap, List.mem_singleton,
        Option.bind_some, Option.some.injEq, Option.map_some, Option.getD_some, List.mem_map,
        or_and_right, exists_or, exists_exists_and_eq_and, eq_comm (a := name)]
      exact or_assoc.trans or_left_comm

def Prints (scope : DeclarationScope) (type : DataType) (sheltered : Bool) (name : Text) : Prop :=
  ∃ text ∈ scope.mappedTexts type, Piece.domain sheltered name ∈
    scope.mapping.markedText (placeholders type.genericArguments) text

def NamesOpenly (scope : DeclarationScope) (type : DataType) (name : Text) : Prop :=
  ∃ text ∈ scope.mappedTexts type,
    scope.mapping.NamesText (placeholders type.genericArguments) text name

def ImportsComplete (scope : DeclarationScope) (type : DataType) : Prop :=
  ∀ sheltered name, scope.Prints type sheltered name → name ∈ scope.declared → name ≠ type.name →
    name ∈ scope.writtenImports type

theorem memWrittenImports (record : type.isEnum = false) (declared : name ∈ scope.declared)
    (foreign : name ≠ type.name) :
    name ∈ scope.writtenImports type ↔
      scope.NamesOpenly type name ∨ scope.importedBase? type = some name := by
  unfold writtenImports NamesOpenly
  simp [record, memImports, memReferred, declared, foreign, or_comm]

theorem openPrintImported (record : type.isEnum = false) (printed : scope.Prints type false name)
    (declared : name ∈ scope.declared) (foreign : name ≠ type.name) :
    name ∈ scope.writtenImports type := by
  obtain ⟨text, mapped, piece⟩ := printed
  exact (memWrittenImports record declared foreign).mpr
    (.inl ⟨text, mapped, Mapping.namesTextOfOpenPiece piece⟩)

/- The marks are faithful to the mapping, and references hold what is printed openly. A declaration
has all its imports exactly where every declared name that it prints inside a TypeScript type is also
named outside of one, or is the name of the base. -/
theorem importsCompleteIff (record : type.isEnum = false) :
    (∀ (mapping : Mapping) placeholders signature,
      Mapping.erase (mapping.marked placeholders signature) = mapping.map placeholders signature ∧
      (∀ name, name ∈ mapping.references placeholders signature ↔
        mapping.Names placeholders signature name) ∧
      ∀ name, Piece.domain false name ∈ mapping.marked placeholders signature →
        name ∈ mapping.references placeholders signature) ∧
    (∀ (mapping : Mapping) placeholders text,
      Mapping.erase (mapping.markedText placeholders text) = mapping.mapText placeholders text) ∧
    (∀ name, scope.Prints type false name → name ∈ scope.declared → name ≠ type.name →
      name ∈ scope.writtenImports type) ∧
    (scope.ImportsComplete type ↔
      ∀ name, scope.Prints type true name → name ∈ scope.declared → name ≠ type.name →
        scope.NamesOpenly type name ∨ scope.importedBase? type = some name) := by
  refine ⟨?_, Mapping.eraseMarkedText, fun name => openPrintImported record, ?_⟩
  · intro mapping placeholders signature
    exact ⟨Mapping.eraseMarked mapping placeholders signature, fun _ => Mapping.memReferences,
      fun _ piece => Mapping.memReferences.mpr (Mapping.namesOfOpenPiece piece)⟩
  · constructor
    · intro complete name printed declared foreign
      exact (memWrittenImports record declared foreign).mp
        (complete true name printed declared foreign)
    · intro sheltered inside name printed declared foreign
      cases inside with
      | false => exact openPrintImported record printed declared foreign
      | true =>
        exact (memWrittenImports record declared foreign).mpr
          (sheltered name printed declared foreign)

def orderType (first second : Text) : DataType :=
  ⟨"Order", some "Shop", none, [],
    [⟨"first", first, false, true, none, none⟩, ⟨"second", second, false, true, none, none⟩],
    [], none, none⟩

def orderScope (first second : Text) : DeclarationScope :=
  ⟨{ Configuration.standard with namespacePrefix := "Shop" },
    [("Shop.Order", orderType first second),
      ("Shop.Widget", ⟨"Widget", some "Shop", none, [], [], [], none, none⟩)],
    ["Order", "Widget"]⟩

theorem importsCompleteBeside :
    (orderType "Array<Shop.Widget>" "Shop.Widget").isEnum = false ∧
    (orderScope "Array<Shop.Widget>" "Shop.Widget").ImportsComplete
      (orderType "Array<Shop.Widget>" "Shop.Widget") := by
  have record : (orderType "Array<Shop.Widget>" "Shop.Widget").isEnum = false := by decide
  refine ⟨record, (importsCompleteIff record).2.2.2.mpr ?_⟩
  intro name printed declared foreign
  have same : name = "Widget" := by
    rcases List.mem_cons.mp declared with own | other
    · exact absurd own foreign
    · exact List.mem_singleton.mp other
  subst same
  exact .inl ⟨"Shop.Widget", by decide, Mapping.memReferencesText.mp (by decide +kernel)⟩

theorem arrayElementNotImported :
    (orderScope "Array<Shop.Widget>" "int").mapped (orderType "Array<Shop.Widget>" "int")
      "Array<Shop.Widget>" = "Array<Widget>" ∧
    (orderScope "Array<Shop.Widget>" "int").Prints (orderType "Array<Shop.Widget>" "int") true
      "Widget" ∧
    ("Widget" : Text) ∈ (orderScope "Array<Shop.Widget>" "int").declared ∧
    ¬ (orderScope "Array<Shop.Widget>" "int").ImportsComplete (orderType "Array<Shop.Widget>" "int") := by
  have printed : (orderScope "Array<Shop.Widget>" "int").Prints
      (orderType "Array<Shop.Widget>" "int") true "Widget" :=
    ⟨"Array<Shop.Widget>", by decide +kernel, by decide +kernel⟩
  refine ⟨by decide +kernel, printed, by decide, ?_⟩
  intro complete
  have imported := complete true "Widget" printed (by decide) (by decide)
  exact absurd imported (by decide +kernel)

end TypedClient.DeclarationScope
