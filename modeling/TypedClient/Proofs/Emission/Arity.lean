import TypedClient.Proofs.Emission.FileSet
import TypedClient.Proofs.Mapping.Stability

/-!
Type arguments against type parameters. A base is printed by its display name, with the arguments of
its own entry, and the file of that name has the parameters of the first type of the name. So the two
numbers agree exactly where the entry of the base has as many arguments as that type has parameters.
-/

namespace TypedClient

namespace Mapping

open Signature (Solid)
open TypeTerm (spaced)

theorem spacedInjective {first second : List Text} (same : spaced first = spaced second) :
    first = second := by
  cases first with
  | nil => cases second <;> simp_all [spaced]
  | cons text rest =>
    cases second with
    | nil => simp [spaced] at same
    | cons text' rest' =>
      obtain ⟨rfl, later⟩ := List.cons.inj same
      rw [List.map_injective_iff.mpr (List.cons_injective (a := ' ')) later]

/- What is between two commas outside of brackets is one argument, so a reference shows its arguments. -/
theorem appliedInjective {name : Text} {first second : List Text} (solid : ∀ text ∈ first, Solid text)
    (solid' : ∀ text ∈ second, Solid text) (same : applied name first = applied name second) :
    first = second := by
  by_cases bare : first = [] ∨ second = []
  · rcases bare with rfl | rfl
    · cases second <;> simp_all [applied]
    · cases first <;> simp_all [applied]
  · obtain ⟨arguments, arguments'⟩ := not_or.mp bare
    rw [appliedGeneric arguments, appliedGeneric arguments'] at same
    have inner : Signature.comma.intercalate (spaced first) =
        Signature.comma.intercalate (spaced second) := by
      simpa [TypeTerm.intercalateSpaced] using same
    have pieces := congrArg (Signature.piecesAt · 0) inner
    simp only [Signature.piecesJoin (TypeTerm.spacedNonempty arguments) (TypeTerm.spacedSolid solid),
      Signature.piecesJoin (TypeTerm.spacedNonempty arguments') (TypeTerm.spacedSolid solid')] at pieces
    exact spacedInjective (Option.some.inj pieces)

end Mapping

def DataType.arity (type : DataType) : Nat :=
  if type.isEnum then 0 else type.genericArguments.length

namespace DeclarationScope

open Declaration (genericParameters)
open Mapping (applied)

variable {scope : DeclarationScope} {type base : DataType}

def parameters (type : DataType) : List Text :=
  (List.range type.arity).map fun index => 'T' :: Text.decimal index

def baseArguments (scope : DeclarationScope) (type base : DataType) : List Text :=
  base.genericArguments.map (scope.mapped type)

def keyword (scope : DeclarationScope) (type : DataType) : Text :=
  if type.isEnum then "export enum "
  else if scope.configuration.useInterface then "export interface " else "export type "

def extending (scope : DeclarationScope) (declared reference : Text) : Text :=
  if scope.configuration.useInterface then
    "export interface " ++ declared ++ " extends " ++ reference ++ " \x7b"
  else "export type " ++ declared ++ " = " ++ reference ++ " & \x7b"

def OpensWith (scope : DeclarationScope) (type : DataType) (line : Text) : Prop :=
  ∃ rows, scope.render type =
    Text.lines (importBlock (scope.writtenImports type) ++ scope.documentation type ++ line :: rows)
      ++ ['\n']

theorem opensBody {line : Text} {rows : List Text}
    (opens : (if type.isEnum then scope.enumLines type else scope.recordLines type) = line :: rows) :
    scope.OpensWith type line := by
  refine ⟨rows, ?_⟩
  rw [renderEq, body, opens, List.append_assoc]

theorem opensEnum (enum : type.isEnum = true) :
    scope.OpensWith type ("export enum " ++ type.name ++ " \x7b") :=
  opensBody (by rw [if_pos enum]; rfl)

theorem opensRecord (record : type.isEnum = false) : scope.OpensWith type (scope.header type) :=
  opensBody (by simp only [record]; rfl)

theorem appliedFront (name : Text) (arguments : List Text) :
    name ++ applied [] arguments = applied name arguments := by
  cases arguments <;> simp [applied]

theorem declaredParameters (record : type.isEnum = false) :
    type.name ++ genericParameters type.genericArguments.length = applied type.name (parameters type) := by
  simp [genericParameters, parameters, DataType.arity, record, appliedFront]

theorem headerNamed (record : type.isEnum = false) :
    ∃ rest, scope.header type =
      scope.keyword type ++ applied type.name (parameters type) ++ ' ' :: rest := by
  by_cases interface : scope.configuration.useInterface <;>
    by_cases bare : (scope.baseReference type).isEmpty
  · exact ⟨"\x7b", by simp [header, keyword, declaredParameters record, record, interface, bare]⟩
  · exact ⟨"extends " ++ scope.baseReference type ++ " \x7b",
      by simp [header, keyword, declaredParameters record, record, interface, bare]⟩
  · exact ⟨"= \x7b", by simp [header, keyword, declaredParameters record, record, interface, bare]⟩
  · exact ⟨"= " ++ scope.baseReference type ++ " & \x7b",
      by simp [header, keyword, declaredParameters record, record, interface, bare]⟩

theorem opensNamed (scope : DeclarationScope) (type : DataType) :
    ∃ rest, scope.OpensWith type
      (scope.keyword type ++ applied type.name (parameters type) ++ ' ' :: rest) := by
  cases form : type.isEnum with
  | true =>
    refine ⟨['\x7b'], ?_⟩
    have opens : scope.OpensWith type _ := opensEnum form
    simpa [keyword, form, parameters, DataType.arity, applied] using opens
  | false =>
    obtain ⟨rest, same⟩ : ∃ rest, scope.header type = _ ++ ' ' :: rest := headerNamed form
    exact ⟨rest, same ▸ opensRecord form⟩

theorem opensExtending (record : type.isEnum = false) (found : scope.base? type = some base)
    (named : base.name ≠ []) :
    scope.OpensWith type (scope.extending (applied type.name (parameters type))
      (applied base.name (scope.baseArguments type base))) := by
  have shown : applied base.name (scope.baseArguments type base) ≠ [] := by
    unfold applied
    split <;> simp [named]
  have same : scope.header type = scope.extending (applied type.name (parameters type))
      (applied base.name (scope.baseArguments type base)) := by
    rw [baseArguments] at shown ⊢
    simp [header, extending, declaredParameters record, baseReference, found, shown]
  exact same ▸ opensRecord record

end DeclarationScope

namespace Emission

open Assoc (keys)
open DeclarationScope (parameters)
open Mapping (applied)
open Signature (Solid)

variable {configuration : Configuration} {types : TypeTable} {emission : Emission}

/- The file of a base against that of a type that extends it: the arguments that the one prints are as
many as the entry of the base has, and the parameters of the other are those of the first type of the
name. -/
theorem baseArityIff (once : (keys types).Nodup) (ok : ofTypes configuration types = .ok emission)
    {entry : Text × DataType} (declared : entry ∈ declaredTypes configuration types)
    (record : entry.2.isEnum = false) {key : Text} (extended : entry.2.baseType = some key)
    (filled : key ≠ []) {base : DataType} (found : Assoc.find? key types = some base)
    (named : base.name ≠ []) (apart : base.name ≠ indexName) :
    (∀ (name : Text) first second, (∀ text ∈ first, Solid text) → (∀ text ∈ second, Solid text) →
      applied name first = applied name second → first = second) ∧
    (entry.2.name ≠ indexName →
      (fileName entry.2.name, (scopeOf configuration types).render entry.2) ∈ emission.files) ∧
    (scopeOf configuration types).OpensWith entry.2
      ((scopeOf configuration types).extending (applied entry.2.name (parameters entry.2))
        (applied base.name ((scopeOf configuration types).baseArguments entry.2 base))) ∧
    ∃ first rest, declaring? configuration types base.name = some first ∧
      (fileName base.name, (scopeOf configuration types).render first.2) ∈ emission.files ∧
      (scopeOf configuration types).OpensWith first.2
        ((scopeOf configuration types).keyword first.2 ++ applied base.name (parameters first.2) ++
          ' ' :: rest) ∧
      (((scopeOf configuration types).baseArguments entry.2 base).length =
          (parameters first.2).length ↔ base.genericArguments.length = first.2.arity) := by
  obtain ⟨order, account⟩ := accountOfOk ok
  have waited := baseKeyOf extended filled found
  have both := baseWritten account once (accountDeclared account once ▸ declared) waited found named
  have member : base.name ∈ emission.names := both.subset List.mem_cons_self
  obtain ⟨first, leads, written⟩ := accountDeclaration account once member apart
  have called : first.2.name = base.name := by
    simpa using List.find?_some leads
  obtain ⟨rest, opens⟩ := (scopeOf configuration types).opensNamed first.2
  have inherits : (scopeOf configuration types).base? entry.2 = some base := by
    simpa [DeclarationScope.base?, extended, filled, scopeOf] using found
  refine ⟨fun _ _ _ => Mapping.appliedInjective, fun other => ?_,
    DeclarationScope.opensExtending record inherits named,
    first, rest, leads, written, called ▸ opens, ?_⟩
  · exact declaredWritten account once declared other
  · simp [DeclarationScope.baseArguments, parameters]

def boxedType (name argument : Text) : DataType :=
  { bareType name none with genericArguments := [argument] }

def pageTypes : TypeTable :=
  [("Page<int>", boxedType "Page" "int"), ("Page<string>", boxedType "Page" "string"),
    ("Names", bareType "Names" (some "Page<string>"))]

theorem baseArityPage :
    (keys pageTypes).Nodup ∧ ∃ emission, ofTypes .standard pageTypes = .ok emission ∧
      (("Names" : Text), bareType "Names" (some "Page<string>")) ∈ declaredTypes .standard pageTypes ∧
      declaring? .standard pageTypes "Page" = some (("Page<int>" : Text), boxedType "Page" "int") ∧
      ((scopeOf .standard pageTypes).baseArguments (bareType "Names" (some "Page<string>"))
          (boxedType "Page" "string")).length = (parameters (boxedType "Page" "int")).length := by
  have once : (keys pageTypes).Nodup := by decide
  have run : (ofTypes .standard pageTypes).toOption.any (fun emission =>
      emission.duplicates = ["Page<string>"].map String.toList) = true := by decide +kernel
  obtain ⟨emission, ok, _⟩ := Results.okOfAny run
  have declared : (("Names" : Text), bareType "Names" (some "Page<string>")) ∈
      declaredTypes .standard pageTypes := by decide +kernel
  have leads : declaring? .standard pageTypes "Page" =
      some (("Page<int>" : Text), boxedType "Page" "int") := by decide +kernel
  obtain ⟨_, _, _, first, _, found, _, _, same⟩ := @baseArityIff _ _ _ once ok _ declared (by decide)
    _ rfl (by decide) (boxedType "Page" "string") (by decide) (by decide) (by decide)
  cases Option.some.inj (leads.symm.trans found)
  exact ⟨once, emission, ok, declared, leads, same.mpr (by decide)⟩

def boxTypes : TypeTable :=
  [("Box", bareType "Box" none), ("Box<string>", boxedType "Box" "string"),
    ("Crate", bareType "Crate" (some "Box<string>"))]

def boxFiles : FileTable :=
  [("Box.ts", "export interface Box \x7b\n\x7d\n"),
    ("Crate.ts", "import \x7b Box \x7d from './Box';\n\n" ++
      "export interface Crate extends Box<string> \x7b\n\x7d\n"),
    ("index.ts", "export * from './Box';\nexport * from './Crate';\n")]

theorem closedBaseWithoutParameters :
    (∃ emission, ofTypes .standard boxTypes = .ok emission ∧ emission.files = boxFiles) ∧
    ¬ ∀ configuration types emission (entry : Text × DataType) key base first, (keys types).Nodup →
      ofTypes configuration types = .ok emission → entry ∈ declaredTypes configuration types →
      entry.2.isEnum = false → entry.2.baseType = some key → Assoc.find? key types = some base →
      base.name ≠ [] → declaring? configuration types base.name = some first →
        ((scopeOf configuration types).baseArguments entry.2 base).length =
          (parameters first.2).length := by
  have run : (ofTypes .standard boxTypes).toOption.any (fun emission => emission.files = boxFiles) =
      true := by decide +kernel
  obtain ⟨emission, ok, files⟩ := Results.okOfAny run
  refine ⟨⟨emission, ok, of_decide_eq_true files⟩, fun all => ?_⟩
  have declared : (("Crate" : Text), bareType "Crate" (some "Box<string>")) ∈
      declaredTypes .standard boxTypes := by decide +kernel
  have leads : declaring? .standard boxTypes "Box" = some (("Box" : Text), bareType "Box" none) := by
    decide +kernel
  have same := all .standard boxTypes emission _ _ (boxedType "Box" "string") _ (by decide) ok declared
    (by decide) rfl (by decide) (by decide) leads
  exact absurd same (by decide)

end Emission

end TypedClient
