import TypedClient.Proofs.Emission.Reordering
import TypedClient.Proofs.Mapping.Descriptions
import TypedClient.Proofs.Service.Functions

/-!
The names that services take from the table of types. A described type is named by its display name,
wherever it stands in the table; whether that name is declared is settled by the emission alone. The
name is missing only where every type of that name is outside the namespace or left for its base.
-/

namespace TypedClient

namespace Emission

variable {configuration : Configuration} {types : TypeTable} {emission : Emission}

open Assoc (keys)

theorem memSkipped (ok : ofTypes configuration types = .ok emission) {key : Text} {type : DataType}
    (member : (key, type) ∈ types) (foreign : inScope configuration type = false) :
    key ∈ emission.skipped := by
  obtain ⟨order, account⟩ := accountOfOk ok
  rw [account.skipped]
  exact Assoc.keyOfMember (List.mem_filter.mpr ⟨member, by simp [foreign]⟩)

/- A type inside the namespace that is not left for its base has its name declared. -/
def Generated (configuration : Configuration) (types : TypeTable) (emission : Emission)
    (key : Text) (type : DataType) : Prop :=
  Assoc.find? key types = some type ∧ inScope configuration type = true ∧ key ∉ emission.unresolved

theorem memNames (once : (keys types).Nodup) (ok : ofTypes configuration types = .ok emission)
    {name : Text} :
    name ∈ emission.names ↔
      name ≠ [] ∧ ∃ key type, Generated configuration types emission key type ∧ type.name = name := by
  obtain ⟨order, account⟩ := accountOfOk ok
  constructor
  · intro member
    rw [accountNames account once] at member
    obtain ⟨⟨key, type⟩, declared, rfl⟩ := List.mem_map.mp member
    have generated := (writtenSublist [] _).subset declared
    have found := (memGenerated.mp generated).2
    exact ⟨writtenNamed declared, key, type, ⟨found, (generatedIff once ok found).mp generated⟩, rfl⟩
  · rintro ⟨named, key, type, ⟨found, settled⟩, rfl⟩
    exact generatedShown account once ((generatedIff once ok found).mpr settled) named

theorem declaredOrLeft (once : (keys types).Nodup) (ok : ofTypes configuration types = .ok emission)
    {key : Text} {type : DataType} (found : Assoc.find? key types = some type)
    (named : type.name ≠ []) :
    type.name ∈ emission.names ∨ key ∈ emission.skipped ∨ key ∈ emission.unresolved := by
  cases own : inScope configuration type with
  | false => exact .inr (.inl (memSkipped ok (Assoc.findMember found) own))
  | true =>
    by_cases left : key ∈ emission.unresolved
    · exact .inr (.inr left)
    · exact .inl ((memNames once ok).mpr ⟨named, key, type, ⟨found, own, left⟩, rfl⟩)

end Emission

namespace ClientFunction

def returnText (operation : Operation) : Text :=
  (operation.returnType.bind (·.type)).getD []

theorem ofOperationReturns {configuration : Configuration} {types : TypeTable} {operation : Operation}
    {name : Text} {function : ClientFunction}
    (ok : ofOperation configuration types operation name = .ok function) :
    function.returnType =
      (mapping configuration).resolve configuration.unwrapped types (returnText operation) :=
  (ofOperationOk ok).2.returnType

end ClientFunction

namespace Emission

open Assoc (keys)

theorem returnedDeclared {configuration : Configuration} {types : TypeTable}
    (once : (keys types).Nodup) (lenient : configuration.cyclePolicy ≠ .error) :
    ∃ emission, ofTypes configuration types = .ok emission ∧
      ∀ operation name function,
        ClientFunction.ofOperation configuration types operation name = .ok function →
        Text.isBlank (ClientFunction.returnText operation) = false →
        ∀ key type, Mapping.Describes types (ClientFunction.returnText operation) key type →
          ¬ Mapping.Unwraps configuration.unwrapped type →
          function.returnType =
            Mapping.applied (configuration.typePrefix ++ type.name)
              (type.genericArguments.map ((ClientFunction.mapping configuration).mapText [])) ∧
          (type.name ≠ [] →
            (type.name ∈ emission.names ∨ key ∈ emission.skipped ∨ key ∈ emission.unresolved) ∧
            (type.name ∈ emission.names ↔
              ∃ other twin, Assoc.find? other types = some twin ∧ twin.name = type.name ∧
                inScope configuration twin = true ∧ other ∉ emission.unresolved)) := by
  obtain ⟨emission, ok⟩ := ofTypesTotal types lenient
  refine ⟨emission, ok, ?_⟩
  intro operation name function built visible key type describes whole
  refine ⟨?_, fun named => ⟨declaredOrLeft once ok describes.listed named, ?_⟩⟩
  · rw [ClientFunction.ofOperationReturns built]
    exact Mapping.resolveDescribes visible describes whole
  · rw [memNames once ok, and_iff_right named]
    constructor
    · rintro ⟨other, twin, ⟨found, own, resolved⟩, same⟩
      exact ⟨other, twin, found, same, own, resolved⟩
    · rintro ⟨other, twin, found, same, own, resolved⟩
      exact ⟨other, twin, ⟨found, own, resolved⟩, same⟩

def returning (type : Text) : Operation :=
  ⟨"WidgetController", some "Get", none, "widgets", [], some ⟨some type, none, none⟩, none, none⟩

theorem returningTotal (types : TypeTable) (type : Text) :
    ∃ function, ClientFunction.ofOperation shopConfiguration types (returning type) "get" =
      .ok function := by
  have writable : ClientFunction.Writable (returning type) := fun _ member =>
    absurd member List.not_mem_nil
  exact ClientFunction.ofOperationTotal.mpr writable

def returnedTypes : TypeTable :=
  [("Vendor.Thing", ⟨"Thing", some "Vendor", none, [], [], [], none, none⟩),
    ("Shop.Gone", shopType "Widget" (some "Shop.Gone")), ("Shop.Widget", shopType "Widget" none),
    ("Shop.Loop", shopType "Loop" (some "Shop.Loop"))]

theorem returnedRun :
    (ofTypes shopConfiguration returnedTypes).toOption.any (fun emission =>
      emission.names = ["Widget"].map String.toList ∧
        emission.unresolved = ["Shop.Gone", "Shop.Loop"].map String.toList) = true := by
  decide +kernel

theorem returnedDeclaredTwin :
    (keys returnedTypes).Nodup ∧ shopConfiguration.cyclePolicy ≠ .error ∧
      ∃ emission function, ofTypes shopConfiguration returnedTypes = .ok emission ∧
        ClientFunction.ofOperation shopConfiguration returnedTypes (returning "Task<Shop.Gone>")
          "get" = .ok function ∧
        function.returnType = "types.Widget" ∧ ("Widget" : Text) ∈ emission.names ∧
        ("Shop.Gone" : Text) ∈ emission.unresolved := by
  have once : (keys returnedTypes).Nodup := by decide
  have lenient : shopConfiguration.cyclePolicy ≠ .error := by decide
  obtain ⟨emission, ok, returned⟩ := returnedDeclared once lenient
  obtain ⟨same, run, found⟩ := Results.okOfAny returnedRun
  cases Except.ok.inj (ok.symm.trans run)
  obtain ⟨names, unresolved⟩ := of_decide_eq_true found
  obtain ⟨function, built⟩ := returningTotal returnedTypes "Task<Shop.Gone>"
  have read : (Mapping.stripAsync (Signature.parse "Task<Shop.Gone>")).text = "Shop.Gone" := by
    decide +kernel
  have describes : Mapping.Describes returnedTypes "Task<Shop.Gone>" "Shop.Gone"
      (shopType "Widget" (some "Shop.Gone")) :=
    read ▸ .canonical (by decide) (by rw [read]; decide)
  obtain ⟨shown, declared⟩ := returned _ _ function built (by decide) _ _ describes
    (by simp [Mapping.Unwraps, shopType])
  refine ⟨once, lenient, emission, function, ok, built, shown, ?_, by rw [unresolved]; decide⟩
  refine (declared (by decide)).2.mpr ⟨"Shop.Widget", shopType "Widget" none, by decide, rfl,
    by decide +kernel, ?_⟩
  rw [unresolved]
  decide

theorem returnedUndeclared :
    ∃ emission thing loop, ofTypes shopConfiguration returnedTypes = .ok emission ∧
      ClientFunction.ofOperation shopConfiguration returnedTypes (returning "Vendor.Thing") "get" =
        .ok thing ∧ thing.returnType = "types.Thing" ∧ ("Thing" : Text) ∉ emission.names ∧
      ClientFunction.ofOperation shopConfiguration returnedTypes (returning "Shop.Loop") "get" =
        .ok loop ∧ loop.returnType = "types.Loop" ∧ ("Loop" : Text) ∉ emission.names := by
  obtain ⟨emission, run, found⟩ := Results.okOfAny returnedRun
  obtain ⟨names, _⟩ := of_decide_eq_true found
  obtain ⟨thing, thingBuilt⟩ := returningTotal returnedTypes "Vendor.Thing"
  obtain ⟨loop, loopBuilt⟩ := returningTotal returnedTypes "Shop.Loop"
  have returned : ∀ key type function,
      ClientFunction.ofOperation shopConfiguration returnedTypes (returning key) "get" =
        .ok function → Text.isBlank key = false → Assoc.find? key returnedTypes = some type →
      function.returnType = Mapping.applied ("types." ++ type.name)
        (type.genericArguments.map ((ClientFunction.mapping shopConfiguration).mapText [])) := by
    intro key type function built visible listed
    rw [ClientFunction.ofOperationReturns built]
    exact Mapping.resolveDescribes visible (.written listed) (by simp [Mapping.Unwraps, shopConfiguration, Configuration.standard])
  refine ⟨emission, thing, loop, run, thingBuilt, ?_, ?_, loopBuilt, ?_, ?_⟩
  · exact returned _ _ thing thingBuilt (by decide) rfl
  · rw [names]
    decide
  · exact returned _ _ loop loopBuilt (by decide) rfl
  · rw [names]
    decide

end Emission

end TypedClient
