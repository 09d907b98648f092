import TypedClient.Proofs.Declaration.Imports
import TypedClient.Proofs.Emission.Written

/-!
Where the imports of the emitted declarations lead. What may be imported is settled before the run,
by the declared names, and what is emitted only after it: an import leads to a file of the emission,
or it names a type that the run had to leave.
-/

namespace TypedClient.Emission

open Assoc (keys)
open DeclarationScope (importBlock)

variable {configuration : Configuration} {types order left : TypeTable} {emission : Emission}

theorem memNamesOf {table : TypeTable} {name : Text} :
    name ∈ namesOf table ↔ name ≠ [] ∧ ∃ entry ∈ table, entry.2.name = name := by
  simp [namesOf, and_comm]

theorem accountFile (account : Account configuration types order left emission) {name : Text}
    (member : name ∈ emission.names) : fileName name ∈ keys emission.files := by
  have named : emission.names ≠ [] := List.ne_nil_of_mem member
  rw [account.files, if_neg named, Assoc.keysPut]
  have declared : fileName name ∈
      keys ((written [] order).map (declarationFile (scopeOf configuration types))) := by
    rw [account.names] at member
    obtain ⟨entry, inside, rfl⟩ := List.mem_map.mp member
    exact Assoc.keyOfMember (List.mem_map.mpr ⟨entry, inside, rfl⟩)
  split
  · exact declared
  · exact List.mem_append_left _ declared

theorem accountNamed (account : Account configuration types order left emission)
    {entry : Text × DataType} (member : entry ∈ order) (named : entry.2.name ≠ []) :
    entry.2.name ∈ emission.names := by
  rw [account.names]
  have covered : entry.2.name ∈ [] ++ (written [] order).map (·.2.name) := writtenCovers member named
  exact covered

theorem accountListed (account : Account configuration types order left emission)
    {entry : Text × DataType} (member : entry ∈ order) : entry ∈ types :=
  (memPendingTypes.mp (account.whole.mem_iff.mp (List.mem_append_left _ member))).1

def Leads (types : TypeTable) (emission : Emission) (imported : Text) : Prop :=
  fileName imported ∈ keys emission.files ∨
    (imported ∉ emission.names ∧ ∃ key ∈ emission.unresolved, ∃ omitted,
      Assoc.find? key types = some omitted ∧ omitted.name = imported)

theorem declaredLeads (account : Account configuration types order left emission)
    (once : (keys types).Nodup) {name : Text}
    (declared : name ∈ (scopeOf configuration types).declared) : Leads types emission name := by
  obtain ⟨named, entry, pending, rfl⟩ := memNamesOf.mp declared
  by_cases emitted : entry.2.name ∈ emission.names
  · exact .inl (accountFile account emitted)
  · rcases List.mem_append.mp (account.whole.mem_iff.mpr pending) with generated | omitted
    · exact absurd (accountNamed account generated named) emitted
    · refine .inr ⟨emitted, entry.1, ?_, entry.2, ?_, rfl⟩
      · rw [account.unresolved]
        exact Assoc.keyOfMember omitted
      · exact Assoc.findOfMember once (memPendingTypes.mp pending).1

/- The base was generated first, so its name was written, by its own type or by one before it. -/
theorem baseLeads (account : Account configuration types order left emission)
    (once : (keys types).Nodup) {entry : Text × DataType} (member : entry ∈ order) {name : Text}
    (imported : (scopeOf configuration types).importedBase? entry.2 = some name) :
    Leads types emission name := by
  obtain ⟨base, extended, shown⟩ := Option.bind_eq_some_iff.mp imported
  split at shown
  · contradiction
  · rename_i plain
    cases Option.some.inj shown
    obtain ⟨key, waits, found⟩ := baseFound extended
    have named : base.name ≠ [] := by
      intro nameless
      exact plain (.inl (by rw [nameless]; decide))
    have generated := traceBase account.run member waits
    rcases (memTraceGenerated account.run).mp generated with earlier | none
    · obtain ⟨type, inside⟩ := Assoc.memKeys.mp earlier
      have same := Assoc.findOfMember once (accountListed account inside)
      cases Option.some.inj (found.symm.trans same)
      exact .inl (accountFile account (accountNamed account inside named))
    · simp [start] at none

theorem writtenLeads (account : Account configuration types order left emission)
    (once : (keys types).Nodup) {entry : Text × DataType} (member : entry ∈ order) {name : Text}
    (imported : name ∈ (scopeOf configuration types).writtenImports entry.2) :
    Leads types emission name := by
  unfold DeclarationScope.writtenImports at imported
  split at imported
  · simp at imported
  · rcases DeclarationScope.memImports.mp imported with base | ⟨text, _, referred⟩
    · exact baseLeads account once member base
    · exact declaredLeads account once (DeclarationScope.memReferred.mp referred).2.1

theorem importTargets (once : (keys types).Nodup) (ok : ofTypes configuration types = .ok emission)
    {file source : Text} (listed : (file, source) ∈ emission.files) :
    (file = indexFile ∧ source = renderIndex emission.names) ∨
      ∃ key type, Assoc.find? key types = some type ∧ inScope configuration type = true ∧
        file = fileName type.name ∧
        source = Text.lines (importBlock ((scopeOf configuration types).writtenImports type) ++
          (scopeOf configuration types).body type) ++ ['\n'] ∧
        ∀ imported ∈ (scopeOf configuration types).writtenImports type,
          fileName imported ∈ keys emission.files ∨
            (configuration.cyclePolicy ≠ .error ∧ imported ∉ emission.names ∧
              ∃ other ∈ emission.unresolved, ∃ omitted,
                Assoc.find? other types = some omitted ∧ omitted.name = imported) := by
  obtain ⟨order, account⟩ := accountOfOk ok
  rw [account.files] at listed
  split at listed
  · simp at listed
  · rcases Assoc.memPut listed with index | declaration
    · exact .inl ⟨congrArg Prod.fst index, congrArg Prod.snd index⟩
    · obtain ⟨⟨key, type⟩, inside, same⟩ := List.mem_map.mp declaration
      cases same
      have member := (writtenSublist [] order).subset inside
      have pending := memPendingTypes.mp (account.whole.mem_iff.mp (List.mem_append_left _ member))
      refine .inr ⟨key, type, Assoc.findOfMember once pending.1, pending.2, rfl,
        DeclarationScope.renderEq _ _, ?_⟩
      intro imported used
      refine (writtenLeads account once member used).imp_right fun stray => ⟨?_, stray⟩
      intro strict
      obtain ⟨_, other, omitted, _⟩ := stray
      rw [ofTypesStrict ok strict] at omitted
      exact List.not_mem_nil omitted

def partTypes : TypeTable :=
  [("Shop.Whole", ⟨"Whole", some "Shop", none, [],
      [⟨"part", "Shop.Part", false, true, none, none⟩,
        ⟨"label", "Shop.Label", false, true, none, none⟩], [], none, none⟩),
    ("Shop.Part", ⟨"Part", some "Shop", some "Shop.Part", [], [], [], none, none⟩),
    ("Shop.Label", ⟨"Label", some "Shop", none, [], [], [], none, none⟩)]

def shopConfiguration : Configuration :=
  { Configuration.standard with namespacePrefix := "Shop" }

def wholeSource : Text :=
  "import \x7b Part \x7d from './Part';\nimport \x7b Label \x7d from './Label';\n\n" ++
    "export interface Whole \x7b\n  part: Part;\n  label: Label;\n\x7d\n"

theorem wholeRun :
    (ofTypes shopConfiguration partTypes).toOption.any (fun emission =>
      (("Whole.ts" : Text), wholeSource) ∈ emission.files ∧
        ("Part.ts" : Text) ∉ keys emission.files) = true := by
  decide +kernel

theorem importTargetsOfWhole :
    ∃ emission, ofTypes shopConfiguration partTypes = .ok emission ∧
      (("Whole.ts" : Text), wholeSource) ∈ emission.files ∧
      ∃ key type, Assoc.find? key partTypes = some type ∧
        inScope shopConfiguration type = true ∧ ("Whole.ts" : Text) = fileName type.name ∧
        wholeSource = Text.lines
          (importBlock ((scopeOf shopConfiguration partTypes).writtenImports type) ++
            (scopeOf shopConfiguration partTypes).body type) ++ ['\n'] ∧
        ∀ imported ∈ (scopeOf shopConfiguration partTypes).writtenImports type,
          fileName imported ∈ keys emission.files ∨
            (shopConfiguration.cyclePolicy ≠ .error ∧ imported ∉ emission.names ∧
              ∃ other ∈ emission.unresolved, ∃ omitted,
                Assoc.find? other partTypes = some omitted ∧ omitted.name = imported) := by
  obtain ⟨emission, ok, found⟩ := Results.okOfAny wholeRun
  obtain ⟨listed, _⟩ := of_decide_eq_true found
  refine ⟨emission, ok, listed, ?_⟩
  rcases importTargets (by decide) ok listed with ⟨index, _⟩ | declared
  · exact absurd index (by decide)
  · exact declared

theorem importOfOmittedType :
    ∃ emission, ofTypes shopConfiguration partTypes = .ok emission ∧
      (("Whole.ts" : Text), wholeSource) ∈ emission.files ∧
      ("Part.ts" : Text) ∉ keys emission.files := by
  obtain ⟨emission, ok, found⟩ := Results.okOfAny wholeRun
  exact ⟨emission, ok, of_decide_eq_true found⟩

end TypedClient.Emission
