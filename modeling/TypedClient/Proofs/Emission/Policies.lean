import TypedClient.Generation
import TypedClient.Proofs.Emission.Order

/-!
The cycle policy. A run has settled which types it generates and which it leaves before it asks for
the policy, and neither a declaration nor a service asks for it. So all policies share one run: to
ignore what is left is to return the emission, to warn is to add a message to it, and an error takes
its place only where a type is left.
-/

namespace TypedClient

def Configuration.under (configuration : Configuration) (policy : CyclePolicy) : Configuration :=
  { configuration with cyclePolicy := policy }

namespace Emission

open Assoc (keys)

/- A run asks its scope for the bases and for the declarations, and for nothing else. -/
structure RunsAlike (first second : DeclarationScope) : Prop where
  types : first.types = second.types
  rendered : ∀ type, first.render type = second.render type

variable {first second : DeclarationScope}

theorem generateAlike (alike : RunsAlike first second) (progress : Progress) (key : Text)
    (type : DataType) : generate first progress key type = generate second progress key type := by
  simp only [generate, record, alike.rendered]

theorem passAlike (alike : RunsAlike first second) (pending : TypeTable) (progress : Progress) :
    pass first pending progress = pass second pending progress := by
  induction pending generalizing progress with
  | nil => rfl
  | cons entry rest ih =>
    obtain ⟨key, type⟩ := entry
    simp only [pass, alike.types, generateAlike alike, ih]

theorem passesAlike (alike : RunsAlike first second) (pending : TypeTable) (progress : Progress) :
    passes first pending progress = passes second pending progress := by
  fun_induction passes first pending progress with
  | case1 pending progress shorter ih =>
    rw [ih, passes.eq_def second pending, ← passAlike alike, if_pos shorter]
  | case2 pending progress stalled =>
    rw [passes.eq_def second pending, ← passAlike alike, if_neg stalled]

variable (configuration : Configuration) (policy : CyclePolicy) (types : TypeTable)

theorem runsUnder : RunsAlike (scopeOf (configuration.under policy) types) (scopeOf configuration types) where
  types := rfl
  rendered := fun _ => rfl

theorem settledUnder :
    settled (configuration.under policy) types = settled configuration types :=
  passesAlike (runsUnder configuration policy types) _ _

def silentRun : Emission :=
  addIndex { (settled configuration types).2.emission with
    unresolved := keys (settled configuration types).1 }

theorem silentLeft :
    (silentRun configuration types).unresolved = keys (settled configuration types).1 := by
  rw [silentRun, addIndexEq]

theorem ofTypesUnder :
    ofTypes (configuration.under policy) types =
      if (silentRun configuration types).unresolved = [] then .ok (silentRun configuration types)
      else match policy with
        | .error => .error (silentRun configuration types).unresolved
        | .ignore => .ok (silentRun configuration types)
        | .warn => .ok { silentRun configuration types with
            diagnostics := [unresolvedMessage (configuration.under .warn) types
              (silentRun configuration types).unresolved] } := by
  rw [ofTypesEq, settledUnder, reportUnresolved, silentLeft]
  by_cases none : keys (settled configuration types).1 = []
  · have clean := settledUnresolved configuration types
    rw [if_pos (List.isEmpty_iff.mpr none), if_pos none, silentRun, none, ← clean]
    rfl
  · rw [if_neg (mt List.isEmpty_iff.mp none), if_neg none]
    cases policy with
    | error => rfl
    | ignore => rfl
    | warn =>
      have quiet := settledSilent configuration types
      change Except.ok (addIndex _) = _
      rw [addIndexEq, silentRun, addIndexEq, quiet, List.nil_append]

end Emission

namespace ServiceScope

variable (configuration : Configuration) (policy : CyclePolicy) (template : NamedTemplate)
  (types : TypeTable)

theorem buildUnder (controller : Text) (operations : List Operation) :
    build ⟨configuration.under policy, template, types⟩ controller operations =
      build ⟨configuration, template, types⟩ controller operations := rfl

theorem generateGroupsUnder (groups : List (Text × List Operation)) (files : FileTable) :
    generateGroups ⟨configuration.under policy, template, types⟩ files groups =
      generateGroups ⟨configuration, template, types⟩ files groups := by
  induction groups generalizing files with
  | nil => rfl
  | cons group rest ih =>
    obtain ⟨controller, operations⟩ := group
    simp only [generateGroups, buildUnder, ih]
    rfl

end ServiceScope

namespace Generation

def servicesAfter (configuration : Configuration) (template : Except GenerationFault NamedTemplate)
    (description : Description) (emission : Emission) : Except GenerationFault Generation := do
  let template ← template
  let scope : ServiceScope := ⟨configuration, template, description.types⟩
  let (messages, services) := scope.generate description.operations
  return ⟨emission.files, ← services, emission.diagnostics ++ messages⟩

theorem servicesUnder (configuration : Configuration) (policy : CyclePolicy)
    (template : Except GenerationFault NamedTemplate) (description : Description) :
    servicesAfter (configuration.under policy) template description =
      servicesAfter configuration template description := by
  funext emission
  cases template with
  | error => rfl
  | ok template => simp only [servicesAfter, ServiceScope.generate, ServiceScope.generateGroupsUnder]

theorem ofDescriptionEq (configuration : Configuration)
    (template : Except GenerationFault NamedTemplate) (description : Description) :
    ofDescription configuration template description =
      (emitTypes configuration description.types).bind
        (servicesAfter configuration template description) := rfl

end Generation

namespace Emission

variable (configuration : Configuration) (types : TypeTable)

theorem strictGeneration (template : Except GenerationFault NamedTemplate)
    (operations : List Operation) :
    Generation.ofDescription (configuration.under .error) template ⟨operations, types⟩ =
      if (silentRun configuration types).unresolved = [] then
        Generation.ofDescription (configuration.under .ignore) template ⟨operations, types⟩
      else .error (.unresolvedTypes (silentRun configuration types).unresolved) := by
  simp only [Generation.ofDescriptionEq, Generation.emitTypes, ofTypesUnder, Generation.servicesUnder]
  split
  · rfl
  · rfl

theorem warnedRun :
    ∃ diagnostics, ofTypes (configuration.under .warn) types =
      .ok { silentRun configuration types with diagnostics } := by
  rw [ofTypesUnder]
  split
  · exact ⟨_, rfl⟩
  · exact ⟨_, rfl⟩

theorem policyReportsOnly :
    ∃ silent warned : Emission,
      ofTypes (configuration.under .ignore) types = .ok silent ∧
      ofTypes (configuration.under .warn) types = .ok warned ∧
      warned.files = silent.files ∧ warned.names = silent.names ∧
      warned.unresolved = silent.unresolved ∧ warned.skipped = silent.skipped ∧
      warned.duplicates = silent.duplicates ∧
      ofTypes (configuration.under .error) types =
        (if silent.unresolved = [] then .ok silent else .error silent.unresolved) ∧
      ∀ template operations,
        Generation.ofDescription (configuration.under .error) template ⟨operations, types⟩ =
          if silent.unresolved = [] then
            Generation.ofDescription (configuration.under .ignore) template ⟨operations, types⟩
          else .error (.unresolvedTypes silent.unresolved) := by
  obtain ⟨diagnostics, warned⟩ := warnedRun configuration types
  refine ⟨silentRun configuration types, _, ?_, warned, rfl, rfl, rfl, rfl, rfl, ?_, ?_⟩
  · rw [ofTypesUnder]
    exact ite_self _
  · exact ofTypesUnder configuration .error types
  · exact strictGeneration configuration types

end Emission

end TypedClient
