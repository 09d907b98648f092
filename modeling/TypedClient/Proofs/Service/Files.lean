import TypedClient.Proofs.Emission.Written
import TypedClient.Proofs.Service.Functions
import TypedClient.Proofs.Service.Groups
import TypedClient.Proofs.Template.Standard

/-!
The files of the services. Each group is built and printed by itself; what the run keeps of it is
one writing, under the name of its service. Groups whose services have one name share one file, and
it holds the last of them.
-/

namespace TypedClient.ServiceScope

open Assoc (keys)
open Emission (fileName)

variable {scope : ServiceScope} {operations : List Operation} {service : Service}

theorem renderOk {source : Text} :
    scope.render service = .ok source ↔ Template.render scope.template.parts service = some source := by
  unfold render
  cases Template.render scope.template.parts service <;> simp

/- A file for a group: it is the print of a service that has one function for each operation. -/
structure Holds (scope : ServiceScope) (group : Text × List Operation) (file : Text × Text)
    (service : Service) : Prop where
  built : (scope.build group.1 group.2).2 = .ok service
  printed : Template.render scope.template.parts service = some file.2
  calls : List.Forall₂ (Calls scope) group.2 service.functions
  named : file.1 = fileName (serviceName group.1)

def Written (scope : ServiceScope) (group : Text × List Operation) (file : Text × Text) : Prop :=
  ∃ service, Holds scope group file service

theorem writtenKeys {groups : List (Text × List Operation)} {written : FileTable}
    (each : List.Forall₂ (Written scope) groups written) :
    keys written = groups.map fun group => fileName (serviceName group.1) := by
  induction each with
  | nil => rfl
  | cons first _ ih =>
    obtain ⟨service, holds⟩ := first
    rw [Assoc.keysCons, ih, List.map_cons, holds.named]

theorem generateGroupsOf {groups : List (Text × List Operation)} {written : FileTable}
    (each : List.Forall₂ (Written scope) groups written) (files : FileTable) :
    (scope.generateGroups files groups).2 = .ok (Assoc.putAll files written) := by
  induction each generalizing files with
  | nil => rfl
  | @cons group file rest others first _ ih =>
    obtain ⟨controller, operations⟩ := group
    obtain ⟨service, holds⟩ := first
    have named := (buildCalls holds.built).1
    rw [Assoc.putAllCons, ← ih, generateGroups]
    simp only [holds.built, Except.bind, renderOk.mpr holds.printed, Except.map, named, holds.named]

theorem generateGroupsOk {groups : List (Text × List Operation)} {files result : FileTable}
    (ok : (scope.generateGroups files groups).2 = .ok result) :
    ∃ written, List.Forall₂ (Written scope) groups written ∧ result = Assoc.putAll files written := by
  induction groups generalizing files with
  | nil =>
    cases Except.ok.inj ok
    exact ⟨[], .nil, rfl⟩
  | cons group rest ih =>
    obtain ⟨controller, operations⟩ := group
    rw [generateGroups] at ok
    dsimp only at ok
    cases built : (scope.build controller operations).2 with
    | error fault => simp [built, Except.bind] at ok
    | ok service =>
      cases printed : scope.render service with
      | error fault => simp [built, printed, Except.bind, Except.map] at ok
      | ok source =>
        simp only [built, printed, Except.bind, Except.map] at ok
        obtain ⟨others, each, same⟩ := ih ok
        have calls := buildCalls built
        exact ⟨(fileName service.name, source) :: others,
          .cons ⟨service, built, renderOk.mp printed, calls.2, by rw [calls.1]⟩ each, same⟩

theorem generateOk {files : FileTable} (ok : (scope.generate operations).2 = .ok files) :
    ∃ written, List.Forall₂ (Written scope) (groups operations) written ∧
      files = Assoc.ofList written :=
  generateGroupsOk ok

theorem generateTotal :
    (∃ files, (scope.generate operations).2 = .ok files) ↔
      ∀ group ∈ groups operations, ∃ file, Written scope group file := by
  rw [← Results.eachExists]
  constructor
  · rintro ⟨files, ok⟩
    obtain ⟨written, each, _⟩ := generateOk ok
    exact ⟨written, each⟩
  · rintro ⟨written, each⟩
    exact ⟨_, generateGroupsOf each []⟩

theorem generateStandardTotal (standard : scope.template.parts = Template.standard) :
    (∃ files, (scope.generate operations).2 = .ok files) ↔
      ∀ operation ∈ operations, ClientFunction.Writable operation := by
  have single : ∀ group, (∃ file, Written scope group file) ↔
      ∀ operation ∈ group.2, ClientFunction.Writable operation := by
    intro group
    rw [← buildTotal scope group.1]
    constructor
    · rintro ⟨file, service, holds⟩
      exact ⟨service, holds.built⟩
    · rintro ⟨service, built⟩
      have printed := Template.standardRendered service
      rw [← standard] at printed
      exact ⟨(fileName (serviceName group.1), Template.moduleText service), service, built, printed,
        (buildCalls built).2, rfl⟩
  rw [generateTotal]
  simp only [single]
  have members : ∀ operation, operation ∈ operations ↔
      operation ∈ (groups operations).flatMap Prod.snd := fun operation =>
    (groupsPerm operations).mem_iff.symm
  simp only [members, List.mem_flatMap]
  constructor
  · rintro all operation ⟨group, member, inside⟩
    exact all group member operation inside
  · intro all group member operation inside
    exact all operation ⟨group, member, inside⟩

def NamesApart (operations : List Operation) : Prop :=
  ∀ first ∈ operations, ∀ second ∈ operations,
    serviceName (controllerOf first) = serviceName (controllerOf second) →
      controllerOf first = controllerOf second

theorem namesApartIff :
    NamesApart operations ↔
      ((groups operations).map fun group => fileName (serviceName group.1)).Nodup := by
  have composed : ((groups operations).map fun group => fileName (serviceName group.1)) =
      (keys (groups operations)).map fun controller => fileName (serviceName controller) := by
    simp [keys]
  rw [composed]
  constructor
  · intro apart
    refine (nodupGroups operations).map_on ?_
    intro first firstMember second secondMember same
    obtain ⟨one, here, rfl⟩ := memGroups.mp firstMember
    obtain ⟨other, there, rfl⟩ := memGroups.mp secondMember
    exact apart one here other there (Emission.fileNameInjective same)
  · intro once first here second there same
    exact List.inj_on_of_nodup_map once (memGroups.mpr ⟨first, here, rfl⟩)
      (memGroups.mpr ⟨second, there, rfl⟩) (congrArg fileName same)

theorem filePerGroupIff (scope : ServiceScope) (operations : List Operation) :
    Partition operations (groups operations) ∧
    ((∃ files, (scope.generate operations).2 = .ok files) ↔
      ∀ group ∈ groups operations, ∃ file, Written scope group file) ∧
    (scope.template.parts = Template.standard →
      ((∃ files, (scope.generate operations).2 = .ok files) ↔
        ∀ operation ∈ operations, ClientFunction.Writable operation)) ∧
    ∀ files, (scope.generate operations).2 = .ok files →
      keys files =
        Text.distinct ((groups operations).map fun group => fileName (serviceName group.1)) ∧
      (∀ file ∈ files, ∃ before group after, groups operations = before ++ group :: after ∧
        Written scope group file ∧
        ∀ later ∈ after, fileName (serviceName later.1) ≠ file.1) ∧
      (List.Forall₂ (Written scope) (groups operations) files ↔ NamesApart operations) := by
  refine ⟨groupsPartition operations, generateTotal, generateStandardTotal, ?_⟩
  intro files ok
  obtain ⟨written, each, rfl⟩ := generateOk ok
  refine ⟨by rw [Assoc.keysOfList, writtenKeys each], ?_, ?_, ?_⟩
  · rintro ⟨name, source⟩ member
    obtain ⟨before, after, rfl, fresh⟩ := Assoc.ofListMember member
    obtain ⟨first, group, last, split, here, later⟩ := Results.eachSplit each
    refine ⟨first, group, last, split, here, ?_⟩
    intro other inside same
    rw [writtenKeys later] at fresh
    exact fresh (List.mem_map.mpr ⟨other, inside, same⟩)
  · intro whole
    rw [namesApartIff, ← writtenKeys whole]
    exact Assoc.nodupOfList written
  · intro apart
    rw [namesApartIff, ← writtenKeys each] at apart
    rwa [Assoc.ofListOfNodup apart]

def plainScope : ServiceScope :=
  ⟨.standard, .standard, []⟩

def plainOperation (controller action : Text) : Operation :=
  ⟨controller, some action, none, "widgets",
    [⟨"count", "System.Int32", "query", true, some (.scalar (.int 10)), none⟩], none, none, none⟩

theorem plainWritable (controller action : Text) :
    ClientFunction.Writable (plainOperation controller action) := by
  intro parameter member
  cases List.mem_singleton.mp member
  exact ⟨"10", rfl⟩

def apartOperations : List Operation :=
  [plainOperation "WidgetController" "Get", plainOperation "" "Get",
    plainOperation "WidgetController" "List"]

theorem filePerGroupOfApart :
    ∃ files, (plainScope.generate apartOperations).2 = .ok files ∧
      keys files = ["WidgetService.ts", "DefaultService.ts"] ∧
      List.Forall₂ (Written plainScope) (groups apartOperations) files := by
  obtain ⟨_, _, total, run⟩ := filePerGroupIff plainScope apartOperations
  have writable : ∀ operation ∈ apartOperations, ClientFunction.Writable operation := by
    simp [apartOperations, plainWritable]
  obtain ⟨files, ok⟩ := (total rfl).mpr writable
  obtain ⟨names, _, whole⟩ := run files ok
  have apart : NamesApart apartOperations := by
    unfold NamesApart
    decide +kernel
  exact ⟨files, ok, names.trans (by decide +kernel), whole.mpr apart⟩

def sharedOperations : List Operation :=
  [plainOperation "Widget" "Get", plainOperation "WidgetController" "List"]

theorem fileOfTwoControllers :
    ∃ files, (plainScope.generate sharedOperations).2 = .ok files ∧
      keys (groups sharedOperations) = ["Widget", "WidgetController"] ∧
      keys files = ["WidgetService.ts"] ∧
      ¬ List.Forall₂ (Written plainScope) (groups sharedOperations) files := by
  have run : (plainScope.generate sharedOperations).2.toOption.any (fun files =>
      keys files = [("WidgetService.ts" : Text)]) = true := by decide +kernel
  obtain ⟨files, ok, found⟩ := Results.okOfAny run
  have names := of_decide_eq_true found
  refine ⟨files, ok, by decide +kernel, names, ?_⟩
  intro whole
  have long := whole.length_eq
  rw [show files.length = (keys files).length from (List.length_map _).symm, names] at long
  exact absurd long (by decide +kernel)

end TypedClient.ServiceScope
