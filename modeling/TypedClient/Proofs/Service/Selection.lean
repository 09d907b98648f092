import Mathlib.Data.List.Perm.Basic
import TypedClient.Proofs.Service.Files

/-!
Services apart from one another. A run builds its groups one by one and keeps nothing between them,
so a run over some of the controllers gives their part of the whole run, and only the order of the
operations of one controller shows in its file.
-/

namespace TypedClient.ServiceScope

open Assoc (keys)
open Emission (fileName)

variable {scope : ServiceScope} {operations reordered : List Operation} {inside : Text → Bool}

def attributed (scope : ServiceScope) (groups : List (Text × List Operation)) : List (Text × Text) :=
  groups.flatMap fun group => (scope.build group.1 group.2).1.map fun message => (group.1, message)

theorem attributedSelected (scope : ServiceScope) (inside : Text → Bool)
    (groups : List (Text × List Operation)) :
    scope.attributed (groups.filter fun group => inside group.1) =
      (scope.attributed groups).filter fun message => inside message.1 := by
  induction groups with
  | nil => rfl
  | cons group rest ih =>
    have others : scope.attributed (group :: rest) =
        (scope.build group.1 group.2).1.map (fun message => (group.1, message)) ++
          scope.attributed rest := List.flatMap_cons
    rw [others, List.filter_append, ← ih, List.filter_map]
    cases kept : inside group.1 <;> simp [kept, attributed, Function.comp_def]

theorem attributedMessage {groups : List (Text × List Operation)} {message : Text × Text}
    (member : message ∈ scope.attributed groups) :
    message.1 ∈ keys groups ∧ ∃ before after, before ≠ after ∧
      message.2 = renameMessage (serviceName message.1) before after := by
  obtain ⟨group, listed, here⟩ := List.mem_flatMap.mp member
  obtain ⟨text, told, rfl⟩ := List.mem_map.mp here
  refine ⟨Assoc.keyOfMember listed, ?_⟩
  obtain ⟨⟨before, after⟩, _, named⟩ := List.mem_filterMap.mp told
  dsimp only at named
  split at named
  · contradiction
  · rename_i different
    exact ⟨before, after, different, (Option.some.inj named).symm⟩

theorem generateGroupsMessages {groups : List (Text × List Operation)} {written : FileTable}
    (each : List.Forall₂ (Written scope) groups written) (files : FileTable) :
    (scope.generateGroups files groups).1 = (scope.attributed groups).map Prod.snd := by
  induction each generalizing files with
  | nil => rfl
  | @cons group file rest others first _ ih =>
    obtain ⟨controller, operations⟩ := group
    obtain ⟨service, holds⟩ := first
    have tail : ∀ files, (scope.generateGroups files rest).1 =
        (scope.attributed rest).map Prod.snd := ih
    rw [generateGroups]
    simp only [holds.built, Except.bind, renderOk.mpr holds.printed, Except.map, tail, attributed,
      List.flatMap_cons, List.map_append, List.map_map, Function.comp_def, List.map_id']

theorem generateApart {written : FileTable} (apart : NamesApart operations)
    (each : List.Forall₂ (Written scope) (groups operations) written) :
    scope.generate operations =
      ((scope.attributed (groups operations)).map Prod.snd, .ok written) := by
  rw [namesApartIff, ← writtenKeys each] at apart
  refine Prod.ext (generateGroupsMessages each []) ?_
  rw [generate, generateGroupsOf each [], ← Assoc.ofListEq, Assoc.ofListOfNodup apart]

theorem generateWritten {files : FileTable} (apart : NamesApart operations)
    (ok : (scope.generate operations).2 = .ok files) :
    List.Forall₂ (Written scope) (groups operations) files := by
  obtain ⟨written, each, _⟩ := generateOk ok
  have whole := generateApart apart each
  rw [whole] at ok
  cases Except.ok.inj ok
  exact each

def fileWithin (inside : Text → Bool) (operations : List Operation) (file : Text × Text) : Bool :=
  operations.any fun operation =>
    inside (controllerOf operation) && file.1 == fileName (serviceName (controllerOf operation))

theorem fileWithinIff (apart : NamesApart operations) {group : Text × List Operation}
    (member : group ∈ groups operations) {file : Text × Text} (written : Written scope group file) :
    inside group.1 = true ↔ fileWithin inside operations file = true := by
  obtain ⟨service, holds⟩ := written
  obtain ⟨own, listed, same⟩ := memGroups.mp (Assoc.keyOfMember member)
  simp only [fileWithin, List.any_eq_true, Bool.and_eq_true, beq_iff_eq, holds.named]
  constructor
  · intro kept
    exact ⟨own, listed, same ▸ kept, by rw [same]⟩
  · rintro ⟨operation, there, kept, shared⟩
    have one := apart operation there own listed
      (by rw [same]; exact (Emission.fileNameInjective shared).symm)
    rwa [one, same] at kept

theorem selectedApart (apart : NamesApart operations) (inside : Text → Bool) :
    NamesApart (selected inside operations) := by
  intro first here second there
  exact apart first (List.mem_filter.mp here).1 second (List.mem_filter.mp there).1

theorem generateSelected {files : FileTable} (apart : NamesApart operations)
    (each : List.Forall₂ (Written scope) (groups operations) files) :
    scope.generate (selected inside operations) =
      (((scope.attributed (groups operations)).filter fun message => inside message.1).map Prod.snd,
        .ok (files.filter (fileWithin inside operations))) := by
  have parts : List.Forall₂ (fun group file => group ∈ groups operations ∧ Written scope group file)
      ((groups operations).filter fun group => inside group.1)
      (files.filter (fileWithin inside operations)) :=
    List.rel_filter (fun _ _ ⟨member, written⟩ => fileWithinIff apart member written)
      (Results.eachWithin each)
  have written : List.Forall₂ (Written scope) (groups (selected inside operations))
      (files.filter (fileWithin inside operations)) := by
    rw [groupsSelected]
    exact parts.imp fun _ _ => And.right
  rw [generateApart (selectedApart apart inside) written, groupsSelected, attributedSelected]

theorem generateReordered {files : FileTable} (apart : NamesApart operations)
    (each : List.Forall₂ (Written scope) (groups operations) files)
    (same : SameWithin reordered operations) :
    ∃ others, (scope.generate reordered).2 = .ok others ∧
      ∀ name, Assoc.find? name others = Assoc.find? name files := by
  obtain ⟨others, written, exchanged⟩ := List.perm_comp_forall₂ (groupsReordered same) each
  have once := namesApartIff.mp apart
  rw [← writtenKeys each] at once
  have single : (keys others).Nodup := (exchanged.map Prod.fst).nodup_iff.mpr once
  refine ⟨others, ?_, Assoc.findPerm single exchanged⟩
  rw [generate, generateGroupsOf written [], ← Assoc.ofListEq, Assoc.ofListOfNodup single]

/- Only a group of its own keeps a run from its end. -/
theorem generateSelectedTotal (scope : ServiceScope) (inside : Text → Bool)
    (operations : List Operation) :
    (∃ files, (scope.generate (selected inside operations)).2 = .ok files) ↔
      ∀ group ∈ groups operations, inside group.1 = true → ∃ file, Written scope group file := by
  rw [generateTotal, groupsSelected]
  simp only [List.mem_filter, and_imp]

theorem sameWithinSwap {first second : Operation}
    (different : controllerOf first ≠ controllerOf second) (before after : List Operation) :
    SameWithin (before ++ first :: second :: after) (before ++ second :: first :: after) := by
  intro controller
  simp only [ownOperations, List.filter_append, List.filter_cons]
  by_cases own : controllerOf first = controller
  · have other : controllerOf second ≠ controller := fun same => different (own.trans same.symm)
    simp [own, other]
  · simp [own]

theorem servicesIndependent (scope : ServiceScope) (apart : NamesApart operations) :
    (∀ inside : Text → Bool,
      (∃ files, (scope.generate (selected inside operations)).2 = .ok files) ↔
        ∀ group ∈ groups operations, inside group.1 = true → ∃ file, Written scope group file) ∧
    (∀ message ∈ scope.attributed (groups operations),
      message.1 ∈ keys (groups operations) ∧ ∃ before after, before ≠ after ∧
        message.2 = renameMessage (serviceName message.1) before after) ∧
    ∀ files, (scope.generate operations).2 = .ok files →
      (scope.generate operations).1 = (scope.attributed (groups operations)).map Prod.snd ∧
      (∀ inside : Text → Bool, scope.generate (selected inside operations) =
        (((scope.attributed (groups operations)).filter fun message => inside message.1).map
          Prod.snd, .ok (files.filter (fileWithin inside operations)))) ∧
      ∀ reordered, SameWithin reordered operations →
        ∃ others, (scope.generate reordered).2 = .ok others ∧
          ∀ name, Assoc.find? name others = Assoc.find? name files := by
  refine ⟨fun inside => generateSelectedTotal scope inside operations,
    fun _ => attributedMessage, ?_⟩
  intro files ok
  have each := generateWritten apart ok
  exact ⟨generateGroupsMessages each [], fun _ => generateSelected apart each,
    fun _ => generateReordered apart each⟩

def widgetOperations : List Operation :=
  [plainOperation "WidgetController" "Get", plainOperation "OrderController" "Get",
    plainOperation "WidgetController" "GetAsync"]

def ofOrders (controller : Text) : Bool :=
  controller == "OrderController"

theorem servicesIndependentOrders :
    NamesApart widgetOperations ∧
    ∃ files others, (plainScope.generate widgetOperations).2 = .ok files ∧
      (plainScope.generate widgetOperations).1 =
        ["WidgetService: duplicate function name 'get' renamed to 'get2'"] ∧
      plainScope.generate (selected ofOrders widgetOperations) =
        ([], .ok (files.filter (fileWithin ofOrders widgetOperations))) ∧
      (plainScope.generate [plainOperation "OrderController" "Get",
        plainOperation "WidgetController" "Get", plainOperation "WidgetController" "GetAsync"]).2 =
          .ok others ∧
      ∀ name, Assoc.find? name others = Assoc.find? name files := by
  have apart : NamesApart widgetOperations := by
    unfold NamesApart
    decide +kernel
  have writable : ∀ operation ∈ widgetOperations, ClientFunction.Writable operation := by
    simp [widgetOperations, plainWritable]
  have standard : plainScope.template.parts = Template.standard := rfl
  obtain ⟨files, ok⟩ := (generateStandardTotal standard).mpr writable
  obtain ⟨_, _, run⟩ := servicesIndependent plainScope apart
  obtain ⟨messages, selection, order⟩ := run files ok
  have swapped := sameWithinSwap (by decide : controllerOf (plainOperation "OrderController" "Get") ≠
    controllerOf (plainOperation "WidgetController" "Get")) [] [plainOperation "WidgetController" "GetAsync"]
  obtain ⟨others, done, same⟩ := order _ swapped
  refine ⟨apart, files, others, ok, messages.trans (by decide +kernel), ?_, done, same⟩
  rw [selection ofOrders]
  have silent : ((plainScope.attributed (groups widgetOperations)).filter fun message =>
      ofOrders message.1).map Prod.snd = [] := by decide +kernel
  rw [silent]

end TypedClient.ServiceScope
