import TypedClient.Generation
import TypedClient.Proofs.Collections

/-!
Operations by their controllers. The groups are a partition: each operation is in the group of its
controller and in no other one, and a group keeps the order of the operations.
-/

namespace TypedClient.ServiceScope

open Assoc (keys gather find?)

def gatherAll (table : List (Text × List Operation)) (operations : List Operation) :
    List (Text × List Operation) :=
  operations.foldl (fun groups operation => gather (controllerOf operation) operation groups) table

theorem groupsEq (operations : List Operation) : groups operations = gatherAll [] operations := rfl

@[simp] theorem gatherAllCons (table : List (Text × List Operation)) (operation : Operation)
    (rest : List Operation) :
    gatherAll table (operation :: rest) =
      gatherAll (gather (controllerOf operation) operation table) rest := rfl

theorem keysGatherAll (table : List (Text × List Operation)) (operations : List Operation) :
    keys (gatherAll table operations) = (operations.map controllerOf).foldl Text.addNew (keys table) := by
  induction operations generalizing table with
  | nil => rfl
  | cons operation rest ih =>
    rw [gatherAllCons, ih, Assoc.keysGather, List.map_cons, List.foldl_cons]

theorem keysGroups (operations : List Operation) :
    keys (groups operations) = Text.distinct (operations.map controllerOf) :=
  keysGatherAll [] operations

theorem nodupGroups (operations : List Operation) : (keys (groups operations)).Nodup := by
  rw [keysGroups]
  exact Text.nodupDistinct _

theorem findGatherAll (table : List (Text × List Operation)) (operations : List Operation)
    (controller : Text) :
    (find? controller (gatherAll table operations)).getD [] =
      (find? controller table).getD [] ++
        operations.filter (fun operation => controllerOf operation = controller) := by
  induction operations generalizing table with
  | nil => simp [gatherAll]
  | cons operation rest ih =>
    rw [gatherAllCons, ih, Assoc.findGather]
    by_cases same : controllerOf operation = controller <;> simp [same]

theorem groupMembers {operations : List Operation} {group : Text × List Operation}
    (member : group ∈ groups operations) :
    group.2 = operations.filter (fun operation => controllerOf operation = group.1) := by
  have found := Assoc.findOfMember (nodupGroups operations) member
  have whole := findGatherAll [] operations group.1
  rw [← groupsEq, found] at whole
  simpa [find?] using whole

theorem gatherAllPerm (table : List (Text × List Operation)) (operations : List Operation) :
    ((gatherAll table operations).flatMap Prod.snd).Perm (table.flatMap Prod.snd ++ operations) := by
  induction operations generalizing table with
  | nil => simp [gatherAll]
  | cons operation rest ih =>
    have step := (Assoc.gatherPerm table (controllerOf operation) operation).append_right rest
    rw [List.append_assoc] at step
    exact (ih _).trans step

theorem groupsPerm (operations : List Operation) :
    ((groups operations).flatMap Prod.snd).Perm operations :=
  gatherAllPerm [] operations

theorem memGroups {operations : List Operation} {controller : Text} :
    controller ∈ keys (groups operations) ↔
      ∃ operation ∈ operations, controllerOf operation = controller := by
  rw [keysGroups, Text.memDistinct, List.mem_map]

structure Partition (operations : List Operation) (parts : List (Text × List Operation)) : Prop where
  once : (keys parts).Nodup
  whole : (parts.flatMap Prod.snd).Perm operations
  members : ∀ part ∈ parts,
    part.2 = operations.filter (fun operation => controllerOf operation = part.1)

theorem groupsPartition (operations : List Operation) : Partition operations (groups operations) :=
  ⟨nodupGroups operations, groupsPerm operations, fun _ => groupMembers⟩

def ownOperations (operations : List Operation) (controller : Text) : List Operation :=
  operations.filter fun operation => controllerOf operation = controller

theorem groupsTable (operations : List Operation) :
    groups operations = (Text.distinct (operations.map controllerOf)).map fun controller =>
      (controller, ownOperations operations controller) := by
  rw [← keysGroups]
  exact Assoc.tableOfKeys fun _ => groupMembers

def selected (inside : Text → Bool) (operations : List Operation) : List Operation :=
  operations.filter fun operation => inside (controllerOf operation)

theorem groupsSelected (inside : Text → Bool) (operations : List Operation) :
    groups (selected inside operations) =
      (groups operations).filter fun group => inside group.1 := by
  have own : ∀ controller, inside controller = true →
      ownOperations (selected inside operations) controller = ownOperations operations controller := by
    intro controller member
    rw [ownOperations, selected, List.filter_filter]
    refine List.filter_congr fun operation _ => ?_
    by_cases same : controllerOf operation = controller <;> simp [same, member]
  have controllers : (selected inside operations).map controllerOf =
      (operations.map controllerOf).filter inside := by
    rw [List.filter_map]
    rfl
  rw [groupsTable, groupsTable, controllers, ← Text.filterDistinct, List.filter_map]
  refine List.map_congr_left fun controller member => ?_
  rw [own controller (List.mem_filter.mp member).2]

def SameWithin (first second : List Operation) : Prop :=
  ∀ controller, ownOperations first controller = ownOperations second controller

theorem memControllers {operations : List Operation} {controller : Text} :
    controller ∈ operations.map controllerOf ↔ ownOperations operations controller ≠ [] := by
  simp [ownOperations]

theorem groupsReordered {first second : List Operation} (same : SameWithin first second) :
    (groups first).Perm (groups second) := by
  have controllers : (Text.distinct (first.map controllerOf)).Perm
      (Text.distinct (second.map controllerOf)) := by
    refine (List.perm_ext_iff_of_nodup (Text.nodupDistinct _) (Text.nodupDistinct _)).mpr ?_
    intro controller
    rw [Text.memDistinct, Text.memDistinct, memControllers, memControllers, same controller]
  rw [groupsTable, groupsTable, funext same]
  exact controllers.map _

end TypedClient.ServiceScope
