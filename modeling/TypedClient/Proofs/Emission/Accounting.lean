import Mathlib.Data.List.Pairwise
import TypedClient.Proofs.Emission.BaseWalk
import TypedClient.Proofs.Emission.ImportTargets

/-!
Where each type of a table ends. It is outside the namespace, or it is left because of its base, or
it is generated; and of the generated types one is declared for each display name, the others are
duplicates or have no name.
-/

namespace TypedClient.Emission

open Assoc (keys)

variable {configuration : Configuration} {types order left : TypeTable} {emission : Emission}

def unnamed (entry : Text × DataType) : Bool :=
  entry.2.name.isEmpty

theorem orderParts (seen : List Text) (order : TypeTable) :
    (repeated seen order ++ (written seen order ++ order.filter unnamed)).Perm order := by
  induction order generalizing seen with
  | nil => exact .refl []
  | cons entry rest ih =>
    obtain ⟨key, type⟩ := entry
    by_cases nameless : type.name = []
    · have back : (repeated seen rest ++ written seen rest ++ (key, type) :: rest.filter unnamed).Perm
          ((key, type) :: (repeated seen rest ++ written seen rest ++ rest.filter unnamed)) :=
        List.perm_middle
      simp only [List.append_assoc] at back
      simpa [repeated, written, nameless, unnamed] using back.trans ((ih seen).cons _)
    · by_cases known : type.name ∈ seen
      · simpa [repeated, written, nameless, known, unnamed] using (ih seen).cons (key, type)
      · simpa [repeated, written, nameless, known, unnamed] using
          List.perm_middle.trans ((ih (seen ++ [type.name])).cons (key, type))

theorem nodupWritten {seen : List Text} (once : seen.Nodup) (order : TypeTable) :
    (seen ++ (written seen order).map (·.2.name)).Nodup := by
  induction order generalizing seen with
  | nil => simpa [written] using once
  | cons entry rest ih =>
    obtain ⟨key, type⟩ := entry
    simp only [written]
    split
    · exact ih once
    · rename_i new
      have fresh : type.name ∉ seen := fun old => new (.inr old)
      have longer := ih (List.concat_eq_append ▸ once.concat fresh)
      rwa [List.append_assoc] at longer

def generatedTypes (configuration : Configuration) (types : TypeTable) : TypeTable :=
  Assoc.pick (settled configuration types).2.generated.reverse types

def declaredTypes (configuration : Configuration) (types : TypeTable) : TypeTable :=
  written [] (generatedTypes configuration types)

def namelessTypes (configuration : Configuration) (types : TypeTable) : TypeTable :=
  (generatedTypes configuration types).filter unnamed

theorem memGenerated {entry : Text × DataType} :
    entry ∈ generatedTypes configuration types ↔
      entry.1 ∈ (settled configuration types).2.generated ∧
        Assoc.find? entry.1 types = some entry.2 := by
  simp [generatedTypes, Assoc.memPick]

theorem generatedOrder (once : (keys types).Nodup)
    (run : Trace (scopeOf configuration types) (start configuration types) order
      (settled configuration types).2)
    (listed : ∀ entry ∈ order, entry ∈ types) : generatedTypes configuration types = order := by
  have known : ∀ entry ∈ order, Assoc.find? entry.1 types = some entry.2 := fun entry member =>
    Assoc.findOfMember once (listed entry member)
  have generated : (settled configuration types).2.generated.reverse = keys order := by
    rw [traceGenerated run]
    simp [start]
  rw [generatedTypes, generated, Assoc.pickKeys known]

theorem generatedWhole (configuration : Configuration) (once : (keys types).Nodup) :
    (generatedTypes configuration types ++ (settled configuration types).1).Perm
      (pendingTypes configuration types) := by
  obtain ⟨order, run, whole⟩ := (settledOutcome configuration types).split
  rwa [generatedOrder once run fun entry member =>
    (memPendingTypes.mp (whole.mem_iff.mp (List.mem_append_left _ member))).1]

theorem accountOrder (account : Account configuration types order left emission)
    (once : (keys types).Nodup) : generatedTypes configuration types = order :=
  generatedOrder once account.run fun _ => accountListed account

theorem accountDeclared (account : Account configuration types order left emission)
    (once : (keys types).Nodup) : declaredTypes configuration types = written [] order := by
  rw [declaredTypes, accountOrder account once]

theorem nodupDeclared (configuration : Configuration) (types : TypeTable) :
    ((declaredTypes configuration types).map (·.2.name)).Nodup :=
  nodupWritten List.nodup_nil (generatedTypes configuration types)

theorem accountNames (account : Account configuration types order left emission)
    (once : (keys types).Nodup) :
    emission.names = (declaredTypes configuration types).map (·.2.name) := by
  rw [account.names, accountDeclared account once]

theorem accountFiles (account : Account configuration types order left emission)
    (once : (keys types).Nodup) :
    emission.files =
      if emission.names = [] then []
      else Assoc.put indexFile (renderIndex emission.names)
        ((declaredTypes configuration types).map
          (declarationFile (scopeOf configuration types))) := by
  rw [accountDeclared account once]
  exact account.files

theorem generatedIff (once : (keys types).Nodup) (ok : ofTypes configuration types = .ok emission)
    {key : Text} {type : DataType} (found : Assoc.find? key types = some type) :
    (key, type) ∈ generatedTypes configuration types ↔
      inScope configuration type = true ∧ key ∉ emission.unresolved := by
  rw [memGenerated, ofTypesUnresolved ok]
  constructor
  · rintro ⟨generated, _⟩
    obtain ⟨_, again, own⟩ := (settledRooted configuration types once key generated).inside 0 key rfl
    cases Option.some.inj (found.symm.trans again)
    exact ⟨own, settledDisjoint configuration types once generated⟩
  · rintro ⟨own, resolved⟩
    exact ⟨(settledCovers configuration types found own).resolve_right resolved, found⟩

theorem generatedShown (account : Account configuration types order left emission)
    (once : (keys types).Nodup) {entry : Text × DataType}
    (generated : entry ∈ generatedTypes configuration types) (named : entry.2.name ≠ []) :
    entry.2.name ∈ emission.names := by
  rw [accountOrder account once] at generated
  exact accountNamed account generated named

theorem pendingParts (configuration : Configuration) (types : TypeTable) :
    (types.filter (fun entry => !inScope configuration entry.2) ++
      pendingTypes configuration types).Perm types :=
  List.perm_append_comm.trans
    (List.filter_append_perm (fun entry : Text × DataType => inScope configuration entry.2) types)

inductive Fate where
  | skipped
  | unresolved
  | duplicate
  | declared
  | nameless
  deriving DecidableEq, Repr

def Fate.all : List Fate :=
  [.skipped, .unresolved, .duplicate, .declared, .nameless]

theorem Fate.memAll (fate : Fate) : fate ∈ Fate.all := by
  cases fate <;> decide

def withFate (configuration : Configuration) (types : TypeTable) (emission : Emission) :
    Fate → List Text
  | .skipped => emission.skipped
  | .unresolved => emission.unresolved
  | .duplicate => emission.duplicates
  | .declared => keys (declaredTypes configuration types)
  | .nameless => keys (namelessTypes configuration types)

theorem accountFates (account : Account configuration types order left emission)
    (once : (keys types).Nodup) :
    (Fate.all.flatMap (withFate configuration types emission)).Perm (keys types) := by
  have generated : (repeated [] order ++ (declaredTypes configuration types ++
      namelessTypes configuration types)).Perm order := by
    rw [declaredTypes, namelessTypes, accountOrder account once]
    exact orderParts [] order
  -- the generated types and those left are pending, and the pending ones and the skipped are all
  have inside := (generated.append_left left).trans (List.perm_append_comm.trans account.whole)
  have whole := (inside.append_left _).trans (pendingParts configuration types)
  have fates := whole.map Prod.fst
  have skipped : emission.skipped =
      keys (types.filter fun entry => !inScope configuration entry.2) := account.skipped
  simpa [Fate.all, withFate, keys, account.unresolved, account.duplicates, skipped] using fates

/- The lists of the fates are a partition of the keys, so a key has one fate. -/
theorem fateUnique {members : Fate → List Text}
    (parts : (Fate.all.flatMap members).Perm (keys types)) (once : (keys types).Nodup) :
    (∀ key ∈ keys types, ∃! fate, key ∈ members fate) ∧
      ∀ fate, (members fate).Nodup ∧ members fate ⊆ keys types := by
  obtain ⟨single, apart⟩ := List.nodup_flatMap.mp (parts.nodup_iff.mpr once)
  have either : Std.Symm (Function.onFun List.Disjoint members) := ⟨fun _ _ => List.disjoint_symm⟩
  refine ⟨?_, fun fate => ⟨single fate fate.memAll, fun key inside => parts.mem_iff.mp ?_⟩⟩
  · intro key member
    obtain ⟨fate, _, inside⟩ := List.mem_flatMap.mp (parts.mem_iff.mpr member)
    refine ⟨fate, inside, fun other elsewhere => ?_⟩
    by_contra different
    exact apart.forall other.memAll fate.memAll different elsewhere inside
  · exact List.mem_flatMap.mpr ⟨fate, fate.memAll, inside⟩

theorem accountedOnce (once : (keys types).Nodup) (ok : ofTypes configuration types = .ok emission) :
    (∀ key ∈ keys types, ∃! fate, key ∈ withFate configuration types emission fate) ∧
    (∀ fate, (withFate configuration types emission fate).Nodup ∧
      withFate configuration types emission fate ⊆ keys types) ∧
    emission.skipped = keys (types.filter fun entry => !inScope configuration entry.2) ∧
    emission.unresolved.Sublist (keys types) ∧
    (∀ key type, Assoc.find? key types = some type →
      ((key, type) ∈ generatedTypes configuration types ↔
        inScope configuration type = true ∧ key ∉ emission.unresolved)) ∧
    emission.names = (declaredTypes configuration types).map (·.2.name) ∧
    emission.names.Nodup ∧
    emission.files =
      (if emission.names = [] then []
      else Assoc.put indexFile (renderIndex emission.names)
        ((declaredTypes configuration types).map
          (declarationFile (scopeOf configuration types)))) ∧
    ∀ key type, Assoc.find? key types = some type → inScope configuration type = true →
      type.name ≠ [] → key ∉ emission.unresolved → type.name ∈ emission.names := by
  obtain ⟨order, account⟩ := accountOfOk ok
  obtain ⟨unique, lists⟩ := fateUnique (accountFates account once) once
  have names := accountNames account once
  have unresolved : (keys (settled configuration types).1).Sublist (keys types) :=
    (account.inOrder.trans List.filter_sublist).map Prod.fst
  refine ⟨unique, lists, account.skipped, account.unresolved ▸ unresolved,
    fun _ _ => generatedIff once ok, names, names ▸ nodupDeclared configuration types,
    accountFiles account once, ?_⟩
  intro key type found own named resolved
  exact generatedShown account once ((generatedIff once ok found).mpr ⟨own, resolved⟩) named

def shopType (name : Text) (base : Option Text) : DataType :=
  ⟨name, some "Shop", base, [], [], [], none, none⟩

def mixedTypes : TypeTable :=
  [("Vendor.Thing", ⟨"Thing", some "Vendor", none, [], [], [], none, none⟩),
    ("Shop.Loop", shopType "Loop" (some "Shop.Loop")), ("Shop.Widget", shopType "Widget" none),
    ("Shop.Copy", shopType "Widget" none), ("Shop.Unnamed", shopType [] none)]

theorem accountedOnceMixed :
    (keys mixedTypes).Nodup ∧ ∃ emission, ofTypes shopConfiguration mixedTypes = .ok emission ∧
      emission.skipped = ["Vendor.Thing"] ∧ emission.unresolved = ["Shop.Loop"] ∧
      emission.duplicates = ["Shop.Copy"] ∧
      keys (declaredTypes shopConfiguration mixedTypes) = ["Shop.Widget"] ∧
      keys (namelessTypes shopConfiguration mixedTypes) = ["Shop.Unnamed"] ∧
      ∀ key ∈ keys mixedTypes,
        ∃! fate, key ∈ withFate shopConfiguration mixedTypes emission fate := by
  have once : (keys mixedTypes).Nodup := by decide
  have run : (ofTypes shopConfiguration mixedTypes).toOption.any (fun emission =>
      emission.skipped = ["Vendor.Thing"].map String.toList ∧
        emission.unresolved = ["Shop.Loop"].map String.toList ∧
        emission.duplicates = ["Shop.Copy"].map String.toList) = true := by decide +kernel
  obtain ⟨emission, ok, found⟩ := Results.okOfAny run
  obtain ⟨skipped, unresolved, duplicates⟩ := of_decide_eq_true found
  exact ⟨once, emission, ok, skipped, unresolved, duplicates, by decide +kernel, by decide +kernel,
    (accountedOnce once ok).1⟩

end TypedClient.Emission
