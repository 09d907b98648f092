import TypedClient.Proofs.Emission.Order

/-!
Which types are generated. From a type the walk goes to its base, to the base of that, and so on, as
long as the base is a type of the table. A type is generated when the walk comes to an end and does
not leave the namespace, and only then: a cycle on the way, or a base outside the namespace, blocks
every type that leads to it.
-/

namespace TypedClient.Emission

open Assoc (keys)

/- An empty key counts as no base. -/
def parent (types : TypeTable) (key : Text) : Option Text := do
  let type ← Assoc.find? key types
  let base ← type.baseType
  if base ≠ [] ∧ base ∈ keys types then some base else none

def ancestor (types : TypeTable) (key : Text) : Nat → Option Text
  | 0 => some key
  | steps + 1 => (ancestor types key steps).bind (parent types)

structure Rooted (configuration : Configuration) (types : TypeTable) (key : Text) : Prop where
  ends : ∃ steps last, ancestor types key steps = some last ∧ parent types last = none
  inside : ∀ steps step, ancestor types key steps = some step →
    ∃ type, Assoc.find? step types = some type ∧ inScope configuration type = true

variable {configuration : Configuration} {types : TypeTable}

theorem parentOfFound {key : Text} {type : DataType} (found : Assoc.find? key types = some type) :
    parent types key = baseKey? types type := by
  simp only [parent, found, baseKey?, bind, Option.bind]
  cases type.baseType with
  | none => rfl
  | some base =>
    have known : (Assoc.find? base types).isSome = true ↔ base ∈ keys types := by
      rw [← not_iff_not, ← Assoc.findEqNone]
      simp
    by_cases empty : base = []
    · simp [empty, Option.filter]
    · by_cases member : base ∈ keys types
      · simp [empty, member, known.mpr member, Option.filter]
      · simp [empty, member, mt known.mp member, Option.filter]

theorem ancestorSucc (types : TypeTable) (key : Text) (steps : Nat) :
    ancestor types key (steps + 1) =
      (parent types key).bind fun base => ancestor types base steps := by
  induction steps with
  | zero => cases same : parent types key <;> simp [ancestor, same]
  | succ steps ih =>
    rw [ancestor, ih]
    cases parent types key <;> rfl

theorem ancestorNext {key base : Text} (next : parent types key = some base) (steps : Nat) :
    ancestor types key (steps + 1) = ancestor types base steps := by
  rw [ancestorSucc, next, Option.bind_some]

theorem rootedOfNoBase {key : Text} {type : DataType}
    (found : Assoc.find? key types = some type) (own : inScope configuration type = true)
    (root : parent types key = none) : Rooted configuration types key := by
  refine ⟨⟨0, key, rfl, root⟩, ?_⟩
  intro steps step reached
  cases steps with
  | zero =>
    cases Option.some.inj reached
    exact ⟨type, found, own⟩
  | succ steps => simp [ancestorSucc, root] at reached

theorem rootedOfBase {key base : Text} {type : DataType}
    (found : Assoc.find? key types = some type) (own : inScope configuration type = true)
    (next : parent types key = some base) (rooted : Rooted configuration types base) :
    Rooted configuration types key := by
  obtain ⟨steps, last, reached, root⟩ := rooted.ends
  refine ⟨⟨steps + 1, last, (ancestorNext next steps).trans reached, root⟩, ?_⟩
  intro steps step reached
  cases steps with
  | zero =>
    cases Option.some.inj reached
    exact ⟨type, found, own⟩
  | succ steps => exact rooted.inside steps step (ancestorNext next steps ▸ reached)

theorem traceRooted {scope : DeclarationScope} {order : TypeTable} {progress last : Progress}
    (trace : Trace scope progress order last)
    (known : ∀ key ∈ progress.generated, Rooted configuration scope.types key)
    (listed : ∀ entry ∈ order,
      Assoc.find? entry.1 scope.types = some entry.2 ∧ inScope configuration entry.2 = true) :
    ∀ key ∈ last.generated, Rooted configuration scope.types key := by
  induction trace with
  | done => exact known
  | @step progress key type rest last free next ih =>
    obtain ⟨found, own⟩ := listed (key, type) List.mem_cons_self
    refine ih ?_ fun entry member => listed entry (List.mem_cons_of_mem _ member)
    intro other member
    rcases List.mem_cons.mp member with rfl | before
    · cases next : parent scope.types other with
      | none => exact rootedOfNoBase found own next
      | some base =>
        -- Nothing that waits is generated, so the base was generated before.
        have ready := notBlocked.mp free base (parentOfFound found ▸ next)
        exact rootedOfBase found own next (known base ready)
    · exact known other before

variable (configuration types)

theorem settledCovers {key : Text} {type : DataType} (found : Assoc.find? key types = some type)
    (own : inScope configuration type = true) :
    key ∈ (settled configuration types).2.generated ∨ key ∈ keys (settled configuration types).1 := by
  obtain ⟨order, run, whole⟩ := (settledOutcome configuration types).split
  have member : (key, type) ∈ order ++ (settled configuration types).1 :=
    whole.mem_iff.mpr (memPendingTypes.mpr ⟨Assoc.findMember found, own⟩)
  rcases List.mem_append.mp member with generated | waiting
  · exact .inl ((memTraceGenerated run).mpr (.inl (Assoc.keyOfMember generated)))
  · exact .inr (Assoc.keyOfMember waiting)

theorem settledDisjoint (once : (keys types).Nodup) {key : Text}
    (generated : key ∈ (settled configuration types).2.generated) :
    key ∉ keys (settled configuration types).1 := by
  obtain ⟨order, run, whole⟩ := (settledOutcome configuration types).split
  have apart : (keys (order ++ (settled configuration types).1)).Nodup :=
    ((whole.map Prod.fst).nodup_iff).mpr (once.sublist (Assoc.keysFilter _))
  rw [Assoc.keysAppend] at apart
  intro waiting
  rcases (memTraceGenerated run).mp generated with before | none
  · exact (List.nodup_append.mp apart).2.2 key before key waiting rfl
  · simp [start] at none

theorem settledRooted (once : (keys types).Nodup) :
    ∀ key ∈ (settled configuration types).2.generated, Rooted configuration types key := by
  obtain ⟨order, run, whole⟩ := (settledOutcome configuration types).split
  refine traceRooted run (by simp [start]) ?_
  intro entry member
  obtain ⟨listed, own⟩ := memPendingTypes.mp (whole.mem_iff.mp (List.mem_append_left _ member))
  exact ⟨Assoc.findOfMember once listed, own⟩

theorem settledOfReady (once : (keys types).Nodup) {key : Text} {type : DataType}
    (found : Assoc.find? key types = some type) (own : inScope configuration type = true)
    (ready : ∀ base, parent types key = some base →
      base ∈ (settled configuration types).2.generated) :
    key ∈ (settled configuration types).2.generated := by
  rcases settledCovers configuration types found own with generated | waiting
  · exact generated
  · obtain ⟨other, member⟩ := Assoc.memKeys.mp waiting
    have listed := (settledOutcome configuration types).inOrder.subset member
    have same := Assoc.findOfMember once (memPendingTypes.mp listed).1
    cases Option.some.inj (found.symm.trans same)
    have waits : blocked types (settled configuration types).2 type = true :=
      passesStalled _ _ _ _ member
    have free : blocked types (settled configuration types).2 type = false :=
      notBlocked.mpr (parentOfFound found ▸ ready)
    exact absurd (waits.symm.trans free) (by simp)

theorem settledOfRooted (once : (keys types).Nodup) {key : Text}
    (rooted : Rooted configuration types key) :
    key ∈ (settled configuration types).2.generated := by
  obtain ⟨⟨steps, last, reached, root⟩, inside⟩ := rooted
  -- The induction is on the length of the walk: the base is rooted too, and its walk is shorter.
  induction steps generalizing key with
  | zero =>
    obtain ⟨type, found, own⟩ := inside 0 key rfl
    cases Option.some.inj reached
    exact settledOfReady configuration types once found own (by simp [root])
  | succ steps ih =>
    obtain ⟨type, found, own⟩ := inside 0 key rfl
    refine settledOfReady configuration types once found own ?_
    intro base next
    refine ih ?_ (ancestorNext next steps ▸ reached)
    intro further step here
    exact inside (further + 1) step ((ancestorNext next further).trans here)

theorem unresolvedExactly (once : (keys types).Nodup) :
    ∃ count ≤ (pendingTypes configuration types).length + 1, ∃ left last,
      (round (scopeOf configuration types))^[count]
          (pendingTypes configuration types, start configuration types) = (left, last) ∧
      round (scopeOf configuration types) (left, last) = (left, last) ∧
      (∀ emission, ofTypes configuration types = .ok emission → emission.unresolved = keys left) ∧
      (∀ unresolved, ofTypes configuration types = .error unresolved → unresolved = keys left) ∧
      ∀ key type, Assoc.find? key types = some type → inScope configuration type = true →
        (key ∈ last.generated ↔ Rooted configuration types key) ∧
        (key ∈ keys left ↔ ¬ Rooted configuration types key) := by
  obtain ⟨count, bound, same⟩ := passesRounds (scopeOf configuration types)
    (pendingTypes configuration types) (start configuration types)
  refine ⟨count, bound, (settled configuration types).1, (settled configuration types).2, same,
    passesFixed _ _ _, fun _ => ofTypesUnresolved, fun _ => ofTypesError, ?_⟩
  intro key type found own
  have generated : key ∈ (settled configuration types).2.generated ↔ Rooted configuration types key :=
    ⟨settledRooted configuration types once key, settledOfRooted configuration types once⟩
  refine ⟨generated, ?_⟩
  rw [← generated]
  constructor
  · intro waiting before
    exact settledDisjoint configuration types once before waiting
  · exact (settledCovers configuration types found own).resolve_left

def bareType (name : Text) (base : Option Text) : DataType :=
  ⟨name, none, base, [], [], [], none, none⟩

def knottedTypes : TypeTable :=
  [("A", bareType "A" (some "B")), ("E", bareType "E" (some "D")), ("B", bareType "B" (some "A")),
   ("C", bareType "C" (some "A")), ("D", bareType "D" none)]

theorem unresolvedExactlyKnotted :
    (keys knottedTypes).Nodup ∧
    (∃ emission, ofTypes .standard knottedTypes = .ok emission ∧
      emission.unresolved = ["A", "B", "C"].map String.toList) ∧
    Rooted .standard knottedTypes "E" ∧ ¬ Rooted .standard knottedTypes "C" := by
  have once : (keys knottedTypes).Nodup := by decide
  have run : (ofTypes .standard knottedTypes).toOption.any (fun emission =>
      emission.unresolved = ["A", "B", "C"].map String.toList) = true := by decide +kernel
  obtain ⟨emission, ok, found⟩ := Results.okOfAny run
  have unresolved := of_decide_eq_true found
  obtain ⟨_, _, left, _, _, _, named, _, sides⟩ := unresolvedExactly .standard knottedTypes once
  refine ⟨once, ⟨emission, ok, unresolved⟩, ?_, ?_⟩
  all_goals rw [named emission ok] at unresolved
  · have here := sides "E" (bareType "E" (some "D")) (by decide) (by decide)
    exact not_not.mp fun stray => absurd (here.2.mpr stray) (by rw [unresolved]; decide)
  · have here := sides "C" (bareType "C" (some "A")) (by decide) (by decide)
    exact here.2.mp (by rw [unresolved]; decide)

end TypedClient.Emission
