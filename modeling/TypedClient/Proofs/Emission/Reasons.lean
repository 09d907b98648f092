import TypedClient.Proofs.Emission.Accounting

/-!
Why a type is left. The search goes from base to base until one is outside the namespace or was seen
before. It ends for every type of the table, and for a type that a run leaves it never ends at a type
without a base: such a walk would have let the type be generated. So the reason that is given tells
which of the two things blocks the type.
-/

namespace TypedClient.Emission

open Assoc (keys)

inductive Ending where
  | outside (base : Text)
  | repeated
  | exhausted
  deriving DecidableEq, Repr

def Ending.blockage : Ending → Blockage
  | .outside base => .outsideNamespace base
  | .repeated => .cycle
  | .exhausted => .cycle

/- The search from a type, with the keys that it has come by; `exhausted` is the end of the bases. -/
inductive Search (configuration : Configuration) (types : TypeTable) :
    List Text → DataType → Ending → Prop where
  | exhausted {seen type} (root : baseKey? types type = none) :
      Search configuration types seen type .exhausted
  | outside {seen type base other} (next : baseKey? types type = some base)
      (found : Assoc.find? base types = some other) (foreign : inScope configuration other = false) :
      Search configuration types seen type (.outside base)
  | repeated {seen type base other} (next : baseKey? types type = some base)
      (found : Assoc.find? base types = some other) (own : inScope configuration other = true)
      (known : base ∈ seen) : Search configuration types seen type .repeated
  | step {seen type base other ending} (next : baseKey? types type = some base)
      (found : Assoc.find? base types = some other) (own : inScope configuration other = true)
      (fresh : base ∉ seen) (later : Search configuration types (base :: seen) other ending) :
      Search configuration types seen type ending

variable {configuration : Configuration} {types : TypeTable} {key base : Text} {type other : DataType}
  {seen : List Text}

theorem blockageFromNone (root : baseKey? types type = none) (fuel : Nat) :
    blockageFrom configuration types seen fuel type.baseType = .cycle := by
  cases fuel with
  | zero => rfl
  | succ fuel =>
    cases named : type.baseType with
    | none => rfl
    | some key =>
      have missing : (if key.isEmpty then none else Assoc.find? key types) = none := by
        split
        · rfl
        · rename_i filled
          cases found : Assoc.find? key types with
          | none => rfl
          | some other =>
            have next := baseKeyIff.mpr ⟨named, by simpa using filled, other, found⟩
            exact absurd (root.symm.trans next) (by simp)
      simp only [blockageFrom, missing]

theorem blockageFromSome (next : baseKey? types type = some base)
    (found : Assoc.find? base types = some other) (fuel : Nat) :
    blockageFrom configuration types seen (fuel + 1) type.baseType =
      if !inScope configuration other then .outsideNamespace base
      else if base ∈ seen then .cycle
      else blockageFrom configuration types (base :: seen) fuel other.baseType := by
  obtain ⟨named, filled, _⟩ := baseKeyIff.mp next
  have present : base.isEmpty = false := by simpa using filled
  simp only [blockageFrom, named, present, found, Bool.false_eq_true, if_false]

theorem searchEnds {fuel : Nat} (once : seen.Nodup) (listed : seen ⊆ keys types)
    (enough : types.length < fuel + seen.length) :
    ∃ ending, Search configuration types seen type ending ∧
      blockageFrom configuration types seen fuel type.baseType = ending.blockage := by
  induction fuel generalizing seen type with
  | zero =>
    -- Each step has seen a new key of the table, and there are no more of them.
    have short := once.length_le_of_subset listed
    simp only [keys, List.length_map] at short
    omega
  | succ fuel ih =>
    cases next : baseKey? types type with
    | none => exact ⟨.exhausted, .exhausted next, blockageFromNone next _⟩
    | some base =>
      obtain ⟨_, _, other, found⟩ := baseKeyIff.mp next
      rw [blockageFromSome next found]
      cases own : inScope configuration other with
      | false => exact ⟨.outside base, .outside next found own, rfl⟩
      | true =>
        by_cases known : base ∈ seen
        · exact ⟨.repeated, .repeated next found own known, if_pos known⟩
        · have member : base ∈ keys types := Assoc.keyOfMember (Assoc.findMember found)
          have fresh : (base :: seen).Nodup := List.nodup_cons.mpr ⟨known, once⟩
          have within : base :: seen ⊆ keys types := List.cons_subset.mpr ⟨member, listed⟩
          obtain ⟨ending, later, same⟩ := ih fresh within (by simp only [List.length_cons]; omega)
          exact ⟨ending, .step next found own known later, (if_neg known).trans same⟩

def Outside (configuration : Configuration) (types : TypeTable) (key : Text) : Prop :=
  ∃ type, Assoc.find? key types = some type ∧ inScope configuration type = false

def Confined (configuration : Configuration) (types : TypeTable) (key : Text) (count : Nat) : Prop :=
  ∀ steps < count, ∀ step, ancestor types key steps = some step → ¬ Outside configuration types step

def FirstOutside (configuration : Configuration) (types : TypeTable) (key base : Text) : Prop :=
  ∃ steps, ancestor types key steps = some base ∧ Outside configuration types base ∧
    Confined configuration types key steps

def Revisits (types : TypeTable) (key : Text) : Prop :=
  ∃ early late step, early < late ∧ ancestor types key early = some step ∧
    ancestor types key late = some step

/- The walk comes back to a key of `seen` or to one of its own, and has not left the namespace by then. -/
def Returns (configuration : Configuration) (types : TypeTable) (seen : List Text) (key : Text) :
    Prop :=
  ∃ late step, 0 < late ∧ ancestor types key late = some step ∧
    (step ∈ seen ∨ ∃ early < late, ancestor types key early = some step) ∧
    Confined configuration types key (late + 1)

def Ending.Explains (configuration : Configuration) (types : TypeTable) (seen : List Text)
    (key : Text) : Ending → Prop
  | .outside base => FirstOutside configuration types key base
  | .repeated => Returns configuration types seen key
  | .exhausted => Rooted configuration types key

theorem notOutside (found : Assoc.find? key types = some type)
    (own : inScope configuration type = true) : ¬ Outside configuration types key := by
  rintro ⟨other, same, foreign⟩
  cases Option.some.inj (found.symm.trans same)
  rw [own] at foreign
  contradiction

theorem confinedSelf (own : ¬ Outside configuration types key) :
    Confined configuration types key 1 := by
  intro steps less step here
  cases Nat.lt_one_iff.mp less
  exact Option.some.inj here ▸ own

theorem confinedOfBase {count : Nat} (own : ¬ Outside configuration types key)
    (next : parent types key = some base) (confined : Confined configuration types base count) :
    Confined configuration types key (count + 1) := by
  intro steps less step here
  cases steps with
  | zero => exact Option.some.inj here ▸ own
  | succ steps => exact confined steps (by omega) step (ancestorNext next steps ▸ here)

theorem returnsOfBase (own : ¬ Outside configuration types key)
    (next : parent types key = some base) (returns : Returns configuration types (base :: seen) base) :
    Returns configuration types seen key := by
  obtain ⟨late, step, moved, reached, known, confined⟩ := returns
  refine ⟨late + 1, step, by omega, (ancestorNext next late).trans reached, ?_,
    confinedOfBase own next confined⟩
  rcases known with among | ⟨early, less, here⟩
  · rcases List.mem_cons.mp among with rfl | old
    · exact .inr ⟨1, by omega, ancestorNext next 0⟩
    · exact .inl old
  · exact .inr ⟨early + 1, by omega, (ancestorNext next early).trans here⟩

theorem searchExplains {ending : Ending} (search : Search configuration types seen type ending)
    (found : Assoc.find? key types = some type) (own : inScope configuration type = true) :
    ending.Explains configuration types seen key := by
  have here := notOutside found own
  induction search generalizing key with
  | exhausted root => exact rootedOfNoBase found own ((parentOfFound found).trans root)
  | outside next there foreign =>
    have step := (parentOfFound found).trans next
    exact ⟨1, ancestorNext step 0, ⟨_, there, foreign⟩, confinedSelf here⟩
  | repeated next there inside known =>
    have step := (parentOfFound found).trans next
    have confined := confinedOfBase here step (confinedSelf (notOutside there inside))
    exact ⟨1, _, by omega, ancestorNext step 0, .inl known, confined⟩
  | @step _ _ _ _ ending next there inside fresh later ih =>
    have step := (parentOfFound found).trans next
    have below := ih there inside (notOutside there inside)
    cases ending with
    | outside first =>
      obtain ⟨steps, reached, foreign, confined⟩ := below
      exact ⟨steps + 1, (ancestorNext step steps).trans reached, foreign,
        confinedOfBase here step confined⟩
    | repeated => exact returnsOfBase here step below
    | exhausted => exact rootedOfBase found own step below

theorem firstOutsideUnique {first second : Text} (here : FirstOutside configuration types key first)
    (there : FirstOutside configuration types key second) : first = second := by
  obtain ⟨steps, reached, foreign, confined⟩ := here
  obtain ⟨steps', reached', foreign', confined'⟩ := there
  rcases Nat.lt_trichotomy steps steps' with less | rfl | less
  · exact absurd foreign (confined' steps less first reached)
  · exact Option.some.inj (reached.symm.trans reached')
  · exact absurd foreign' (confined steps' less second reached')

theorem ancestorAdd (types : TypeTable) (key : Text) (steps further : Nat) :
    ancestor types key (steps + further) =
      (ancestor types key steps).bind fun step => ancestor types step further := by
  induction further with
  | zero => cases ancestor types key steps <;> rfl
  | succ further ih =>
    rw [← Nat.add_assoc, ancestor, ih, Option.bind_assoc]
    rfl

theorem confinedOfReturn (returns : Returns configuration types [key] key) :
    (∀ count, Confined configuration types key count) ∧ Revisits types key := by
  obtain ⟨late, step, moved, reached, known, confined⟩ := returns
  obtain ⟨early, less, here⟩ : ∃ early < late, ancestor types key early = some step := by
    rcases known with same | earlier
    · exact ⟨0, moved, congrArg some (List.mem_singleton.mp same).symm⟩
    · exact earlier
  refine ⟨fun count steps _ => ?_, early, late, step, less, here, reached⟩
  induction steps using Nat.strongRecOn with
  | ind steps ih =>
    by_cases soon : steps < late + 1
    · exact confined steps soon
    · obtain ⟨further, rfl⟩ := Nat.exists_eq_add_of_le (show late ≤ steps by omega)
      have again : ancestor types key (late + further) = ancestor types key (early + further) := by
        rw [ancestorAdd, ancestorAdd, reached, here]
      rw [again]
      exact ih (early + further) (by omega) (by omega)

def leftKeys (configuration : Configuration) (types : TypeTable) : List Text :=
  match ofTypes configuration types with
  | .ok emission => emission.unresolved
  | .error left => left

theorem leftKeysEq (configuration : Configuration) (types : TypeTable) :
    leftKeys configuration types = keys (settled configuration types).1 := by
  unfold leftKeys
  split
  · rename_i ok
    exact ofTypesUnresolved ok
  · rename_i failed
    exact ofTypesError failed

theorem leftUnrooted (once : (keys types).Nodup) (left : key ∈ leftKeys configuration types) :
    ∃ type, Assoc.find? key types = some type ∧ inScope configuration type = true ∧
      ¬ Rooted configuration types key := by
  rw [leftKeysEq] at left
  obtain ⟨type, waiting⟩ := Assoc.memKeys.mp left
  obtain ⟨listed, own⟩ :=
    memPendingTypes.mp ((settledOutcome configuration types).inOrder.subset waiting)
  refine ⟨type, Assoc.findOfMember once listed, own, fun rooted => ?_⟩
  exact settledDisjoint configuration types once (settledOfRooted configuration types once rooted) left

theorem blockageEnds (configuration : Configuration) (found : Assoc.find? key types = some type) :
    ∃ ending, Search configuration types [key] type ending ∧
      blockage configuration types key = ending.blockage := by
  have listed : [key] ⊆ keys types := by
    simpa using Assoc.keyOfMember (Assoc.findMember found)
  rw [blockage, found, Option.bind_some]
  exact searchEnds (List.nodup_singleton key) listed (by simp only [List.length_singleton]; omega)

theorem blockageTextApart (base : Text) :
    Blockage.cycle.text ≠ (Blockage.outsideNamespace base).text := by
  have apart : ¬ ("base " : Text) <+: "inheritance cycle" := by decide
  intro same
  refine apart ⟨base ++ " is outside the namespace scope", ?_⟩
  rw [← List.append_assoc]
  exact same.symm

theorem blockageTextInjective (first second : Blockage) :
    first.text = second.text ↔ first = second := by
  refine ⟨fun same => ?_, congrArg Blockage.text⟩
  cases first with
  | cycle => cases second with
    | cycle => rfl
    | outsideNamespace base => exact absurd same (blockageTextApart base)
  | outsideNamespace base => cases second with
    | cycle => exact absurd same.symm (blockageTextApart base)
    | outsideNamespace other =>
      unfold Blockage.text at same
      rw [List.append_cancel_left (List.append_cancel_right same)]

def reason (configuration : Configuration) (types : TypeTable) (key : Text) : Text :=
  (blockage configuration types key).text

theorem reasonOutside : reason configuration types key =
    "base " ++ base ++ " is outside the namespace scope" ↔
      blockage configuration types key = .outsideNamespace base :=
  blockageTextInjective (blockage configuration types key) (.outsideNamespace base)

theorem reasonCycle : reason configuration types key = "inheritance cycle" ↔
    blockage configuration types key = .cycle :=
  blockageTextInjective (blockage configuration types key) .cycle

theorem blockageOfLeft (once : (keys types).Nodup) (left : key ∈ leftKeys configuration types)
    (found : Assoc.find? key types = some type) :
    ¬ Search configuration types [key] type .exhausted ∧
      (∀ base, blockage configuration types key = .outsideNamespace base ↔
        FirstOutside configuration types key base) ∧
      (blockage configuration types key = .cycle ↔
        (∀ count, Confined configuration types key count) ∧ Revisits types key) := by
  obtain ⟨_, same, own, unrooted⟩ := leftUnrooted once left
  cases Option.some.inj (found.symm.trans same)
  have never : ¬ Search configuration types [key] type .exhausted := fun search =>
    unrooted (searchExplains search found own)
  obtain ⟨ending, search, reason⟩ := blockageEnds configuration found
  have explained := searchExplains search found own
  refine ⟨never, ?_⟩
  rw [reason]
  cases ending with
  | exhausted => exact absurd search never
  | outside first =>
    obtain ⟨steps, reached, foreign, _⟩ := id explained
    refine ⟨fun base => ?_, iff_of_false (by simp [Ending.blockage]) fun round => ?_⟩
    · constructor
      · intro same
        cases same
        exact explained
      · intro other
        rw [firstOutsideUnique other explained]
        rfl
    · exact round.1 (steps + 1) steps (by omega) first reached foreign
  | repeated =>
    have round := confinedOfReturn explained
    refine ⟨fun base => iff_of_false (by simp [Ending.blockage]) ?_, iff_of_true rfl round⟩
    rintro ⟨steps, reached, foreign, _⟩
    exact round.1 (steps + 1) steps (by omega) base reached foreign

theorem reportWarned (warns : configuration.cyclePolicy = .warn) (left : List Text)
    (emission : Emission) :
    reportUnresolved configuration types left emission =
      .ok (if left = [] then emission else { emission with
        unresolved := left
        diagnostics := emission.diagnostics ++ [unresolvedMessage configuration types left] }) := by
  cases left with
  | nil => rfl
  | cons first rest => rw [reportUnresolved, warns]; rfl

theorem warnedOnce (types : TypeTable) (warns : configuration.cyclePolicy = .warn) :
    ∃ emission, ofTypes configuration types = .ok emission ∧
      emission.diagnostics = if emission.unresolved = [] then []
        else [unresolvedMessage configuration types emission.unresolved] := by
  refine ⟨_, by rw [ofTypesEq, reportWarned warns]; rfl, ?_⟩
  rw [addIndexEq]
  split
  · rename_i none
    simp [settledUnresolved, settledSilent]
  · simp [settledSilent]

theorem leftExplained (configuration : Configuration) (once : (keys types).Nodup) :
    (∀ key ∈ leftKeys configuration types, ∃ type, Assoc.find? key types = some type ∧
      (∃ ending, Search configuration types [key] type ending ∧
        blockage configuration types key = ending.blockage) ∧
      ¬ Search configuration types [key] type .exhausted ∧
      (∀ base, reason configuration types key = "base " ++ base ++ " is outside the namespace scope" ↔
        FirstOutside configuration types key base) ∧
      (reason configuration types key = "inheritance cycle" ↔
        (∀ count, Confined configuration types key count) ∧ Revisits types key)) ∧
    (configuration.cyclePolicy = .warn → ∃ emission, ofTypes configuration types = .ok emission ∧
      emission.diagnostics = if emission.unresolved = [] then []
        else ["Types not generated, base types could not be emitted first: " ++
          (", " : Text).intercalate (emission.unresolved.map fun key =>
            key ++ " (" ++ reason configuration types key ++ ")")]) := by
  refine ⟨fun key left => ?_, warnedOnce types⟩
  obtain ⟨type, found, _⟩ := leftUnrooted once left
  obtain ⟨never, outside, cycle⟩ := blockageOfLeft once left found
  exact ⟨type, found, blockageEnds configuration found, never,
    fun base => reasonOutside.trans (outside base), reasonCycle.trans cycle⟩

def blockedTypes : TypeTable :=
  [("Shop.Tail", shopType "Tail" (some "Shop.Loop")), ("Shop.Loop", shopType "Loop" (some "Shop.Loop")),
    ("Shop.Deep", shopType "Deep" (some "Shop.Part")), ("Shop.Widget", shopType "Widget" none),
    ("Shop.Part", shopType "Part" (some "Vendor.Thing")),
    ("Vendor.Thing", ⟨"Thing", some "Vendor", some "Shop.Deep", [], [], [], none, none⟩)]

def blockedKeys : List (Text × Blockage) :=
  [("Shop.Tail", .cycle), ("Shop.Loop", .cycle), ("Shop.Deep", .outsideNamespace "Vendor.Thing"),
    ("Shop.Part", .outsideNamespace "Vendor.Thing")]

theorem leftExplainedMixed :
    (keys blockedTypes).Nodup ∧ shopConfiguration.cyclePolicy = .warn ∧
      FirstOutside shopConfiguration blockedTypes "Shop.Deep" "Vendor.Thing" ∧
      (∀ count, Confined shopConfiguration blockedTypes "Shop.Tail" count) ∧
      Revisits blockedTypes "Shop.Tail" ∧
      ∃ emission, ofTypes shopConfiguration blockedTypes = .ok emission ∧
        emission.diagnostics =
          ["Types not generated, base types could not be emitted first: " ++
            (", " : Text).intercalate (blockedKeys.map fun (key, why) => key ++ " (" ++ why.text ++ ")")] := by
  have once : (keys blockedTypes).Nodup := by decide
  have warns : shopConfiguration.cyclePolicy = .warn := rfl
  have run : (leftKeys shopConfiguration blockedTypes).map (fun key =>
      (key, blockage shopConfiguration blockedTypes key)) = blockedKeys := by decide +kernel
  have left : ∀ entry ∈ blockedKeys, entry.1 ∈ leftKeys shopConfiguration blockedTypes ∧
      blockage shopConfiguration blockedTypes entry.1 = entry.2 := by
    intro entry member
    rw [← run] at member
    obtain ⟨key, inside, rfl⟩ := List.mem_map.mp member
    exact ⟨inside, rfl⟩
  have deep := left ("Shop.Deep", .outsideNamespace "Vendor.Thing") (by simp [blockedKeys])
  have tail := left ("Shop.Tail", .cycle) (by simp [blockedKeys])
  obtain ⟨explained, warned⟩ := leftExplained shopConfiguration once
  obtain ⟨_, _, _, _, outside, _⟩ := explained "Shop.Deep" deep.1
  obtain ⟨_, _, _, _, _, cycle⟩ := explained "Shop.Tail" tail.1
  have round := cycle.mp (reasonCycle.mpr tail.2)
  obtain ⟨emission, ok, diagnostics⟩ := warned warns
  have unresolved : emission.unresolved = leftKeys shopConfiguration blockedTypes := by
    rw [leftKeys, ok]
  refine ⟨once, warns, (outside "Vendor.Thing").mp (reasonOutside.mpr deep.2), round.1, round.2,
    emission, ok, ?_⟩
  rw [diagnostics, unresolved, if_neg (List.ne_nil_of_mem deep.1), ← run, List.map_map]
  rfl

end TypedClient.Emission
