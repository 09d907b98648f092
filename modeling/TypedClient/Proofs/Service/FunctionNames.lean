import Mathlib.Data.List.Nodup
import TypedClient.Proofs.Service.Functions

/-!
Repeated names and their numbers. At each place stands the first candidate that no earlier place has; the
candidates are all different, so one of the first ones is free. A first occurrence loses its name only to
a repetition that was given it before.
-/

namespace TypedClient

theorem Text.decimalInjective {first second : Nat} (same : Text.decimal first = Text.decimal second) :
    first = second := by
  have read := congrArg (fun digits => Nat.ofDigitChars 10 digits 0) same
  simpa [Text.decimal] using read

namespace FunctionName

def candidate (name : Text) : Nat → Text
  | 0 => name
  | count + 1 => name ++ Text.decimal (count + 2)

theorem candidateInjective {name : Text} {first second : Nat}
    (same : candidate name first = candidate name second) : first = second := by
  have longer : ∀ count, name ≠ name ++ Text.decimal count := by
    intro count whole
    exact Nat.toDigits_ne_nil (List.self_eq_append_right.mp whole)
  cases first with
  | zero =>
    cases second with
    | zero => rfl
    | succ second => exact absurd same (longer _)
  | succ first =>
    cases second with
    | zero => exact absurd same.symm (longer _)
    | succ second =>
      have numbers := Text.decimalInjective (List.append_cancel_left same)
      omega

/- The end of a search: all candidates before were taken, and this one is free. -/
structure Chosen (taken : List Text) (name given : Text) (rounds : Nat) : Prop where
  tried : ∀ earlier < rounds, candidate name earlier ∈ taken
  reached : given = candidate name rounds
  free : given ∉ taken

theorem memTake {texts : List Text} {text : Text} {place : Nat} :
    text ∈ texts.take place ↔ ∃ earlier < place, texts[earlier]? = some text := by
  simp [List.mem_iff_getElem?, List.getElem?_take, ite_eq_iff]

variable {taken : List Text} {name given : Text} {rounds : Nat}

theorem triedBound (tried : ∀ earlier < rounds, candidate name earlier ∈ taken) :
    rounds ≤ taken.length := by
  -- The candidates are different ones, so each of them is another taken name.
  have once : ((List.range rounds).map (candidate name)).Nodup :=
    List.nodup_range.map fun _ _ => candidateInjective
  have within : (List.range rounds).map (candidate name) ⊆ taken := by
    intro text member
    obtain ⟨earlier, below, rfl⟩ := List.mem_map.mp member
    exact tried earlier (List.mem_range.mp below)
  simpa using once.length_le_of_subset within

theorem someFree (taken : List Text) (name : Text) :
    ∃ count ≤ taken.length, candidate name count ∉ taken := by
  by_contra none
  push Not at none
  have bound := triedBound fun earlier below => none earlier (Nat.lt_succ_iff.mp below)
  exact Nat.lt_irrefl _ bound

theorem Chosen.alike {other : List Text} (same : ∀ text, text ∈ taken ↔ text ∈ other)
    (chosen : Chosen taken name given rounds) : Chosen other name given rounds where
  tried earlier below := (same _).mp (chosen.tried earlier below)
  reached := chosen.reached
  free := mt (same _).mpr chosen.free

theorem Chosen.kept (chosen : Chosen taken name given rounds) : given = name ↔ name ∉ taken := by
  constructor
  · rintro rfl
    exact chosen.free
  · intro free
    cases rounds with
    | zero => exact chosen.reached
    | succ rounds => exact absurd (chosen.tried 0 (Nat.succ_pos rounds)) free

theorem chosenFirst (start : Nat) {fuel : Nat} (tried : ∀ earlier < start + 1, candidate name earlier ∈ taken)
    (free : ∃ count ≤ start + 1 + fuel, candidate name count ∉ taken) :
    ∃ rounds, Chosen taken name (firstFree taken name fuel (start + 2)) rounds := by
  obtain ⟨count, bound, untaken⟩ := free
  have later : start + 1 ≤ count := Nat.not_lt.mp fun below => untaken (tried count below)
  induction fuel generalizing start with
  | zero =>
    cases Nat.le_antisymm bound later
    exact ⟨start + 1, tried, rfl, untaken⟩
  | succ fuel ih =>
    rw [firstFree]
    split
    · rename_i known
      have next : ∀ earlier < start + 1 + 1, candidate name earlier ∈ taken := by
        intro earlier below
        rcases Nat.lt_succ_iff_lt_or_eq.mp below with before | rfl
        · exact tried earlier before
        · exact known
      have further : start + 1 + 1 ≤ count := Nat.not_lt.mp fun below => untaken (next count below)
      exact ih (start + 1) next (by omega) further
    · rename_i fresh
      exact ⟨start + 1, tried, rfl, fresh⟩

theorem chosenFresh (taken : List Text) (name : Text) :
    ∃ rounds, Chosen taken name (fresh taken name) rounds := by
  unfold fresh
  split
  · rename_i known
    refine chosenFirst 0 ?_ ?_
    · intro earlier below
      cases Nat.lt_one_iff.mp below
      exact known
    · obtain ⟨count, bound, untaken⟩ := someFree taken name
      exact ⟨count, by omega, untaken⟩
  · rename_i free
    exact ⟨0, fun _ below => absurd below (Nat.not_lt_zero _), rfl, free⟩

theorem chosenFrom (seen : List Text) {names : List Text} {place : Nat} (here : names[place]? = some name) :
    ∃ given rounds, (uniqueFrom seen names)[place]? = some given ∧
      Chosen (((uniqueFrom seen names).take place).reverse ++ seen) name given rounds := by
  induction names generalizing seen place with
  | nil => contradiction
  | cons first rest ih =>
    cases place with
    | zero =>
      cases Option.some.inj here
      obtain ⟨rounds, chosen⟩ := chosenFresh seen name
      exact ⟨fresh seen name, rounds, rfl, chosen⟩
    | succ place =>
      obtain ⟨given, rounds, found, chosen⟩ := ih (fresh seen first :: seen) here
      refine ⟨given, rounds, found, ?_⟩
      rw [uniqueFrom, List.take_succ_cons, List.reverse_cons, List.append_assoc]
      exact chosen

theorem chosenAt {names : List Text} {place : Nat} (here : names[place]? = some name) :
    ∃ given rounds, (unique names)[place]? = some given ∧
      Chosen ((unique names).take place) name given rounds := by
  obtain ⟨given, rounds, found, chosen⟩ := chosenFrom [] here
  exact ⟨given, rounds, found, chosen.alike fun text => by simp [unique]⟩

theorem nodupUnique (names : List Text) : (unique names).Nodup := by
  refine List.nodup_iff_getElem?_ne_getElem?.mpr ?_
  intro earlier place before inside same
  rw [lengthUnique] at inside
  obtain ⟨given, rounds, found, chosen⟩ := chosenAt (List.getElem?_eq_getElem inside)
  rw [found] at same
  exact chosen.free (memTake.mpr ⟨earlier, before, same⟩)

theorem metTaken {names : List Text} {place : Nat} (met : name ∈ names.take place) :
    name ∈ (unique names).take place := by
  obtain ⟨earlier, before, here⟩ := memTake.mp met
  obtain ⟨given, rounds, found, chosen⟩ := chosenAt here
  by_cases taken : name ∈ (unique names).take earlier
  · obtain ⟨first, below, there⟩ := memTake.mp taken
    exact memTake.mpr ⟨first, Nat.lt_trans below before, there⟩
  · rw [chosen.kept.mpr taken] at found
    exact memTake.mpr ⟨earlier, before, found⟩

def IsFirst (names : List Text) (place : Nat) : Prop :=
  ∀ earlier < place, names[earlier]? ≠ names[place]?

instance (names : List Text) (place : Nat) : Decidable (IsFirst names place) :=
  inferInstanceAs (Decidable (∀ earlier < place, names[earlier]? ≠ names[place]?))

def KeepsFirsts (names : List Text) : Prop :=
  ∀ place < names.length, IsFirst names place → (unique names)[place]? = names[place]?

instance (names : List Text) : Decidable (KeepsFirsts names) :=
  inferInstanceAs (Decidable (∀ place < names.length, _))

/- A repetition was given a name that is met for the first time later. -/
def Anticipates (names : List Text) : Prop :=
  ∃ place < names.length, IsFirst names place ∧
    ∃ earlier < place, ¬ IsFirst names earlier ∧ (unique names)[earlier]? = names[place]?

instance (names : List Text) : Decidable (Anticipates names) :=
  inferInstanceAs (Decidable (∃ place < names.length, IsFirst names place ∧
    ∃ earlier < place, ¬ IsFirst names earlier ∧ (unique names)[earlier]? = names[place]?))

theorem firstIff {names : List Text} {place : Nat} (here : names[place]? = some name) :
    IsFirst names place ↔ name ∉ names.take place := by
  rw [IsFirst, here, memTake]
  push Not
  rfl

theorem keepsOfNone {names : List Text} (none : ¬ Anticipates names) : KeepsFirsts names := by
  intro place
  induction place using Nat.strongRecOn with
  | ind place ih =>
    intro inside first
    have here := List.getElem?_eq_getElem inside
    obtain ⟨given, rounds, found, chosen⟩ := chosenAt here
    rw [found, here, Option.some.injEq, chosen.kept]
    intro taken
    obtain ⟨earlier, before, there⟩ := memTake.mp taken
    rw [← here] at there
    by_cases new : IsFirst names earlier
    · exact first earlier before ((ih earlier before (Nat.lt_trans before inside) new).symm.trans there)
    · exact none ⟨place, inside, first, earlier, before, new, there⟩

theorem repetitionNumbered {names : List Text} {place : Nat} (here : names[place]? = some name)
    (again : ¬ IsFirst names place) :
    ∃ count, (unique names)[place]? = some (candidate name (count + 1)) := by
  obtain ⟨given, rounds, found, chosen⟩ := chosenAt here
  rw [firstIff here, not_not] at again
  cases rounds with
  | zero =>
    have kept : given = name := chosen.reached
    exact absurd (metTaken again) (chosen.kept.mp kept)
  | succ count => exact ⟨count, found.trans (congrArg some chosen.reached)⟩

theorem noneOfKeeps {names : List Text} (keeps : KeepsFirsts names) : ¬ Anticipates names := by
  rintro ⟨place, inside, first, earlier, before, _, given⟩
  have inside' : place < (unique names).length := by rwa [lengthUnique]
  rw [← keeps place inside first] at given
  exact List.nodup_iff_getElem?_ne_getElem?.mp (nodupUnique names) earlier place before inside' given

theorem noneOfApart {names : List Text}
    (apart : ∀ name ∈ names, ∀ other ∈ names, ∀ count, other ≠ candidate name (count + 1)) :
    ¬ Anticipates names := by
  rintro ⟨place, inside, first, earlier, before, again, given⟩
  have there := List.getElem?_eq_getElem (Nat.lt_trans before inside)
  obtain ⟨count, numbered⟩ := repetitionNumbered there again
  rw [numbered, List.getElem?_eq_getElem inside] at given
  exact apart _ (List.getElem_mem _) _ (List.getElem_mem _) count (Option.some.inj given).symm

theorem firstsKeptIff (names : List Text) :
    (KeepsFirsts names ↔ ¬ Anticipates names) ∧
      (∀ place name, names[place]? = some name → ¬ IsFirst names place →
        ∃ count, (unique names)[place]? = some (candidate name (count + 1))) ∧
      ((∀ name ∈ names, ∀ other ∈ names, ∀ count, other ≠ candidate name (count + 1)) →
        KeepsFirsts names) :=
  ⟨⟨noneOfKeeps, keepsOfNone⟩, fun _ _ => repetitionNumbered, fun apart => keepsOfNone (noneOfApart apart)⟩

theorem firstsKeptNumbered :
    KeepsFirsts ["get2", "get", "list", "get"] ∧
      unique ["get2", "get", "list", "get"] = ["get2", "get", "list", "get3"] := by
  obtain ⟨keeps, _⟩ := firstsKeptIff ["get2", "get", "list", "get"]
  exact ⟨keeps.mpr (by decide +kernel), by decide +kernel⟩

theorem firstOccurrenceRenamed :
    unique ["get", "get", "get2"] = ["get", "get2", "get22"] ∧ ¬ KeepsFirsts ["get", "get", "get2"] := by
  exact ⟨by decide +kernel, by decide +kernel⟩

end FunctionName

end TypedClient
