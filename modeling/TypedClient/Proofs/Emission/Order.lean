import Mathlib.Logic.Function.Iterate
import TypedClient.Emission
import TypedClient.Proofs.Collections

/-!
The order in which types are generated. A run is told by the list of the types that it generates,
one after another, and by the types that it leaves; how many passes it took does not matter. A run
ends where every type that is left is blocked.
-/

namespace TypedClient.Emission

open Assoc (keys)

variable {scope : DeclarationScope}

inductive Trace (scope : DeclarationScope) : Progress → TypeTable → Progress → Prop where
  | done (progress : Progress) : Trace scope progress [] progress
  | step {progress key type rest last}
      (free : blocked scope.types progress type = false)
      (next : Trace scope (generate scope progress key type) rest last) :
      Trace scope progress ((key, type) :: rest) last

theorem Trace.append {first second : TypeTable} {progress middle last : Progress}
    (trace : Trace scope progress first middle) (next : Trace scope middle second last) :
    Trace scope progress (first ++ second) last := by
  induction trace with
  | done => exact next
  | step free _ ih => exact .step free (ih next)

theorem traceGenerated {order : TypeTable} {progress last : Progress}
    (trace : Trace scope progress order last) :
    last.generated = (keys order).reverse ++ progress.generated := by
  induction trace with
  | done => rfl
  | step free next ih => simp [ih, generate]

theorem memTraceGenerated {order : TypeTable} {progress last : Progress}
    (trace : Trace scope progress order last) {key : Text} :
    key ∈ last.generated ↔ key ∈ keys order ∨ key ∈ progress.generated := by
  simp [traceGenerated trace]

theorem notBlocked {types : TypeTable} {progress : Progress} {type : DataType} :
    blocked types progress type = false ↔
      ∀ base, baseKey? types type = some base → base ∈ progress.generated := by
  unfold blocked
  cases baseKey? types type <;> simp

theorem baseKeyIff {types : TypeTable} {type : DataType} {base : Text} :
    baseKey? types type = some base ↔
      type.baseType = some base ∧ base ≠ [] ∧ ∃ other, Assoc.find? base types = some other := by
  simp [baseKey?, Option.filter_eq_some_iff, Option.isSome_iff_exists]

theorem baseFound {type base : DataType} (extended : scope.base? type = some base) :
    ∃ key, baseKey? scope.types type = some key ∧ Assoc.find? key scope.types = some base := by
  unfold DeclarationScope.base? at extended
  split at extended
  · contradiction
  · rename_i key named
    split at extended
    · contradiction
    · rename_i filled
      exact ⟨key, baseKeyIff.mpr ⟨named, by simpa using filled, base, extended⟩, extended⟩

theorem recordUntouched (scope : DeclarationScope) (emission : Emission) (key : Text) (type : DataType) :
    (record scope emission key type).unresolved = emission.unresolved ∧
      (record scope emission key type).skipped = emission.skipped ∧
      (record scope emission key type).diagnostics = emission.diagnostics := by
  unfold record
  split
  · exact ⟨rfl, rfl, rfl⟩
  · split <;> exact ⟨rfl, rfl, rfl⟩

theorem traceUntouched {order : TypeTable} {progress last : Progress}
    (trace : Trace scope progress order last) :
    last.emission.unresolved = progress.emission.unresolved ∧
      last.emission.skipped = progress.emission.skipped ∧
      last.emission.diagnostics = progress.emission.diagnostics := by
  induction trace with
  | done => exact ⟨rfl, rfl, rfl⟩
  | @step progress key type _ _ free next ih =>
    obtain ⟨unresolved, skipped, diagnostics⟩ := recordUntouched scope progress.emission key type
    exact ⟨ih.1.trans unresolved, ih.2.1.trans skipped, ih.2.2.trans diagnostics⟩

structure Outcome (scope : DeclarationScope) (pending : TypeTable) (progress : Progress)
    (left : TypeTable) (last : Progress) : Prop where
  split : ∃ order, Trace scope progress order last ∧ (order ++ left).Perm pending
  inOrder : left.Sublist pending

theorem Outcome.trans {pending middle left : TypeTable} {progress current last : Progress}
    (first : Outcome scope pending progress middle current)
    (second : Outcome scope middle current left last) :
    Outcome scope pending progress left last := by
  obtain ⟨before, run, whole⟩ := first.split
  obtain ⟨after, next, rest⟩ := second.split
  refine ⟨⟨before ++ after, run.append next, ?_⟩, second.inOrder.trans first.inOrder⟩
  rw [List.append_assoc]
  exact (rest.append_left before).trans whole

theorem passOutcome (scope : DeclarationScope) (pending : TypeTable) (progress : Progress) :
    Outcome scope pending progress (pass scope pending progress).1 (pass scope pending progress).2 := by
  induction pending generalizing progress with
  | nil => exact ⟨⟨[], .done progress, .refl _⟩, .refl _⟩
  | cons entry rest ih =>
    obtain ⟨key, type⟩ := entry
    simp only [pass]
    split
    · obtain ⟨order, run, whole⟩ := (ih progress).split
      exact ⟨⟨order, run, List.perm_middle.trans (whole.cons _)⟩, (ih progress).inOrder.cons_cons _⟩
    · rename_i free
      obtain ⟨order, run, whole⟩ := (ih (generate scope progress key type)).split
      exact ⟨⟨(key, type) :: order, .step (by simpa using free) run, whole.cons _⟩,
        (ih _).inOrder.cons _⟩

theorem passStalled {pending : TypeTable} {progress : Progress}
    (stalled : ¬ (pass scope pending progress).1.length < pending.length) :
    pass scope pending progress = (pending, progress) ∧
      ∀ entry ∈ pending, blocked scope.types progress entry.2 = true := by
  induction pending with
  | nil => exact ⟨rfl, by simp⟩
  | cons entry rest ih =>
    obtain ⟨key, type⟩ := entry
    by_cases waits : blocked scope.types progress type = true
    · simp only [pass, waits, if_true, List.length_cons, Nat.add_lt_add_iff_right] at stalled ⊢
      obtain ⟨same, all⟩ := ih stalled
      exact ⟨by rw [same], by simpa [waits] using all⟩
    · have shorter := (passOutcome scope rest (generate scope progress key type)).inOrder.length_le
      rw [pass, if_neg waits, List.length_cons] at stalled
      omega

theorem passesOutcome (scope : DeclarationScope) (pending : TypeTable) (progress : Progress) :
    Outcome scope pending progress (passes scope pending progress).1
      (passes scope pending progress).2 := by
  fun_induction passes scope pending progress with
  | case1 pending progress shorter ih => exact (passOutcome scope pending progress).trans ih
  | case2 pending progress stalled => exact passOutcome scope pending progress

theorem passesStalled (scope : DeclarationScope) (pending : TypeTable) (progress : Progress) :
    ∀ entry ∈ (passes scope pending progress).1,
      blocked scope.types (passes scope pending progress).2 entry.2 = true := by
  fun_induction passes scope pending progress with
  | case1 pending progress shorter ih => exact ih
  | case2 pending progress stalled =>
    obtain ⟨same, all⟩ := passStalled stalled
    rw [same]
    exact all

def round (scope : DeclarationScope) (state : TypeTable × Progress) : TypeTable × Progress :=
  pass scope state.1 state.2

theorem passesRounds (scope : DeclarationScope) (pending : TypeTable) (progress : Progress) :
    ∃ count ≤ pending.length + 1,
      (round scope)^[count] (pending, progress) = passes scope pending progress := by
  fun_induction passes scope pending progress with
  | case1 pending progress shorter ih =>
    -- A pass that generates something leaves fewer types.
    obtain ⟨count, bound, same⟩ := ih
    exact ⟨count + 1, by omega, same⟩
  | case2 pending progress stalled => exact ⟨1, by omega, rfl⟩

theorem passesFixed (scope : DeclarationScope) (pending : TypeTable) (progress : Progress) :
    round scope (passes scope pending progress) = passes scope pending progress := by
  fun_induction passes scope pending progress with
  | case1 pending progress shorter ih => exact ih
  | case2 pending progress stalled =>
    obtain ⟨same, _⟩ := passStalled stalled
    rw [same]
    exact same

def scopeOf (configuration : Configuration) (types : TypeTable) : DeclarationScope :=
  ⟨configuration, types, namesOf (pendingTypes configuration types)⟩

def start (configuration : Configuration) (types : TypeTable) : Progress :=
  ⟨{ empty with skipped := keys (types.filter fun (_, type) => !inScope configuration type) }, []⟩

def settled (configuration : Configuration) (types : TypeTable) : TypeTable × Progress :=
  passes (scopeOf configuration types) (pendingTypes configuration types) (start configuration types)

theorem ofTypesEq (configuration : Configuration) (types : TypeTable) :
    ofTypes configuration types =
      (reportUnresolved configuration types (keys (settled configuration types).1)
        (settled configuration types).2.emission).map addIndex := rfl

theorem settledOutcome (configuration : Configuration) (types : TypeTable) :
    Outcome (scopeOf configuration types) (pendingTypes configuration types)
      (start configuration types) (settled configuration types).1 (settled configuration types).2 :=
  passesOutcome _ _ _

theorem settledUnresolved (configuration : Configuration) (types : TypeTable) :
    (settled configuration types).2.emission.unresolved = [] := by
  obtain ⟨order, run, _⟩ := (settledOutcome configuration types).split
  exact (traceUntouched run).1

theorem settledSilent (configuration : Configuration) (types : TypeTable) :
    (settled configuration types).2.emission.diagnostics = [] := by
  obtain ⟨order, run, _⟩ := (settledOutcome configuration types).split
  exact (traceUntouched run).2.2

theorem memPendingTypes {configuration : Configuration} {types : TypeTable} {entry : Text × DataType} :
    entry ∈ pendingTypes configuration types ↔
      entry ∈ types ∧ inScope configuration entry.2 = true := by
  simp [pendingTypes]

/- Whichever way the run ends, the types that are left are the ones that it names, and it changes
nothing but the diagnostics and the index. -/
theorem ofTypesOk {configuration : Configuration} {types : TypeTable} {emission : Emission}
    (ok : ofTypes configuration types = .ok emission) :
    ∃ diagnostics, emission = addIndex { (settled configuration types).2.emission with
      unresolved := keys (settled configuration types).1, diagnostics } := by
  have clean := settledUnresolved configuration types
  rw [ofTypesEq] at ok
  unfold reportUnresolved at ok
  split at ok
  · rename_i none
    cases Except.ok.inj ok
    exact ⟨_, by rw [List.isEmpty_iff.mp none, ← clean]⟩
  · split at ok
    · contradiction
    · cases Except.ok.inj ok
      exact ⟨_, rfl⟩
    · cases Except.ok.inj ok
      exact ⟨_, rfl⟩

theorem addIndexEq (emission : Emission) :
    addIndex emission = { emission with
      files := if emission.names = [] then emission.files
        else Assoc.put indexFile (renderIndex emission.names) emission.files } := by
  unfold addIndex
  by_cases empty : emission.names = []
  · rw [if_pos (List.isEmpty_iff.mpr empty), if_pos empty]
  · rw [if_neg (mt List.isEmpty_iff.mp empty), if_neg empty]

theorem ofTypesUnresolved {configuration : Configuration} {types : TypeTable} {emission : Emission}
    (ok : ofTypes configuration types = .ok emission) :
    emission.unresolved = keys (settled configuration types).1 := by
  obtain ⟨diagnostics, rfl⟩ := ofTypesOk ok
  rw [addIndexEq]

theorem ofTypesTotal {configuration : Configuration} (types : TypeTable)
    (lenient : configuration.cyclePolicy ≠ .error) :
    ∃ emission, ofTypes configuration types = .ok emission := by
  rw [ofTypesEq]
  unfold reportUnresolved
  split
  · exact ⟨_, rfl⟩
  · split
    · contradiction
    · exact ⟨_, rfl⟩
    · exact ⟨_, rfl⟩

theorem ofTypesStrict {configuration : Configuration} {types : TypeTable} {emission : Emission}
    (ok : ofTypes configuration types = .ok emission) (strict : configuration.cyclePolicy = .error) :
    emission.unresolved = [] := by
  rw [ofTypesUnresolved ok]
  rw [ofTypesEq, reportUnresolved, strict] at ok
  split at ok
  · rename_i none
    exact List.isEmpty_iff.mp none
  · contradiction

theorem ofTypesError {configuration : Configuration} {types : TypeTable} {left : List Text}
    (failed : ofTypes configuration types = .error left) :
    left = keys (settled configuration types).1 := by
  rw [ofTypesEq] at failed
  unfold reportUnresolved at failed
  split at failed
  · simp [Except.map] at failed
  · split at failed
    · cases Except.error.inj failed
      rfl
    · simp [Except.map] at failed
    · simp [Except.map] at failed

end TypedClient.Emission
