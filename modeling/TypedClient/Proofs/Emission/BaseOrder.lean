import TypedClient.Proofs.Emission.Accounting

/-!
Bases before the types that extend them. The run waits for the key of a base and writes display
names, so the name of a base is written before that of the extending type, whichever type of the
name wrote it. The index lists the names in the order in which they are written.
-/

namespace TypedClient.Emission

open Assoc (keys)

variable {configuration : Configuration} {types order left : TypeTable} {emission : Emission}

theorem traceSplit {scope : DeclarationScope} {before after : TypeTable} {entry : Text × DataType}
    {progress last : Progress} (trace : Trace scope progress (before ++ entry :: after) last) :
    ∃ middle, Trace scope progress before middle ∧ blocked scope.types middle entry.2 = false := by
  induction before generalizing progress with
  | nil =>
    cases trace with
    | step free next => exact ⟨progress, .done progress, free⟩
  | cons first rest ih =>
    cases trace with
    | step free next =>
      obtain ⟨middle, run, ready⟩ := ih next
      exact ⟨middle, .step free run, ready⟩

theorem writtenSplit {seen : List Text} {order : TypeTable} {entry : Text × DataType}
    (member : entry ∈ written seen order) :
    ∃ before after later, order = before ++ entry :: after ∧
      written seen order = written seen before ++ entry :: later := by
  induction order generalizing seen with
  | nil => simp [written] at member
  | cons first rest ih =>
    obtain ⟨key, type⟩ := first
    by_cases old : type.name = [] ∨ type.name ∈ seen
    · simp only [written, if_pos old] at member
      obtain ⟨before, after, later, rfl, same⟩ := ih member
      exact ⟨(key, type) :: before, after, later, rfl, by simp only [written, if_pos old, same]⟩
    · simp only [written, if_neg old] at member
      rcases List.mem_cons.mp member with rfl | inside
      · exact ⟨[], rest, written (seen ++ [type.name]) rest, rfl, by simp [written, old]⟩
      · obtain ⟨before, after, later, rfl, same⟩ := ih inside
        exact ⟨(key, type) :: before, after, later, rfl,
          by simp only [written, if_neg old, same, List.cons_append]⟩

theorem baseWritten (account : Account configuration types order left emission)
    (once : (keys types).Nodup) {entry : Text × DataType} (member : entry ∈ written [] order)
    {key : Text} (extended : baseKey? types entry.2 = some key) {base : DataType}
    (found : Assoc.find? key types = some base) (named : base.name ≠ []) :
    [base.name, entry.2.name].Sublist emission.names := by
  obtain ⟨before, after, later, rfl, same⟩ := writtenSplit member
  obtain ⟨middle, run, free⟩ := traceSplit account.run
  -- The type waited for its base, and what is written of the types before it has the base's name.
  have earlier : key ∈ keys before := by
    rcases (memTraceGenerated run).mp (notBlocked.mp free key extended) with inside | none
    · exact inside
    · simp [start] at none
  obtain ⟨type, inside⟩ := Assoc.memKeys.mp earlier
  have listed := accountListed account (List.mem_append_left (entry :: after) inside)
  cases Option.some.inj (found.symm.trans (Assoc.findOfMember once listed))
  have covered : base.name ∈ [] ++ (written [] before).map (·.2.name) := writtenCovers inside named
  rw [account.names, same, List.map_append, List.map_cons]
  exact (List.singleton_sublist.mpr covered).append (List.singleton_sublist.mpr List.mem_cons_self)

theorem baseKeyOf {type base : DataType} {key : Text} (extended : type.baseType = some key)
    (filled : key ≠ []) (found : Assoc.find? key types = some base) :
    baseKey? types type = some key :=
  baseKeyIff.mpr ⟨extended, filled, base, found⟩

def exportLine (name : Text) : Text :=
  "export * from './" ++ name ++ "';"

theorem indexText {names : List Text} (once : names.Nodup) :
    renderIndex names = Text.lines (names.map exportLine) ++ ['\n'] := by
  rw [renderIndex, Text.distinctOfNodup once]
  rfl

theorem baseFirst (once : (keys types).Nodup) (ok : ofTypes configuration types = .ok emission) :
    emission.names.Nodup ∧
    emission.names = (declaredTypes configuration types).map (·.2.name) ∧
    emission.files =
      (if emission.names = [] then []
      else Assoc.put indexFile (Text.lines (emission.names.map exportLine) ++ ['\n'])
        ((declaredTypes configuration types).map
          (declarationFile (scopeOf configuration types)))) ∧
    ∀ entry ∈ declaredTypes configuration types, ∀ key base, entry.2.baseType = some key →
      key ≠ [] → Assoc.find? key types = some base → base.name ≠ [] →
        [base.name, entry.2.name].Sublist emission.names := by
  obtain ⟨order, account⟩ := accountOfOk ok
  have names := accountNames account once
  have single : emission.names.Nodup := names ▸ nodupDeclared configuration types
  refine ⟨single, names, ?_, ?_⟩
  · rw [← indexText single]
    exact accountFiles account once
  · intro entry member key base extended filled found named
    rw [accountDeclared account once] at member
    exact baseWritten account once member (baseKeyOf extended filled found) found named

def twinTypes : TypeTable :=
  [("Leaf", bareType "Leaf" (some "Twin")), ("Root", bareType "Root" none),
    ("Twin", bareType "Root" none)]

theorem baseFirstTwin :
    (keys twinTypes).Nodup ∧ ∃ emission, ofTypes .standard twinTypes = .ok emission ∧
      emission.duplicates = ["Twin"] ∧ [("Root" : Text), "Leaf"].Sublist emission.names := by
  have once : (keys twinTypes).Nodup := by decide
  have run : (ofTypes .standard twinTypes).toOption.any (fun emission =>
      emission.duplicates = ["Twin"].map String.toList) = true := by decide +kernel
  obtain ⟨emission, ok, found⟩ := Results.okOfAny run
  have declared : (("Leaf" : Text), bareType "Leaf" (some "Twin")) ∈ declaredTypes .standard twinTypes := by
    decide +kernel
  obtain ⟨_, _, _, first⟩ := baseFirst once ok
  exact ⟨once, emission, ok, of_decide_eq_true found,
    first _ declared "Twin" (bareType "Root" none) rfl (by decide) (by decide) (by decide)⟩

def blankTypes : TypeTable :=
  [("Leaf", bareType "Leaf" (some [])), ([], bareType "Root" none)]

theorem emptyBaseKeyLater :
    (keys blankTypes).Nodup ∧ ∃ emission, ofTypes .standard blankTypes = .ok emission ∧
      (("Leaf" : Text), bareType "Leaf" (some [])) ∈ declaredTypes .standard blankTypes ∧
      Assoc.find? [] blankTypes = some (bareType "Root" none) ∧
      ¬ [("Root" : Text), "Leaf"].Sublist emission.names := by
  have run : (ofTypes .standard blankTypes).toOption.any (fun emission =>
      emission.names = ["Leaf", "Root"].map String.toList) = true := by decide +kernel
  obtain ⟨emission, ok, found⟩ := Results.okOfAny run
  refine ⟨by decide, emission, ok, by decide +kernel, by decide, ?_⟩
  rw [of_decide_eq_true found]
  decide

end TypedClient.Emission
