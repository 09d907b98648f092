import TypedClient.Proofs.Emission.Order

/-!
What a run writes, as a function of its order. Of each display name the first type that is generated
gets the file, later ones are duplicates, and a type without a name leaves no mark.
-/

namespace TypedClient.Emission

open Assoc (keys)

variable {scope : DeclarationScope}

def written (seen : List Text) : TypeTable → TypeTable
  | [] => []
  | (key, type) :: rest =>
    if type.name = [] ∨ type.name ∈ seen then written seen rest
    else (key, type) :: written (seen ++ [type.name]) rest

def repeated (seen : List Text) : TypeTable → TypeTable
  | [] => []
  | (key, type) :: rest =>
    if type.name = [] then repeated seen rest
    else if type.name ∈ seen then (key, type) :: repeated seen rest
    else repeated (seen ++ [type.name]) rest

def declarationFile (scope : DeclarationScope) (entry : Text × DataType) : Text × Text :=
  (fileName entry.2.name, scope.render entry.2)

theorem writtenSublist (seen : List Text) (order : TypeTable) : (written seen order).Sublist order := by
  induction order generalizing seen with
  | nil => exact .refl []
  | cons entry rest ih =>
    obtain ⟨key, type⟩ := entry
    simp only [written]
    split
    · exact (ih seen).cons _
    · exact (ih _).cons_cons _

theorem writtenNamed {seen : List Text} {order : TypeTable} {entry : Text × DataType}
    (member : entry ∈ written seen order) : entry.2.name ≠ [] := by
  induction order generalizing seen with
  | nil => simp [written] at member
  | cons first rest ih =>
    obtain ⟨key, type⟩ := first
    simp only [written] at member
    split at member
    · exact ih member
    · rename_i new
      rcases List.mem_cons.mp member with rfl | later
      · exact (not_or.mp new).1
      · exact ih later

theorem writtenCovers {seen : List Text} {order : TypeTable} {entry : Text × DataType}
    (member : entry ∈ order) (named : entry.2.name ≠ []) :
    entry.2.name ∈ seen ++ (written seen order).map (·.2.name) := by
  induction order generalizing seen with
  | nil => simp at member
  | cons first rest ih =>
    obtain ⟨key, type⟩ := first
    simp only [written]
    rcases List.mem_cons.mp member with rfl | later
    · split
      · rename_i old
        exact List.mem_append_left _ (old.resolve_left named)
      · simp
    · split
      · exact ih later
      · have inside : entry.2.name ∈ (seen ++ [type.name]) ++
            (written (seen ++ [type.name]) rest).map (·.2.name) := ih later
        simpa using inside

theorem fileNameInjective {first second : Text} (same : fileName first = fileName second) :
    first = second :=
  List.append_cancel_right same

theorem recordNameless (scope : DeclarationScope) (emission : Emission) (key : Text)
    {type : DataType} (nameless : type.name = []) :
    record scope emission key type = emission := by
  simp [record, nameless]

theorem recordRepeated (scope : DeclarationScope) {emission : Emission} (key : Text)
    {type : DataType} (named : type.name ≠ []) (known : type.name ∈ emission.names) :
    record scope emission key type =
      { emission with duplicates := emission.duplicates ++ [key] } := by
  simp [record, named, known]

/- A new name has a new file, since the files so far are those of the names so far. -/
theorem recordNew (scope : DeclarationScope) {emission : Emission} (key : Text) {type : DataType}
    (aligned : keys emission.files = emission.names.map fileName) (named : type.name ≠ [])
    (new : type.name ∉ emission.names) :
    record scope emission key type =
      { emission with
        files := emission.files ++ [declarationFile scope (key, type)]
        names := emission.names ++ [type.name] } := by
  have fresh : fileName type.name ∉ keys emission.files := by
    rw [aligned]
    intro member
    obtain ⟨name, old, same⟩ := List.mem_map.mp member
    exact new (fileNameInjective same ▸ old)
  simp [record, named, new, Assoc.putFresh fresh, declarationFile]

theorem traceWritten {order : TypeTable} {progress last : Progress}
    (trace : Trace scope progress order last)
    (aligned : keys progress.emission.files = progress.emission.names.map fileName) :
    last.emission.names =
        progress.emission.names ++ (written progress.emission.names order).map (·.2.name) ∧
    last.emission.files =
        progress.emission.files ++
          (written progress.emission.names order).map (declarationFile scope) ∧
    last.emission.duplicates =
        progress.emission.duplicates ++ keys (repeated progress.emission.names order) := by
  induction trace with
  | done => simp [written, repeated]
  | @step progress key type rest last free next ih =>
    by_cases nameless : type.name = []
    · have same : generate scope progress key type = ⟨progress.emission, key :: progress.generated⟩ := by
        rw [generate, recordNameless _ _ _ nameless]
      rw [same] at ih
      simpa [written, repeated, nameless] using ih aligned
    · by_cases known : type.name ∈ progress.emission.names
      · have same := recordRepeated scope key nameless known
        simp only [generate, same] at ih
        simpa [written, repeated, nameless, known] using ih aligned
      · have same := recordNew scope key aligned nameless known
        simp only [generate, same] at ih
        have still := ih (by simp [aligned, declarationFile])
        simpa [written, repeated, nameless, known] using still

theorem traceBase {order : TypeTable} {progress last : Progress}
    (trace : Trace scope progress order last) {entry : Text × DataType} (member : entry ∈ order)
    {base : Text} (extended : baseKey? scope.types entry.2 = some base) :
    base ∈ last.generated := by
  induction trace with
  | done => simp at member
  | @step progress key type rest last free next ih =>
    rcases List.mem_cons.mp member with rfl | later
    · have ready := notBlocked.mp free base extended
      exact (memTraceGenerated next).mpr (.inr (List.mem_cons_of_mem _ ready))
    · exact ih later

/- A whole emission, told by the types that were generated, in their order, and by those left. -/
structure Account (configuration : Configuration) (types order left : TypeTable) (emission : Emission) :
    Prop where
  run : Trace (scopeOf configuration types) (start configuration types) order
    (settled configuration types).2
  whole : (order ++ left).Perm (pendingTypes configuration types)
  inOrder : left.Sublist (pendingTypes configuration types)
  unresolved : emission.unresolved = keys left
  skipped : emission.skipped = (start configuration types).emission.skipped
  names : emission.names = (written [] order).map (·.2.name)
  duplicates : emission.duplicates = keys (repeated [] order)
  files : emission.files =
    if emission.names = [] then []
    else Assoc.put indexFile (renderIndex emission.names)
      ((written [] order).map (declarationFile (scopeOf configuration types)))

theorem accountOfOk {configuration : Configuration} {types : TypeTable} {emission : Emission}
    (ok : ofTypes configuration types = .ok emission) :
    ∃ order, Account configuration types order (settled configuration types).1 emission := by
  obtain ⟨⟨order, run, whole⟩, inOrder⟩ := settledOutcome configuration types
  obtain ⟨names, files, duplicates⟩ := traceWritten run rfl
  obtain ⟨diagnostics, rfl⟩ := ofTypesOk ok
  rw [addIndexEq]
  refine ⟨order, run, whole, inOrder, rfl, (traceUntouched run).2.1, names, duplicates, ?_⟩
  have names : (settled configuration types).2.emission.names =
      (written [] order).map (·.2.name) := names
  have files : (settled configuration types).2.emission.files =
      (written [] order).map (declarationFile (scopeOf configuration types)) := files
  by_cases empty : (settled configuration types).2.emission.names = []
  · have none : written [] order = [] := List.map_eq_nil_iff.mp (names.symm.trans empty)
    simp [empty, files, none]
  · simp [empty, files]

end TypedClient.Emission
