import TypedClient.Proofs.Emission.BaseOrder
import TypedClient.Proofs.Emission.Reordering

/-!
The files of an emission. Each emitted name has a file with the declaration of the first type that was
generated under the name, and the index has one more. Where a type is called as the index file is, the
index takes the place of its declaration.
-/

namespace TypedClient.Emission

open Assoc (keys)

variable {configuration : Configuration} {types order left : TypeTable} {emission : Emission}

def indexName : Text := "index"

def declaring? (configuration : Configuration) (types : TypeTable) (name : Text) :
    Option (Text × DataType) :=
  (generatedTypes configuration types).find? fun entry => entry.2.name == name

structure ExactFiles (configuration : Configuration) (types : TypeTable) (emission : Emission) :
    Prop where
  files : keys emission.files = emission.names.map fileName ++ [indexFile]
  once : (keys emission.files).Nodup
  declarations : ∀ name ∈ emission.names, ∃ entry, declaring? configuration types name = some entry ∧
    (fileName name, (scopeOf configuration types).render entry.2) ∈ emission.files
  index : (indexFile, Text.lines (emission.names.map exportLine) ++ ['\n']) ∈ emission.files

theorem findNamed {entries : TypeTable} (once : (entries.map (·.2.name)).Nodup)
    {entry : Text × DataType} (member : entry ∈ entries) :
    entries.find? (fun other => other.2.name == entry.2.name) = some entry := by
  induction entries with
  | nil => simp at member
  | cons first rest ih =>
    obtain ⟨fresh, once⟩ := List.nodup_cons.mp once
    rcases List.mem_cons.mp member with rfl | later
    · simp
    · have different : first.2.name ≠ entry.2.name := fun same =>
        fresh (List.mem_map.mpr ⟨entry, later, same.symm⟩)
      simpa [different] using ih once later

/- What is not written of an order has no name, or one that was written before. -/
theorem findWritten {seen : List Text} {name : Text} (named : name ≠ []) (fresh : name ∉ seen)
    (order : TypeTable) :
    (written seen order).find? (fun entry => entry.2.name == name) =
      order.find? fun entry => entry.2.name == name := by
  induction order generalizing seen with
  | nil => rfl
  | cons entry rest ih =>
    obtain ⟨key, type⟩ := entry
    simp only [written]
    by_cases same : type.name = name
    · simp [same, named, fresh]
    · split
      · simpa [same] using ih fresh
      · have still : name ∉ seen ++ [type.name] := by simp [fresh, Ne.symm same]
        simpa [same] using ih still

theorem declaringDeclared {entry : Text × DataType}
    (member : entry ∈ declaredTypes configuration types) :
    declaring? configuration types entry.2.name = some entry := by
  rw [declaring?, ← findWritten (writtenNamed member) List.not_mem_nil]
  exact findNamed (nodupDeclared configuration types) member

theorem declaredName (account : Account configuration types order left emission)
    (once : (keys types).Nodup) {name : Text} (member : name ∈ emission.names) :
    ∃ entry ∈ declaredTypes configuration types, entry.2.name = name ∧
      declaring? configuration types name = some entry := by
  rw [accountNames account once] at member
  obtain ⟨entry, declared, rfl⟩ := List.mem_map.mp member
  exact ⟨entry, declared, rfl, declaringDeclared declared⟩

theorem indexListed {names : List Text} : indexFile ∈ names.map fileName ↔ indexName ∈ names := by
  have same : indexFile = fileName indexName := by decide
  rw [same]
  exact List.mem_map_of_injective fun _ _ => fileNameInjective

theorem accountKeys (account : Account configuration types order left emission)
    (once : (keys types).Nodup) (emitted : emission.names ≠ []) :
    keys emission.files =
      if indexName ∈ emission.names then emission.names.map fileName
      else emission.names.map fileName ++ [indexFile] := by
  have declarations : keys ((declaredTypes configuration types).map
      (declarationFile (scopeOf configuration types))) = emission.names.map fileName := by
    simp [accountNames account once, keys, declarationFile]
  rw [accountFiles account once, if_neg emitted, Assoc.keysPut, declarations]
  by_cases called : indexName ∈ emission.names
  · rw [if_pos called, if_pos (indexListed.mpr called)]
  · rw [if_neg called, if_neg (mt indexListed.mp called)]

theorem accountOnce (account : Account configuration types order left emission)
    (once : (keys types).Nodup) : (keys emission.files).Nodup := by
  rw [accountFiles account once]
  split
  · exact List.nodup_nil
  · exact Assoc.nodupPut (nodupDeclarations configuration types) _ _

theorem declaredWritten (account : Account configuration types order left emission)
    (once : (keys types).Nodup) {entry : Text × DataType}
    (declared : entry ∈ declaredTypes configuration types) (other : entry.2.name ≠ indexName) :
    (fileName entry.2.name, (scopeOf configuration types).render entry.2) ∈ emission.files :=
  Assoc.findMember (declaredFile account once declared fun same =>
    other (fileNameInjective (same.trans (by decide))))

theorem accountDeclaration (account : Account configuration types order left emission)
    (once : (keys types).Nodup) {name : Text} (member : name ∈ emission.names)
    (other : name ≠ indexName) :
    ∃ entry, declaring? configuration types name = some entry ∧
      (fileName name, (scopeOf configuration types).render entry.2) ∈ emission.files := by
  obtain ⟨entry, declared, rfl, first⟩ := declaredName account once member
  exact ⟨entry, first, declaredWritten account once declared other⟩

theorem accountIndex (account : Account configuration types order left emission)
    (once : (keys types).Nodup) (emitted : emission.names ≠ []) :
    (indexFile, Text.lines (emission.names.map exportLine) ++ ['\n']) ∈ emission.files := by
  have single : emission.names.Nodup := accountNames account once ▸ nodupDeclared configuration types
  rw [accountFiles account once, if_neg emitted, indexText single]
  exact Assoc.findMember (by rw [Assoc.findPut, if_pos rfl])

theorem exactFilesIff (once : (keys types).Nodup) (ok : ofTypes configuration types = .ok emission)
    (emitted : emission.names ≠ []) :
    (ExactFiles configuration types emission ↔ indexName ∉ emission.names) ∧
    (ExactFiles configuration types emission →
      emission.files.length = emission.names.length + 1) ∧
    (indexName ∈ emission.names → keys emission.files = emission.names.map fileName) ∧
    (∀ name ∈ emission.names, name ≠ indexName → ∃ entry,
      declaring? configuration types name = some entry ∧
        (fileName name, (scopeOf configuration types).render entry.2) ∈ emission.files) ∧
    (indexFile, Text.lines (emission.names.map exportLine) ++ ['\n']) ∈ emission.files := by
  obtain ⟨order, account⟩ := accountOfOk ok
  have files := accountKeys account once emitted
  have apart : ∀ name ∈ emission.names, name ≠ indexName → _ := fun _ =>
    accountDeclaration account once
  have index := accountIndex account once emitted
  refine ⟨⟨fun exact called => ?_, fun free => ?_⟩, fun exact => ?_, fun called => ?_, apart, index⟩
  · have all := exact.once
    rw [exact.files] at all
    exact (List.nodup_append.mp all).2.2 _ (indexListed.mpr called) _ List.mem_cons_self rfl
  · rw [if_neg free] at files
    exact ⟨files, accountOnce account once,
      fun name member => apart name member fun same => free (same ▸ member), index⟩
  · simpa [keys] using congrArg List.length exact.files
  · rwa [if_pos called] at files

theorem exactFilesTwin :
    (keys twinTypes).Nodup ∧ ∃ emission, ofTypes .standard twinTypes = .ok emission ∧
      emission.names ≠ [] ∧ indexName ∉ emission.names ∧ ExactFiles .standard twinTypes emission ∧
      declaring? .standard twinTypes "Root" = some (("Root" : Text), bareType "Root" none) := by
  have once : (keys twinTypes).Nodup := by decide
  have run : (ofTypes .standard twinTypes).toOption.any (fun emission =>
      emission.names = ["Root", "Leaf"].map String.toList) = true := by decide +kernel
  obtain ⟨emission, ok, found⟩ := Results.okOfAny run
  have names := of_decide_eq_true found
  have emitted : emission.names ≠ [] := by simp [names]
  have free : indexName ∉ emission.names := by
    rw [names]
    decide
  exact ⟨once, emission, ok, emitted, free, (exactFilesIff once ok emitted).1.mpr free,
    by decide +kernel⟩

def indexTypes : TypeTable :=
  [("Shop.Widget", bareType "Widget" none), ("Shop.Index", bareType "index" none)]

def indexFiles : FileTable :=
  [("Widget.ts", "export interface Widget \x7b\n\x7d\n"),
    ("index.ts", "export * from './Widget';\nexport * from './index';\n")]

theorem indexOverDeclaration :
    (∃ emission, ofTypes .standard indexTypes = .ok emission ∧
      emission.names = ["Widget", "index"].map String.toList ∧
      emission.files = indexFiles ∧
      ¬ ExactFiles .standard indexTypes emission) ∧
    ¬ ∀ configuration types emission, (keys types).Nodup →
      ofTypes configuration types = .ok emission → emission.names ≠ [] →
        ExactFiles configuration types emission := by
  have once : (keys indexTypes).Nodup := by decide
  have run : (ofTypes .standard indexTypes).toOption.any (fun emission =>
      emission.names = ["Widget", "index"].map String.toList ∧
      emission.files = indexFiles) = true := by decide +kernel
  obtain ⟨emission, ok, found⟩ := Results.okOfAny run
  obtain ⟨names, files⟩ := of_decide_eq_true found
  have stray : ¬ ExactFiles .standard indexTypes emission := by
    intro exact
    have count := congrArg List.length exact.files
    simp [files, names, keys, indexFiles] at count
  refine ⟨⟨emission, ok, names, files, stray⟩, fun all => stray ?_⟩
  exact all _ _ _ once ok (by simp [names])

end TypedClient.Emission
