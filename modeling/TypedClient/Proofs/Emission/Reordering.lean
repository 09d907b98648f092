import TypedClient.Proofs.Emission.Accounting

/-!
A type table in another order. Which types are generated is settled by their bases, and a
declaration is written from what is found under keys and from which names are declared. So where no
two types compete for a display name, the order of the table shows only in the order of the results.
-/

namespace TypedClient

namespace DeclarationScope

structure Alike (first second : DeclarationScope) : Prop where
  configuration : first.configuration = second.configuration
  found : ∀ key, Assoc.find? key first.types = Assoc.find? key second.types
  declared : ∀ name, name ∈ first.declared ↔ name ∈ second.declared

variable {first second : DeclarationScope}

theorem baseAlike (alike : Alike first second) (type : DataType) :
    first.base? type = second.base? type := by
  simp only [base?, alike.found]

theorem mappedAlike (alike : Alike first second) (type : DataType) :
    first.mapped type = second.mapped type := by
  funext text
  rw [mapped, mapped, mapping, mapping, alike.configuration]

theorem referredAlike (alike : Alike first second) (type : DataType) :
    first.referred type = second.referred type := by
  funext text
  simp only [referred, mapping, alike.configuration, alike.declared]

theorem importsAlike (alike : Alike first second) (type : DataType) :
    first.imports type = second.imports type := by
  unfold imports
  rw [baseAlike alike, referredAlike alike]

theorem commentAlike (alike : Alike first second) (summary : Option Text) :
    first.memberComment summary = second.memberComment summary := by
  rw [memberComment, memberComment, alike.configuration]

theorem headerAlike (alike : Alike first second) (type : DataType) :
    first.header type = second.header type := by
  have reference : first.baseReference type = second.baseReference type := by
    rw [baseReference, baseReference, baseAlike alike, mappedAlike alike]
  rw [header, header, reference, alike.configuration]

theorem recordAlike (alike : Alike first second) (type : DataType) :
    first.recordLines type = second.recordLines type := by
  have properties : first.propertyLines type = second.propertyLines type := by
    funext property
    rw [propertyLines, propertyLines, commentAlike alike, mappedAlike alike]
  rw [recordLines, recordLines, headerAlike alike, properties, alike.configuration]

theorem enumAlike (alike : Alike first second) (type : DataType) :
    first.enumLines type = second.enumLines type := by
  have members : first.memberLines = second.memberLines := by
    funext member
    rw [memberLines, memberLines, commentAlike alike]
  rw [enumLines, enumLines, members]

theorem renderAlike (alike : Alike first second) (type : DataType) :
    first.render type = second.render type := by
  have documentation : first.documentation type = second.documentation type := by
    unfold documentation
    rw [alike.configuration]
  rw [render, render, documentation, enumAlike alike, importsAlike alike, recordAlike alike]

end DeclarationScope

namespace Emission

open Assoc (keys)

variable {configuration : Configuration} {types shuffled order left : TypeTable} {emission : Emission}

theorem parentFound (same : ∀ key, Assoc.find? key types = Assoc.find? key shuffled) :
    parent types = parent shuffled := by
  have member : ∀ base, base ∈ keys types ↔ base ∈ keys shuffled := by
    intro base
    rw [← not_iff_not, ← Assoc.findEqNone, ← Assoc.findEqNone, same]
  funext key
  simp only [parent, same, member]

theorem ancestorFound (same : ∀ key, Assoc.find? key types = Assoc.find? key shuffled)
    (key : Text) (steps : Nat) : ancestor types key steps = ancestor shuffled key steps := by
  induction steps with
  | zero => rfl
  | succ steps ih => rw [ancestor, ancestor, ih, parentFound same]

theorem rootedFound (same : ∀ key, Assoc.find? key types = Assoc.find? key shuffled) {key : Text}
    (rooted : Rooted configuration types key) : Rooted configuration shuffled key := by
  obtain ⟨ends, inside⟩ := rooted
  simp only [ancestorFound same, parentFound same, same] at ends inside
  exact ⟨ends, inside⟩

theorem rootedPerm (once : (keys types).Nodup) (reordered : types.Perm shuffled) {key : Text} :
    Rooted configuration types key ↔ Rooted configuration shuffled key := by
  have same := Assoc.findPerm once reordered
  exact ⟨rootedFound same, rootedFound fun key => (same key).symm⟩

theorem memGeneratedTypes (once : (keys types).Nodup) {entry : Text × DataType} :
    entry ∈ generatedTypes configuration types ↔
      entry ∈ types ∧ Rooted configuration types entry.1 := by
  rw [memGenerated, Assoc.findIff once, and_comm]
  exact and_congr_right fun _ =>
    ⟨settledRooted configuration types once entry.1, settledOfRooted configuration types once⟩

theorem memLeft (once : (keys types).Nodup) {key : Text} :
    key ∈ keys (settled configuration types).1 ↔
      ∃ type, (key, type) ∈ pendingTypes configuration types ∧ ¬ Rooted configuration types key := by
  constructor
  · intro waiting
    obtain ⟨type, member⟩ := Assoc.memKeys.mp waiting
    refine ⟨type, (settledOutcome configuration types).inOrder.subset member, fun rooted => ?_⟩
    exact settledDisjoint configuration types once
      (settledOfRooted configuration types once rooted) waiting
  · rintro ⟨type, pending, stray⟩
    obtain ⟨listed, own⟩ := memPendingTypes.mp pending
    refine (settledCovers configuration types (Assoc.findOfMember once listed) own).resolve_left ?_
    exact fun generated => stray (settledRooted configuration types once key generated)

theorem writtenApart {seen : List Text} {order : TypeTable} (apart : (seen ++ namesOf order).Nodup) :
    written seen order = order.filter fun entry => !unnamed entry := by
  induction order generalizing seen with
  | nil => rfl
  | cons entry rest ih =>
    obtain ⟨key, type⟩ := entry
    by_cases nameless : type.name = []
    · have rest : (seen ++ namesOf rest).Nodup := by simpa [namesOf, nameless] using apart
      simp [written, unnamed, nameless, ih rest]
    · have named : namesOf ((key, type) :: rest) = type.name :: namesOf rest := by
        simp [namesOf, nameless]
      rw [named] at apart
      have fresh : type.name ∉ seen := fun old =>
        (List.nodup_append.mp apart).2.2 _ old _ List.mem_cons_self rfl
      have longer : (seen ++ [type.name] ++ namesOf rest).Nodup := by simpa using apart
      simp [written, nameless, fresh, ih longer, unnamed]

theorem namesPerm {table other : TypeTable} (reordered : table.Perm other) :
    (namesOf table).Perm (namesOf other) :=
  (reordered.map _).filter _

theorem pendingPerm (reordered : types.Perm shuffled) :
    (pendingTypes configuration types).Perm (pendingTypes configuration shuffled) :=
  reordered.filter _

/- Which types are declared is told without the run, where their names are apart. -/
theorem memDeclaredTypes (once : (keys types).Nodup)
    (apart : (namesOf (pendingTypes configuration types)).Nodup) {entry : Text × DataType} :
    entry ∈ declaredTypes configuration types ↔
      (entry ∈ types ∧ Rooted configuration types entry.1) ∧ entry.2.name ≠ [] := by
  have whole := (namesPerm (generatedWhole configuration once)).nodup_iff.mpr apart
  rw [namesOf, List.map_append, List.filter_append] at whole
  have all : declaredTypes configuration types =
      (generatedTypes configuration types).filter fun entry => !unnamed entry :=
    writtenApart (List.nodup_append.mp whole).1
  rw [all, List.mem_filter, memGeneratedTypes once]
  simp [unnamed]

theorem accountFind (account : Account configuration types order left emission)
    (once : (keys types).Nodup) {file : Text} (declaration : file ≠ indexFile) :
    Assoc.find? file emission.files =
      Assoc.find? file ((declaredTypes configuration types).map
        (declarationFile (scopeOf configuration types))) := by
  rw [accountFiles account once]
  by_cases empty : emission.names = []
  · have none := List.map_eq_nil_iff.mp ((accountNames account once).symm.trans empty)
    rw [if_pos empty, none]
    rfl
  · rw [if_neg empty, Assoc.findPut, if_neg (Ne.symm declaration)]

theorem nodupDeclarations (configuration : Configuration) (types : TypeTable) :
    (keys ((declaredTypes configuration types).map
      (declarationFile (scopeOf configuration types)))).Nodup := by
  have files : keys ((declaredTypes configuration types).map
      (declarationFile (scopeOf configuration types))) =
        ((declaredTypes configuration types).map (·.2.name)).map fileName := by
    simp [keys, declarationFile]
  rw [files]
  exact (nodupDeclared configuration types).map fun _ _ => fileNameInjective

theorem scopeAlike (once : (keys types).Nodup) (reordered : types.Perm shuffled) :
    DeclarationScope.Alike (scopeOf configuration types) (scopeOf configuration shuffled) :=
  ⟨rfl, Assoc.findPerm once reordered, fun _ => (namesPerm (pendingPerm reordered)).mem_iff⟩

theorem declaredPerm (once : (keys types).Nodup)
    (apart : (namesOf (pendingTypes configuration types)).Nodup) (reordered : types.Perm shuffled) :
    (declaredTypes configuration types).Perm (declaredTypes configuration shuffled) := by
  have still : (keys shuffled).Nodup := (Assoc.keysPerm reordered).nodup_iff.mp once
  have apartStill := (namesPerm (pendingPerm reordered)).nodup_iff.mp apart
  refine (List.perm_ext_iff_of_nodup (.of_map _ (nodupDeclared _ _))
    (.of_map _ (nodupDeclared _ _))).mpr fun entry => ?_
  rw [memDeclaredTypes once apart, memDeclaredTypes still apartStill, reordered.mem_iff,
    rootedPerm once reordered]

theorem nodupLeft (configuration : Configuration) (once : (keys types).Nodup) :
    (keys (settled configuration types).1).Nodup :=
  once.sublist
    (((settledOutcome configuration types).inOrder.trans List.filter_sublist).map Prod.fst)

theorem leftPerm (once : (keys types).Nodup) (reordered : types.Perm shuffled) :
    (keys (settled configuration types).1).Perm (keys (settled configuration shuffled).1) := by
  have still : (keys shuffled).Nodup := (Assoc.keysPerm reordered).nodup_iff.mp once
  refine (List.perm_ext_iff_of_nodup (nodupLeft _ once) (nodupLeft _ still)).mpr fun key => ?_
  simp only [memLeft once, memLeft still, (pendingPerm reordered).mem_iff, rootedPerm once reordered]

theorem filesReordered {other : Emission} {otherOrder otherLeft : TypeTable}
    (account : Account configuration types order left emission)
    (twin : Account configuration shuffled otherOrder otherLeft other)
    (once : (keys types).Nodup) (apart : (namesOf (pendingTypes configuration types)).Nodup)
    (reordered : types.Perm shuffled) {file : Text} (declaration : file ≠ indexFile) :
    Assoc.find? file emission.files = Assoc.find? file other.files := by
  have still : (keys shuffled).Nodup := (Assoc.keysPerm reordered).nodup_iff.mp once
  have same : declarationFile (scopeOf configuration types) =
      declarationFile (scopeOf configuration shuffled) := by
    funext entry
    rw [declarationFile, declarationFile,
      DeclarationScope.renderAlike (scopeAlike once reordered)]
  rw [accountFind account once declaration, accountFind twin still declaration, ← same]
  exact Assoc.findPerm (nodupDeclarations configuration types)
    ((declaredPerm once apart reordered).map _) file

theorem declaredNotIndex (once : (keys types).Nodup)
    (apart : (namesOf (pendingTypes configuration types)).Nodup)
    (plain : ("index" : Text) ∉ namesOf (pendingTypes configuration types))
    {entry : Text × DataType} (member : entry ∈ declaredTypes configuration types) :
    fileName entry.2.name ≠ indexFile := by
  obtain ⟨⟨listed, rooted⟩, named⟩ := (memDeclaredTypes once apart).mp member
  obtain ⟨type, found, own⟩ := rooted.inside 0 entry.1 rfl
  cases Option.some.inj (found.symm.trans (Assoc.findOfMember once listed))
  intro same
  have index : entry.2.name = "index" := fileNameInjective (same.trans (by decide))
  exact plain (memNamesOf.mpr ⟨by decide, entry, memPendingTypes.mpr ⟨listed, own⟩, index⟩)

theorem declaredFile (account : Account configuration types order left emission)
    (once : (keys types).Nodup) {entry : Text × DataType}
    (member : entry ∈ declaredTypes configuration types)
    (declaration : fileName entry.2.name ≠ indexFile) :
    Assoc.find? (fileName entry.2.name) emission.files =
      some ((scopeOf configuration types).render entry.2) := by
  rw [accountFind account once declaration]
  exact Assoc.findOfMember (nodupDeclarations configuration types)
    (List.mem_map.mpr ⟨entry, member, rfl⟩)

theorem orderIrrelevant (once : (keys types).Nodup)
    (apart : (namesOf (pendingTypes configuration types)).Nodup)
    (plain : ("index" : Text) ∉ namesOf (pendingTypes configuration types))
    (lenient : configuration.cyclePolicy ≠ .error) (reordered : types.Perm shuffled) :
    ∃ first second, ofTypes configuration types = .ok first ∧
      ofTypes configuration shuffled = .ok second ∧
      first.names.Perm second.names ∧
      (∀ name ∈ first.names, ∃ source,
        Assoc.find? (fileName name) first.files = some source ∧
        Assoc.find? (fileName name) second.files = some source) ∧
      (∀ file, file ≠ indexFile →
        Assoc.find? file first.files = Assoc.find? file second.files) ∧
      first.unresolved.Perm second.unresolved ∧ first.skipped.Perm second.skipped := by
  obtain ⟨first, ok⟩ := ofTypesTotal types lenient
  obtain ⟨second, okStill⟩ := ofTypesTotal shuffled lenient
  obtain ⟨order, account⟩ := accountOfOk ok
  obtain ⟨otherOrder, twin⟩ := accountOfOk okStill
  have still : (keys shuffled).Nodup := (Assoc.keysPerm reordered).nodup_iff.mp once
  have files : ∀ file, file ≠ indexFile →
      Assoc.find? file first.files = Assoc.find? file second.files := fun _ =>
    filesReordered account twin once apart reordered
  refine ⟨first, second, ok, okStill, ?_, ?_, files, ?_, ?_⟩
  · rw [accountNames account once, accountNames twin still]
    exact (declaredPerm once apart reordered).map _
  · intro name member
    rw [accountNames account once] at member
    obtain ⟨entry, declared, rfl⟩ := List.mem_map.mp member
    have declaration := declaredNotIndex once apart plain declared
    have source := declaredFile account once declared declaration
    exact ⟨_, source, (files _ declaration).symm.trans source⟩
  · rw [account.unresolved, twin.unresolved]
    exact leftPerm once reordered
  · rw [account.skipped, twin.skipped]
    exact (reordered.filter _).map Prod.fst

def chainTypes : TypeTable :=
  [("Vendor.Thing", ⟨"Thing", some "Vendor", none, [], [], [], none, none⟩),
    ("Shop.Leaf", shopType "Leaf" (some "Shop.Middle")),
    ("Shop.Middle", shopType "Middle" (some "Shop.Root")),
    ("Shop.Loop", shopType "Loop" (some "Shop.Loop")), ("Shop.Root", shopType "Root" none),
    ("Shop.Other", shopType "Other" none)]

theorem orderIrrelevantReversed :
    (keys chainTypes).Nodup ∧ (namesOf (pendingTypes shopConfiguration chainTypes)).Nodup ∧
    ("index" : Text) ∉ namesOf (pendingTypes shopConfiguration chainTypes) ∧
    shopConfiguration.cyclePolicy ≠ .error ∧
    ∃ first second, ofTypes shopConfiguration chainTypes = .ok first ∧
      ofTypes shopConfiguration chainTypes.reverse = .ok second ∧
      first.names = ["Root", "Other", "Middle", "Leaf"] ∧ first.names.Perm second.names ∧
      (∀ file, file ≠ indexFile →
        Assoc.find? file first.files = Assoc.find? file second.files) ∧
      first.unresolved.Perm second.unresolved ∧ first.skipped.Perm second.skipped := by
  have once : (keys chainTypes).Nodup := by decide
  have apart : (namesOf (pendingTypes shopConfiguration chainTypes)).Nodup := by decide
  have plain : ("index" : Text) ∉ namesOf (pendingTypes shopConfiguration chainTypes) := by decide
  have lenient : shopConfiguration.cyclePolicy ≠ .error := by decide
  have run : (ofTypes shopConfiguration chainTypes).toOption.any (fun emission =>
      emission.names = ["Root", "Other", "Middle", "Leaf"].map String.toList) = true := by
    decide +kernel
  obtain ⟨emission, shown, found⟩ := Results.okOfAny run
  obtain ⟨first, second, ok, okReversed, names, _, files, unresolved, skipped⟩ :=
    orderIrrelevant once apart plain lenient chainTypes.reverse_perm.symm
  cases Except.ok.inj (shown.symm.trans ok)
  exact ⟨once, apart, plain, lenient, emission, second, ok, okReversed, of_decide_eq_true found,
    names, files, unresolved, skipped⟩

end Emission

end TypedClient
