import TypedClient.Proofs.Declaration.Imports

/-!
The lines of a declaration file that import. Each stands for one name and shows it, and the lines after
them begin in other ways. No name is imported twice, and none is the own name of the type: neither from
the base nor from its arguments nor from a property.
-/

namespace TypedClient.DeclarationScope

variable {scope : DeclarationScope} {type : DataType} {name : Text}

def sourceLines (scope : DeclarationScope) (type : DataType) : List Text :=
  importBlock (scope.writtenImports type) ++ scope.body type

def isImport (line : Text) : Bool :=
  ("import " : Text).isPrefixOf line

/- The length of such a text settles where what stands in it twice ends. -/
theorem twiceInjective {opening between closing first second : Text}
    (same : opening ++ first ++ between ++ first ++ closing =
      opening ++ second ++ between ++ second ++ closing) : first = second := by
  have lengths := congrArg List.length same
  simp only [List.length_append] at lengths
  have long : first.length = second.length := by omega
  simp only [List.append_assoc, List.append_cancel_left_eq] at same
  exact (List.append_inj same long).1

theorem importLineInjective {first second : Text} (same : importLine first = importLine second) :
    first = second :=
  twiceInjective same

theorem importLineImports (name : Text) : isImport (importLine name) = true := rfl

theorem foreignComment (scope : DeclarationScope) (summary : Option Text) :
    ∀ line ∈ scope.memberComment summary, isImport line = false := by
  intro line member
  unfold memberComment at member
  dsimp only at member
  split at member
  · cases List.mem_singleton.mp member
    rfl
  · contradiction

theorem foreignDocumentation (scope : DeclarationScope) (type : DataType) :
    ∀ line ∈ scope.documentation type, isImport line = false := by
  intro line member
  unfold documentation at member
  dsimp only at member
  split at member
  · contradiction
  · simp only [List.mem_append, List.mem_cons, List.mem_map, List.not_mem_nil,
      or_false] at member
    rcases member with (rfl | ⟨text, _, rfl⟩) | rfl
    · rfl
    · rfl
    · rfl

theorem foreignRecord (scope : DeclarationScope) (type : DataType) :
    ∀ line ∈ scope.recordLines type, isImport line = false := by
  intro line member
  simp only [recordLines, List.mem_append, List.mem_cons, List.mem_flatMap,
    List.not_mem_nil, or_false] at member
  rcases member with (rfl | ⟨property, _, inside⟩) | rfl
  · unfold header
    dsimp only
    split
    · rfl
    · rfl
  · simp only [propertyLines, List.mem_append, List.mem_singleton] at inside
    rcases inside with commented | rfl
    · exact foreignComment scope _ line commented
    · rfl
  · split
    · rfl
    · rfl

theorem foreignEnum (scope : DeclarationScope) (type : DataType) :
    ∀ line ∈ scope.enumLines type, isImport line = false := by
  intro line member
  simp only [enumLines, List.mem_append, List.mem_cons, List.mem_flatMap,
    List.not_mem_nil, or_false] at member
  rcases member with (rfl | ⟨value, _, inside⟩) | rfl
  · rfl
  · simp only [memberLines, List.mem_append, List.mem_singleton] at inside
    rcases inside with commented | rfl
    · exact foreignComment scope _ line commented
    · rfl
  · rfl

theorem foreignBody (scope : DeclarationScope) (type : DataType) :
    ∀ line ∈ scope.body type, isImport line = false := by
  intro line member
  unfold body at member
  rcases List.mem_append.mp member with documented | declared
  · exact foreignDocumentation scope type line documented
  · split at declared
    · exact foreignEnum scope type line declared
    · exact foreignRecord scope type line declared

theorem importingLines (scope : DeclarationScope) (type : DataType) :
    (scope.sourceLines type).filter isImport = (scope.writtenImports type).map importLine := by
  have none : (scope.body type).filter isImport = [] := by
    refine List.filter_eq_nil_iff.mpr fun line member => ?_
    simp [foreignBody scope type line member]
  have each : ((scope.writtenImports type).map importLine).filter isImport =
      (scope.writtenImports type).map importLine := by
    refine List.filter_eq_self.mpr fun line member => ?_
    obtain ⟨name, _, rfl⟩ := List.mem_map.mp member
    exact importLineImports name
  rw [sourceLines, List.filter_append, none, List.append_nil, importBlock]
  split
  · rename_i empty
    rw [List.isEmpty_iff.mp empty]
    rfl
  · rw [List.filter_append, each]
    exact List.append_nil _

theorem baseForeign (imported : scope.importedBase? type = some name) : name ≠ type.name := by
  obtain ⟨base, _, shown⟩ := Option.bind_eq_some_iff.mp imported
  split at shown
  · contradiction
  · rename_i plain
    cases Option.some.inj shown
    exact (not_or.mp plain).2

theorem baseListed (imported : scope.importedBase? type = some name) :
    ∃ key base, type.baseType = some key ∧ Assoc.find? key scope.types = some base ∧
      base.name = name := by
  obtain ⟨base, extended, shown⟩ := Option.bind_eq_some_iff.mp imported
  unfold base? at extended
  split at extended
  · contradiction
  · rename_i key named
    split at extended
    · contradiction
    · split at shown
      · contradiction
      · exact ⟨key, base, named, extended, Option.some.inj shown⟩

theorem importedIff : name ∈ scope.writtenImports type ↔ type.isEnum = false ∧ name ≠ type.name ∧
    (scope.importedBase? type = some name ∨ scope.NamesOpenly type name ∧ name ∈ scope.declared) := by
  unfold writtenImports
  cases kind : type.isEnum with
  | true => simp
  | false =>
    rw [if_neg Bool.false_ne_true, memImports]
    constructor
    · rintro (ofBase | ⟨text, mapped, referred⟩)
      · exact ⟨rfl, baseForeign ofBase, .inl ofBase⟩
      · obtain ⟨named, declared, foreign⟩ := memReferred.mp referred
        exact ⟨rfl, foreign, .inr ⟨⟨text, mapped, named⟩, declared⟩⟩
    · rintro ⟨_, foreign, ofBase | ⟨⟨text, mapped, named⟩, declared⟩⟩
      · exact .inl ofBase
      · exact .inr ⟨text, mapped, memReferred.mpr ⟨named, declared, foreign⟩⟩

theorem importedOnce (scope : DeclarationScope) (type : DataType) :
    (scope.writtenImports type).Nodup := by
  unfold writtenImports
  split
  · exact List.nodup_nil
  · exact Text.nodupDistinct _

theorem importsOnce (scope : DeclarationScope) (type : DataType) :
    scope.render type = Text.lines (scope.sourceLines type) ++ ['\n'] ∧
    ((scope.sourceLines type).filter isImport).Nodup ∧
    (∀ line ∈ (scope.sourceLines type).filter isImport, ∃ name, line = importLine name ∧
      name ≠ type.name ∧
      ((∃ key base, type.baseType = some key ∧ Assoc.find? key scope.types = some base ∧
          base.name = name) ∨ name ∈ scope.declared)) ∧
    ∀ name, importLine name ∈ scope.sourceLines type ↔ type.isEnum = false ∧ name ≠ type.name ∧
      (scope.importedBase? type = some name ∨ scope.NamesOpenly type name ∧ name ∈ scope.declared) := by
  refine ⟨renderEq scope type, ?_, ?_, ?_⟩
  · rw [importingLines]
    exact (importedOnce scope type).map fun _ _ => importLineInjective
  · intro line member
    rw [importingLines] at member
    obtain ⟨name, imported, rfl⟩ := List.mem_map.mp member
    obtain ⟨_, foreign, ofBase | ⟨_, declared⟩⟩ := importedIff.mp imported
    · obtain ⟨key, base, named, found, same⟩ := baseListed ofBase
      exact ⟨name, rfl, foreign, .inl ⟨key, base, named, found, same⟩⟩
    · exact ⟨name, rfl, foreign, .inr declared⟩
  · intro name
    have listed : importLine name ∈ scope.sourceLines type ↔ name ∈ scope.writtenImports type := by
      have mapped : importLine name ∈ (scope.writtenImports type).map importLine ↔
          name ∈ scope.writtenImports type :=
        List.mem_map_of_injective fun _ _ => importLineInjective
      rw [← mapped, ← importingLines, List.mem_filter, and_iff_left (importLineImports name)]
    rw [listed, importedIff]

example : (orderScope "Shop.Order" "Shop.Widget").writtenImports
    (orderType "Shop.Order" "Shop.Widget") = ["Widget"].map String.toList := by decide +kernel

end TypedClient.DeclarationScope
