import TypedClient.Proofs.Mapping.TypeMeaning

/-!
What the rules see in a name: its last part, whether the framework may own it, and whether it is
TypeScript already. A name that the framework does not own is known to no rule for wrappers and scalars.
-/

namespace TypedClient

namespace Text

variable {separates : Char → Bool}

theorem piecesWhole {text : Text} (free : ∀ c ∈ text, separates c = false) :
    pieces separates text = [text] := by
  induction text with
  | nil => rfl
  | cons c rest ih =>
    have here : separates c = false := free c List.mem_cons_self
    rw [pieces, here, ih fun d member => free d (List.mem_cons_of_mem _ member)]
    rfl

theorem piecesAppend {c : Char} (separator : separates c = true) (front rest : Text) :
    pieces separates (front ++ c :: rest) = pieces separates front ++ pieces separates rest := by
  induction front with
  | nil => simp [pieces, separator]
  | cons d others ih =>
    simp only [List.cons_append, pieces, ih]
    split
    · rfl
    · obtain ⟨first, later, whole⟩ := List.exists_cons_of_ne_nil (piecesNonempty separates others)
      rw [whole]
      rfl

end Text

namespace Mapping

variable {mapping : Mapping} {name last word : Text} {arguments : List Signature}

structure LastPart (name last : Text) : Prop where
  whole : ∀ c ∈ last, nameSeparator c = false
  ends : name = last ∨ ∃ front c, nameSeparator c = true ∧ name = front ++ c :: last

theorem lastPartExists (name : Text) : ∃ last, LastPart name last := by
  induction name with
  | nil => exact ⟨[], by simp, .inl rfl⟩
  | cons c rest ih =>
    obtain ⟨last, whole, ends⟩ := ih
    rcases ends with rfl | ⟨front, d, separator, rfl⟩
    · cases here : nameSeparator c with
      | true => exact ⟨rest, whole, .inr ⟨[], c, here, rfl⟩⟩
      | false => exact ⟨c :: rest, by simpa [here] using whole, .inl rfl⟩
    · exact ⟨last, whole, .inr ⟨c :: front, d, separator, rfl⟩⟩

theorem simpleNameLast (part : LastPart name last) : simpleName name = last := by
  have alone : Text.pieces nameSeparator last = [last] := Text.piecesWhole part.whole
  change ((Text.pieces nameSeparator name).getLast?).getD [] = last
  rcases part.ends with rfl | ⟨front, c, separator, rfl⟩
  · rw [alone]
    rfl
  · rw [Text.piecesAppend separator, alone, List.getLast?_concat]
    rfl

theorem simpleNameIff : simpleName name = last ↔ LastPart name last := by
  refine ⟨?_, simpleNameLast⟩
  rintro rfl
  obtain ⟨last, part⟩ := lastPartExists name
  exact simpleNameLast part ▸ part

/- Bare names belong to nobody, so the framework may own them. -/
def MayBeFramework (name : Text) : Prop :=
  '.' ∉ name ∨ ("System." : Text) <+: name ∨ ("Microsoft." : Text) <+: name

instance (name : Text) : Decidable (MayBeFramework name) :=
  inferInstanceAs (Decidable (_ ∨ _ ∨ _))

theorem frameworkIff : frameworkName? name = some word ↔ MayBeFramework name ∧ LastPart name word := by
  simp only [frameworkName?, MayBeFramework, List.isPrefixOf_iff_prefix, Option.ite_none_right_eq_some,
    Option.some.injEq, simpleNameIff]

theorem frameworkNone : frameworkName? name = none ↔ ¬ MayBeFramework name := by
  simp [frameworkName?, MayBeFramework, List.isPrefixOf_iff_prefix]

structure Unqualified (mapping : Mapping) (name : Text) : Prop where
  noModule : ¬ modulePrefix <+: name
  noQualifier : mapping.qualifier = [] ∨ ¬ mapping.qualifier <+: name

instance (mapping : Mapping) (name : Text) : Decidable (Unqualified mapping name) :=
  decidable_of_iff (¬ modulePrefix <+: name ∧ (mapping.qualifier = [] ∨ ¬ mapping.qualifier <+: name))
    ⟨fun ⟨noModule, noQualifier⟩ => ⟨noModule, noQualifier⟩,
     fun unqualified => ⟨unqualified.noModule, unqualified.noQualifier⟩⟩

def IsTypeScript (alone : Bool) (name : Text) : Prop :=
  if alone then name ∈ builtinTypes ∨ '|' ∈ name ∨ isPlaceholder name = true
  else name ∈ genericTypes

theorem unqualifiedIff : Unqualified mapping name ↔ (modulePrefix.isPrefixOf name ||
    (!mapping.qualifier.isEmpty && mapping.qualifier.isPrefixOf name)) = false := by
  rw [Bool.or_eq_false_iff, Bool.and_eq_false_iff, Bool.not_eq_false', List.isEmpty_iff]
  simp only [Bool.eq_false_iff, List.isPrefixOf_iff_prefix, ne_eq]
  exact ⟨fun ⟨noModule, noQualifier⟩ => ⟨noModule, noQualifier⟩,
    fun ⟨noModule, noQualifier⟩ => ⟨noModule, noQualifier⟩⟩

theorem sourceIff {node : Signature} : mapping.isTarget node = false ↔
    Unqualified mapping node.name ∧ ¬ IsTypeScript node.arguments.isEmpty node.name := by
  rw [unqualifiedIff, isTarget, Bool.or_eq_false_iff]
  refine and_congr_right fun _ => ?_
  cases node.arguments.isEmpty with
  | true => simp [IsTypeScript, and_assoc]
  | false => simp [IsTypeScript]

theorem placeholderSigns (placeholder : isPlaceholder name = true) :
    ∀ c ∈ name, c = 'T' ∨ c = '\n' ∨ Text.decimalDigit c = true := by
  unfold isPlaceholder at placeholder
  split at placeholder
  · rename_i rest
    simp only [Bool.and_eq_true, List.all_eq_true] at placeholder
    obtain ⟨_, digits⟩ := placeholder
    intro c member
    rcases List.mem_cons.mp member with rfl | later
    · exact .inl rfl
    · refine .inr ?_
      cases cut : Text.before? ['\n'] rest with
      | none =>
        rw [cut] at digits
        exact .inr (digits c later)
      | some front =>
        rw [cut] at digits
        rw [Text.beforeEqSome.mp cut, List.mem_append, List.mem_singleton] at later
        exact later.symm.imp_right (digits c)
  · contradiction

def sourceSigns : List Char :=
  ['.', '<', '>']

theorem notTypeScript {c : Char} (member : c ∈ name) (sign : c ∈ sourceSigns) (noUnion : '|' ∉ name)
    (alone : Bool) : ¬ IsTypeScript alone name := by
  have without : ∀ word ∈ builtinTypes ++ genericTypes, word.all (· ∉ sourceSigns) = true := by
    decide +kernel
  have listed : name ∉ builtinTypes ++ genericTypes := fun among =>
    of_decide_eq_true (List.all_eq_true.mp (without name among) c member) sign
  rw [List.mem_append, not_or] at listed
  cases alone with
  | false => exact listed.2
  | true =>
    rintro (builtin | union | placeholder)
    · exact listed.1 builtin
    · exact noUnion union
    · have noDigit : sourceSigns.any Text.decimalDigit = false := by decide
      rcases placeholderSigns placeholder c member with rfl | rfl | digit
      · exact absurd sign (by decide)
      · exact absurd sign (by decide)
      · exact List.any_eq_false.mp noDigit c sign digit

theorem scalarForeign (foreign : ¬ MayBeFramework name) : scalar? name = none := by
  have owned : ∀ entry ∈ scalarPrefixes,
      ("System." : Text) <+: entry.1 ∨ ("Microsoft." : Text) <+: entry.1 := by decide +kernel
  obtain ⟨dotted, noSystem, noMicrosoft⟩ :
      '.' ∈ name ∧ ¬ ("System." : Text) <+: name ∧ ¬ ("Microsoft." : Text) <+: name := by
    simpa [MayBeFramework] using foreign
  have unknown : scalar?.prefixed name = none := by
    rw [scalar?.prefixed, Option.map_eq_none_iff, List.find?_eq_none]
    intro entry member begins
    have start := List.isPrefixOf_iff_prefix.mp begins
    rcases owned entry member with system | microsoft
    · exact noSystem (system.trans start)
    · exact noMicrosoft (microsoft.trans start)
  unfold scalar?
  split
  · rw [if_pos dotted, unknown]
  · exact unknown

theorem startsApart {first second : Text} (apart : ¬ first <+: second ∧ ¬ second <+: first)
    (begins : first <+: name) : ¬ second <+: name :=
  fun other => (List.prefix_or_prefix_of_prefix begins other).elim apart.1 apart.2

theorem frameworkNoModule (framework : MayBeFramework name) : ¬ modulePrefix <+: name := by
  rcases framework with bare | system | microsoft
  · exact fun begins => bare (begins.subset (by decide))
  · exact startsApart (by decide) system
  · exact startsApart (by decide) microsoft

theorem plainNode (noArray : name ≠ Signature.arrayName) :
    (Signature.node name arguments).isArray = false := by
  simpa [Signature.isArray, Signature.name] using noArray

theorem wrapperKnown (framework : MayBeFramework name) (noArray : name ≠ Signature.arrayName) :
    nodeWrapper? (.node name arguments) =
      wrapperRule? false (some (simpleName name)) arguments.length := by
  have known : frameworkName? name = some (simpleName name) :=
    frameworkIff.mpr ⟨framework, simpleNameIff.mp rfl⟩
  simp only [nodeWrapper?, plainNode noArray, Signature.name, known, Bool.false_eq_true, if_false]
  rfl

theorem wrapperForeign (foreign : ¬ MayBeFramework name) (noArray : name ≠ Signature.arrayName) :
    nodeWrapper? (.node name arguments) = none := by
  simp only [nodeWrapper?, plainNode noArray, Signature.name, frameworkNone.mpr foreign,
    Bool.false_eq_true, if_false]
  rcases arguments with _ | ⟨_, _ | ⟨_, _ | ⟨_, _⟩⟩⟩ <;> rfl

variable {node : Signature}

theorem ruleWrapped {rule : Rule} (source : mapping.isTarget node = false)
    (wrapped : nodeWrapper? node = some rule) : mapping.ruleOf node = rule := by
  rw [ruleOf, source, wrapped]
  rfl

theorem ruleScalar {type : Text} (source : mapping.isTarget node = false)
    (bare : nodeWrapper? node = none) (scalar : scalar? node.name = some type) :
    mapping.ruleOf node = .fixed type := by
  rw [ruleOf, source, bare, scalar]
  rfl

theorem ruleOther (source : mapping.isTarget node = false) (bare : nodeWrapper? node = none)
    (unknown : scalar? node.name = none) :
    mapping.ruleOf node =
      if mapping.isDomain node.name then .reference (mapping.qualifier ++ simpleName node.name)
      else .fixed anyType := by
  rw [ruleOf, source, bare, unknown]
  rfl

theorem ruleForeign (source : mapping.isTarget (.node name arguments) = false)
    (foreign : ¬ MayBeFramework name) :
    mapping.ruleOf (.node name arguments) =
      if mapping.isDomain name then .reference (mapping.qualifier ++ simpleName name)
      else .fixed anyType := by
  have noArray : name ≠ Signature.arrayName := by
    rintro rfl
    exact foreign (by decide)
  exact ruleOther source (wrapperForeign foreign noArray) (scalarForeign foreign)

end Mapping

end TypedClient
