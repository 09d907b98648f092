import TypedClient.Proofs.Mapping.Names
import TypedClient.Proofs.Mapping.References
import TypedClient.Proofs.Signature.Reading

/-!
Malformed signatures in the mapping. A text that cannot be read becomes a name with brackets in it, and
the rules look at that name as at any other. It is mapped to `any` and names no types exactly where they
recognize nothing in it.
-/

namespace TypedClient

namespace Text

theorem lowerKeeps {c : Char} (same : lowerChar c = [c]) (noSigma : c.toNat ≠ 0x3A3) {text : Text}
    (member : c ∈ text) : c ∈ lower text := by
  have every : ∀ before, c ∈ lowerFrom before text := by
    induction text with
    | nil => contradiction
    | cons d rest ih =>
      intro before
      rw [lowerFrom, List.mem_append]
      rcases List.mem_cons.mp member with rfl | later
      · exact .inl (by simp [noSigma, same])
      · exact .inr (ih later _)
  exact every []

end Text

namespace Mapping

open Signature (leaf IsBroken)

variable {mapping : Mapping} {name text : Text}

theorem prefixesAgree {first second : Text × Text} (here : first ∈ scalarPrefixes)
    (there : second ∈ scalarPrefixes) (begins : first.1 <+: name) (begins' : second.1 <+: name) :
    first.2 = second.2 := by
  have nested : ∀ first ∈ scalarPrefixes, ∀ second ∈ scalarPrefixes,
      first.1 <+: second.1 → first.2 = second.2 := by decide +kernel
  rcases List.prefix_or_prefix_of_prefix begins begins' with inner | outer
  · exact nested first here second there inner
  · exact (nested second there first here outer).symm

theorem prefixedIff {type : Text} : scalar?.prefixed name = some type ↔
    ∃ start, (start, type) ∈ scalarPrefixes ∧ start <+: name := by
  have first : scalar?.prefixed name =
      (scalarPrefixes.find? fun entry => entry.1.isPrefixOf name).map (·.2) := rfl
  rw [first, Option.map_eq_some_iff]
  constructor
  · rintro ⟨entry, found, rfl⟩
    have begins := List.find?_some found
    exact ⟨entry.1, List.mem_of_find?_eq_some found, List.isPrefixOf_iff_prefix.mp begins⟩
  · rintro ⟨start, listed, begins⟩
    cases found : scalarPrefixes.find? fun entry => entry.1.isPrefixOf name with
    | none =>
      have never := List.find?_eq_none.mp found (start, type) listed
      exact absurd (List.isPrefixOf_iff_prefix.mpr begins) never
    | some entry =>
      have earlier := List.find?_some found
      exact ⟨entry, rfl, prefixesAgree (List.mem_of_find?_eq_some found) listed
        (List.isPrefixOf_iff_prefix.mp earlier) begins⟩

theorem brokenSource (broken : IsBroken name) (noUnion : '|' ∉ name) :
    mapping.isTarget (leaf name) = false ↔ Unqualified mapping name := by
  have foreign : ¬ IsTypeScript true name := by
    rcases broken with opening | closing
    · exact notTypeScript opening (by decide) noUnion true
    · exact notTypeScript closing (by decide) noUnion true
  exact sourceIff.trans (and_iff_left foreign)

theorem brokenScalar (broken : IsBroken name) : scalar? name = scalar?.prefixed name := by
  have plain : ∀ entry ∈ scalarAliases, ¬ IsBroken entry.1 := by decide +kernel
  have lowered : IsBroken (Text.lower name) := by
    refine broken.imp (Text.lowerKeeps ?_ ?_) (Text.lowerKeeps ?_ ?_) <;> decide
  have unlisted : scalarAliases.lookup (Text.lower name) = none := by
    rw [List.lookup_eq_none_iff]
    intro entry member
    exact bne_iff_ne.mpr (lowered.ne (plain entry member))
  rw [scalar?, unlisted]

/- A name without arguments in which the rules recognize nothing but what is `any` anyway. -/
structure Unrecognized (mapping : Mapping) (name : Text) : Prop where
  unqualified : Unqualified mapping name
  noCollection : MayBeFramework name → simpleName name ∉ sequenceNames ++ asyncNames
  noScalar : ∀ entry ∈ scalarPrefixes, entry.1 <+: name → entry.2 = anyType
  foreign : mapping.isDomain name = false

theorem leafWrapper (noArray : name ≠ Signature.arrayName) : nodeWrapper? (leaf name) =
    if MayBeFramework name then
      if simpleName name ∈ sequenceNames then some .anySequence
      else if simpleName name ∈ asyncNames then some (.fixed voidType)
      else none
    else none := by
  split
  · rename_i framework
    rw [leaf, wrapperKnown framework noArray]
    simp [wrapperRule?]
  · rename_i foreign
    exact wrapperForeign foreign noArray

theorem leafWrapperNone (noArray : name ≠ Signature.arrayName) : nodeWrapper? (leaf name) = none ↔
    (MayBeFramework name → simpleName name ∉ sequenceNames ++ asyncNames) := by
  rw [leafWrapper noArray, List.mem_append, not_or]
  grind

theorem leafWrapperText {rule : Rule} (noArray : name ≠ Signature.arrayName)
    (wrapped : nodeWrapper? (leaf name) = some rule) : rule.text [] ≠ anyType := by
  rw [leafWrapper noArray] at wrapped
  have known : rule = .anySequence ∨ rule = .fixed voidType := by grind
  rcases known with rfl | rfl <;> decide

theorem leafMap (mapping : Mapping) (name : Text) :
    mapping.map [] (leaf name) = (mapping.ruleOf (leaf name)).text [] :=
  mapRule mapping name []

theorem leafReferences (source : mapping.isTarget (leaf name) = false) :
    mapping.references [] (leaf name) = if mapping.isDomain name then [simpleName name] else [] := by
  have visible : Open mapping [] (.node name []) := ⟨rfl, source⟩
  rw [references, leaf, Signature.foldNode, referencesOpen visible]
  change Text.distinct ((if mapping.isDomain name then [simpleName name] else []) ++ []) = _
  split <;> rfl

theorem brokenAnyIff (broken : IsBroken name) (noUnion : '|' ∉ name) :
    (mapping.map [] (leaf name) = anyType ∧ mapping.references [] (leaf name) = []) ↔
      Unrecognized mapping name := by
  have noArray : name ≠ Signature.arrayName := broken.ne (by decide)
  by_cases unqualified : Unqualified mapping name
  · have source := (brokenSource broken noUnion).mpr unqualified
    rw [leafReferences source, leafMap]
    constructor
    · rintro ⟨mapped, unnamed⟩
      have bare : nodeWrapper? (leaf name) = none := by
        cases wrapped : nodeWrapper? (leaf name) with
        | none => rfl
        | some rule =>
          rw [ruleWrapped source wrapped] at mapped
          exact absurd mapped (leafWrapperText noArray wrapped)
      refine ⟨unqualified, (leafWrapperNone noArray).mp bare, fun entry listed begins => ?_, ?_⟩
      · have scalar : scalar? name = some entry.2 :=
          (brokenScalar broken).trans (prefixedIff.mpr ⟨entry.1, listed, begins⟩)
        rw [ruleScalar source bare scalar] at mapped
        exact mapped
      · simpa using unnamed
    · rintro ⟨_, noCollection, noScalar, foreign⟩
      have bare := (leafWrapperNone noArray).mpr noCollection
      refine ⟨?_, by rw [foreign]; rfl⟩
      cases scalar : scalar? name with
      | some type =>
        obtain ⟨start, listed, begins⟩ := prefixedIff.mp ((brokenScalar broken).symm.trans scalar)
        rw [ruleScalar source bare scalar]
        exact noScalar (start, type) listed begins
      | none =>
        have other : mapping.ruleOf (leaf name) = .fixed anyType := by
          rw [ruleOther source bare scalar]
          exact if_neg (Bool.eq_false_iff.mp foreign)
        rw [other]
        rfl
  · have target : mapping.isTarget (leaf name) = true :=
      Bool.of_not_eq_false fun source => unqualified ((brokenSource broken noUnion).mp source)
    refine ⟨fun ⟨mapped, _⟩ => ?_, fun unrecognized => absurd unrecognized.unqualified unqualified⟩
    rw [leaf, mapTarget target] at mapped
    exact absurd mapped (broken.ne (by decide))

theorem malformedAnyIff (malformed : (Signature.parse text).isMalformed = true) (noUnion : '|' ∉ text) :
    (mapping.mapText [] text = anyType ∧ mapping.referencesText [] text = []) ↔
      Unrecognized mapping (Text.strip text) := by
  obtain ⟨alone, broken⟩ := Signature.malformedIff.mp malformed
  have whole := Signature.parseAlone alone
  rw [whole] at broken
  rw [mapText, referencesText, if_neg noUnion, if_neg noUnion, whole]
  exact brokenAnyIff broken fun member => noUnion ((Text.stripWithin text).subset member)

def modelsMapping : Mapping :=
  ofPrefix "Shop.Models" "types."

def unclosedPage : Text :=
  "Page<Shop.Models.Widget, System.List<int>"

theorem malformedAnyUnclosed :
    (Signature.parse unclosedPage).isMalformed = true ∧ Unrecognized modelsMapping unclosedPage ∧
      modelsMapping.mapText [] unclosedPage = anyType ∧
      modelsMapping.referencesText [] unclosedPage = [] := by
  have malformed : (Signature.parse unclosedPage).isMalformed = true := by decide +kernel
  have unrecognized : Unrecognized modelsMapping unclosedPage :=
    ⟨by decide, by decide, by decide +kernel, by decide⟩
  have trimmed : Text.strip unclosedPage = unclosedPage := by decide +kernel
  exact ⟨malformed, unrecognized,
    (malformedAnyIff malformed (by decide)).mpr (trimmed.symm ▸ unrecognized)⟩

theorem malformedMistaken :
    (modelsMapping.mapText [] "Shop.Models.Page<Shop.Models.Widget" = "types.Widget" ∧
      modelsMapping.referencesText [] "Shop.Models.Page<Shop.Models.Widget" = ["Widget"]) ∧
    modelsMapping.mapText [] "System.String<" = "string" ∧
    modelsMapping.mapText [] "System.Page<A>.List" = "any[]" ∧
    modelsMapping.mapText [] " types.Page<" = "types.Page<" ∧
    ¬ ∀ mapping text, '|' ∉ text → Unqualified mapping text →
      (Signature.parse text).isMalformed = true →
      mapping.mapText [] text = anyType ∧ mapping.referencesText [] text = [] := by
  have page : modelsMapping.mapText [] "Shop.Models.Page<Shop.Models.Widget" = "types.Widget" := by
    decide +kernel
  refine ⟨⟨page, by decide +kernel⟩, by decide +kernel, by decide +kernel, by decide +kernel,
    fun all => ?_⟩
  have degraded := all modelsMapping "Shop.Models.Page<Shop.Models.Widget" (by decide) (by decide)
    (by decide +kernel)
  exact absurd (page.symm.trans degraded.1) (by decide)

end Mapping

end TypedClient
