import TypedClient.Proofs.Mapping.Names
import TypedClient.Proofs.Text.Trimmed
import TypedClient.ReturnResolution

/-!
Types of results beside types of properties. The type of a result loses its asynchronous layers, which
are known by the last part of their names, and is mapped then; the type of a property is mapped as it
is, and the mapping lets only the framework's own layers through. So the two part at the outermost
layer that the mapping keeps, and a union is kept as it is written only for a property.
-/

namespace TypedClient.Mapping

variable {mapping : Mapping} {name : Text} {argument signature layer : Signature}

def keeps (mapping : Mapping) (layer : Signature) : Bool :=
  mapping.isTarget layer || (frameworkName? layer.name).isNone

def keptLayer? (mapping : Mapping) : Signature → Option Signature
  | .node name [argument] =>
    if simpleName name ∈ asyncNames then
      if mapping.keeps (.node name [argument]) then some (.node name [argument])
      else keptLayer? mapping argument
    else none
  | _ => none

theorem asyncNotArray (async : simpleName name ∈ asyncNames) : name ≠ Signature.arrayName := by
  rintro rfl
  exact absurd async (by decide)

theorem asyncCarried : ∀ word ∈ asyncNames, wrapperRule? false (some word) 1 = some .carried := by
  decide +kernel

theorem mapPassed (async : simpleName name ∈ asyncNames)
    (passed : mapping.keeps (.node name [argument]) = false) :
    mapping.map [] (.node name [argument]) = mapping.map [] argument := by
  obtain ⟨plain, known⟩ := Bool.or_eq_false_iff.mp passed
  have framework : MayBeFramework name := by
    by_contra foreign
    rw [Signature.name, frameworkNone.mpr foreign] at known
    contradiction
  have carried : nodeWrapper? (.node name [argument]) = some .carried :=
    (wrapperKnown framework (asyncNotArray async)).trans (asyncCarried _ async)
  rw [mapRule, ruleWrapped plain carried]
  rfl

def keptType (mapping : Mapping) (name : Text) (argument : Signature) : Text :=
  if mapping.isTarget (.node name [argument]) then applied name [mapping.map [] argument]
  else if mapping.isDomain name then
    applied (mapping.qualifier ++ simpleName name) [mapping.map [] argument]
  else anyType

theorem mapKept (kept : mapping.keeps (.node name [argument]) = true) :
    mapping.map [] (.node name [argument]) = mapping.keptType name argument := by
  rw [keptType]
  split
  · rename_i target
    exact mapTarget target
  · rename_i plain
    have source := Bool.eq_false_iff.mpr plain
    have foreign : ¬ MayBeFramework name := by
      refine frameworkNone.mp ?_
      simpa [keeps, plain, Signature.name] using kept
    rw [mapRule, ruleForeign source foreign]
    split <;> rfl

theorem stripLayer (async : simpleName name ∈ asyncNames) :
    stripAsync (.node name [argument]) = stripAsync argument := by
  rw [stripAsync, if_pos async]

theorem mapThrough (none : mapping.keptLayer? signature = none) :
    mapping.map [] signature = mapping.map [] (stripAsync signature) := by
  fun_induction keptLayer? mapping signature with
  | case1 name argument async kept => contradiction
  | case2 name argument async passed ih =>
    rw [mapPassed async (Bool.of_not_eq_true passed), stripLayer async, ih none]
  | case3 name argument other => rw [stripAsync, if_neg other]
  | case4 signature single =>
    rw [stripAsync]
    exact single

/- The layer at which the two ways part. -/
structure Parts (mapping : Mapping) (signature : Signature) (name : Text) (argument : Signature) :
    Prop where
  mapped : mapping.map [] signature = mapping.keptType name argument
  stripped : stripAsync signature = stripAsync argument

theorem partsAt (found : mapping.keptLayer? signature = some layer) :
    ∃ name argument, layer = .node name [argument] ∧ Parts mapping signature name argument := by
  fun_induction keptLayer? mapping signature with
  | case1 name argument async kept =>
    cases Option.some.inj found
    exact ⟨name, argument, rfl, mapKept kept, stripLayer async⟩
  | case2 name argument async passed ih =>
    obtain ⟨inner, below, rfl, parts⟩ := ih found
    refine ⟨inner, below, rfl, ?_, ?_⟩
    · rw [mapPassed async (Bool.of_not_eq_true passed), parts.mapped]
    · rw [stripLayer async, parts.stripped]
  | case3 name argument other => contradiction
  | case4 signature single => contradiction

theorem appliedLonger (name type : Text) : applied name [type] ≠ type := by
  intro same
  have long := congrArg List.length same
  simp [applied] at long
  omega

theorem keptLonger (reference : mapping.isTarget (.node name [argument]) = true ∨
    mapping.isDomain name = true) : mapping.keptType name argument ≠ mapping.map [] argument := by
  unfold keptType
  split
  · exact appliedLonger _ _
  · rename_i plain
    rw [if_pos (reference.resolve_left plain)]
    exact appliedLonger _ _

theorem resolvePlain {text : Text} (visible : Text.isBlank text = false) :
    mapping.resolve [] [] text = mapping.map [] (stripAsync (Signature.parse text)) := by
  rw [resolve, if_neg (by simp [visible])]
  simp only [Assoc.find?, Option.or_none, resolveSignature]
  split
  · rename_i alone
    rw [if_neg (by simp), alone]
  · rfl

def ResolvedAlike (mapping : Mapping) (text : Text) : Prop :=
  mapping.resolve [] [] text = mapping.mapText [] text

theorem unionAlike {text : Text} (visible : Text.isBlank text = false) (union : '|' ∈ text) :
    mapping.ResolvedAlike text ↔
      mapping.map [] (stripAsync (Signature.parse text)) = Text.strip text := by
  rw [ResolvedAlike, resolvePlain visible, mapText, if_pos union]

theorem wholeUnion {text : Text} (union : '|' ∈ text) :
    mapping.map [] (stripAsync (.leaf (Text.strip text))) = Text.strip text := by
  have bar : '|' ∈ Text.strip text := Text.memStrip union (by decide)
  have target : mapping.isTarget (.node (Text.strip text) []) = true := by
    simp [isTarget, Signature.name, Signature.arguments, bar]
  rw [Signature.leaf, stripAsync, map, Signature.foldNode, mapNode]
  · simp only [List.lookup_nil, if_pos target]
    rfl
  · simp

theorem plainAlike {text : Text} (visible : Text.isBlank text = false) (plain : '|' ∉ text) :
    mapping.ResolvedAlike text ↔ ∀ name argument,
      mapping.keptLayer? (Signature.parse text) = some (.node name [argument]) →
        mapping.keptType name argument = mapping.map [] (stripAsync argument) := by
  rw [ResolvedAlike, resolvePlain visible, mapText, if_neg plain]
  cases found : mapping.keptLayer? (Signature.parse text) with
  | none => simp [mapThrough found]
  | some layer =>
    obtain ⟨name, argument, rfl, parts⟩ := partsAt found
    rw [parts.mapped, parts.stripped]
    constructor
    · intro same other below here
      cases Option.some.inj here
      exact same.symm
    · intro all
      exact (all name argument rfl).symm

theorem resolvedAlikeIff (mapping : Mapping) {text : Text} (visible : Text.isBlank text = false) :
    (mapping.resolve [] [] text = mapping.mapText [] text ↔
      ('|' ∈ text → mapping.map [] (stripAsync (Signature.parse text)) = Text.strip text) ∧
      ('|' ∉ text → ∀ name argument,
        mapping.keptLayer? (Signature.parse text) = some (.node name [argument]) →
          mapping.keptType name argument = mapping.map [] (stripAsync argument))) ∧
    ('|' ∈ text → Signature.parse text = .leaf (Text.strip text) →
      mapping.resolve [] [] text = mapping.mapText [] text) ∧
    ∀ name argument, '|' ∉ text →
      mapping.keptLayer? (Signature.parse text) = some (.node name [argument]) →
      mapping.isTarget (.node name [argument]) = true ∨ mapping.isDomain name = true →
      mapping.keptLayer? argument = none →
        mapping.resolve [] [] text ≠ mapping.mapText [] text := by
  refine ⟨?_, ?_, ?_⟩
  · by_cases union : '|' ∈ text
    · rw [and_iff_left fun plain => absurd union plain, forall_prop_of_true union]
      exact unionAlike visible union
    · rw [and_iff_right fun bar => absurd bar union, forall_prop_of_true union]
      exact plainAlike visible union
  · intro union whole
    exact (unionAlike visible union).mpr (by rw [whole, wholeUnion union])
  · intro name argument plain kept reference last alike
    have same := (plainAlike visible plain).mp alike name argument kept
    rw [← mapThrough last] at same
    exact keptLonger reference same

def shopMapping : Mapping :=
  ⟨"Shop", "types."⟩

def carriedText : Text :=
  "System.Threading.Tasks.Task<ValueTask<List<Shop.Task<Shop.Widget>>>>"

theorem resolvedAlikeCarried :
    Text.isBlank carriedText = false ∧
      shopMapping.resolve [] [] carriedText = shopMapping.mapText [] carriedText := by
  have visible : Text.isBlank carriedText = false := by decide +kernel
  have plain : '|' ∉ carriedText := by decide +kernel
  have carried : shopMapping.keptLayer? (Signature.parse carriedText) = none := by decide +kernel
  refine ⟨visible, (resolvedAlikeIff shopMapping visible).1.mpr ⟨fun bar => absurd bar plain, ?_⟩⟩
  intro _ name argument kept
  cases carried.symm.trans kept

theorem resolvedOtherwise :
    (shopMapping.mapText [] "Shop.Task<Shop.Widget>" = "types.Task<types.Widget>" ∧
        shopMapping.resolve [] [] "Shop.Task<Shop.Widget>" = "types.Widget") ∧
      (shopMapping.mapText [] "null | Array<Shop.Widget>" = "null | Array<Shop.Widget>" ∧
        shopMapping.resolve [] [] "null | Array<Shop.Widget>" = "any") ∧
      ¬ ∀ mapping : Mapping, ∀ text, Text.isBlank text = false →
        mapping.resolve [] [] text = mapping.mapText [] text := by
  have task : shopMapping.mapText [] "Shop.Task<Shop.Widget>" = "types.Task<types.Widget>" ∧
      shopMapping.resolve [] [] "Shop.Task<Shop.Widget>" = "types.Widget" := by decide +kernel
  refine ⟨task, by decide +kernel, fun all => ?_⟩
  have same := all shopMapping "Shop.Task<Shop.Widget>" (by decide)
  rw [task.1, task.2] at same
  exact absurd same (by decide)

end TypedClient.Mapping
