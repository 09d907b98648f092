import TypedClient.Proofs.Mapping.Names

/-!
Layers around a type. The framework's wrappers for what may be missing, for what comes later and for the
result of an action stand around one type. However they are stacked, they print as that type, with at
most one `null` before it.
-/

namespace TypedClient.Mapping

inductive Carrier where
  | nullable
  | task
  | valueTask
  | actionResult
  deriving DecidableEq, Repr

def Carrier.word : Carrier → Text
  | .nullable => "Nullable"
  | .task => "Task"
  | .valueTask => "ValueTask"
  | .actionResult => "ActionResult"

def IsFrameworkSpace (space : Text) : Prop :=
  ("System." : Text) <+: space ++ ['.'] ∨ ("Microsoft." : Text) <+: space ++ ['.']

instance (space : Text) : Decidable (IsFrameworkSpace space) :=
  inferInstanceAs (Decidable (_ ∨ _))

structure Layer where
  carrier : Carrier
  space : Option Text
  framework : ∀ text ∈ space, IsFrameworkSpace text

def Layer.name (layer : Layer) : Text :=
  match layer.space with
  | none => layer.carrier.word
  | some space => space ++ '.' :: layer.carrier.word

def Layer.wrap (layer : Layer) (inner : Signature) : Signature :=
  .node layer.name [inner]

/- The first layer is the outermost. -/
def layered (layers : List Layer) (inner : Signature) : Signature :=
  layers.foldr Layer.wrap inner

def Carrier.rule : Carrier → Rule
  | .nullable => .nullable
  | _ => .carried

variable {mapping : Mapping} {inner : Signature} {layers : List Layer}

theorem carrierWhole (carrier : Carrier) : ∀ c ∈ carrier.word, nameSeparator c = false := by
  have whole : carrier.word.any nameSeparator = false := by cases carrier <;> decide
  simpa using whole

theorem carrierRule (carrier : Carrier) :
    wrapperRule? false (some carrier.word) 1 = some carrier.rule := by
  cases carrier <;> decide +kernel

theorem layerLast (layer : Layer) : simpleName layer.name = layer.carrier.word := by
  refine simpleNameLast ⟨carrierWhole layer.carrier, ?_⟩
  unfold Layer.name
  split
  · exact .inl rfl
  · exact .inr ⟨_, '.', rfl, rfl⟩

theorem layerFramework (layer : Layer) : MayBeFramework layer.name := by
  unfold Layer.name
  split
  · refine .inl ?_
    cases layer.carrier <;> decide
  · rename_i space here
    have begins : space ++ ['.'] <+: space ++ '.' :: layer.carrier.word := ⟨layer.carrier.word, by simp⟩
    exact .inr ((layer.framework space here).imp (·.trans begins) (·.trans begins))

theorem layerSource {layer : Layer}
    (unqualified : mapping.qualifier = [] ∨ ¬ mapping.qualifier <+: layer.name) :
    mapping.isTarget (layer.wrap inner) = false := by
  refine sourceIff.mpr ⟨⟨frameworkNoModule (layerFramework layer), unqualified⟩, ?_⟩
  intro (generic : layer.name ∈ genericTypes)
  have whole : ∀ name ∈ genericTypes, simpleName name ∈ genericTypes := by decide +kernel
  have listed := whole layer.name generic
  rw [layerLast] at listed
  revert listed
  cases layer.carrier <;> decide

theorem mapLayer {layer : Layer}
    (unqualified : mapping.qualifier = [] ∨ ¬ mapping.qualifier <+: layer.name) :
    mapping.map [] (layer.wrap inner) = layer.carrier.rule.text [mapping.map [] inner] := by
  have noArray : layer.name ≠ Signature.arrayName := by
    intro array
    have last := layerLast layer
    rw [array] at last
    revert last
    cases layer.carrier <;> decide
  have wrapped : nodeWrapper? (layer.wrap inner) = some layer.carrier.rule := by
    rw [Layer.wrap, wrapperKnown (layerFramework layer) noArray, layerLast]
    exact carrierRule layer.carrier
  rw [← ruleWrapped (layerSource unqualified) wrapped]
  exact mapRule mapping layer.name [inner]

theorem nullableTwice (type : Text) : nullable (nullable type) = nullable type := by
  have begins : nullablePrefix <+: nullable type := by
    unfold nullable
    split
    · rename_i already
      exact List.isPrefixOf_iff_prefix.mp already
    · exact List.prefix_append _ _
  rw [nullable, if_pos (List.isPrefixOf_iff_prefix.mpr begins)]

theorem mapLayered (unqualified : ∀ layer ∈ layers,
    mapping.qualifier = [] ∨ ¬ mapping.qualifier <+: layer.name) :
    mapping.map [] (layered layers inner) =
      if ∃ layer ∈ layers, layer.carrier = .nullable then nullable (mapping.map [] inner)
      else mapping.map [] inner := by
  induction layers with
  | nil => simp [layered]
  | cons layer rest ih =>
    have below := ih fun other member => unqualified other (List.mem_cons_of_mem _ member)
    have here : mapping.map [] (layer.wrap (layered rest inner)) = _ :=
      mapLayer (unqualified layer List.mem_cons_self)
    rw [layered, List.foldr_cons, ← layered, here, below]
    cases carrier : layer.carrier with
    | nullable =>
      simp only [List.mem_cons, exists_eq_or_imp, carrier, true_or, if_true]
      split
      · exact nullableTwice _
      · rfl
    | task | valueTask | actionResult =>
      simp only [List.mem_cons, exists_eq_or_imp, carrier, reduceCtorEq, false_or]
      rfl

theorem layersCollapse (inner : Signature)
    (unqualified : mapping.qualifier = [] ∨ ∀ layer ∈ layers, ¬ mapping.qualifier <+: layer.name) :
    ((∀ layer ∈ layers, layer.carrier ≠ .nullable) ∨ nullablePrefix <+: mapping.map [] inner →
      mapping.map [] (layered layers inner) = mapping.map [] inner) ∧
    ((∃ layer ∈ layers, layer.carrier = .nullable) → ¬ nullablePrefix <+: mapping.map [] inner →
      mapping.map [] (layered layers inner) = nullablePrefix ++ mapping.map [] inner) := by
  have each : ∀ layer ∈ layers, mapping.qualifier = [] ∨ ¬ mapping.qualifier <+: layer.name :=
    fun layer member => unqualified.imp_right fun none => none layer member
  rw [mapLayered each]
  refine ⟨?_, fun missing absent => ?_⟩
  · rintro (never | already)
    · rw [if_neg (by simpa using never)]
    · split
      · exact if_pos (List.isPrefixOf_iff_prefix.mpr already)
      · rfl
  · rw [if_pos missing]
    exact if_neg (mt List.isPrefixOf_iff_prefix.mp absent)

def stackedLayers : List Layer :=
  [⟨.nullable, none, by simp⟩, ⟨.task, some "System.Threading.Tasks", by decide⟩,
    ⟨.nullable, some "System", by decide⟩, ⟨.actionResult, some "Microsoft.AspNetCore.Mvc", by decide⟩,
    ⟨.valueTask, none, by simp⟩]

theorem layersCollapseStacked :
    (sampleMapping.qualifier = [] ∨
        ∀ layer ∈ stackedLayers, ¬ sampleMapping.qualifier <+: layer.name) ∧
      (∃ layer ∈ stackedLayers, layer.carrier = .nullable) ∧
      sampleMapping.map [] (layered stackedLayers (.node "List" [.leaf "Shop.Widget"])) =
        "null | types.Widget[]" ∧
      sampleMapping.map [] (layered stackedLayers (.node "Nullable" [.leaf "System.Int32"])) =
        "null | number" := by
  have unqualified : ∀ layer ∈ stackedLayers, ¬ sampleMapping.qualifier <+: layer.name := by decide
  have missing : ∃ layer ∈ stackedLayers, layer.carrier = .nullable := by decide
  have widgets : sampleMapping.map [] (.node "List" [.leaf "Shop.Widget"]) = "types.Widget[]" := by
    decide +kernel
  have number : sampleMapping.map [] (.node "Nullable" [.leaf "System.Int32"]) = "null | number" := by
    decide +kernel
  have apart := (layersCollapse (.node "List" [.leaf "Shop.Widget"]) (.inr unqualified)).2 missing
  have once := (layersCollapse (.node "Nullable" [.leaf "System.Int32"]) (.inr unqualified)).1
  rw [widgets] at apart
  rw [number] at once
  exact ⟨.inr unqualified, missing, apart (by decide), once (.inr (by decide))⟩

end TypedClient.Mapping
