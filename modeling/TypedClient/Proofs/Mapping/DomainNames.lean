import TypedClient.Proofs.Mapping.Names

/-!
Types of the domain whose names look like those of other types. A name inside the namespace of the domain
has a dot and is not the framework's, so that no rule for wrappers, collections and scalars knows it,
whatever its last part is.
-/

namespace TypedClient.Mapping

variable {mapping : Mapping} {name : Text}

structure DomainName (mapping : Mapping) (name : Text) : Prop where
  bounded : mapping.namespacePrefix ≠ []
  within : mapping.namespacePrefix ++ ['.'] <+: name
  noUnion : '|' ∉ name
  noSystem : ¬ ("System." : Text) <+: name
  noMicrosoft : ¬ ("Microsoft." : Text) <+: name
  unqualified : Unqualified mapping name

theorem DomainName.dotted (domain : DomainName mapping name) : '.' ∈ name :=
  domain.within.subset (List.mem_append_right _ List.mem_cons_self)

theorem DomainName.foreign (domain : DomainName mapping name) : ¬ MayBeFramework name := by
  rintro (bare | system | microsoft)
  · exact bare domain.dotted
  · exact domain.noSystem system
  · exact domain.noMicrosoft microsoft

theorem domainRule (domain : DomainName mapping name) (arguments : List Signature) :
    mapping.ruleOf (.node name arguments) = .reference (mapping.qualifier ++ simpleName name) := by
  have source : mapping.isTarget (.node name arguments) = false :=
    sourceIff.mpr ⟨domain.unqualified, notTypeScript domain.dotted (by decide) domain.noUnion _⟩
  rw [ruleForeign source domain.foreign, if_pos (domainIff.mpr ⟨domain.bounded, .inr domain.within⟩)]

theorem domainReference (domain : DomainName mapping name) (arguments : List Signature) :
    ∃ last, LastPart name last ∧
      (arguments = [] → mapping.map [] (.node name arguments) = mapping.qualifier ++ last) ∧
      (arguments ≠ [] → mapping.map [] (.node name arguments) =
        mapping.qualifier ++ last ++
          '<' :: (", " : Text).intercalate (arguments.map (mapping.map [])) ++ ['>']) := by
  refine ⟨simpleName name, simpleNameIff.mp rfl, ?_⟩
  rw [mapRule, domainRule domain]
  constructor
  · rintro rfl
    rfl
  · intro nonempty
    exact if_neg (by simpa using nonempty)

def namesakeMapping : Mapping :=
  ofPrefix "Shop.Models.." "types."

def namesakeDictionary : Signature :=
  .node "Shop.Models.Dictionary" [.leaf "Shop.Models.string", .leaf "Shop.Models.T0",
    .node "Shop.Models.Task" [.node "List" [.leaf "Shop.Models.List"]]]

theorem domainReferenceNamesakes :
    DomainName namesakeMapping "Shop.Models.Outer+Nullable" ∧
      namesakeMapping.map [] (.node "Shop.Models.Outer+Nullable" [namesakeDictionary]) =
        "types.Nullable<types.Dictionary<types.string, types.T0, types.Task<types.List[]>>>" := by
  have domain : DomainName namesakeMapping "Shop.Models.Outer+Nullable" :=
    ⟨by decide, by decide, by decide, by decide, by decide, by decide⟩
  have below : namesakeMapping.map [] namesakeDictionary =
      "types.Dictionary<types.string, types.T0, types.Task<types.List[]>>" := by decide +kernel
  obtain ⟨last, part, _, bracketed⟩ := domainReference domain [namesakeDictionary]
  have simple : simpleName "Shop.Models.Outer+Nullable" = "Nullable" := by decide
  cases (simpleNameLast part).symm.trans simple
  have mapped := bracketed (List.cons_ne_nil _ _)
  rw [List.map_singleton, List.intercalate_singleton, below] at mapped
  exact ⟨domain, mapped.trans (by decide +kernel)⟩

end TypedClient.Mapping
