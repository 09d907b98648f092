import TypedClient.Mapping
import TypedClient.Proofs.Collections
import TypedClient.Proofs.Signature.Tree

/-!
Placeholders as a substitution in the signature. The outermost nodes that have a placeholder become
leaves of its name, all at once, and what is left needs no placeholders: no rule but the first sees
whether a parameter stands for a signature or was written there.
-/

namespace TypedClient.Mapping

open Signature (leaf)

variable {mapping : Mapping} {placeholders : Placeholders} {name parameter : Text}
  {arguments : List Signature}

def IsParameter (text : Text) : Prop :=
  text.head? = some 'T' ∧ text.tail ≠ [] ∧ ∀ c ∈ text.tail, Text.decimalDigit c = true

instance (text : Text) : Decidable (IsParameter text) :=
  decidable_of_iff (text.head? = some 'T' ∧ text.tail ≠ [] ∧ text.tail.all Text.decimalDigit = true)
    (by simp only [IsParameter, List.all_eq_true])

/- Below a node that is replaced nothing is looked at, so that keys may stand in one another. -/
inductive Substituted (placeholders : Placeholders) : Signature → Signature → Prop where
  | replaced {node parameter} (listed : placeholders.lookup node.text = some parameter) :
      Substituted placeholders node (leaf parameter)
  | kept {name arguments others} (free : placeholders.lookup (Signature.node name arguments).text = none)
      (each : List.Forall₂ (Substituted placeholders) arguments others) :
      Substituted placeholders (.node name arguments) (.node name others)

def substitute (placeholders : Placeholders) : Signature → Signature :=
  Signature.fold fun node below =>
    match placeholders.lookup node.text with
    | some parameter => leaf parameter
    | none => .node node.name below

theorem substituteListed
    (listed : placeholders.lookup (Signature.node name arguments).text = some parameter) :
    substitute placeholders (.node name arguments) = leaf parameter := by
  rw [substitute, Signature.foldNode, listed]

theorem substituteFree (free : placeholders.lookup (Signature.node name arguments).text = none) :
    substitute placeholders (.node name arguments) =
      .node name (arguments.map (substitute placeholders)) := by
  rw [substitute, Signature.foldNode, free]
  rfl

theorem substitutedSelf (signature : Signature) :
    Substituted placeholders signature (substitute placeholders signature) := by
  induction signature using Signature.treeInduction with
  | node name arguments ih =>
    cases found : placeholders.lookup (Signature.node name arguments).text with
    | some parameter =>
      rw [substituteListed found]
      exact .replaced found
    | none =>
      rw [substituteFree found]
      exact .kept found (List.forall₂_map_right_iff.mpr (List.forall₂_same.mpr ih))

theorem substitutedUnique {signature other : Signature}
    (substituted : Substituted placeholders signature other) :
    other = substitute placeholders signature := by
  induction signature using Signature.treeInduction generalizing other with
  | node name arguments ih =>
    cases substituted with
    | replaced listed => exact (substituteListed listed).symm
    | @kept _ _ others free each =>
      have same : List.Forall₂ (fun argument below => substitute placeholders argument = below)
          arguments others :=
        (Results.eachWithin each).imp fun argument _ ⟨inside, below⟩ => (ih argument inside below).symm
      have images := List.forall₂_map_left_iff.mpr same
      rw [List.forall₂_eq_eq_eq] at images
      rw [substituteFree free, images]

theorem parameterPlaceholder (named : IsParameter parameter) : isPlaceholder parameter = true := by
  obtain ⟨digits, rfl⟩ : ∃ digits, parameter = 'T' :: digits := by
    cases parameter with
    | nil => simp [IsParameter] at named
    | cons c digits => exact ⟨digits, by simpa [IsParameter] using named.1⟩
  obtain ⟨_, some, all⟩ := named
  have whole : Text.before? ['\n'] digits = none := by
    cases cut : Text.before? ['\n'] digits with
    | none => rfl
    | some front =>
      have last : '\n' ∈ digits := by simp [Text.beforeEqSome.mp cut]
      exact absurd (all '\n' last) (by decide)
  simpa [isPlaceholder, whole] using ⟨some, all⟩

theorem targetLeaf (named : IsParameter parameter) : mapping.isTarget (leaf parameter) = true := by
  simp [isTarget, leaf, Signature.name, Signature.arguments, parameterPlaceholder named]

theorem targetSubstituted (others : Signature → Signature) :
    mapping.isTarget (.node name (arguments.map others)) = mapping.isTarget (.node name arguments) :=
  targetAlike mapping name List.isEmpty_map

theorem listedParameter (parameters : ∀ entry ∈ placeholders, IsParameter entry.2) {text : Text}
    (listed : placeholders.lookup text = some parameter) : IsParameter parameter := by
  obtain ⟨before, after, rfl, _⟩ := List.lookup_eq_some_iff.mp listed
  exact parameters (text, parameter) (by simp)

/- One induction for every walk over a signature: it is enough that the walk sees the leaf in a replaced
node, and in any other node nothing of its placeholders. -/
theorem foldSubstitute {α : Type} {visit plain : Signature → List α → α}
    (replaced : ∀ name arguments parameter results,
      placeholders.lookup (Signature.node name arguments).text = some parameter →
        visit (.node name arguments) results = plain (leaf parameter) [])
    (kept : ∀ name arguments results, placeholders.lookup (Signature.node name arguments).text = none →
      visit (.node name arguments) results =
        plain (.node name (arguments.map (substitute placeholders))) results)
    (signature : Signature) :
    signature.fold visit = (substitute placeholders signature).fold plain := by
  induction signature using Signature.treeInduction with
  | node name arguments ih =>
    cases found : placeholders.lookup (Signature.node name arguments).text with
    | some parameter =>
      rw [substituteListed found, Signature.foldNode, replaced _ _ _ _ found]
      rfl
    | none =>
      have below : arguments.map (Signature.fold visit) =
          (arguments.map (substitute placeholders)).map (Signature.fold plain) := by
        rw [List.map_map]
        exact List.map_congr_left ih
      rw [substituteFree found, Signature.foldNode, Signature.foldNode, below, kept _ _ _ found]

theorem mapSubstitute (parameters : ∀ entry ∈ placeholders, IsParameter entry.2) :
    ∀ signature, mapping.map placeholders signature =
      mapping.map [] (substitute placeholders signature) := by
  refine foldSubstitute ?_ ?_
  · intro name arguments parameter types listed
    have target : mapping.isTarget (leaf parameter) = true :=
      targetLeaf (listedParameter parameters listed)
    rw [mapNode, mapNode, listed, List.lookup_nil, if_pos target]
    rfl
  · intro name arguments types free
    simp only [mapNode, free, List.lookup_nil, targetSubstituted]
    rfl

theorem referencesSubstitute (parameters : ∀ entry ∈ placeholders, IsParameter entry.2) :
    ∀ signature : Signature, signature.fold (mapping.referencesNode placeholders) =
      (substitute placeholders signature).fold (mapping.referencesNode []) := by
  refine foldSubstitute ?_ ?_
  · intro name arguments parameter below listed
    have target : mapping.isTarget (leaf parameter) = true :=
      targetLeaf (listedParameter parameters listed)
    simp [referencesNode, listed, target]
  · intro name arguments below free
    simp only [referencesNode, free, List.lookup_nil, targetSubstituted]
    rfl

theorem placeholdersSubstitute (parameters : ∀ entry ∈ placeholders, IsParameter entry.2)
    (mapping : Mapping) (signature : Signature) :
    (∀ other, Substituted placeholders signature other ↔ other = substitute placeholders signature) ∧
      mapping.map placeholders signature = mapping.map [] (substitute placeholders signature) ∧
      mapping.references placeholders signature =
        mapping.references [] (substitute placeholders signature) := by
  refine ⟨fun other => ⟨substitutedUnique, ?_⟩, mapSubstitute parameters signature, ?_⟩
  · rintro rfl
    exact substitutedSelf signature
  · rw [references, references, referencesSubstitute parameters]

def swappingPlaceholders : Placeholders :=
  [("T0", "T1"), ("T1", "T0"), ("Shop.Box<T0>", "T2"), ("Shop.Widget", "T34")]

def swappedSignature : Signature :=
  .node "Shop.Pair" [.node "List" [leaf "T0"],
    .node "System.Nullable" [.node "Shop.Box" [leaf "T0"]],
    .node "Shop.Box" [leaf "T1"], leaf "Shop.Widget", leaf "Shop.Part"]

theorem placeholdersSubstituteSwapped :
    (∀ entry ∈ swappingPlaceholders, IsParameter entry.2) ∧
      substitute swappingPlaceholders swappedSignature =
        .node "Shop.Pair" [.node "List" [leaf "T1"], .node "System.Nullable" [leaf "T2"],
          .node "Shop.Box" [leaf "T0"], leaf "T34", leaf "Shop.Part"] ∧
      (ofPrefix "Shop." "types.").map [] (substitute swappingPlaceholders swappedSignature) =
        "types.Pair<T1[], null | T2, types.Box<T0>, T34, types.Part>" ∧
      (ofPrefix "Shop." "types.").map swappingPlaceholders swappedSignature =
        "types.Pair<T1[], null | T2, types.Box<T0>, T34, types.Part>" ∧
      (ofPrefix "Shop." "types.").references swappingPlaceholders swappedSignature =
        (ofPrefix "Shop." "types.").references [] (substitute swappingPlaceholders swappedSignature) := by
  have parameters : ∀ entry ∈ swappingPlaceholders, IsParameter entry.2 := by decide +kernel
  obtain ⟨_, mapped, referred⟩ :=
    placeholdersSubstitute parameters (ofPrefix "Shop." "types.") swappedSignature
  have printed : (ofPrefix "Shop." "types.").map [] (substitute swappingPlaceholders swappedSignature) =
      "types.Pair<T1[], null | T2, types.Box<T0>, T34, types.Part>" := by decide +kernel
  exact ⟨parameters, by decide +kernel, printed, mapped.trans printed, referred⟩

end TypedClient.Mapping
