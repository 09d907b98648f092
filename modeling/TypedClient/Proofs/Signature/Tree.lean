import TypedClient.Signature

/-! Signatures as trees: induction over a node and its arguments, and one equation for every fold. -/

namespace TypedClient.Signature

theorem treeInduction {motive : Signature → Prop}
    (node : ∀ name arguments, (∀ argument ∈ arguments, motive argument) →
      motive (.node name arguments)) : ∀ signature, motive signature := by
  intro signature
  refine Signature.rec (motive_1 := motive)
    (motive_2 := fun arguments => ∀ argument ∈ arguments, motive argument)
    node (by simp) ?_ signature
  intro first rest here below argument member
  rcases List.mem_cons.mp member with rfl | inside
  · exact here
  · exact below argument inside

theorem foldAllEq {α : Type} (visit : Signature → List α → α) (arguments : List Signature) :
    foldAll visit arguments = arguments.map (fold visit) := by
  induction arguments with
  | nil => rfl
  | cons first rest ih => rw [foldAll, ih, List.map_cons]

theorem foldNode {α : Type} (visit : Signature → List α → α) (name : Text)
    (arguments : List Signature) :
    fold visit (node name arguments) = visit (node name arguments) (arguments.map (fold visit)) := by
  rw [fold, foldAllEq]

theorem walkNode (name : Text) (arguments : List Signature) :
    walk (node name arguments) = node name arguments :: arguments.flatMap walk := by
  rw [walk, foldNode, List.flatMap]

theorem textNode (name : Text) (arguments : List Signature) :
    text (node name arguments) = textWith name (arguments.map text) := by
  rw [text, foldNode]
  rfl

end TypedClient.Signature
