import TypedClient.Proofs.Service.ArgumentNames

/-!
The identifiers of arguments as a normal form. Each of the three repairs settles one thing and keeps what
the repairs before it have settled, and a name that needs none of them stays as it is.
-/

namespace TypedClient.ClientFunction

variable {name : Text}

structure Usable (name : Text) : Prop where
  filled : name ≠ []
  parts : ∀ c ∈ name, Text.wordChar c = true ∨ c = '$'
  starts : ¬ StartsDigit name
  unreserved : name ∉ reservedWords

theorem identifyingParts : Identifying name ↔ ∀ c ∈ name, Text.wordChar c = true ∨ c = '$' := by
  simp only [Identifying, Declaration.identifierPart, Bool.or_eq_true, decide_eq_true_eq]

/- A low line behind a reserved word makes none of the others. -/
theorem guardReservedFree (name : Text) : guardReserved name ∉ reservedWords := by
  unfold guardReserved
  split
  · rename_i reserved
    exact (reservedWorded reserved).ends
  · assumption

theorem identifierUsable (name : Text) : Usable (toIdentifier name) := by
  obtain ⟨c, rest, whole, starts⟩ := identifierHead name
  exact {
    filled := whole ▸ List.cons_ne_nil c rest
    parts := identifyingParts.mp (identifyingIdentifier name)
    starts := by simp [StartsDigit, whole, starts]
    unreserved := guardReservedFree _ }

theorem signsOther (filled : name ≠ []) (parts : Identifying name) : replaceSigns name = name := by
  have same : ∀ c ∈ name, identifierChar c = c := fun c member => if_pos (parts c member)
  rw [replaceSigns, if_neg (mt List.isEmpty_iff.mp filled), List.map_congr_left same, List.map_id']

theorem usableStays (usable : Usable name) : toIdentifier name = name := by
  have signs := signsOther usable.filled (identifyingParts.mpr usable.parts)
  have digit := guardDigitOther usable.starts
  have reserved : guardReserved name = name := if_neg usable.unreserved
  rw [toIdentifier, signs, digit, reserved]

theorem identifierNormal (name : Text) :
    Usable (toIdentifier name) ∧ toIdentifier (toIdentifier name) = toIdentifier name ∧
      (toIdentifier name = name ↔ Usable name) := by
  have usable := identifierUsable name
  exact ⟨usable, usableStays usable, fun same => same ▸ usable, usableStays⟩

example : (["2fa", "class", "input.Name", "", "_class"] : List Text).map toIdentifier =
    ["_2fa", "class_", "input_Name", "_", "_class"] := by
  decide +kernel

end TypedClient.ClientFunction
