import TypedClient.Client.Function
import TypedClient.Declaration

/-!
The identifiers of arguments. Whatever a parameter is called, its identifier is not empty, has only
characters of identifiers and does not start with a digit.
-/

namespace TypedClient.ClientFunction

def Identifying (name : Text) : Prop :=
  ∀ c ∈ name, Declaration.identifierPart c = true

theorem identifyingSigns (name : Text) : Identifying (replaceSigns name) := by
  intro c member
  unfold replaceSigns at member
  split at member
  · cases List.mem_singleton.mp member
    decide
  · obtain ⟨source, _, rfl⟩ := List.mem_map.mp member
    unfold identifierChar
    split
    · assumption
    · decide

theorem identifyingIdentifier (name : Text) : Identifying (toIdentifier name) := by
  have digits : ∀ text, Identifying text → Identifying (guardDigit text) := by
    intro text parts c member
    unfold guardDigit at member
    split at member
    · rcases List.mem_cons.mp member with rfl | later
      · decide
      · exact parts c later
    · exact parts c member
  have reserved : ∀ text, Identifying text → Identifying (guardReserved text) := by
    intro text parts c member
    unfold guardReserved at member
    split at member
    · rcases List.mem_append.mp member with inText | last
      · exact parts c inText
      · cases List.mem_singleton.mp last
        decide
    · exact parts c member
  exact reserved _ (digits _ (identifyingSigns name))

theorem signsNonempty (name : Text) : replaceSigns name ≠ [] := by
  unfold replaceSigns
  split
  · exact List.cons_ne_nil _ _
  · rename_i some
    simpa using some

theorem guardedHead {name : Text} (nonempty : name ≠ []) :
    ∃ c rest, guardDigit name = c :: rest ∧ Text.digit c = false := by
  obtain ⟨c, rest, rfl⟩ := List.exists_cons_of_ne_nil nonempty
  unfold guardDigit
  split
  · exact ⟨'_', c :: rest, rfl, by decide⟩
  · rename_i start
    exact ⟨c, rest, rfl, by simpa using start⟩

theorem identifierHead (name : Text) :
    ∃ c rest, toIdentifier name = c :: rest ∧ Text.digit c = false := by
  obtain ⟨c, rest, whole, starts⟩ := guardedHead (signsNonempty name)
  unfold toIdentifier guardReserved
  rw [whole]
  split
  · exact ⟨c, rest ++ ['_'], rfl, starts⟩
  · exact ⟨c, rest, rfl, starts⟩

end TypedClient.ClientFunction
