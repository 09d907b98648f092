import TypedClient.Proofs.Service.Functions
import TypedClient.Proofs.Service.Identifiers

/-!
When two parameters get one identifier. Signs that no identifier can have all become the same one, and
the two repairs, of a digit in front and of a reserved word, may lead to a name that another parameter has.
-/

namespace TypedClient.ClientFunction

/- A repair that leaves nothing to repair makes two texts one only where one is the repaired other. -/
theorem repairIff {needs : Text → Prop} [DecidablePred needs] {repair : Text → Text}
    (injective : ∀ {text other}, repair text = repair other → text = other)
    (settles : ∀ text, needs text → ¬ needs (repair text)) {first second : Text} :
    (if needs first then repair first else first) = (if needs second then repair second else second) ↔
      first = second ∨ (needs first ∧ second = repair first) ∨ (needs second ∧ first = repair second) := by
  constructor
  · intro same
    by_cases here : needs first
    · rw [if_pos here] at same
      by_cases there : needs second
      · rw [if_pos there] at same
        exact .inl (injective same)
      · rw [if_neg there] at same
        exact .inr (.inl ⟨here, same.symm⟩)
    · rw [if_neg here] at same
      by_cases there : needs second
      · rw [if_pos there] at same
        exact .inr (.inr ⟨there, same⟩)
      · rw [if_neg there] at same
        exact .inl same
  · rintro (rfl | ⟨here, rfl⟩ | ⟨there, rfl⟩)
    · rfl
    · rw [if_pos here, if_neg (settles first here)]
    · rw [if_pos there, if_neg (settles second there)]

def StartsDigit (name : Text) : Prop :=
  name.head?.any Text.digit = true

instance (name : Text) : Decidable (StartsDigit name) :=
  inferInstanceAs (Decidable (_ = true))

theorem noDigit (name : Text) : ¬ StartsDigit ('_' :: name) := by
  have sign : Text.digit '_' = false := by decide
  simp [StartsDigit, sign]

structure Worded (word : Text) : Prop where
  starts : ¬ StartsDigit word
  plain : word.head? ≠ some '_'
  filled : word ≠ []
  ends : word ++ ['_'] ∉ reservedWords

theorem reservedWorded {word : Text} (reserved : word ∈ reservedWords) : Worded word := by
  have all : ∀ word ∈ reservedWords, ¬ StartsDigit word ∧ word.head? ≠ some '_' ∧ word ≠ [] ∧
      word ++ ['_'] ∉ reservedWords := by decide +kernel
  obtain ⟨starts, plain, filled, ends⟩ := all word reserved
  exact ⟨starts, plain, filled, ends⟩

theorem Worded.longer {word : Text} (worded : Worded word) :
    ¬ StartsDigit (word ++ ['_']) ∧ (word ++ ['_']).head? ≠ some '_' := by
  rw [StartsDigit, List.head?_append_of_ne_nil word worded.filled]
  exact ⟨worded.starts, worded.plain⟩

variable {first second name : Text}

theorem guardDigitIff : guardDigit first = guardDigit second ↔
    first = second ∨ (StartsDigit first ∧ second = '_' :: first) ∨
      (StartsDigit second ∧ first = '_' :: second) :=
  @repairIff StartsDigit _ ('_' :: ·) (fun same => (List.cons.inj same).2) (fun text _ => noDigit text) _ _

theorem guardReservedIff : guardReserved first = guardReserved second ↔
    first = second ∨ (first ∈ reservedWords ∧ second = first ++ ['_']) ∨
      (second ∈ reservedWords ∧ first = second ++ ['_']) :=
  @repairIff (· ∈ reservedWords) _ (· ++ ['_']) List.append_cancel_right
    (fun _ reserved => (reservedWorded reserved).ends) _ _

theorem guardDigitOther (starts : ¬ StartsDigit name) : guardDigit name = name :=
  if_neg starts

theorem guardDigitPlain (plain : (guardDigit name).head? ≠ some '_') : guardDigit name = name := by
  by_cases starts : StartsDigit name
  · have repaired : guardDigit name = '_' :: name := if_pos starts
    rw [repaired] at plain
    exact absurd rfl plain
  · exact guardDigitOther starts

def RepairedTo (first second : Text) : Prop :=
  (StartsDigit first ∧ second = '_' :: first) ∨ (first ∈ reservedWords ∧ second = first ++ ['_'])

instance (first second : Text) : Decidable (RepairedTo first second) :=
  inferInstanceAs (Decidable (_ ∨ _))

/- Two names that get one identifier, told by their signs. -/
def Confused (first second : Text) : Prop :=
  replaceSigns first = replaceSigns second ∨ RepairedTo (replaceSigns first) (replaceSigns second) ∨
    RepairedTo (replaceSigns second) (replaceSigns first)

instance (first second : Text) : Decidable (Confused first second) :=
  inferInstanceAs (Decidable (_ ∨ _))

theorem guardedOfRepaired (repaired : RepairedTo first second) :
    guardReserved (guardDigit first) = guardReserved (guardDigit second) := by
  rcases repaired with ⟨starts, whole⟩ | ⟨reserved, rfl⟩
  · rw [guardDigitIff.mpr (.inr (.inl ⟨starts, whole⟩))]
  · have worded := reservedWorded reserved
    rw [guardDigitOther worded.starts, guardDigitOther worded.longer.1]
    exact guardReservedIff.mpr (.inr (.inl ⟨reserved, rfl⟩))

theorem repairedOfReserved (reserved : guardDigit first ∈ reservedWords)
    (longer : guardDigit second = guardDigit first ++ ['_']) : RepairedTo first second := by
  have worded := reservedWorded reserved
  have same := guardDigitPlain worded.plain
  rw [same] at reserved longer worded
  have same' : guardDigit second = second := guardDigitPlain (longer ▸ worded.longer.2)
  exact .inr ⟨reserved, same'.symm.trans longer⟩

theorem identifierIff : toIdentifier first = toIdentifier second ↔ Confused first second := by
  unfold toIdentifier Confused
  constructor
  · intro same
    rcases guardReservedIff.mp same with alike | ⟨reserved, longer⟩ | ⟨reserved, longer⟩
    · rcases guardDigitIff.mp alike with equal | here | there
      · exact .inl equal
      · exact .inr (.inl (.inl here))
      · exact .inr (.inr (.inl there))
    · exact .inr (.inl (repairedOfReserved reserved longer))
    · exact .inr (.inr (repairedOfReserved reserved longer))
  · rintro (equal | here | there)
    · rw [equal]
    · exact guardedOfRepaired here
    · exact (guardedOfRepaired there).symm

theorem argumentNames {configuration : Configuration} {types : TypeTable} {operation : Operation}
    {function : ClientFunction} (built : Built configuration types operation function) :
    function.arguments.map Argument.name =
      (order operation.parameters).map fun parameter => toIdentifier parameter.name := by
  have each := built.arguments.imp fun _ _ ok => (argumentOk ok).name
  exact Results.mapOfEach (List.forall₂_map_left_iff.mpr each)

theorem identifiersApartIff (configuration : Configuration) (types : TypeTable) (operation : Operation)
    (name : Text) :
    ((∃ function, ofOperation configuration types operation name = .ok function) ↔ Writable operation) ∧
    ∀ function, ofOperation configuration types operation name = .ok function →
      ((function.arguments.map Argument.name).Nodup ↔
        operation.parameters.Pairwise fun first second => ¬ Confused first.name second.name) := by
  refine ⟨ofOperationTotal, fun function ok => ?_⟩
  have reordered := (orderPerm operation.parameters).map fun parameter => toIdentifier parameter.name
  rw [argumentNames (ofOperationOk ok).2, reordered.nodup_iff, List.Nodup, List.pairwise_map]
  simp only [ne_eq, identifierIff]

def queryOperation (names : List Text) : Operation where
  controller := "Widget"
  action := some "Get"
  verb := none
  path := "widgets"
  parameters := names.map fun name => ⟨name, "System.String", "query", false, none, none⟩
  returnType := none
  summary := none
  remarks := none

theorem queryWritable (names : List Text) : Writable (queryOperation names) := by
  intro parameter member
  obtain ⟨name, _, rfl⟩ := List.mem_map.mp member
  exact ⟨none, rfl⟩

def repairedNames : List Text :=
  ["2fa", "2fa_", "class", "class__", "input.Name", "inputName", "", "$"]

theorem identifiersApartRepaired :
    ∃ function, ofOperation .standard [] (queryOperation repairedNames) "get" = .ok function ∧
      (function.arguments.map Argument.name).Nodup := by
  obtain ⟨total, apart⟩ := identifiersApartIff .standard [] (queryOperation repairedNames) "get"
  obtain ⟨function, ok⟩ := total.mpr (queryWritable _)
  exact ⟨function, ok, (apart function ok).mpr (by decide +kernel)⟩

theorem identifiersShared :
    (["input.Name", "input_Name"] : List Text).Nodup ∧
      ∃ function, ofOperation .standard [] (queryOperation ["input.Name", "input_Name"]) "get" =
          .ok function ∧
        function.arguments.map Argument.name = ["input_Name", "input_Name"] ∧
        ¬ (function.arguments.map Argument.name).Nodup :=
  ⟨by decide, _, rfl, by decide +kernel, by decide +kernel⟩

end TypedClient.ClientFunction
