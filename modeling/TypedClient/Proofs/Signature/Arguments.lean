import Mathlib.Data.List.Infix
import TypedClient.Proofs.Signature.Balance

/-!
Splitting arguments undoes joining them. A comma cuts where as many brackets are closed as are opened
before it, and the depth that is kept while reading is the difference, at every place of every text.
-/

namespace TypedClient.Signature

variable {text rest : Text} {depth : Nat} {pieces : List Text} {c : Char}

/- No comma has as many closing brackets before it as opening ones. -/
def Uncut (text : Text) : Prop :=
  ∀ front, front ++ comma <+: text → front.count '<' ≠ front.count '>'

instance (text : Text) : Decidable (Uncut text) :=
  decidable_of_iff
    (∀ front ∈ text.inits, front ++ comma <+: text → front.count '<' ≠ front.count '>')
    ⟨fun all front start =>
      all front ((List.mem_inits _ _).mpr ((List.prefix_append front comma).trans start)) start,
     fun uncut front _ start => uncut front start⟩

def placesAfter : Text → Text → List (Text × Char)
  | _, [] => []
  | front, c :: rest => (front, c) :: placesAfter (front ++ [c]) rest

def outerComma (place : Text × Char) : Bool :=
  place.2 = ',' && place.1.count '<' = place.1.count '>'

def outerPiecesAfter (front text : Text) : List Text :=
  ((placesAfter front text).splitOnP outerComma).map (·.map Prod.snd)

/- What stands between the commas outside all brackets, be the brackets balanced or not. -/
def outerPieces (text : Text) : List Text :=
  outerPiecesAfter [] text

structure Closes (depth : Nat) (text : Text) : Prop where
  closes : ∀ front, front <+: text → front.count '>' ≤ depth + front.count '<'
  total : depth + text.count '<' = text.count '>'

theorem balancedCloses : Balanced text ↔ Closes 0 text := by
  constructor
  · rintro ⟨closes, total⟩
    exact ⟨by simpa using closes, by simpa using total⟩
  · rintro ⟨closes, total⟩
    exact ⟨by simpa using closes, by simpa using total⟩

theorem countCons (d c : Char) (rest : Text) : (c :: rest).count d = [c].count d + rest.count d := by
  rw [← List.singleton_append, List.count_append]

theorem depthComma (depth : Nat) : depthAfter depth ',' = some depth :=
  rfl

theorem depthExists (room : c = '>' → depth ≠ 0) : ∃ next, depthAfter depth c = some next := by
  unfold depthAfter
  split
  · exact ⟨depth + 1, rfl⟩
  · split
    · rename_i closing
      obtain ⟨outer, rfl⟩ := Nat.exists_eq_succ_of_ne_zero (room closing)
      exact ⟨outer, rfl⟩
    · exact ⟨depth, rfl⟩

theorem closesStep :
    Closes depth (c :: rest) ↔ ∃ next, depthAfter depth c = some next ∧ Closes next rest := by
  constructor
  · rintro ⟨closes, total⟩
    have here : [c].count '>' ≤ depth + [c].count '<' := closes [c] (by simp)
    obtain ⟨next, step⟩ : ∃ next, depthAfter depth c = some next := by
      refine depthExists ?_
      rintro rfl rfl
      simp at here
    have counted := depthCount step
    refine ⟨next, step, fun front start => ?_, ?_⟩
    · have closed := closes (c :: front) (List.cons_prefix_cons.mpr ⟨rfl, start⟩)
      rw [countCons '>', countCons '<'] at closed
      omega
    · rw [countCons '>', countCons '<'] at total
      omega
  · rintro ⟨next, step, closes, total⟩
    have counted := depthCount step
    refine ⟨fun front start => ?_, ?_⟩
    · rcases List.prefix_cons_iff.mp start with rfl | ⟨others, rfl, within⟩
      · simp
      · have closed := closes others within
        rw [countCons '>', countCons '<']
        omega
    · rw [countCons '>', countCons '<']
      omega

theorem piecesStep : (∃ pieces, piecesAt (c :: rest) depth = some pieces) ↔
    ∃ next, depthAfter depth c = some next ∧ ∃ pieces, piecesAt rest next = some pieces := by
  simp only [piecesAt]
  split
  · rename_i outside
    obtain ⟨rfl, rfl⟩ := outside
    simp [depthComma]
  · simp only [Option.bind_eq_some_iff, Option.map_eq_some_iff]
    grind

theorem piecesExist : (∃ pieces, piecesAt text depth = some pieces) ↔ Closes depth text := by
  induction text generalizing depth with
  | nil =>
    constructor
    · rintro ⟨pieces, found⟩
      simp only [piecesAt, Option.ite_none_right_eq_some] at found
      exact ⟨by simp, by simp [found.1]⟩
    · intro closed
      exact ⟨[[]], if_pos (by simpa using closed.total)⟩
  | cons c rest ih =>
    rw [piecesStep, closesStep]
    simp only [ih]

theorem outerPiecesCons (front : Text) (c : Char) (rest : Text) :
    outerPiecesAfter front (c :: rest) =
      if outerComma (front, c) then [] :: outerPiecesAfter (front ++ [c]) rest
      else Text.extendFirst c (outerPiecesAfter (front ++ [c]) rest) := by
  unfold outerPiecesAfter
  rw [placesAfter, List.splitOnP_cons_eq_if_modifyHead]
  split
  · rfl
  · obtain ⟨first, others, cut⟩ := List.exists_cons_of_ne_nil
      (List.splitOnP_ne_nil outerComma (placesAfter (front ++ [c]) rest))
    rw [cut]
    rfl

theorem levelStep {front : Text} {next : Nat} (level : depth + front.count '>' = front.count '<')
    (step : depthAfter depth c = some next) :
    next + (front ++ [c]).count '>' = (front ++ [c]).count '<' := by
  have counted := depthCount step
  rw [List.count_append, List.count_append]
  omega

/- What is found in the rest of a text is what stands between the commas there, with the brackets
before the rest counted. -/
theorem piecesOuter (front : Text) (level : depth + front.count '>' = front.count '<')
    (found : piecesAt text depth = some pieces) : pieces = outerPiecesAfter front text := by
  induction text generalizing front depth pieces with
  | nil =>
    simp only [piecesAt, Option.ite_none_right_eq_some, Option.some.injEq] at found
    simp [outerPiecesAfter, placesAfter, ← found.2]
  | cons c rest ih =>
    have outer : outerComma (front, c) = true ↔ c = ',' ∧ depth = 0 := by
      simp only [outerComma, Bool.and_eq_true, decide_eq_true_eq]
      have closed : front.count '<' = front.count '>' ↔ depth = 0 := by omega
      rw [closed]
    rw [outerPiecesCons]
    simp only [piecesAt] at found
    split at found
    · rename_i outside
      obtain ⟨later, cut, rfl⟩ := Option.map_eq_some_iff.mp found
      obtain ⟨rfl, rfl⟩ := outside
      rw [if_pos (outer.mpr ⟨rfl, rfl⟩), ih _ (levelStep level (depthComma 0)) cut]
    · rename_i inside
      obtain ⟨next, step, after⟩ := Option.bind_eq_some_iff.mp found
      obtain ⟨later, cut, rfl⟩ := Option.map_eq_some_iff.mp after
      rw [if_neg (mt outer.mp inside), ih _ (levelStep level step) cut]

theorem piecesBalanced : piecesAt text 0 = some (outerPieces text) ↔ Balanced text := by
  rw [balancedCloses, ← piecesExist]
  constructor
  · exact fun cut => ⟨_, cut⟩
  · rintro ⟨pieces, cut⟩
    rw [cut, piecesOuter [] rfl cut, outerPieces]

theorem piecesSolid (cut : piecesAt text 0 = some pieces) :
    pieces ≠ [] ∧ (∀ piece ∈ pieces, Solid piece) ∧ text = comma.intercalate pieces := by
  obtain ⟨first, others, rfl, solid, later, whole⟩ := piecesOfCut cut
  exact ⟨List.cons_ne_nil _ _, List.forall_mem_cons.mpr ⟨solid, later⟩, whole⟩

theorem solidUncut (solid : Solid text) : Uncut text := by
  rintro front ⟨rest, rfl⟩ level
  rw [Solid, List.append_assoc, levelAppend] at solid
  obtain ⟨depth, before, after⟩ := Option.bind_eq_some_iff.mp solid
  have counted := (levelCount before).2
  have outside : depth = 0 := by omega
  subst outside
  exact absurd after (by simp [comma, levelAfter])

theorem solidIff : Solid text ↔ Balanced text ∧ Uncut text := by
  constructor
  · exact fun solid => ⟨solidBalanced solid, solidUncut solid⟩
  · rintro ⟨balanced, uncut⟩
    obtain ⟨pieces, cut⟩ := piecesExist.mpr (balancedCloses.mp balanced)
    obtain ⟨first, others, rfl, solid, -, rfl⟩ := piecesOfCut cut
    cases others with
    | nil =>
      rw [List.intercalate_singleton]
      exact solid
    | cons second others =>
      -- The comma behind the first piece would cut.
      have start : first ++ comma <+: comma.intercalate (first :: second :: others) := by
        rw [List.intercalate_cons_cons]
        exact List.prefix_append _ _
      exact absurd (solidBalanced solid).total (uncut first start)

theorem splitCut (found : splitArguments text = some pieces) : piecesAt text 0 = some pieces := by
  obtain ⟨nonempty, each, rfl⟩ := splitArgumentsIff.mp found
  exact piecesJoin nonempty fun piece member => (each piece member).1

theorem splitOuter (found : splitArguments text = some pieces) : pieces = outerPieces text :=
  piecesOuter [] rfl (splitCut found)

theorem splitFound : (∃ pieces, splitArguments text = some pieces) ↔
    Balanced text ∧ ∀ piece ∈ outerPieces text, Text.isBlank piece = false := by
  constructor
  · rintro ⟨pieces, found⟩
    obtain rfl := splitOuter found
    obtain ⟨-, each, -⟩ := splitArgumentsIff.mp found
    exact ⟨piecesBalanced.mp (splitCut found), fun piece member => (each piece member).2⟩
  · rintro ⟨balanced, visible⟩
    obtain ⟨nonempty, solid, whole⟩ := piecesSolid (piecesBalanced.mpr balanced)
    exact ⟨outerPieces text, splitArgumentsIff.mpr
      ⟨nonempty, fun piece member => ⟨solid piece member, visible piece member⟩, whole⟩⟩

theorem splitUndoesJoin :
    (∀ text, (∃ pieces, splitArguments text = some pieces) ↔
      Balanced text ∧ ∀ piece ∈ outerPieces text, Text.isBlank piece = false) ∧
    (∀ text pieces, splitArguments text = some pieces →
      comma.intercalate pieces = text ∧ pieces = outerPieces text ∧
        ∀ piece ∈ pieces, Balanced piece ∧ Uncut piece) ∧
    ∀ pieces, pieces ≠ [] →
      (∀ piece ∈ pieces, Balanced piece ∧ Uncut piece ∧ Text.isBlank piece = false) →
        splitArguments (comma.intercalate pieces) = some pieces := by
  refine ⟨fun text => splitFound, fun text pieces found => ?_, fun pieces nonempty each => ?_⟩
  · obtain ⟨-, each, whole⟩ := splitArgumentsIff.mp found
    exact ⟨whole.symm, splitOuter found, fun piece member => solidIff.mp (each piece member).1⟩
  · refine splitArgumentsIff.mpr ⟨nonempty, fun piece member => ?_, rfl⟩
    obtain ⟨balanced, uncut, visible⟩ := each piece member
    exact ⟨solidIff.mpr ⟨balanced, uncut⟩, visible⟩

def nestedText : Text :=
  "Pair<A,B<C,D>> , List<int>[],x"

def nestedPieces : List Text :=
  ["Pair<A,B<C,D>> ", " List<int>[]", "x"]

theorem splitUndoesJoinNested :
    (splitArguments nestedText = some nestedPieces ∧
      comma.intercalate nestedPieces = nestedText ∧ nestedPieces = outerPieces nestedText) ∧
    nestedPieces ≠ [] ∧
      (∀ piece ∈ nestedPieces, Balanced piece ∧ Uncut piece ∧ Text.isBlank piece = false) ∧
        splitArguments (comma.intercalate nestedPieces) = some nestedPieces := by
  obtain ⟨-, joined, split⟩ := splitUndoesJoin
  have nonempty : nestedPieces ≠ [] := by decide
  have each : ∀ piece ∈ nestedPieces, Balanced piece ∧ Uncut piece ∧ Text.isBlank piece = false := by
    decide +kernel
  have cut := split nestedPieces nonempty each
  have found : splitArguments nestedText = some nestedPieces := by decide +kernel
  obtain ⟨whole, outer, -⟩ := joined nestedText nestedPieces found
  exact ⟨⟨found, whole, outer⟩, nonempty, each, cut⟩

end TypedClient.Signature
