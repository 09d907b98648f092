import Mathlib.Data.List.Forall2
import Mathlib.Data.List.TakeWhile
import TypedClient.Client.Url

/-!
The address of a function, piece by piece. A path is nothing but its pieces, one after the other. In
the address each piece stands as it was written, or a segment is filled with a route argument that it
names. A prefix in front of a path keeps the segments of the path where it leaves no brace open.
-/

namespace TypedClient.Url

namespace Piece

def written : Piece → Text
  | .char c => [c]
  | .segment written _ => written

def named? : Piece → Option Text
  | .char _ => none
  | .segment _ name => some (key name)

end Piece

theorem routeNamesPieces (path : Text) : routeNames path = (pieces path).filterMap Piece.named? := by
  unfold routeNames
  congr 1
  funext piece
  cases piece <;> rfl

theorem innerClosed {front : Text} (fresh : '\x7d' ∉ front) (back : Text) :
    (front ++ '\x7d' :: back).takeWhile (· != '\x7d') = front := by
  rw [List.takeWhile_append_of_pos]
  · simp
  · intro c member
    exact bne_iff_ne.mpr fun same => fresh (same ▸ member)

theorem closedIff {text : Text} :
    (text.takeWhile (· != '\x7d')).length < text.length ↔ '\x7d' ∈ text := by
  constructor
  · intro shorter
    by_contra missing
    have whole : text.takeWhile (· != '\x7d') = text :=
      List.takeWhile_eq_self_iff.mpr fun c member =>
        bne_iff_ne.mpr fun same => missing (same ▸ member)
    rw [whole] at shorter
    exact Nat.lt_irrefl _ shorter
  · intro member
    obtain ⟨front, back, rfl, fresh⟩ := List.eq_append_cons_of_mem member
    rw [innerClosed fresh, List.length_append, List.length_cons]
    omega

theorem writtenPiecesFrom (skipped : Nat) (text : Text) :
    (piecesFrom skipped text).flatMap Piece.written = text.drop skipped := by
  induction text generalizing skipped with
  | nil => cases skipped <;> rfl
  | cons c rest ih =>
    cases skipped with
    | succ skipped => exact ih skipped
    | zero =>
      rw [piecesFrom]
      split
      · rename_i opened
        obtain ⟨front, back, rfl, fresh⟩ := List.eq_append_cons_of_mem (closedIff.mp opened.2)
        split
        · rw [List.flatMap_cons, ih]
          simp [Piece.written, opened.1, innerClosed fresh, List.drop_append]
        · rw [List.flatMap_cons, ih]
          rfl
      · rw [List.flatMap_cons, ih]
        rfl

theorem writtenPieces (text : Text) : (pieces text).flatMap Piece.written = text :=
  writtenPiecesFrom 0 text

def Closed (text : Text) : Prop :=
  ∀ before after, text = before ++ '\x7b' :: after → '\x7d' ∈ after

theorem Closed.tail {c : Char} {text : Text} (closed : Closed (c :: text)) : Closed text :=
  fun before after same => closed (c :: before) after (congrArg (c :: ·) same)

theorem piecesFromAppend {text : Text} (closed : Closed text) (rest : Text) {skipped : Nat}
    (inside : skipped ≤ text.length) :
    piecesFrom skipped (text ++ rest) = piecesFrom skipped text ++ pieces rest := by
  induction text generalizing skipped with
  | nil =>
    cases Nat.le_zero.mp inside
    rfl
  | cons c text ih =>
    cases skipped with
    | succ skipped => exact ih closed.tail (Nat.le_of_succ_le_succ inside)
    | zero =>
      have next := ih closed.tail (Nat.zero_le _)
      by_cases opens : c = '\x7b'
      · have member := closed [] text (by rw [opens]; rfl)
        have shorter := closedIff.mpr member
        have longer := closedIff.mpr (List.mem_append_left rest member)
        have same : (text ++ rest).takeWhile (· != '\x7d') = text.takeWhile (· != '\x7d') := by
          obtain ⟨front, back, rfl, fresh⟩ := List.eq_append_cons_of_mem member
          rw [List.append_assoc, List.cons_append, innerClosed fresh, innerClosed fresh]
        rw [same] at longer
        rw [List.cons_append, piecesFrom, piecesFrom]
        simp only [same, shorter, longer, opens, true_and, if_true]
        split
        · rw [ih closed.tail shorter]
          rfl
        · rw [next]
          rfl
      · rw [List.cons_append, piecesFrom, piecesFrom]
        simp only [opens, false_and, if_false]
        rw [next]
        rfl

theorem piecesAppend {text : Text} (closed : Closed text) (rest : Text) :
    pieces (text ++ rest) = pieces text ++ pieces rest :=
  piecesFromAppend closed rest (Nat.zero_le _)

theorem closedOf {text : Text} (free : '\x7b' ∉ text) : Closed text := by
  rintro before after rfl
  simp at free

theorem Closed.start {text rest : Text} (closed : Closed (text ++ rest)) (plain : '\x7d' ∉ rest) :
    Closed text := by
  rintro before after rfl
  have member := closed before (after ++ rest) (by simp)
  exact (List.mem_append.mp member).resolve_right plain

theorem slashesFirst (text : Text) : ∀ c ∈ text.takeWhile (· == '/'), c = '/' := by
  intro c member
  have slash := List.mem_takeWhile_imp member
  exact beq_iff_eq.mp slash

theorem slashesEnd (text : Text) :
    ∃ slashes, text = Text.dropEndWhile (· == '/') text ++ slashes ∧ ∀ c ∈ slashes, c = '/' := by
  refine ⟨(text.reverse.takeWhile (· == '/')).reverse, ?_, fun c member => ?_⟩
  · rw [Text.dropEndWhile, ← List.reverse_append, List.takeWhile_append_dropWhile,
      List.reverse_reverse]
  · exact slashesFirst text.reverse c (List.mem_reverse.mp member)

theorem notSlash {text : Text} (slashes : ∀ c ∈ text, c = '/') {c : Char} (other : c ≠ '/') :
    c ∉ text :=
  fun member => other (slashes c member)

theorem slashPieces {text : Text} (slashes : ∀ c ∈ text, c = '/') :
    ∀ piece ∈ pieces text, piece.named? = none := by
  induction text with
  | nil => intro piece member; cases member
  | cons c rest ih =>
    cases slashes c List.mem_cons_self
    intro piece member
    rcases List.mem_cons.mp member with rfl | later
    · rfl
    · exact ih (fun d inside => slashes d (List.mem_cons_of_mem _ inside)) piece later

theorem segmentFull {apiPrefix path : Text} (closed : Closed apiPrefix) {piece : Piece} {name : Text}
    (named : piece.named? = some name) (member : piece ∈ pieces path) :
    piece ∈ pieces (full apiPrefix path) := by
  obtain ⟨slashes, split, ending⟩ := slashesEnd apiPrefix
  have front : Closed (Text.dropEndWhile (· == '/') apiPrefix) := by
    rw [split] at closed
    exact closed.start (notSlash ending (by decide))
  have leading := slashesFirst path
  rw [← List.takeWhile_append_dropWhile (p := (· == '/')) (l := path),
    piecesAppend (closedOf (notSlash leading (by decide)))] at member
  rcases List.mem_append.mp member with first | last
  · rw [slashPieces leading piece first] at named
    contradiction
  · rw [full, piecesAppend front]
    exact List.mem_append_right _ (List.mem_cons_of_mem _ last)

inductive Place where
  | kept (text : Text)
  | filled (argument : Argument)

namespace Place

def text : Place → Text
  | kept text => text
  | filled argument => '$' :: '\x7b' :: argument.name ++ ['\x7d']

def isFilled : Place → Bool
  | kept _ => false
  | filled _ => true

end Place

/- The literal is a template as soon as one place is filled. -/
def literal (places : List Place) : Text :=
  if places.any (·.isFilled) then '\x60' :: places.flatMap (·.text) ++ ['\x60']
  else '\'' :: escapeQuoted (places.flatMap (·.text)) ++ ['\'']

/- A segment is filled with a route argument that it names, and kept where there is none. -/
inductive Stands (routed : List Argument) (piece : Piece) : Place → Prop where
  | kept (foreign : ∀ argument ∈ routed, piece.named? ≠ some (Text.lower argument.wireName)) :
      Stands routed piece (.kept piece.written)
  | filled {argument : Argument} (member : argument ∈ routed)
      (named : piece.named? = some (Text.lower argument.wireName)) :
      Stands routed piece (.filled argument)

def routed (arguments : List Argument) : List Argument :=
  arguments.filter (·.channel == .route)

def filler? (arguments : List Argument) : Piece → Option Argument
  | .char _ => none
  | .segment _ name => ((routed arguments).filter (Text.lower ·.wireName == key name)).getLast?

def place (arguments : List Argument) (piece : Piece) : Place :=
  match filler? arguments piece with
  | some argument => .filled argument
  | none => .kept piece.written

theorem identifierFiller (arguments : List Argument) (written name : Text) :
    identifier? arguments name = (filler? arguments (.segment written name)).map (·.name) := by
  rw [identifier?, filler?, routed, List.filter_filter]
  congr 3
  funext argument
  exact Bool.and_comm _ _

theorem renderPlace (arguments : List Argument) (piece : Piece) :
    piece.render arguments = (place arguments piece).text := by
  cases piece with
  | char c => rfl
  | segment written name =>
    rw [Piece.render, identifierFiller arguments written name, place]
    cases filler? arguments (.segment written name) <;> rfl

theorem filledPlace (arguments : List Argument) (piece : Piece) :
    piece.isFilled arguments = (place arguments piece).isFilled := by
  cases piece with
  | char c => rfl
  | segment written name =>
    rw [Piece.isFilled, identifierFiller arguments written name, place]
    cases filler? arguments (.segment written name) <;> rfl

theorem placeStands (arguments : List Argument) (piece : Piece) :
    Stands (routed arguments) piece (place arguments piece) := by
  unfold place
  cases piece with
  | char c => exact .kept fun _ _ => by simp [Piece.named?]
  | segment written name =>
    cases found : filler? arguments (.segment written name) with
    | some argument =>
      have last := List.mem_of_getLast? found
      obtain ⟨member, named⟩ := List.mem_filter.mp last
      exact .filled member (congrArg some (beq_iff_eq.mp named).symm)
    | none =>
      have none := List.filter_eq_nil_iff.mp (List.getLast?_eq_none_iff.mp found)
      refine .kept fun argument member same => none argument member ?_
      exact beq_iff_eq.mpr (Option.some.inj same).symm

theorem keptText {routed : List Argument} {pieces : List Piece} {places : List Place}
    (stands : List.Forall₂ (Stands routed) pieces places)
    (kept : places.any (·.isFilled) = false) :
    places.flatMap (·.text) = pieces.flatMap Piece.written := by
  induction stands with
  | nil => rfl
  | cons first _ ih =>
    rw [List.any_cons, Bool.or_eq_false_iff] at kept
    rw [List.flatMap_cons, List.flatMap_cons, ih kept.2]
    cases first with
    | kept => rfl
    | filled => simp [Place.isFilled] at kept

theorem buildStands (apiPrefix path : Text) (arguments : List Argument) :
    ∃ places, List.Forall₂ (Stands (routed arguments)) (pieces (full apiPrefix path)) places ∧
      build apiPrefix path arguments = literal places := by
  have stands : List.Forall₂ (Stands (routed arguments)) (pieces (full apiPrefix path))
      ((pieces (full apiPrefix path)).map (place arguments)) := by
    rw [List.forall₂_map_right_iff, List.forall₂_same]
    exact fun piece _ => placeStands arguments piece
  refine ⟨_, stands, ?_⟩
  have filled : (pieces (full apiPrefix path)).any (·.isFilled arguments) =
      ((pieces (full apiPrefix path)).map (place arguments)).any (·.isFilled) := by
    rw [List.any_map]
    congr 1
    funext piece
    exact filledPlace arguments piece
  rw [build, literal, filled]
  split
  · rw [List.flatMap_map]
    simp only [renderPlace]
  · rename_i kept
    rw [keptText stands (Bool.eq_false_iff.mpr kept), writtenPieces]

theorem Stands.alone {routed : List Argument} {piece : Piece} {place : Place} {argument : Argument}
    (stands : Stands routed piece place) (member : argument ∈ routed)
    (alone : ∀ other ∈ routed, Text.lower other.wireName = Text.lower argument.wireName →
      other = argument) :
    place = .filled argument ↔ piece.named? = some (Text.lower argument.wireName) := by
  cases stands with
  | kept foreign => simp [foreign argument member]
  | @filled other inside named =>
    constructor
    · intro same
      cases same
      exact named
    · intro same
      have equal := Option.some.inj (named.symm.trans same)
      rw [alone other inside equal]

end TypedClient.Url
