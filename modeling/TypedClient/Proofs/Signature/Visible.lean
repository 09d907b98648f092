import Mathlib.Data.List.Infix
import TypedClient.Proofs.Signature.Reading

/-!
What reading keeps of a text. The canonical text of what was read has the characters of the text in
their order, its blanks apart, whatever is wrong with the text. Two marks are written in another way:
a `?` at the end, and the brackets of a generic signature with the base `[]`.
-/

namespace TypedClient

namespace Text

variable {text : Text}

def withoutBlanks (text : Text) : Text :=
  text.filter fun c => !blank c

theorem withoutAppend (first second : Text) :
    withoutBlanks (first ++ second) = withoutBlanks first ++ withoutBlanks second :=
  List.filter_append ..

theorem withoutOfBlank (blanks : isBlank text = true) : withoutBlanks text = [] := by
  refine List.filter_eq_nil_iff.mpr fun c member => ?_
  rw [List.all_eq_true.mp blanks c member]
  decide

theorem withoutStrip (text : Text) : withoutBlanks (strip text) = withoutBlanks text := by
  cases visible : isBlank text with
  | true => rw [stripBlank visible, withoutOfBlank visible]; rfl
  | false =>
    obtain ⟨before, after, whole, leading, trailing, _⟩ := stripCore visible
    conv_rhs => rw [whole]
    rw [withoutAppend, withoutAppend, withoutOfBlank leading, withoutOfBlank trailing,
      List.nil_append, List.append_nil]

end Text

namespace Signature

variable {text : Text}

theorem withoutJoin (pieces : List Text) :
    Text.withoutBlanks (comma.intercalate pieces) =
      comma.intercalate (pieces.map Text.withoutBlanks) := by
  have separator : Text.withoutBlanks comma = comma := by decide
  induction pieces with
  | nil => rfl
  | cons first rest ih =>
    cases rest with
    | nil => simp
    | cons second others =>
      rw [List.intercalate_cons_cons, Text.withoutAppend, Text.withoutAppend, ih, separator,
        List.map_cons, List.map_cons, List.map_cons, List.intercalate_cons_cons]

theorem withoutBracketed (name : Text) (pieces : List Text) :
    Text.withoutBlanks (name ++ '<' :: comma.intercalate pieces ++ ['>']) =
      Text.withoutBlanks name ++ '<' :: comma.intercalate (pieces.map Text.withoutBlanks) ++ ['>'] := by
  have opening : Text.withoutBlanks ['<'] = ['<'] := by decide
  have closing : Text.withoutBlanks ['>'] = ['>'] := by decide
  rw [← List.singleton_append, Text.withoutAppend, Text.withoutAppend, Text.withoutAppend, opening,
    closing, withoutJoin, List.singleton_append]

/- The suffix of an array, and after it an opening bracket, perhaps with blanks between them. -/
def BracketsArray (text : Text) : Prop :=
  ∃ front gap rest, Text.isBlank gap = true ∧ text = front ++ arrayName ++ gap ++ '<' :: rest

theorem bracketsArrayIff : BracketsArray text ↔
    ∃ rest ∈ text.tails, arrayName <+: rest ∧ ['<'] <+: (rest.drop 2).dropWhile Text.blank := by
  constructor
  · rintro ⟨front, gap, rest, blanks, rfl⟩
    refine ⟨arrayName ++ (gap ++ '<' :: rest), ?_, List.prefix_append _ _, rest, ?_⟩
    · exact (List.mem_tails _ _).mpr ⟨front, by simp⟩
    · have opening : Text.Starts ('<' :: rest) := ⟨'<', rest, rfl, by decide⟩
      have later : (arrayName ++ (gap ++ '<' :: rest)).drop 2 = gap ++ '<' :: rest := rfl
      rw [later, Text.dropWhileBlank blanks, Text.dropWhileStarts opening, List.singleton_append]
  · rintro ⟨_, tail, ⟨later, rfl⟩, rest, opening⟩
    obtain ⟨front, rfl⟩ := (List.mem_tails _ _).mp tail
    have cut := (List.takeWhile_append_dropWhile (p := Text.blank) (l := later)).symm
    change ['<'] ++ rest = later.dropWhile Text.blank at opening
    rw [← opening] at cut
    refine ⟨front, later.takeWhile Text.blank, rest, List.all_takeWhile, ?_⟩
    rw [List.append_assoc, List.append_assoc]
    exact congrArg (fun others => front ++ (arrayName ++ others)) cut

instance (text : Text) : Decidable (BracketsArray text) :=
  decidable_of_iff _ bracketsArrayIff.symm

structure Verbatim (text : Text) : Prop where
  noMark : '?' ∉ text
  noBase : ¬ BracketsArray text

theorem Verbatim.part {part : Text} (verbatim : Verbatim text) (within : part <:+: text) :
    Verbatim part where
  noMark := fun member => verbatim.noMark (within.subset member)
  noBase := by
    rintro ⟨front, gap, rest, blanks, rfl⟩
    obtain ⟨before, after, rfl⟩ := within
    exact verbatim.noBase ⟨before ++ front, gap, rest ++ after, blanks, by simp⟩

theorem Verbatim.base {front rest : Text} (verbatim : Verbatim (front ++ '<' :: rest))
    (visible : Text.isBlank front = false) : Text.strip front ≠ arrayName := by
  intro same
  obtain ⟨before, after, whole, _, trailing, _⟩ := Text.stripCore visible
  refine verbatim.noBase ⟨before, after, rest, trailing, ?_⟩
  rw [← same, ← whole]

theorem pieceWithin {front piece : Text} {pieces : List Text}
    (span : Text.strip text = front ++ '<' :: comma.intercalate pieces ++ ['>'])
    (member : piece ∈ pieces) : piece <:+: text := by
  have bracketed : comma.intercalate pieces <:+: Text.strip text :=
    ⟨front ++ ['<'], ['>'], by simp [span]⟩
  exact (Text.infixIntercalate comma member).trans (bracketed.trans (Text.stripWithin text))

theorem keepsVisible (verbatim : Verbatim text) :
    Text.withoutBlanks (parse text).text = Text.withoutBlanks text := by
  induction text using readingInduction with
  | whole text read =>
    rw [read]
    exact Text.withoutStrip text
  | array text inner span kept read ih =>
    have trimmed : inner <:+: Text.strip text := span ▸ (List.prefix_append inner arrayName).isInfix
    have below := ih (verbatim.part (trimmed.trans (Text.stripWithin text)))
    rw [read, textNode, List.map_singleton, textArray, Text.withoutAppend, below,
      ← Text.withoutAppend, ← span, Text.withoutStrip]
  | nullable text inner span =>
    have mark : '?' ∈ Text.strip text := by simp [span]
    exact absurd ((Text.stripWithin text).subset mark) verbatim.noMark
  | generic text front inner pieces span starts free cut read ih =>
    obtain ⟨nonempty, _, rfl⟩ := splitArgumentsIff.mp cut
    have trimmed := verbatim.part (Text.stripWithin text)
    rw [span, List.append_assoc] at trimmed
    have named : Text.strip front ≠ arrayName := trimmed.base starts.visible
    have below : ((pieces.map parse).map Signature.text).map Text.withoutBlanks =
        pieces.map Text.withoutBlanks := by
      rw [List.map_map, List.map_map]
      exact List.map_congr_left fun piece member => ih piece member (verbatim.part (pieceWithin span member))
    rw [read, textNode, textBracketed (by simpa using nonempty) (fun same => absurd same named),
      withoutBracketed, below, Text.withoutStrip, ← withoutBracketed, ← span, Text.withoutStrip]

def raggedText : Text :=
  "\tPage < Pair<A , B [ ]> [] ,  <C <D>, E  [] > > [] "

theorem keepsVisibleRagged :
    Verbatim raggedText ∧ (parse raggedText).text = "Page<Pair<A,B [ ]>[],<C <D>, E  [] >>[]" ∧
      Text.withoutBlanks (parse raggedText).text = "Page<Pair<A,B[]>[],<C<D>,E[]>>[]" := by
  have verbatim : Verbatim raggedText := ⟨by decide, by decide⟩
  refine ⟨verbatim, by decide +kernel, ?_⟩
  rw [keepsVisible verbatim]
  decide

end Signature

end TypedClient
