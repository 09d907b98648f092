/-!
Texts are lists of characters. This module holds the cuts and replacements that every other part
of the library builds on. Lengths count code points.
-/

namespace TypedClient

abbrev Text := List Char

instance : Coe String Text := ⟨String.toList⟩

instance decidableMem (text : Text) (texts : List Text) : Decidable (text ∈ texts) :=
  List.instDecidableMemOfLawfulBEq text texts

namespace Text

def after? : Text → Text → Option Text
  | [], text => some text
  | _ :: _, [] => none
  | c :: start, d :: text => if c = d then after? start text else none

def before? (ending : Text) : Text → Option Text
  | [] => if ending = [] then some [] else none
  | c :: rest => if c :: rest = ending then some [] else (before? ending rest).map (c :: ·)

theorem beforeEqSome {ending text front : Text} :
    before? ending text = some front ↔ text = front ++ ending := by
  induction text generalizing front with
  | nil => cases ending <;> cases front <;> simp [before?]
  | cons c rest ih =>
    by_cases whole : c :: rest = ending
    · cases front with
      | nil => simp [before?, whole]
      | cons d front =>
        simp only [before?, whole, if_true, Option.some.injEq, List.cons_append]
        constructor
        · intro absurd; cases absurd
        · intro eq
          have := congrArg List.length eq
          simp at this
          omega
    · cases front with
      | nil => simp [before?, whole]
      | cons d front =>
        simp only [before?, whole, if_false, Option.map_eq_some_iff, ih]
        grind

def dropSuffix (suffix text : Text) : Text :=
  (before? suffix text).getD text

def dropEndWhile (drops : Char → Bool) (text : Text) : Text :=
  (text.reverse.dropWhile drops).reverse

def extendFirst (c : Char) : List Text → List Text
  | [] => [[c]]
  | piece :: others => (c :: piece) :: others

theorem lengthExtendFirst {c : Char} {pieces : List Text} {bound : Nat}
    (short : ∀ piece ∈ pieces, piece.length ≤ bound) :
    ∀ piece ∈ extendFirst c pieces, piece.length ≤ bound + 1 := by
  intro piece mem
  cases pieces with
  | nil => simp [extendFirst] at mem; simp [mem]
  | cons first others =>
    rcases List.mem_cons.mp mem with rfl | inside
    · simpa using short first List.mem_cons_self
    · exact Nat.le_succ_of_le (short piece (List.mem_cons_of_mem _ inside))

def pieces (separates : Char → Bool) : Text → List Text
  | [] => [[]]
  | c :: rest =>
    if separates c then [] :: pieces separates rest
    else extendFirst c (pieces separates rest)

def replaceFrom (pattern replacement : Text) : Nat → Text → Text
  | _, [] => []
  | skipped + 1, _ :: rest => replaceFrom pattern replacement skipped rest
  | 0, c :: rest =>
    if pattern.isPrefixOf (c :: rest) then
      replacement ++ replaceFrom pattern replacement (pattern.length - 1) rest
    else c :: replaceFrom pattern replacement 0 rest

/-- Occurrences are taken from the left and never overlap. The pattern is not empty. -/
def replaceAll (pattern replacement text : Text) : Text :=
  replaceFrom pattern replacement 0 text

def splitFirst (c : Char) : Text → Option (Text × Text)
  | [] => none
  | d :: rest =>
    if d = c then some ([], rest)
    else (splitFirst c rest).map fun (before, after) => (d :: before, after)

theorem splitFirstEqSome {c : Char} {text before after : Text}
    (found : splitFirst c text = some (before, after)) :
    text = before ++ c :: after ∧ c ∉ before := by
  induction text generalizing before with
  | nil => simp [splitFirst] at found
  | cons d rest ih =>
    by_cases same : d = c
    · simp [splitFirst, same] at found
      simp [found, same]
    · simp only [splitFirst, same, if_false, Option.map_eq_some_iff] at found
      obtain ⟨⟨front, back⟩, eq, pair⟩ := found
      cases pair
      obtain ⟨whole, free⟩ := ih eq
      exact ⟨by simp [whole], by simp [free, Ne.symm same]⟩

def lines (text : List Text) : Text :=
  (['\n'] : Text).intercalate text

def decimal (n : Nat) : Text :=
  Nat.toDigits 10 n

def decimalInt (n : Int) : Text :=
  if n < 0 then '-' :: decimal n.natAbs else decimal n.natAbs

def mostDigits : Nat := 4300

/-- Whether a number has too many decimal digits; from 15000 binary digits on it has. -/
def tooLong (n : Int) : Bool :=
  15000 ≤ n.natAbs.log2 || mostDigits < (decimal n.natAbs).length

def digitLimitText (details : Text) : Text :=
  "Exceeds the limit (" ++ decimal mostDigits ++ " digits) for integer string conversion" ++ details
    ++ "; use sys.set_int_max_str_digits() to increase the limit"

def hexadecimal (width n : Nat) : Text :=
  let digits := Nat.toDigits 16 n
  List.replicate (width - digits.length) '0' ++ digits

def padded (width n : Nat) : Text :=
  let digits := decimal n
  List.replicate (width - digits.length) '0' ++ digits

def distinct (texts : List Text) : List Text :=
  texts.foldl (fun seen text => if text ∈ seen then seen else seen ++ [text]) []

def precedes : Text → Text → Bool
  | [], _ => true
  | _ :: _, [] => false
  | c :: cs, d :: ds => if c = d then precedes cs ds else c.val < d.val

end Text

end TypedClient
