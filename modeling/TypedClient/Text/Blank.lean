import TypedClient.Text.Basic

/-!
Blank characters are the Unicode white space characters together with the four information
separators U+001C to U+001F. A zero-width space is not blank.
-/

namespace TypedClient.Text

def blankRanges : List (Nat × Nat) :=
  [(0x09, 0x0D), (0x1C, 0x20), (0x85, 0x85), (0xA0, 0xA0), (0x1680, 0x1680), (0x2000, 0x200A),
   (0x2028, 0x2029), (0x202F, 0x202F), (0x205F, 0x205F), (0x3000, 0x3000)]

def blank (c : Char) : Bool :=
  blankRanges.any fun (first, last) => first ≤ c.toNat && c.toNat ≤ last

def isBlank (text : Text) : Bool :=
  text.all blank

def strip (text : Text) : Text :=
  dropEndWhile blank (text.dropWhile blank)

theorem lengthStrip (text : Text) : (strip text).length ≤ text.length := by
  simp only [strip, dropEndWhile, List.length_reverse]
  exact Nat.le_trans (List.dropWhile_sublist _).length_le
    (by simpa using (List.dropWhile_sublist blank).length_le)

def whiteSpace (c : Char) : Bool :=
  blank c && !(0x1C ≤ c.toNat && c.toNat ≤ 0x1F)

def trim (text : Text) : Text :=
  dropEndWhile whiteSpace (text.dropWhile whiteSpace)

def collapse : Text → Text
  | [] => []
  | [c] => if blank c then [' '] else [c]
  | c :: d :: rest =>
    if blank c then
      if blank d then collapse (d :: rest) else ' ' :: collapse (d :: rest)
    else c :: collapse (d :: rest)

def splitLines : Text → List Text
  | [] => [[]]
  | '\r' :: '\n' :: rest => [] :: splitLines rest
  | c :: rest =>
    if c = '\n' ∨ c = '\r' then [] :: splitLines rest
    else extendFirst c (splitLines rest)

def unifyLineBreaks : Text → Text
  | [] => []
  | '\r' :: '\n' :: rest => '\n' :: unifyLineBreaks rest
  | c :: rest => (if c = '\r' then '\n' else c) :: unifyLineBreaks rest

end TypedClient.Text
