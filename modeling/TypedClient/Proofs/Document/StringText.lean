import Mathlib.Tactic.SplitIfs
import TypedClient.Document.Json

/-!
Texts as JSON strings. Every text is read back from its literal, sign by sign: what is printable stands
for itself, and everything else is an escape of its code units.
-/

namespace TypedClient.Json

theorem hexDigitWritten {digit : Nat} (small : digit < 16) :
    hexDigitValue? (Nat.digitChar digit) = some digit := by
  have all : ∀ digit < 16, hexDigitValue? (Nat.digitChar digit) = some digit := by decide
  exact all digit small

def hexStep (value : Option Nat) (c : Char) : Option Nat := do
  let high ← value
  let low ← hexDigitValue? c
  return high * 16 + low

theorem hexDigitsWritten (n : Nat) : (Nat.toDigits 16 n).foldl hexStep (some 0) = some n := by
  induction n using Nat.strongRecOn with
  | ind n ih =>
    by_cases small : n < 16
    · rw [Nat.toDigits_of_lt_base small, List.foldl_cons, List.foldl_nil, hexStep,
        hexDigitWritten small]
      simp
    · have large := Nat.le_of_not_lt small
      rw [Nat.toDigits_of_base_le (by decide) large, List.foldl_append, ih (n / 16) (by omega),
        List.foldl_cons, List.foldl_nil, hexStep, hexDigitWritten (Nat.mod_lt n (by decide))]
      have whole : n / 16 * 16 + n % 16 = n := Nat.div_add_mod' n 16
      simp [whole]

theorem hexZerosWritten (count : Nat) : (List.replicate count '0').foldl hexStep (some 0) = some 0 := by
  induction count with
  | zero => rfl
  | succ count ih => exact ih

theorem lengthHexadecimal {n : Nat} (short : n < 0x10000) : (Text.hexadecimal 4 n).length = 4 := by
  have digits : (Nat.toDigits 16 n).length ≤ 4 :=
    (Nat.length_toDigits_le_iff (by decide) (by decide)).mpr short
  simp only [Text.hexadecimal, List.length_append, List.length_replicate]
  omega

theorem hexadecimalRead {n : Nat} (short : n < 0x10000) (rest : Text) :
    hexValue? 4 (Text.hexadecimal 4 n ++ rest) = some n ∧
      (Text.hexadecimal 4 n ++ rest).drop 4 = rest := by
  have long := lengthHexadecimal short
  have value : (Text.hexadecimal 4 n).foldl hexStep (some 0) = some n := by
    rw [Text.hexadecimal, List.foldl_append, hexZerosWritten, hexDigitsWritten]
  refine ⟨?_, List.drop_left' long⟩
  unfold hexValue?
  dsimp only
  rw [List.take_left' long, if_neg (by omega)]
  exact value

section Strings

variable {fuel : Nat} {rest : Text}

def behind (c : Char) (result : Text × Text) : Text × Text :=
  (c :: result.1, result.2)

theorem readEscape {sign c : Char} (known : simpleEscape? sign = some c) (rest : Text) :
    readString (fuel + 1) ('\\' :: sign :: rest) = (readString fuel rest).map (behind c) := by
  have other : sign = 'u' → False := by
    rintro rfl
    contradiction
  rw [readString]
  · rw [known]
    cases readString fuel rest <;> rfl
  · exact other

theorem readPrinted {c : Char} (quote : c ≠ '"') (escape : c ≠ '\\') (printed : ¬ c.toNat < 32)
    (rest : Text) : readString (fuel + 1) (c :: rest) = (readString fuel rest).map (behind c) := by
  rw [readString]
  · rw [if_neg (by simp [printed, escape])]
    cases readString fuel rest <;> rfl
  all_goals simp_all

theorem noSurrogate (c : Char) : highSurrogate c.toNat = false ∧ lowSurrogate c.toNat = false := by
  have valid : c.toNat < 0xD800 ∨ (0xDFFF < c.toNat ∧ c.toNat < 0x110000) := c.valid
  simp only [highSurrogate, lowSurrogate, Bool.and_eq_false_iff, decide_eq_false_iff_not]
  omega

theorem readBehind {c : Char} {found : Char × Text} (same : found = (c, rest)) :
    ((readString fuel found.2).bind fun result => pure (found.1 :: result.1, result.2)) =
      (readString fuel rest).map (behind c) := by
  subst same
  cases readString fuel rest <;> rfl

theorem readUnit {c : Char} (short : c.toNat < 0x10000) (rest : Text) :
    readString (fuel + 1) (Text.unicodeEscape c.toNat ++ rest) =
      (readString fuel rest).map (behind c) := by
  obtain ⟨value, after⟩ := hexadecimalRead short rest
  obtain ⟨high, low⟩ := noSurrogate c
  have single : charOfCode c.toNat = c := by
    simp [charOfCode, high, low]
  rw [Text.unicodeEscape, List.cons_append, List.cons_append, readString, value]
  simp only [Option.bind_eq_bind, Option.bind_some, after, high, Bool.false_and, Bool.false_eq_true,
    if_false, single]
  -- another escape may follow, but the code is no first half of a pair
  refine readBehind ?_
  split
  · split <;> rfl
  · rfl

theorem pairWritten {c : Char} (large : ¬ c.toNat < 0x10000) :
    ∃ high low, high = 0xD800 + (c.toNat - 0x10000) / 0x400 ∧
      low = 0xDC00 + (c.toNat - 0x10000) % 0x400 ∧ high < 0x10000 ∧ low < 0x10000 ∧
      (highSurrogate high && lowSurrogate low) = true ∧ combineSurrogates high low = c := by
  have valid : c.toNat < 0xD800 ∨ (0xDFFF < c.toNat ∧ c.toNat < 0x110000) := c.valid
  refine ⟨_, _, rfl, rfl, by omega, by omega, ?_, ?_⟩
  · simp only [highSurrogate, lowSurrogate, Bool.and_eq_true, decide_eq_true_eq]
    omega
  · have whole : 0x10000 + (0xD800 + (c.toNat - 0x10000) / 0x400 - 0xD800) * 0x400 +
        (0xDC00 + (c.toNat - 0x10000) % 0x400 - 0xDC00) = c.toNat := by omega
    rw [combineSurrogates, whole, Char.ofNat_toNat]

theorem readPair {c : Char} (large : ¬ c.toNat < 0x10000) (rest : Text) :
    readString (fuel + 1) (Text.unicodeEscape (0xD800 + (c.toNat - 0x10000) / 0x400) ++
      Text.unicodeEscape (0xDC00 + (c.toNat - 0x10000) % 0x400) ++ rest) =
      (readString fuel rest).map (behind c) := by
  obtain ⟨high, low, first, second, highShort, lowShort, pair, whole⟩ := pairWritten large
  rw [← first, ← second, List.append_assoc]
  obtain ⟨value, after⟩ := hexadecimalRead highShort (Text.unicodeEscape low ++ rest)
  obtain ⟨lowValue, later⟩ := hexadecimalRead lowShort rest
  rw [Text.unicodeEscape, List.cons_append, List.cons_append, readString, value]
  simp only [Option.bind_eq_bind, Option.bind_some, after]
  refine readBehind ?_
  rw [Text.unicodeEscape, List.cons_append, List.cons_append]
  simp only [lowValue, later, pair, whole, if_true, Option.getD_some]

theorem charIs {c : Char} {code : Nat} (same : c.toNat = code) : c = Char.ofNat code := by
  rw [← same, Char.ofNat_toNat]

theorem readLiteralChar (c : Char) (rest : Text) :
    readString (fuel + 1) (Text.literalChar c ++ rest) = (readString fuel rest).map (behind c) := by
  unfold Text.literalChar
  split_ifs with quote escape feed carriage tab page back printed short
  · exact readEscape (quote ▸ rfl) rest
  · exact readEscape (escape ▸ rfl) rest
  · exact readEscape (feed ▸ rfl) rest
  · exact readEscape (carriage ▸ rfl) rest
  · exact readEscape (tab ▸ rfl) rest
  · exact readEscape (charIs page ▸ rfl) rest
  · exact readEscape (charIs back ▸ rfl) rest
  · exact readPrinted quote escape (by omega) rest
  · exact readUnit short rest
  · exact readPair short rest

theorem readLiteralText (text : Text) {fuel : Nat} (enough : text.length < fuel) (rest : Text) :
    readString fuel (text.flatMap Text.literalChar ++ '"' :: rest) = some (text, rest) := by
  induction text generalizing fuel with
  | nil =>
    obtain ⟨fuel, rfl⟩ := Nat.exists_eq_add_one_of_ne_zero (Nat.ne_of_gt enough)
    rw [List.flatMap_nil, List.nil_append, readString]
  | cons c text ih =>
    obtain ⟨fuel, rfl⟩ := Nat.exists_eq_add_one_of_ne_zero (Nat.ne_zero_of_lt enough)
    rw [List.flatMap_cons, List.append_assoc, readLiteralChar, ih (Nat.lt_of_succ_lt_succ enough)]
    rfl

theorem literalCharFilled (c : Char) : Text.literalChar c ≠ [] := by
  intro none
  have read := @readLiteralChar 1 c ['"']
  rw [none, List.nil_append, readString, readString] at read
  cases read

end Strings

theorem lengthLiteral (text : Text) : text.length ≤ (text.flatMap Text.literalChar).length := by
  induction text with
  | nil => exact Nat.zero_le _
  | cons c text ih =>
    have some := List.length_pos_iff.mpr (literalCharFilled c)
    rw [List.flatMap_cons, List.length_append, List.length_cons]
    omega

def stringOf? : Text → Option Text
  | '"' :: rest =>
    match readString (rest.length + 1) rest with
    | some (text, []) => some text
    | _ => none
  | _ => none

theorem stringLiteral (text : Text) : stringOf? (Text.literal text) = some text := by
  have enough : text.length < (text.flatMap Text.literalChar ++ ['"']).length + 1 := by
    have long := lengthLiteral text
    rw [List.length_append]
    omega
  have inside := readLiteralText text enough []
  rw [Text.literal, List.cons_append, stringOf?, inside]

theorem stringQuoted {token text : Text} (read : stringOf? token = some text) :
    token.head? = some '"' := by
  unfold stringOf? at read
  split at read
  · rfl
  · contradiction

end TypedClient.Json
