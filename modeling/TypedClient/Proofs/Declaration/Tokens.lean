import Mathlib.Data.List.TakeWhile
import TypedClient.Declaration
import TypedClient.Proofs.Document.StringText

/-!
Names of members and values of enumerations, as a declaration writes them: as they are or quoted. The
quotes are always right. What is written as it is passes its check with one line feed at the end, and a
value with the digits of any script; exactly there the text that is written is not the one that is meant.
-/

namespace TypedClient.Declaration

inductive Faithful (plain : Text → Prop) (value : Text) : Text → Prop where
  | bare (own : plain value) : Faithful plain value value
  | quoted {token : Text} (read : Json.stringOf? token = some value) : Faithful plain value token

/- Letters, digits and other numerals of any script, the low line and the dollar sign; the first is a
plain letter or one of these two. -/
inductive BareName : Text → Prop where
  | parts {c : Char} {rest : Text} (starts : Text.asciiLetter c = true ∨ c = '_' ∨ c = '$')
      (others : ∀ d ∈ rest, Text.wordChar d = true ∨ d = '$') : BareName (c :: rest)

structure Digits (digit : Char → Bool) (text : Text) : Prop where
  filled : text ≠ []
  all : ∀ c ∈ text, digit c = true

inductive Unsigned (digit : Char → Bool) : Text → Prop where
  | whole {digits : Text} (front : Digits digit digits) : Unsigned digit digits
  | fraction {digits others : Text} (front : Digits digit digits) (back : Digits digit others) :
      Unsigned digit (digits ++ '.' :: others)

inductive Numeral (digit : Char → Bool) : Text → Prop where
  | positive {text : Text} (unsigned : Unsigned digit text) : Numeral digit text
  | negative {text : Text} (unsigned : Unsigned digit text) : Numeral digit ('-' :: text)

def Broken (fits : Text → Prop) (value : Text) : Prop :=
  ∃ front, value = front ++ ['\n'] ∧ fits front

/- What fits starts with no quote, so it reads as no string, and has no line feed. -/
structure Legible (fits : Text → Prop) : Prop where
  opens : ∀ {text}, fits text → ∃ c rest, text = c :: rest ∧ c ≠ '"'
  unbroken : ∀ {text}, fits text → '\n' ∉ text

section Breaks

variable {value : Text} {fits : Text → Prop}

theorem breakEnds (front : Text) : withoutFinalBreak (front ++ ['\n']) = front := by
  rw [withoutFinalBreak, Text.beforeEqSome.mpr rfl, Option.getD_some]

theorem breakAbsent (none : ¬ ∃ front, value = front ++ ['\n']) : withoutFinalBreak value = value := by
  unfold withoutFinalBreak
  cases found : Text.before? ['\n'] value with
  | none => rfl
  | some front => exact absurd ⟨front, Text.beforeEqSome.mp found⟩ none

theorem brokenFeed (broken : Broken fits value) : '\n' ∈ value := by
  obtain ⟨front, rfl, _⟩ := broken
  simp

theorem checkedIff (legible : Legible fits) :
    fits (withoutFinalBreak value) ↔ Broken fits value ∨ fits value := by
  by_cases ends : ∃ front, value = front ++ ['\n']
  · obtain ⟨front, rfl⟩ := ends
    have unfit : ¬ fits (front ++ ['\n']) := fun here => legible.unbroken here (by simp)
    have broken : Broken fits (front ++ ['\n']) ↔ fits front := by
      constructor
      · rintro ⟨other, same, here⟩
        rwa [List.append_cancel_right same]
      · exact fun here => ⟨front, rfl, here⟩
    rw [breakEnds, broken, or_iff_left unfit]
  · have whole : ¬ Broken fits value := fun ⟨front, same, _⟩ => ends ⟨front, same⟩
    rw [breakAbsent ends, or_iff_right whole]

theorem checkedUnquoted (legible : Legible fits) (here : fits (withoutFinalBreak value)) :
    value.head? ≠ some '"' := by
  rcases (checkedIff legible).mp here with ⟨front, rfl, own⟩ | own
  all_goals
    obtain ⟨c, rest, rfl, other⟩ := legible.opens own
    simpa using other

end Breaks

section Choice

variable {plain fits : Text → Prop} {value : Text} {test : Bool}

theorem rawFaithfulIff (unquoted : value.head? ≠ some '"') : Faithful plain value value ↔ plain value := by
  refine ⟨fun faithful => ?_, .bare⟩
  cases faithful with
  | bare own => exact own
  | quoted read => exact absurd (Json.stringQuoted read) unquoted

/- The quotes are always right, so a token is wrong exactly if a text that may not stand as it is does. -/
theorem faithfulIff (unquoted : test = true → value.head? ≠ some '"') :
    Faithful plain value (if test then value else Text.literal value) ↔ (test = true → plain value) := by
  cases test with
  | false => simpa using Faithful.quoted (Json.stringLiteral value)
  | true => simpa using rawFaithfulIff (unquoted rfl)

theorem tokenFaithfulIff (checks : test = true ↔ fits (withoutFinalBreak value))
    (checked : Legible fits) (meant : Legible plain) :
    Faithful plain value (if test then value else Text.literal value) ↔
      ¬ (Broken fits value ∨ (fits value ∧ ¬ plain value)) := by
  rw [faithfulIff fun passed => checkedUnquoted checked (checks.mp passed), checks, checkedIff checked]
  constructor
  · rintro own (broken | ⟨here, other⟩)
    · exact meant.unbroken (own (.inl broken)) (brokenFeed broken)
    · exact other (own (.inr here))
  · rintro right (broken | here)
    · exact absurd (.inl broken) right
    · by_contra other
      exact right (.inr ⟨here, other⟩)

end Choice

theorem bareNameIff (name : Text) : isIdentifier name = true ↔ BareName (withoutFinalBreak name) := by
  unfold isIdentifier
  split
  · rename_i c rest whole
    have starts : identifierStart c = true ↔ Text.asciiLetter c = true ∨ c = '_' ∨ c = '$' := by
      simp [identifierStart, or_assoc]
    have others : rest.all identifierPart = true ↔ ∀ d ∈ rest, Text.wordChar d = true ∨ d = '$' := by
      simp [identifierPart]
    rw [whole, Bool.and_eq_true, starts, others]
    constructor
    · exact fun ⟨first, later⟩ => .parts first later
    · rintro ⟨first, later⟩
      exact ⟨first, later⟩
  · rename_i whole
    rw [whole]
    exact iff_of_false Bool.false_ne_true nofun

theorem bareNameLegible : Legible BareName where
  opens := by
    rintro _ ⟨starts, _⟩
    refine ⟨_, _, rfl, ?_⟩
    rintro rfl
    revert starts
    decide
  unbroken := by
    rintro _ ⟨starts, others⟩ (_ | ⟨_, later⟩)
    · revert starts
      decide
    · have sign := others _ later
      revert sign
      decide

theorem memberFaithfulIff (name : Text) :
    Faithful BareName name (memberName name) ↔ ¬ Broken BareName name := by
  have choice := tokenFaithfulIff (bareNameIff name) bareNameLegible bareNameLegible
  rw [memberName, choice, and_not_self_iff, or_false]

section Numerals

variable {digit : Char → Bool} {text : Text}

theorem Digits.runs (digits : Digits digit text) (rest : Text)
    (stops : ∀ c ∈ rest.head?, digit c = false) :
    (text ++ rest).takeWhile digit = text ∧ (text ++ rest).dropWhile digit = rest := by
  rw [List.takeWhile_append_of_pos digits.all, List.dropWhile_append_of_pos digits.all]
  cases rest with
  | nil => simp
  | cons c rest =>
    have stop : ¬ digit c = true := by simp [stops c rfl]
    rw [List.takeWhile_cons_of_neg stop, List.dropWhile_cons_of_neg stop, List.append_nil]
    exact ⟨rfl, rfl⟩

theorem runDigits (filled : text.takeWhile digit ≠ []) : Digits digit (text.takeWhile digit) :=
  ⟨filled, fun _ member => List.mem_takeWhile_imp member⟩

theorem unsignedIff (point : digit '.' = false) (text : Text) :
    (!(text.takeWhile digit).isEmpty && match text.dropWhile digit with
      | [] => true
      | '.' :: digits => !digits.isEmpty && digits.all digit
      | _ => false) = true ↔ Unsigned digit text := by
  have whole := List.takeWhile_append_dropWhile (p := digit) (l := text)
  constructor
  · intro fits
    rw [Bool.and_eq_true] at fits
    obtain ⟨front, back⟩ := fits
    have filled : text.takeWhile digit ≠ [] := by simpa using front
    split at back
    · rename_i none
      rw [none, List.append_nil] at whole
      rw [← whole]
      exact .whole (runDigits filled)
    · rename_i digits rest
      rw [Bool.and_eq_true, List.all_eq_true] at back
      rw [← whole, rest]
      exact .fraction (runDigits filled) ⟨by simpa using back.1, back.2⟩
    · contradiction
  · intro unsigned
    cases unsigned with
    | whole front =>
      obtain ⟨run, rest⟩ := front.runs [] (by simp)
      rw [List.append_nil] at run rest
      rw [run, rest]
      simp [front.filled]
    | @fraction digits others front back =>
      obtain ⟨run, rest⟩ := front.runs ('.' :: others) (by simp [point])
      rw [run, rest]
      simp [front.filled, back.filled, List.all_eq_true.mpr back.all]

theorem Unsigned.opens (unsigned : Unsigned digit text) : ∃ c rest, text = c :: rest ∧ digit c = true := by
  have first : ∀ {digits : Text}, Digits digit digits → ∃ c rest, digits = c :: rest ∧ digit c = true := by
    intro digits run
    obtain ⟨c, rest, rfl⟩ := List.exists_cons_of_ne_nil run.filled
    exact ⟨c, rest, rfl, run.all c List.mem_cons_self⟩
  cases unsigned with
  | whole front => exact first front
  | fraction front back =>
    obtain ⟨c, rest, rfl, own⟩ := first front
    exact ⟨c, _, rfl, own⟩

theorem Unsigned.signs (unsigned : Unsigned digit text) : ∀ c ∈ text, digit c = true ∨ c = '.' := by
  intro c member
  cases unsigned with
  | whole front => exact .inl (front.all c member)
  | fraction front back =>
    simp only [List.mem_append, List.mem_cons] at member
    rcases member with inFront | rfl | inBack
    · exact .inl (front.all c inFront)
    · exact .inr rfl
    · exact .inl (back.all c inBack)

theorem Numeral.signs (numeral : Numeral digit text) : ∀ c ∈ text, digit c = true ∨ c = '.' ∨ c = '-' := by
  intro c member
  cases numeral with
  | positive unsigned => exact (unsigned.signs c member).imp_right .inl
  | negative unsigned =>
    rcases List.mem_cons.mp member with rfl | inText
    · exact .inr (.inr rfl)
    · exact (unsigned.signs c inText).imp_right .inl

theorem numeralLegible (quote : digit '"' = false) (feed : digit '\n' = false) :
    Legible (Numeral digit) where
  opens := by
    rintro _ (unsigned | unsigned)
    · obtain ⟨c, rest, rfl, own⟩ := unsigned.opens
      refine ⟨c, rest, rfl, ?_⟩
      rintro rfl
      simp [quote] at own
    · exact ⟨'-', _, rfl, by decide⟩
  unbroken := by
    intro text numeral member
    simpa [feed] using numeral.signs _ member

theorem numeralIff (value : Text) :
    isNumber value = true ↔ Numeral Text.decimalDigit (withoutFinalBreak value) := by
  have point : Text.decimalDigit '.' = false := by decide
  have sign : Text.decimalDigit '-' = false := by decide
  unfold isNumber
  generalize withoutFinalBreak value = text
  split
  · refine (unsignedIff point _).trans ⟨.negative, ?_⟩
    rintro (unsigned | unsigned)
    · obtain ⟨c, rest, same, own⟩ := unsigned.opens
      cases same
      simp [sign] at own
    · exact unsigned
  · rename_i positive
    refine (unsignedIff point _).trans ⟨.positive, ?_⟩
    rintro (unsigned | unsigned)
    · exact unsigned
    · exact absurd rfl (positive _)

theorem Digits.other {other : Char → Bool} (digits : Digits digit text)
    (same : ∀ c ∈ text, digit c = true → other c = true) : Digits other text :=
  ⟨digits.filled, fun c member => same c member (digits.all c member)⟩

theorem Unsigned.other {other : Char → Bool} (unsigned : Unsigned digit text)
    (same : ∀ c ∈ text, digit c = true → other c = true) : Unsigned other text := by
  cases unsigned with
  | whole front => exact .whole (front.other same)
  | fraction front back =>
    exact .fraction (front.other fun c member => same c (by simp [member]))
      (back.other fun c member => same c (by simp [member]))

theorem Numeral.other {other : Char → Bool} (numeral : Numeral digit text)
    (same : ∀ c ∈ text, digit c = true → other c = true) : Numeral other text := by
  cases numeral with
  | positive unsigned => exact .positive (unsigned.other same)
  | negative unsigned => exact .negative (unsigned.other fun c member => same c (by simp [member]))

theorem numeralAsciiIff (numeral : Numeral Text.decimalDigit text) :
    Numeral Text.asciiDigit text ↔ ∀ c ∈ text, c.toNat < 128 := by
  constructor
  · intro ascii c member
    rcases ascii.signs c member with own | rfl | rfl
    · simp only [Text.asciiDigit, Bool.and_eq_true, decide_eq_true_eq, Char.le_def,
        UInt32.le_iff_toNat_le] at own
      exact Nat.lt_of_le_of_lt own.2 (by decide)
    · decide
    · decide
  · intro small
    refine numeral.other fun c member own => ?_
    by_contra other
    simp [Text.decimalDigit, Text.decimalDigitValue?, small c member, other] at own

theorem initializerFaithfulIff (filled : text ≠ []) : ∃ token, initializer text = " = " ++ token ∧
    (Faithful (Numeral Text.asciiDigit) text token ↔
      ¬ (Broken (Numeral Text.decimalDigit) text ∨
        (Numeral Text.decimalDigit text ∧ ∃ c ∈ text, 128 ≤ c.toNat))) := by
  have ascii : Legible (Numeral Text.asciiDigit) := numeralLegible (by decide) (by decide)
  have decimal : Legible (Numeral Text.decimalDigit) := numeralLegible (by decide) (by decide)
  have choice := tokenFaithfulIff (numeralIff text) decimal ascii
  have large : Numeral Text.decimalDigit text →
      (¬ Numeral Text.asciiDigit text ↔ ∃ c ∈ text, 128 ≤ c.toNat) := by
    intro numeral
    simp [numeralAsciiIff numeral]
  refine ⟨if isNumber text then text else Text.literal text, ?_, ?_⟩
  · unfold initializer
    rw [if_neg (by simpa using filled)]
    split <;> rfl
  · rw [choice, and_congr_right large]

end Numerals

theorem tokensFaithfulIff (name : Text) {value : Text} (filled : value ≠ []) :
    (Faithful BareName name (memberName name) ↔ ¬ Broken BareName name) ∧
    ∃ token, initializer value = " = " ++ token ∧
      (Faithful (Numeral Text.asciiDigit) value token ↔
        ¬ (Broken (Numeral Text.decimalDigit) value ∨
          (Numeral Text.decimalDigit value ∧ ∃ c ∈ value, 128 ≤ c.toNat))) :=
  ⟨memberFaithfulIff name, initializerFaithfulIff filled⟩

theorem tokensFaithfulSigned : Faithful BareName "content-type" (memberName "content-type") ∧
    ("-1.5" : Text) ≠ [] ∧ ∃ token, initializer "-1.5" = " = " ++ token ∧
      Faithful (Numeral Text.asciiDigit) "-1.5" token := by
  have filled : ("-1.5" : Text) ≠ [] := by decide
  have oneLine : ¬ Broken BareName "content-type" := fun broken => absurd (brokenFeed broken) (by decide)
  have small : ("-1.5" : Text).all (fun c => decide (c.toNat < 128)) = true := by decide
  obtain ⟨named, token, written, valued⟩ := tokensFaithfulIff "content-type" filled
  refine ⟨named.mpr oneLine, filled, token, written, valued.mpr ?_⟩
  rintro (broken | ⟨_, c, member, large⟩)
  · exact absurd (brokenFeed broken) (by decide)
  · have ascii := of_decide_eq_true (List.all_eq_true.mp small c member)
    exact Nat.not_lt.mpr large ascii

theorem tokensUnfaithful :
    memberName "a\n" = "a\n" ∧ ¬ Faithful BareName "a\n" "a\n" ∧
    initializer "1\n" = " = 1\n" ∧ ¬ Faithful (Numeral Text.asciiDigit) "1\n" "1\n" ∧
    initializer "\u0663" = " = \u0663" ∧ ¬ Faithful (Numeral Text.asciiDigit) "\u0663" "\u0663" := by
  have ascii : Legible (Numeral Text.asciiDigit) := numeralLegible (by decide) (by decide)
  refine ⟨by decide +kernel, fun name => ?_, by decide +kernel, fun value => ?_, by decide +kernel,
    fun value => ?_⟩
  · exact bareNameLegible.unbroken ((rawFaithfulIff (by decide)).mp name) (by decide)
  · exact ascii.unbroken ((rawFaithfulIff (by decide)).mp value) (by decide)
  · have own := (rawFaithfulIff (by decide)).mp value
    have signs := own.signs (Char.ofNat 0x663) (by decide)
    revert signs
    decide

end TypedClient.Declaration
