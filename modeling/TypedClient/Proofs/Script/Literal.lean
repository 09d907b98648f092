import TypedClient.Declaration
import TypedClient.Document.Json

/-!
String literals as a module reads them: quoted strings and template literals of strict code. A string
is a sequence of 16-bit units. What is read is told in parts, so that the value of a template can be
given for every value of the names in it; no other expression than a name is read in a template.
-/

namespace TypedClient.Script

def codeUnits (code : Nat) : List UInt16 :=
  if code < 0x10000 then [.ofNat code]
  else [.ofNat (0xD800 + (code - 0x10000) / 0x400), .ofNat (0xDC00 + (code - 0x10000) % 0x400)]

def units (text : Text) : List UInt16 :=
  text.flatMap fun c => codeUnits c.toNat

inductive Part where
  | unit (unit : UInt16)
  | value (name : Text)
  deriving DecidableEq

def Part.codes (values : Text → List UInt16) : Part → List UInt16
  | .unit code => [code]
  | .value name => values name

def valueOf (values : Text → List UInt16) (parts : List Part) : List UInt16 :=
  parts.flatMap (·.codes values)

inductive Form where
  | quoted
  | template
  deriving DecidableEq

def Form.mark : Form → Char
  | quoted => '\''
  | template => '\x60'

def breaksLine (c : Char) : Bool :=
  c = '\n' || c = '\r' || c = '\u2028' || c = '\u2029'

def singleEscapes : List (Char × UInt16) :=
  [('b', 0x08), ('t', 0x09), ('n', 0x0A), ('v', 0x0B), ('f', 0x0C), ('r', 0x0D)]

def bracedDigits (text : Text) : Text :=
  text.takeWhile fun c => (Json.hexDigitValue? c).isSome

/-- What a backslash and the text after it stand for, and the length of the text that belongs to it. -/
def escape? : Text → Option (List UInt16 × Nat)
  | [] => none
  | '\r' :: '\n' :: _ => some ([], 2)
  | 'x' :: rest => (Json.hexValue? 2 rest).map fun code => ([.ofNat code], 3)
  | 'u' :: '\x7b' :: rest =>
    let digits := bracedDigits rest
    if digits = [] ∨ (rest.drop digits.length).head? ≠ some '\x7d' then none
    else ((Json.hexValue? digits.length digits).filter (· ≤ 0x10FFFF)).map fun code =>
      (codeUnits code, digits.length + 3)
  | 'u' :: rest => (Json.hexValue? 4 rest).map fun code => ([.ofNat code], 5)
  | '0' :: rest => if rest.head?.any Text.asciiDigit then none else some ([0], 1)
  | c :: _ =>
    if Text.asciiDigit c then none
    else if breaksLine c then some ([], 1)
    else some (((singleEscapes.lookup c).map ([·])).getD (codeUnits c.toNat), 1)

def substituted? (inner : Text) : Option Text :=
  let name := inner.takeWhile Declaration.identifierPart
  if name = [] ∨ name.head?.any Text.digit ∨ (inner.drop name.length).head? ≠ some '\x7d' then none
  else some name

/-- Skips the characters of an escape or a substitution already read. The literal ends with the text. -/
def readFrom (form : Form) : Nat → Text → Option (List Part)
  | _, [] => none
  | skipped + 1, _ :: rest => readFrom form skipped rest
  | 0, c :: rest =>
    if c = form.mark then if rest.isEmpty then some [] else none
    else if c = '\\' then
      match escape? rest with
      | some (units, length) => (readFrom form length rest).map (units.map .unit ++ ·)
      | none => none
    else if form = .template ∧ c = '$' ∧ rest.head? = some '\x7b' then
      match substituted? rest.tail with
      | some name => (readFrom form (name.length + 2) rest).map (.value name :: ·)
      | none => none
    else if form = .quoted ∧ (c = '\n' ∨ c = '\r') then none
    else if c = '\r' then
      -- a template has line feeds only
      if rest.head? = some '\n' then readFrom form 0 rest
      else (readFrom form 0 rest).map (.unit 0x0A :: ·)
    else (readFrom form 0 rest).map ((codeUnits c.toNat).map .unit ++ ·)

def literal? : Text → Option (List Part)
  | '\'' :: rest => readFrom .quoted 0 rest
  | '\x60' :: rest => readFrom .template 0 rest
  | _ => none

def evaluate? (values : Text → List UInt16) (text : Text) : Option (List UInt16) :=
  (literal? text).map (valueOf values)

theorem headDetermined {part other : Part} {rest others : List Part}
    (alike : ∀ values, valueOf values (part :: rest) = valueOf values (other :: others)) :
    part = other := by
  -- where a name and a unit differ, the name may stand for another unit
  match part, other with
  | .unit code, .unit code' =>
    have same := alike fun _ => []
    simp only [valueOf, Part.codes, List.flatMap_cons, List.cons_append, List.cons.injEq] at same
    rw [same.1]
  | .unit code, .value name =>
    have same := alike fun _ => [code + 1]
    simp [valueOf, Part.codes] at same
  | .value name, .unit code =>
    have same := alike fun _ => [code + 1]
    simp [valueOf, Part.codes] at same
  | .value name, .value name' =>
    by_cases equal : name' = name
    · rw [equal]
    · have same := alike fun given => if given = name then [0] else [1]
      simp [valueOf, Part.codes, equal] at same

theorem partsDetermined {first second : List Part}
    (alike : ∀ values, valueOf values first = valueOf values second) : first = second := by
  induction first generalizing second with
  | nil =>
    cases second with
    | nil => rfl
    | cons part rest =>
      have same := alike fun _ => [0]
      cases part <;> simp [valueOf, Part.codes] at same
  | cons part rest ih =>
    cases second with
    | nil =>
      have same := alike fun _ => [0]
      cases part <;> simp [valueOf, Part.codes] at same
    | cons other others =>
      cases headDetermined alike
      refine congrArg (part :: ·) (ih fun values => ?_)
      exact List.append_cancel_left (alike values)

theorem evaluateAlways {text : Text} {parts : List Part} :
    (∀ values, evaluate? values text = some (valueOf values parts)) ↔ literal? text = some parts := by
  constructor
  · intro all
    cases read : literal? text with
    | none => simpa [evaluate?, read] using all fun _ => []
    | some found =>
      simp only [evaluate?, read, Option.map_some, Option.some.injEq] at all
      rw [partsDetermined all]
  · intro read values
    rw [evaluate?, read, Option.map_some]

end TypedClient.Script
