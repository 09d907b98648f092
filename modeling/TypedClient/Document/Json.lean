import TypedClient.Document.Value
import TypedClient.Text.Blank

/-!
JSON: the text of a document value, and the reader. The writer gives values that JSON does not know
by a string with their text. The reader also takes `NaN`, `Infinity` and `-Infinity`.
-/

namespace TypedClient.Json

inductive WriteFault where
  | unwritableKey (kind : Text)
  | circular
  | tooLong
  deriving DecidableEq, Repr

def WriteFault.message : WriteFault → Text
  | .unwritableKey kind => "keys must be str, int, float, bool or None, not " ++ kind
  | .circular => "Circular reference detected"
  | .tooLong => Text.digitLimitText []

def floatText : Binary64 → Text
  | .notANumber => "NaN"
  | .infinite negative => if negative then "-Infinity" else "Infinity"
  | value => value.text

def writeScalar : Scalar → Except WriteFault Text
  | .null => .ok "null"
  | .bool value => .ok (if value then "true" else "false")
  | .int value => if Text.tooLong value then .error .tooLong else .ok (Text.decimalInt value)
  | .float value => .ok (floatText value)
  | .text value => .ok (Text.literal value)
  | .bytes value => .ok (Text.literal (Text.byteQuotation value))
  | .date value => .ok (Text.literal value.text)
  | .timestamp value => .ok (Text.literal value.text)

def writeKey : Scalar → Except WriteFault Text
  | .text value => .ok (Text.literal value)
  | .bytes _ => .error (.unwritableKey "bytes")
  | .date _ => .error (.unwritableKey "datetime.date")
  | .timestamp _ => .error (.unwritableKey "datetime.datetime")
  | key => (writeScalar key).map fun text => '"' :: text ++ ['"']

def setText (members : List Scalar) : Except WriteFault Text :=
  if members.isEmpty then .ok "set()"
  else if members.any Scalar.tooLong then .error .tooLong
  else .ok ('\x7b' :: (", " : Text).intercalate (members.map Scalar.quotation) ++ ['\x7d'])

mutual

def writeTree : Value → Except WriteFault Text
  | .scalar value => writeScalar value
  | .list items =>
    match writeItems items with
    | .ok texts => .ok ('[' :: (", " : Text).intercalate texts ++ [']'])
    | .error fault => .error fault
  | .set members => (setText members).map Text.literal
  | .map entries =>
    match writeEntries entries with
    | .ok texts => .ok ('\x7b' :: (", " : Text).intercalate texts ++ ['\x7d'])
    | .error fault => .error fault
  | .loop .. => .error .circular

def writeItems : List Value → Except WriteFault (List Text)
  | [] => .ok []
  | item :: rest => do
    let first ← writeTree item
    let others ← writeItems rest
    return first :: others

def writeEntries : List (Scalar × Value) → Except WriteFault (List Text)
  | [] => .ok []
  | (key, value) :: rest => do
    let name ← writeKey key
    let first ← writeTree value
    let others ← writeEntries rest
    return (name ++ ": " ++ first) :: others

end

def write (value : Value) : Except WriteFault Text :=
  writeTree value.unrolled

def skipSpace (text : Text) : Text :=
  text.dropWhile fun c => c = ' ' || c = '\t' || c = '\n' || c = '\r'

def hexDigitValue? (c : Char) : Option Nat :=
  if '0' ≤ c ∧ c ≤ '9' then some (c.toNat - '0'.toNat)
  else if 'a' ≤ c ∧ c ≤ 'f' then some (c.toNat - 'a'.toNat + 10)
  else if 'A' ≤ c ∧ c ≤ 'F' then some (c.toNat - 'A'.toNat + 10)
  else none

def hexValue? (count : Nat) (text : Text) : Option Nat :=
  let digits := text.take count
  if digits.length < count then none
  else digits.foldl (fun value c => do
    let high ← value
    let low ← hexDigitValue? c
    return high * 16 + low) (some 0)

def highSurrogate (code : Nat) : Bool :=
  0xD800 ≤ code && code < 0xDC00

def lowSurrogate (code : Nat) : Bool :=
  0xDC00 ≤ code && code < 0xE000

def combineSurrogates (high low : Nat) : Char :=
  Char.ofNat (0x10000 + (high - 0xD800) * 0x400 + (low - 0xDC00))

/-- Half of a surrogate pair alone is no character; it reads as the replacement character. -/
def charOfCode (code : Nat) : Char :=
  if highSurrogate code || lowSurrogate code then Char.ofNat 0xFFFD else Char.ofNat code

def simpleEscape? : Char → Option Char
  | '"' => some '"'
  | '\\' => some '\\'
  | '/' => some '/'
  | 'b' => some (Char.ofNat 8)
  | 'f' => some (Char.ofNat 12)
  | 'n' => some '\n'
  | 'r' => some '\r'
  | 't' => some '\t'
  | _ => none

def readString : Nat → Text → Option (Text × Text)
  | 0, _ => none
  | fuel + 1, text =>
    match text with
    | [] => none
    | '"' :: rest => some ([], rest)
    | '\\' :: 'u' :: rest => do
      let code ← hexValue? 4 rest
      let after := rest.drop 4
      let paired : Option (Char × Text) :=
        match after with
        | '\\' :: 'u' :: more =>
          match hexValue? 4 more with
          | some low =>
            if highSurrogate code && lowSurrogate low then
              some (combineSurrogates code low, more.drop 4)
            else none
          | none => none
        | _ => none
      let (c, after) := paired.getD (charOfCode code, after)
      let (chars, rest) ← readString fuel after
      return (c :: chars, rest)
    | '\\' :: c :: rest => do
      let c ← simpleEscape? c
      let (chars, rest) ← readString fuel rest
      return (c :: chars, rest)
    | c :: rest =>
      if c.toNat < 32 ∨ c = '\\' then none
      else do
        let (chars, rest) ← readString fuel rest
        return (c :: chars, rest)

def readIntegerPart (text : Text) : Option (Text × Text) :=
  match text with
  | '0' :: rest => some (['0'], rest)
  | _ =>
    let digits := text.takeWhile Text.asciiDigit
    if digits.isEmpty then none else some (digits, text.dropWhile Text.asciiDigit)

/-- A fraction and an exponent count only if they are complete. -/
def readNumber (text : Text) : Option (Scalar × Text) := do
  let (negative, unsigned) := match text with
    | '-' :: rest => (true, rest)
    | rest => (false, rest)
  let (whole, rest) ← readIntegerPart unsigned
  let (fraction, rest) := match rest with
    | '.' :: more =>
      let digits := more.takeWhile Text.asciiDigit
      if digits.isEmpty then ([], rest) else (digits, more.dropWhile Text.asciiDigit)
    | _ => ([], rest)
  let (exponent, rest) : Option Int × Text := match rest with
    | c :: more =>
      if c = 'e' ∨ c = 'E' then
        let (down, more) := match more with
          | '-' :: more => (true, more)
          | '+' :: more => (false, more)
          | more => (false, more)
        let digits := more.takeWhile Text.asciiDigit
        if digits.isEmpty then (none, rest)
        else
          let value : Int := Binary64.digitsValue digits
          (some (if down then -value else value), more.dropWhile Text.asciiDigit)
      else (none, rest)
    | [] => (none, rest)
  let digits := Binary64.digitsValue (whole ++ fraction)
  if fraction.isEmpty && exponent.isNone then
    if Text.mostDigits < whole.length then none
    let magnitude : Int := digits
    return (.int (if negative then -magnitude else magnitude), rest)
  else
    let power := exponent.getD 0 - (fraction.length : Int)
    return (.float (Binary64.ofDecimal negative digits power), rest)

def words : List (Text × Scalar) :=
  [("null", .null), ("true", .bool true), ("false", .bool false), ("NaN", .float .notANumber),
   ("Infinity", .float (.infinite false)), ("-Infinity", .float (.infinite true))]

def readWord (text : Text) : Option (Scalar × Text) :=
  words.findSome? fun (word, value) => (Text.after? word text).map fun rest => (value, rest)

mutual

def readValue : Nat → Text → Option (Value × Text)
  | 0, _ => none
  | fuel + 1, text =>
    match text with
    | '"' :: rest => (readString (rest.length + 1) rest).map fun (chars, rest) => (.text chars, rest)
    | '[' :: rest =>
      match skipSpace rest with
      | ']' :: rest => some (.list [], rest)
      | rest => (readItems fuel rest).map fun (items, rest) => (.list items, rest)
    | '\x7b' :: rest =>
      match skipSpace rest with
      | '\x7d' :: rest => some (.map [], rest)
      | rest => (readEntries fuel rest).map fun (entries, rest) => (Value.mapOfList entries, rest)
    | text =>
      match readWord text with
      | some (value, rest) => some (.scalar value, rest)
      | none => (readNumber text).map fun (value, rest) => (.scalar value, rest)

def readItems : Nat → Text → Option (List Value × Text)
  | 0, _ => none
  | fuel + 1, text => do
    let (item, rest) ← readValue fuel text
    match skipSpace rest with
    | ',' :: rest =>
      let (items, rest) ← readItems fuel (skipSpace rest)
      return (item :: items, rest)
    | ']' :: rest => return ([item], rest)
    | _ => none

def readEntries : Nat → Text → Option (List (Scalar × Value) × Text)
  | 0, _ => none
  | fuel + 1, text =>
    match text with
    | '"' :: rest => do
      let (key, rest) ← readString (rest.length + 1) rest
      match skipSpace rest with
      | ':' :: rest =>
        let (value, rest) ← readValue fuel (skipSpace rest)
        match skipSpace rest with
        | ',' :: rest =>
          let (entries, rest) ← readEntries fuel (skipSpace rest)
          return ((.text key, value) :: entries, rest)
        | '\x7d' :: rest => return ([(.text key, value)], rest)
        | _ => none
      | _ => none
    | _ => none

end

def read? (text : Text) : Option Value := do
  let (value, rest) ← readValue (text.length + 1) (skipSpace text)
  if (skipSpace rest).isEmpty then return value else none

end TypedClient.Json
