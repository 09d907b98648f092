import TypedClient.Document.Json
import TypedClient.Document.Value
import TypedClient.Text.LetterCase
import TypedClient.Yaml.Cursor
import TypedClient.Yaml.Tag

/-!
The value of a tagged scalar. Underscores in numbers only separate, a leading zero means octal, and
colons base sixty. Binary data is base 64, where other characters are skipped.
-/

namespace TypedClient.Yaml

def withoutLines (text : Text) : Text :=
  text.filter (· != '_')

def digitOf? (base : Nat) (c : Char) : Option Nat :=
  ((Text.decimalDigitValue? c).or (Json.hexDigitValue? c)).filter (· < base)

def signOf : Text → Bool × Text
  | '-' :: rest => (true, rest)
  | '+' :: rest => (false, rest)
  | text => (false, text)

def dropBaseMark (base : Nat) (text : Text) : Text :=
  match text with
  | '0' :: mark :: digits =>
    if (base, mark.toLower) ∈ [(2, 'b'), (8, 'o'), (16, 'x')] then digits else text
  | _ => text

/-- A sign and at least one digit of the base, with white space around them. The number of decimal
digits is limited, whatever follows them. -/
def readInteger (base : Nat) (text : Text) : Except Fault Int :=
  let (negative, unsigned) := signOf (Text.trim text)
  let unsigned := dropBaseMark base unsigned
  let digits := unsigned.takeWhile fun c => (digitOf? base c).isSome
  if base = 10 ∧ Text.mostDigits < digits.length then .error (.integerSize digits.length)
  else if digits.isEmpty ∨ digits.length < unsigned.length then .error (.integer base text)
  else
    let magnitude : Int := digits.foldl (fun value c => value * base + (digitOf? base c).getD 0) 0
    .ok (if negative then -magnitude else magnitude)

def ofSexagesimal (parts : List Int) : Int :=
  parts.foldl (fun value part => value * 60 + part) 0

def readUnsigned (text : Text) : Except Fault Int :=
  match text with
  | [] => .error .emptyNumber
  | '0' :: 'b' :: digits => readInteger 2 digits
  | '0' :: 'x' :: digits => readInteger 16 digits
  | '0' :: _ => readInteger 8 text
  | _ =>
    if ':' ∈ text then
      ((Text.pieces (· == ':') text).mapM (readInteger 10)).map ofSexagesimal
    else readInteger 10 text

def integerOf (text : Text) : Except Fault Int :=
  let (negative, unsigned) := signOf (withoutLines text)
  (readUnsigned unsigned).map fun value => if negative then -value else value

def readFloat (text : Text) : Except Fault Binary64 :=
  match Binary64.read? (Text.trim text) with
  | some value => .ok value
  | none => .error (.float text)

def sumSexagesimal (base : Nat) : List Binary64 → Binary64 → Except Fault Binary64
  | [], sum => .ok sum
  | part :: rest, sum =>
    match part.times? base with
    | some product => sumSexagesimal (base * 60) rest (sum.add product)
    | none => .error .floatSize

def floatOf (text : Text) : Except Fault Binary64 := do
  let digits := Text.lower (withoutLines text)
  if digits.isEmpty then throw .emptyNumber
  let (negative, unsigned) := signOf digits
  let magnitude ←
    if unsigned = ".inf" then pure (.infinite false)
    else if unsigned = ".nan" then pure .notANumber
    else if ':' ∈ unsigned then do
      let parts ← (Text.pieces (· == ':') unsigned).mapM readFloat
      sumSexagesimal 1 parts.reverse (.zero false)
    else readFloat unsigned
  return if negative then magnitude.negate else magnitude

def namesNotANumber (text : Text) : Bool :=
  (signOf (Text.lower (withoutLines text))).2 == ".nan"

def truthOf (text : Text) : Except Fault Bool :=
  let word := Text.lower text
  if word ∈ trueWords then .ok true
  else if word ∈ falseWords then .ok false
  else .error (.truth word)

def number (digits : Text) : Nat :=
  Binary64.digitsValue digits

def microseconds (fraction : Text) : Nat :=
  let digits := fraction.take 6
  number (digits ++ List.replicate (6 - digits.length) '0')

def timestampOf (text : Text) : Except Fault Scalar :=
  match readTimestamp (Text.dropSuffix ['\n'] text) with
  | none => .error .notTimestamp
  | some written =>
    let year := number written.year
    let month := number written.month
    let day := number written.day
    match written.time with
    | none =>
      match Calendar.date year month day with
      | .ok date => .ok (.date date)
      | .error fault => .error (.calendar fault)
    | some time =>
      let offset := time.zone.map fun (west, hour, minute) =>
        let minutes : Int := number hour * 60 + number minute
        if west then -minutes else minutes
      match Calendar.timestamp year month day (number time.hour) (number time.minute)
          (number time.second) (microseconds time.fraction) offset with
      | .ok time => .ok (.timestamp time)
      | .error fault => .error (.calendar fault)

def base64Value? (c : Char) : Option Nat :=
  if 'A' ≤ c ∧ c ≤ 'Z' then some (c.toNat - 'A'.toNat)
  else if 'a' ≤ c ∧ c ≤ 'z' then some (c.toNat - 'a'.toNat + 26)
  else if '0' ≤ c ∧ c ≤ '9' then some (c.toNat - '0'.toNat + 52)
  else if c = '+' then some 62
  else if c = '/' then some 63
  else none

/-- `held` characters of the current group of four have been read, with `bits` left of them, and
`pads` padding signs since the last of them. -/
def base64From (held bits pads : Nat) : Text → Option (List UInt8)
  | [] => if held = 0 then some [] else none
  | '=' :: rest =>
    if 2 ≤ held ∧ 4 ≤ held + pads + 1 then some []
    else base64From held bits (if 2 ≤ held then pads + 1 else pads) rest
  | c :: rest =>
    match base64Value? c with
    | none => base64From held bits pads rest
    | some value =>
      match held with
      | 0 => base64From 1 value 0 rest
      | 1 => (base64From 2 (value % 16) 0 rest).map (UInt8.ofNat (bits * 4 + value / 16) :: ·)
      | 2 => (base64From 3 (value % 4) 0 rest).map (UInt8.ofNat (bits * 16 + value / 4) :: ·)
      | _ => (base64From 0 0 0 rest).map (UInt8.ofNat (bits * 64 + value) :: ·)

def binaryOf (text : Text) : Except Fault (List UInt8) :=
  if text.all fun c => c.toNat < 128 then
    match base64From 0 0 0 text with
    | some bytes => .ok bytes
    | none => .error .malformed
  else .error .malformed

def scalarValue (tag text : Text) : Except Fault Scalar :=
  if tag = Tag.text then .ok (.text text)
  else if tag = Tag.null then .ok .null
  else if tag = Tag.bool then (truthOf text).map .bool
  else if tag = Tag.int then (integerOf text).map .int
  else if tag = Tag.float then (floatOf text).map .float
  else if tag = Tag.timestamp then timestampOf text
  else if tag = Tag.binary then (binaryOf text).map .bytes
  else .error .malformed

end TypedClient.Yaml
