import TypedClient.Document.Calendar
import TypedClient.Text.Word

/-!
Tags say what kind of value a node is. A plain scalar without a tag gets one from its text alone:
the first fitting form of truth value, number, null, merge key or timestamp, and else a string. A
scalar with the tag `!` does so too, and it may be quoted and hold line breaks.
-/

namespace TypedClient.Yaml

namespace Tag

def core (kind : Text) : Text :=
  "tag:yaml.org,2002:" ++ kind

def null : Text := core "null"

def bool : Text := core "bool"

def int : Text := core "int"

def float : Text := core "float"

def binary : Text := core "binary"

def timestamp : Text := core "timestamp"

def text : Text := core "str"

def sequence : Text := core "seq"

def mapping : Text := core "map"

def set : Text := core "set"

def pairs : List Text := [core "omap", core "pairs"]

def merge : Text := core "merge"

def value : Text := core "value"

def indicator : Text := core "yaml"

end Tag

def trueWords : List Text :=
  ["yes", "Yes", "YES", "true", "True", "TRUE", "on", "On", "ON"]

def falseWords : List Text :=
  ["no", "No", "NO", "false", "False", "FALSE", "off", "Off", "OFF"]

def nullWords : List Text :=
  ["", "~", "null", "Null", "NULL"]

def indicatorWords : List Text :=
  ["!", "&", "*"]

def dropSign : Text → Text
  | '-' :: rest => rest
  | '+' :: rest => rest
  | text => text

def digitOrLine (c : Char) : Bool :=
  Text.asciiDigit c || c = '_'

def hexOrLine (c : Char) : Bool :=
  digitOrLine c || ('a' ≤ c && c ≤ 'f') || ('A' ≤ c && c ≤ 'F')

/-- Parts of base sixty, each after a colon and below sixty; the rest of the text comes with their
number. -/
def sexagesimalParts : Text → Nat × Text
  | ':' :: a :: b :: rest =>
    if Text.asciiDigit a then
      if Text.asciiDigit b then
        if a ≤ '5' then
          let (count, rest) := sexagesimalParts rest
          (count + 1, rest)
        else (0, ':' :: a :: b :: rest)
      else
        let (count, rest) := sexagesimalParts (b :: rest)
        (count + 1, rest)
    else (0, ':' :: a :: b :: rest)
  | [':', a] => if Text.asciiDigit a then (1, []) else (0, [':', a])
  | text => (0, text)

def isInteger (text : Text) : Bool :=
  match dropSign text with
  | '0' :: 'b' :: rest => !rest.isEmpty && rest.all fun c => c = '0' || c = '1' || c = '_'
  | '0' :: 'x' :: rest => !rest.isEmpty && rest.all hexOrLine
  | '0' :: rest => rest.all fun c => ('0' ≤ c && c ≤ '7') || c = '_'
  | c :: rest =>
    Text.asciiDigit c && (sexagesimalParts (rest.dropWhile digitOrLine)).2.isEmpty
  | [] => false

def isExponent : Text → Bool
  | [] => true
  | e :: sign :: digits =>
    (e = 'e' || e = 'E') && (sign = '-' || sign = '+') && !digits.isEmpty
      && digits.all Text.asciiDigit
  | _ => false

def isFloat (text : Text) : Bool :=
  let unsigned := dropSign text
  let named : Bool :=
    unsigned == ".inf" || unsigned == ".Inf" || unsigned == ".INF" ||
      text == ".nan" || text == ".NaN" || text == ".NAN"
  let pointFirst : Bool :=
    match text with
    | '.' :: c :: rest => Text.asciiDigit c && isExponent (rest.dropWhile digitOrLine)
    | _ => false
  let digitFirst : Bool :=
    match unsigned with
    | c :: rest =>
      Text.asciiDigit c &&
        match sexagesimalParts (rest.dropWhile digitOrLine) with
        | (0, '.' :: rest) => isExponent (rest.dropWhile digitOrLine)
        | (_ + 1, '.' :: rest) => rest.all digitOrLine
        | _ => false
    | [] => false
  named || pointFirst || digitFirst

structure WrittenTime where
  hour : Text
  minute : Text
  second : Text
  fraction : Text
  zone : Option (Bool × Text × Text)
  deriving DecidableEq, Repr

structure WrittenTimestamp where
  year : Text
  month : Text
  day : Text
  time : Option WrittenTime
  deriving DecidableEq, Repr

def takeDigits (least most : Nat) (text : Text) : Option (Text × Text) :=
  let digits := (text.take most).takeWhile Text.asciiDigit
  if digits.length < least then none else some (digits, text.drop digits.length)

def skipBlanks (text : Text) : Text :=
  text.dropWhile fun c => c = ' ' || c = '\t'

/-- A zone is `Z` or an offset; true stands for an offset to the west. -/
def readZone (text : Text) : Option (Option (Bool × Text × Text)) :=
  match text with
  | [] => some none
  | _ =>
    match skipBlanks text with
    | ['Z'] => some (some (false, ['0'], ['0']))
    | sign :: rest =>
      if sign = '-' ∨ sign = '+' then do
        let (hour, rest) ← takeDigits 1 2 rest
        match rest with
        | [] => return some (sign = '-', hour, ['0'])
        | ':' :: rest =>
          let (minute, rest) ← takeDigits 2 2 rest
          if rest.isEmpty then return some (sign = '-', hour, minute) else none
        | _ => none
      else none
    | [] => none

def readTime (text : Text) : Option WrittenTime := do
  let (hour, rest) ← takeDigits 1 2 text
  let rest ← Text.after? [':'] rest
  let (minute, rest) ← takeDigits 2 2 rest
  let rest ← Text.after? [':'] rest
  let (second, rest) ← takeDigits 2 2 rest
  let (fraction, rest) := match rest with
    | '.' :: rest => (rest.takeWhile Text.asciiDigit, rest.dropWhile Text.asciiDigit)
    | _ => ([], rest)
  let zone ← readZone rest
  return ⟨hour, minute, second, fraction, zone⟩

def readTimestamp (text : Text) : Option WrittenTimestamp := do
  let (year, rest) ← takeDigits 4 4 text
  let rest ← Text.after? ['-'] rest
  let (month, rest) ← takeDigits 1 2 rest
  let rest ← Text.after? ['-'] rest
  let (day, rest) ← takeDigits 1 2 rest
  match rest with
  | [] => return ⟨year, month, day, none⟩
  | c :: more =>
    if c = 'T' ∨ c = 't' then return ⟨year, month, day, some (← readTime more)⟩
    else if c = ' ' ∨ c = '\t' then return ⟨year, month, day, some (← readTime (skipBlanks rest))⟩
    else none

def isTimestamp (text : Text) : Bool :=
  match readTimestamp text with
  | some written => written.time.isSome || text.length = 10
  | none => false

def Tag.ofLine (text : Text) : Text :=
  if text ∈ trueWords ∨ text ∈ falseWords then Tag.bool
  else if isFloat text then Tag.float
  else if isInteger text then Tag.int
  else if text = "<<" then Tag.merge
  else if text ∈ nullWords then Tag.null
  else if isTimestamp text then Tag.timestamp
  else if text = "=" then Tag.value
  else if text ∈ indicatorWords then Tag.indicator
  else Tag.text

/-- A line break after the text makes no difference, if there is a text. -/
def Tag.ofImplicit (text : Text) : Text :=
  if text = ['\n'] then Tag.text else Tag.ofLine (Text.dropSuffix ['\n'] text)

end TypedClient.Yaml
