import TypedClient.Document.Value
import TypedClient.Files.Path
import TypedClient.Text.Blank
import TypedClient.Text.LetterCase
import TypedClient.Text.Utf8

/-!
Reading typed records out of document values. A check gives either a value or all problems of its
input, each with the path to it, in the order of the fields and, inside a field, of its items.
-/

namespace TypedClient

inductive Mismatch where
  | missing
  | text
  | undecodableText
  | truth
  | unclearTruth
  | integer
  | unclearInteger
  | fraction
  | infinite
  | integerSize
  | tooLong
  | below (least : Nat)
  | list
  | set
  | map
  | record (model : Text)
  | choice (names : List Text)
  | path
  | recordAndEnum (name : Text)
  deriving DecidableEq, Repr

def choicesText (names : List Text) : Text :=
  let quoted := names.map Text.quotation
  match quoted.reverse with
  | last :: first :: others =>
    (", " : Text).intercalate (first :: others).reverse ++ " or " ++ last
  | _ => quoted.flatten

def Mismatch.message : Mismatch → Text
  | .missing => "Field required"
  | .text => "Input should be a valid string"
  | .undecodableText =>
    "Input should be a valid string, unable to parse raw data as a unicode string"
  | .truth => "Input should be a valid boolean"
  | .unclearTruth => "Input should be a valid boolean, unable to interpret input"
  | .integer => "Input should be a valid integer"
  | .unclearInteger => "Input should be a valid integer, unable to parse string as an integer"
  | .fraction => "Input should be a valid integer, got a number with a fractional part"
  | .infinite => "Input should be a finite number"
  | .integerSize => "Unable to parse input string as an integer, exceeded maximum size"
  | .tooLong => "Value error, " ++ Text.digitLimitText []
  | .below least => "Input should be greater than or equal to " ++ Text.decimal least
  | .list => "Input should be a valid list"
  | .set => "Input should be a valid set"
  | .map => "Input should be a valid dictionary"
  | .record model => "Input should be a valid dictionary or instance of " ++ model
  | .choice names => "Input should be " ++ choicesText names
  | .path => "Input is not a valid path for <class 'pathlib.Path'>"
  | .recordAndEnum name =>
    "Value error, type " ++ Text.quotation name ++ " has both properties and enum values"

structure Problem where
  path : List Text
  mismatch : Mismatch
  deriving DecidableEq, Repr

def Problem.line (problem : Problem) : Text :=
  (['.'] : Text).intercalate problem.path ++ ": " ++ problem.mismatch.message

def summary (problems : List Problem) : Text :=
  let hidden := problems.length - 5
  Text.lines ((problems.take 5).map Problem.line ++
    if hidden = 0 then [] else ["... and " ++ Text.decimal hidden ++ " more"])

inductive Checked (α : Type) where
  | valid (value : α)
  | invalid (problems : List Problem)
  deriving Repr

namespace Checked

def fail {α : Type} (mismatch : Mismatch) : Checked α :=
  invalid [⟨[], mismatch⟩]

def map {α β : Type} (f : α → β) : Checked α → Checked β
  | valid value => valid (f value)
  | invalid problems => invalid problems

def apply {α β : Type} (f : Checked (α → β)) (x : Checked α) : Checked β :=
  match f, x with
  | valid f, valid x => valid (f x)
  | valid _, invalid problems => invalid problems
  | invalid problems, valid _ => invalid problems
  | invalid problems, invalid others => invalid (problems ++ others)

instance : Functor Checked where
  map := map

instance : Applicative Checked where
  pure := valid
  seq f x := apply f (x ())

def ensure {α : Type} (condition : α → Option Mismatch) : Checked α → Checked α
  | valid value =>
    match condition value with
    | some mismatch => fail mismatch
    | none => valid value
  | invalid problems => invalid problems

def under {α : Type} (segments : List Text) : Checked α → Checked α
  | valid value => valid value
  | invalid problems =>
    invalid (problems.map fun problem => { problem with path := segments ++ problem.path })

def items {α β : Type} (check : α → Checked β) : Nat → List α → Checked (List β)
  | _, [] => valid []
  | index, item :: rest =>
    List.cons <$> (check item).under [Text.decimal index] <*> items check (index + 1) rest

end Checked

abbrev Fields := List (Scalar × Value)

namespace Check

def text : Value → Checked Text
  | .scalar (.text value) => .valid value
  | .scalar (.bytes value) =>
    match Utf8.decode? value with
    | some decoded => .valid decoded
    | none => .fail .undecodableText
  | _ => .fail .text

def trueNames : List Text :=
  ["1", "on", "t", "true", "y", "yes"]

def falseNames : List Text :=
  ["0", "off", "f", "false", "n", "no"]

def truthName (name : Text) : Checked Bool :=
  let name := Text.lowerAscii name
  if name ∈ trueNames then .valid true
  else if name ∈ falseNames then .valid false
  else .fail .unclearTruth

def truthNumber (n : Int) : Checked Bool :=
  if n = 1 then .valid true else if n = 0 then .valid false else .fail .unclearTruth

def fitsWord (n : Int) : Bool :=
  -9223372036854775808 ≤ n && n < 9223372036854775808

/-- The word that a floating-point number is equal to; the least word is not taken. -/
def wordOf? (value : Binary64) : Option Int :=
  value.toInt?.filter fun n => fitsWord n && fitsWord (n - 1)

def truth : Value → Checked Bool
  | .scalar (.bool value) => .valid value
  | .scalar (.text value) => truthName value
  | .scalar (.bytes value) =>
    match Utf8.decode? value with
    | some decoded => truthName decoded
    | none => .fail .unclearTruth
  | .scalar (.int value) => if fitsWord value then truthNumber value else .fail .truth
  | .scalar (.float value) =>
    match wordOf? value with
    | some n => truthNumber n
    | none => .fail .truth
  | _ => .fail .truth

def digitGroups? (text : Text) : Option Nat :=
  let groups := Text.pieces (· == '_') text
  if groups.all fun group => !group.isEmpty && group.all Text.asciiDigit then
    some (Binary64.digitsValue groups.flatten)
  else none

/-- Leading zeros do not count, nor do low lines among them; of zeros alone the last character is
left. -/
def significant (whole : Text) : Text :=
  match whole with
  | '0' :: rest =>
    let kept := rest.dropWhile fun c => c = '0' || c = '_'
    if kept.isEmpty then whole.drop (whole.length - 1) else kept
  | whole => whole

def integerName? (name : Text) : Option Int :=
  let trimmed := Text.trim name
  let (negative, unsigned) := match trimmed with
    | '-' :: rest => (true, rest)
    | '+' :: rest => (false, rest)
    | rest => (false, rest)
  let whole := unsigned.takeWhile (· != '.')
  let fraction := (unsigned.dropWhile (· != '.')).drop 1
  if !fraction.all (· == '0') || (negative && whole.head? == some '0' && whole != ['0']) then none
  else (digitGroups? (significant whole)).map fun magnitude =>
    if negative then -(magnitude : Int) else magnitude

def startsTooLong (name : Text) : Bool :=
  let (signs, unsigned) := match name with
    | '-' :: rest => (1, rest)
    | rest => (0, rest)
  unsigned.head? != some '0' && Text.mostDigits < signs + (unsigned.takeWhile Text.asciiDigit).length

def integerOfName (name : Text) : Checked Int :=
  if startsTooLong name then .fail .integerSize
  else match integerName? name with
    | some n => if Text.tooLong n then .fail .unclearInteger else .valid n
    | none => .fail .unclearInteger

def integer : Value → Checked Int
  | .scalar (.int value) => .valid value
  | .scalar (.bool value) => .valid (if value then 1 else 0)
  | .scalar (.float value) =>
    match value.toInt? with
    | some _ =>
      match wordOf? value with
      | some n => .valid n
      | none => .fail .integerSize
    | none => .fail (if value.isFinite then .fraction else .infinite)
  | .scalar (.text value) => integerOfName value
  | .scalar (.bytes value) =>
    match Utf8.decode? value with
    | some decoded => integerOfName decoded
    | none => .fail .unclearInteger
  | _ => .fail .integer

def atLeast (least : Nat) (value : Value) : Checked Nat :=
  Int.toNat <$> (integer value).ensure fun n => if n < least then some (.below least) else none

def list {α : Type} (check : Value → Checked α) (value : Value) : Checked (List α) :=
  match value.unfold with
  | .list items => Checked.items check 0 items
  | .set members => Checked.items check 0 (members.map .scalar)
  | _ => .fail .list

def textSet (value : Value) : Checked (List Text) :=
  match value.unfold with
  | .list items => Text.distinct <$> Checked.items text 0 items
  | .set members => Text.distinct <$> Checked.items (fun member => text (.scalar member)) 0 members
  | _ => .fail .set

def keyName : Scalar → Text
  | .text value => value
  | .bool value => if value then "1" else "0"
  | key => if key.tooLong then "<unprintable int object>" else key.quotation

def entries {α : Type} (check : Value → Checked α) : Fields → Checked (List (Text × α))
  | [] => .valid []
  | (key, value) :: rest =>
    let name := (text (.scalar key)).under [keyName key, "[key]"]
    let content := (check value).under [keyName key]
    List.cons <$> (Prod.mk <$> name <*> content) <*> entries check rest

def mapping {α : Type} (check : Value → Checked α) (value : Value) :
    Checked (List (Text × α)) :=
  match value.unfold with
  | .map fields => entries check fields
  | _ => .fail .map

def choice {α : Type} (choices : List (Text × α)) (value : Value) : Checked α :=
  match text value with
  | .valid name =>
    match choices.lookup name with
    | some found => .valid found
    | none => .fail (.choice (choices.map (·.1)))
  | .invalid _ => .fail (.choice (choices.map (·.1)))

def path : Value → Checked Path
  | .scalar (.text value) => .valid (Path.ofText value)
  | _ => .fail .path

def nullable {α : Type} (check : Value → Checked α) : Value → Checked (Option α)
  | .scalar .null => .valid none
  | value => some <$> check value

def record {α : Type} (model : Text) (check : Fields → Checked α) (value : Value) : Checked α :=
  match value.unfold with
  | .map fields => check fields
  | _ => .fail (.record model)

end Check

namespace Fields

def present? (fields : Fields) (spellings : List Text) : Option (Text × Value) :=
  spellings.findSome? fun spelling => (Value.entry? spelling fields).map fun value => (spelling, value)

def required {α : Type} (fields : Fields) (spellings : List Text) (check : Value → Checked α) :
    Checked α :=
  match fields.present? spellings with
  | some (spelling, value) => (check value).under [spelling]
  | none => .invalid [⟨spellings.take 1, .missing⟩]

def optional {α : Type} (fields : Fields) (spellings : List Text) (default : α)
    (check : Value → Checked α) : Checked α :=
  match fields.present? spellings with
  | some (spelling, value) => (check value).under [spelling]
  | none => .valid default

def withoutNulls (fields : Fields) : Fields :=
  fields.filter fun (_, value) =>
    match value with
    | .scalar .null => false
    | _ => true

end Fields

def capitalize : Text → Text
  | [] => []
  | c :: rest => c.toUpper :: rest

def fieldWords (name : Text) : List Text :=
  Text.pieces (· == '_') name

/-- `http_method`, `httpMethod` and `HttpMethod`, of which the first one present counts. -/
def spellings (name : Text) : List Text :=
  match fieldWords name with
  | first :: others =>
    [name, first ++ (others.map capitalize).flatten, ((first :: others).map capitalize).flatten]
  | [] => [name]

end TypedClient
