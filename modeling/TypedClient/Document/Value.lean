import TypedClient.Document.Binary64
import TypedClient.Document.Calendar
import TypedClient.Text.Quoted

/-!
The values that a document holds. Only scalars are keys of maps and members of sets. Two keys are
the same if they are equal as numbers or as texts, so `1`, `1.0` and `true` are one key.
-/

namespace TypedClient

inductive Scalar where
  | null
  | bool (value : Bool)
  | int (value : Int)
  | float (value : Binary64)
  | text (value : Text)
  | bytes (value : List UInt8)
  | date (value : Date)
  | timestamp (value : Timestamp)
  deriving DecidableEq, Repr

/-- A `loop` stands for a collection that contains itself. It is called by its number, under which
it is known; inside what is known, loops have the number alone. -/
inductive Value where
  | scalar (value : Scalar)
  | list (items : List Value)
  | set (members : List Scalar)
  | map (entries : List (Scalar × Value))
  | loop (number : Nat) (known : List (Nat × Value))
  deriving Repr, Inhabited

namespace Scalar

def integer? : Scalar → Option Int
  | bool value => some (if value then 1 else 0)
  | int value => some value
  | float value => value.toInt?
  | _ => none

def instant? : Scalar → Option Int
  | timestamp value => value.instant?
  | _ => none

def sameKey (first second : Scalar) : Bool :=
  first == second || (first.integer?.isSome && first.integer? == second.integer?)
    || (first.instant?.isSome && first.instant? == second.instant?)

def tooLong : Scalar → Bool
  | int value => Text.tooLong value
  | _ => false

def quotation : Scalar → Text
  | null => "None"
  | bool value => if value then "True" else "False"
  | int value => Text.decimalInt value
  | float value => value.text
  | text value => Text.quotation value
  | bytes value => Text.byteQuotation value
  | date value =>
    "datetime.date(" ++ (", " : Text).intercalate
      ([value.year, value.month, value.day].map Text.decimal) ++ ")"
  | timestamp value =>
    let seconds : List Nat :=
      if value.microsecond ≠ 0 then [value.second, value.microsecond]
      else if value.second ≠ 0 then [value.second]
      else []
    let zone : List Text := match value.offset with
      | none => []
      | some 0 => ["tzinfo=datetime.timezone.utc"]
      | some minutes => ["tzinfo=datetime.timezone(" ++ Calendar.spanText minutes ++ ")"]
    let numbers := [value.date.year, value.date.month, value.date.day, value.hour, value.minute]
    "datetime.datetime(" ++ (", " : Text).intercalate
      ((numbers ++ seconds).map Text.decimal ++ zone) ++ ")"

end Scalar

namespace Value

def text (value : Text) : Value :=
  scalar (.text value)

def putEntry {κ α : Type} (same : κ → κ → Bool) (key : κ) (value : α) :
    List (κ × α) → List (κ × α)
  | [] => [(key, value)]
  | (k, old) :: rest =>
    if same k key then (k, value) :: rest else (k, old) :: putEntry same key value rest

def tableOfList {κ α : Type} (same : κ → κ → Bool) (entries : List (κ × α)) : List (κ × α) :=
  entries.foldl (fun table entry => putEntry same entry.1 entry.2 table) []

def mapOfList (entries : List (Scalar × Value)) : Value :=
  map (tableOfList Scalar.sameKey entries)

def entry? (key : Text) : List (Scalar × Value) → Option Value
  | [] => none
  | (k, value) :: rest => if k = .text key then some value else entry? key rest

mutual

def substitute (replace : Nat → List (Nat × Value) → Value) : Value → Value
  | scalar value => scalar value
  | list items => list (substituteItems replace items)
  | set members => set members
  | map entries => map (substituteEntries replace entries)
  | loop number known => replace number known

def substituteItems (replace : Nat → List (Nat × Value) → Value) : List Value → List Value
  | [] => []
  | item :: rest => item.substitute replace :: substituteItems replace rest

def substituteEntries (replace : Nat → List (Nat × Value) → Value) :
    List (Scalar × Value) → List (Scalar × Value)
  | [] => []
  | (key, value) :: rest => (key, value.substitute replace) :: substituteEntries replace rest

end

def informed (known : List (Nat × Value)) (value : Value) : Value :=
  if known.isEmpty then value else value.substitute fun number _ => loop number known

def unfold : Value → Value
  | loop number known =>
    match known.lookup number with
    | some value => value.informed known
    | none => list []
  | value => value

def unfoldTo : Nat → Value → Value
  | 0, value => value
  | depth + 1, value =>
    value.substitute fun number known => unfoldTo depth (loop number known).unfold

/-- Every loop unfolded as often as there are collections that contain themselves: on each way
into the value one of them comes twice. -/
def unrolled (value : Value) : Value :=
  value.substitute fun number known => unfoldTo (known.length - 1) (loop number known).unfold

end Value

end TypedClient
