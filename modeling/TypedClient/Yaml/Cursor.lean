import TypedClient.Document.Calendar
import TypedClient.Text.Quoted

/-!
A place in a YAML text: the characters still to come and where the next one stands. All scanning is
a function of the place alone.
-/

namespace TypedClient.Yaml

/-- Why a text is no document. A `malformed` text breaks the rules of the format; all other faults
lie in a single value. -/
inductive Fault where
  | malformed
  | codePoint
  | wideCodePoint
  | calendar (fault : Calendar.Fault)
  | integer (base : Nat) (text : Text)
  | integerSize (digits : Nat)
  | float (text : Text)
  | floatSize
  | emptyNumber
  | truth (text : Text)
  | notTimestamp
  | timestampOfMapping
  | endless
  deriving DecidableEq, Repr

def Fault.message? : Fault → Option Text
  | codePoint => some "chr() arg not in range(0x110000)"
  | calendar fault => some fault.message
  | integer base text =>
    some ("invalid literal for int() with base " ++ Text.decimal base ++ ": "
      ++ (Text.quotation text).take 200)
  | integerSize digits =>
    some (Text.digitLimitText (": value has " ++ Text.decimal digits ++ " digits"))
  | float text => some ("could not convert string to float: " ++ Text.quotation text)
  | timestampOfMapping => some "expected string or bytes-like object, got 'list'"
  | _ => none

structure Cursor where
  rest : Text
  line : Nat
  column : Nat
  index : Nat
  deriving Repr

abbrev Scan := StateT Cursor (Except Fault)

def nextLine : Char := Char.ofNat 0x85

def lineSeparator : Char := Char.ofNat 0x2028

def paragraphSeparator : Char := Char.ofNat 0x2029

def byteOrderMark : Char := Char.ofNat 0xFEFF

def lineBreak (c : Char) : Bool :=
  c = '\n' || c = '\r' || c = nextLine || c = lineSeparator || c = paragraphSeparator

def endsLine : Option Char → Bool
  | none => true
  | some c => lineBreak c

def endsField : Option Char → Bool
  | none => true
  | some c => c = ' ' || lineBreak c

def endsWord : Option Char → Bool
  | none => true
  | some c => c = ' ' || c = '\t' || lineBreak c

namespace Cursor

def start (text : Text) : Cursor :=
  ⟨text, 0, 0, 0⟩

/-- A carriage return ends a line only if no line feed follows. -/
def next (place : Cursor) : Cursor :=
  match place.rest with
  | [] => place
  | c :: rest =>
    if lineBreak c ∧ ¬(c = '\r' ∧ rest.head? = some '\n') then
      ⟨rest, place.line + 1, 0, place.index + 1⟩
    else
      ⟨rest, place.line, if c = byteOrderMark then place.column else place.column + 1,
        place.index + 1⟩

def forward : Nat → Cursor → Cursor
  | 0, place => place
  | count + 1, place => forward count place.next

def peek (place : Cursor) : Option Char :=
  place.rest.head?

def peekAt (place : Cursor) (offset : Nat) : Option Char :=
  place.rest[offset]?

def documentMark (place : Cursor) : Bool :=
  let mark := place.rest.take 3
  (mark == "---" || mark == "...") && endsWord (place.peekAt 3)

end Cursor

def refuse {α : Type} : Scan α :=
  throw .malformed

def peek : Scan (Option Char) :=
  return (← get).peek

def forward (count : Nat) : Scan Unit :=
  modify (Cursor.forward count)

def takeWhile (passes : Char → Bool) : Scan Text := do
  let taken := (← get).rest.takeWhile passes
  forward taken.length
  return taken

def skipSpaces : Scan Unit := do
  let _ ← takeWhile (· == ' ')

def skipToLineEnd : Scan Unit := do
  let _ ← takeWhile fun c => !lineBreak c

def takeLineBreak : Scan Text := do
  match (← get).rest with
  | '\r' :: '\n' :: _ => forward 2; return ['\n']
  | c :: _ =>
    if c = '\r' ∨ c = '\n' ∨ c = nextLine then forward 1; return ['\n']
    else if lineBreak c then forward 1; return [c]
    else return []
  | [] => return []

def skipComment : Scan Unit := do
  if (← peek) = some '#' then skipToLineEnd

end TypedClient.Yaml
