import TypedClient.Document.Json
import TypedClient.Yaml.Cursor

/-!
The text that a scalar stands for, in its five written forms: plain, single-quoted, double-quoted,
literal and folded. Loops are bounded by the characters still to come.
-/

namespace TypedClient.Yaml

def flowIndicator (c : Char) : Bool :=
  c = ',' || c = '[' || c = ']' || c = '\x7b' || c = '\x7d'

def endsPlainKey (inFlow : Bool) (following : Option Char) : Bool :=
  endsWord following || (inFlow && following.any flowIndicator)

def plainWord (inFlow : Bool) : Text → Text
  | [] => []
  | c :: rest =>
    if endsWord (some c) || (c = ':' && endsPlainKey inFlow rest.head?)
        || (inFlow && (c = '?' || flowIndicator c)) then []
    else c :: plainWord inFlow rest

def plainBreaks : Nat → Scan (Option Text)
  | 0 => return some []
  | fuel + 1 => do
    if (← get).documentMark then return none
    let _ ← takeWhile (· == ' ')
    match ← takeLineBreak with
    | [] => return some []
    | text => return (← plainBreaks fuel).map (text ++ ·)

/-- What stands between two words, and whether a line ends there. Without text the scalar ends. -/
def plainSpaces : Scan (Text × Bool) := do
  let spaces ← takeWhile (· == ' ')
  match ← takeLineBreak with
  | [] => return (spaces, false)
  | text =>
    match ← plainBreaks ((← get).rest.length + 1) with
    | none => return ([], true)
    | some breaks =>
      let first : Text := if text ≠ ['\n'] then text else if breaks.isEmpty then [' '] else []
      return (first ++ breaks, true)

def plainWords (inFlow : Bool) (indent : Int) : Nat → Scan (Text × Bool)
  | 0 => return ([], false)
  | fuel + 1 => do
    let word := plainWord inFlow (← get).rest
    if word.isEmpty || (← peek) = some '#' then return ([], true)
    forward word.length
    let (spaces, broken) ← plainSpaces
    let place ← get
    if spaces.isEmpty || place.peek = some '#' || (!inFlow && (place.column : Int) < indent) then
      return (word, broken)
    let (others, broken') ← plainWords inFlow indent fuel
    if others.isEmpty then return (word, broken) else return (word ++ spaces ++ others, broken')

def plainScalar (inFlow : Bool) (indent : Int) : Scan (Text × Bool) := do
  plainWords inFlow indent ((← get).rest.length + 1)

def quotedWordEnd (c : Char) : Bool :=
  c = '\'' || c = '"' || c = '\\' || endsWord (some c)

def escapes : List (Char × Nat) :=
  [('0', 0), ('a', 7), ('b', 8), ('t', 9), ('\t', 9), ('n', 10), ('v', 11), ('f', 12), ('r', 13),
   ('e', 27), (' ', 32), ('"', 34), ('\\', 92), ('/', 47), ('N', 0x85), ('_', 0xA0), ('L', 0x2028),
   ('P', 0x2029)]

def escapeWidth? (c : Char) : Option Nat :=
  if c = 'x' then some 2 else if c = 'u' then some 4 else if c = 'U' then some 8 else none

def escapedCode? : Text → Option (Nat × Nat)
  | '\\' :: 'u' :: rest => (Json.hexValue? 4 rest).map fun code => (code, 6)
  | '\\' :: 'U' :: rest => (Json.hexValue? 8 rest).map fun code => (code, 10)
  | _ => none

/-- A character given by its code. A surrogate takes the escaped one after it as its other half. -/
def codeEscape (width : Nat) : Scan Char := do
  let text := (← get).rest
  match Json.hexValue? width text with
  | none => refuse
  | some code =>
    if 0x7FFFFFFF < code then throw .wideCodePoint
    if 0x10FFFF < code then throw .codePoint
    forward width
    match escapedCode? (text.drop width) with
    | some (low, lowWidth) =>
      if Json.highSurrogate code && Json.lowSurrogate low then
        forward lowWidth
        return Json.combineSurrogates code low
      else return Json.charOfCode code
    | none => return Json.charOfCode code

/-- The line breaks after the first one inside quotes; blanks around them do not count. -/
def quotedBreaks : Nat → Scan Text
  | 0 => return []
  | fuel + 1 => do
    if (← get).documentMark then refuse
    let _ ← takeWhile fun c => c = ' ' || c = '\t'
    match ← takeLineBreak with
    | [] => return []
    | text => return text ++ (← quotedBreaks fuel)

def quotedWord (double : Bool) : Nat → Scan Text
  | 0 => return []
  | fuel + 1 => do
    let word ← takeWhile fun c => !quotedWordEnd c
    let place ← get
    match place.peek with
    | some '\'' =>
      if double then
        forward 1
        return word ++ '\'' :: (← quotedWord double fuel)
      else if place.peekAt 1 = some '\'' then
        forward 2
        return word ++ '\'' :: (← quotedWord double fuel)
      else return word
    | some '"' =>
      if double then return word
      forward 1
      return word ++ '"' :: (← quotedWord double fuel)
    | some '\\' =>
      forward 1
      if !double then return word ++ '\\' :: (← quotedWord double fuel)
      match ← peek with
      | none => refuse
      | some c =>
        match escapes.lookup c, escapeWidth? c with
        | some code, _ =>
          forward 1
          return word ++ Char.ofNat code :: (← quotedWord double fuel)
        | none, some width =>
          forward 1
          let escaped ← codeEscape width
          return word ++ escaped :: (← quotedWord double fuel)
        | none, none =>
          if lineBreak c then
            let _ ← takeLineBreak
            let breaks ← quotedBreaks ((← get).rest.length + 1)
            return word ++ breaks ++ (← quotedWord double fuel)
          else refuse
    | _ => return word

def quotedSpaces : Scan Text := do
  let spaces ← takeWhile fun c => c = ' ' || c = '\t'
  if (← peek).isNone then refuse
  match ← takeLineBreak with
  | [] => return spaces
  | text =>
    let breaks ← quotedBreaks ((← get).rest.length + 1)
    let first : Text := if text ≠ ['\n'] then text else if breaks.isEmpty then [' '] else []
    return first ++ breaks

def quotedParts (double : Bool) : Nat → Scan Text
  | 0 => refuse
  | fuel + 1 => do
    if (← peek) = some (if double then '"' else '\'') then return []
    let spaces ← quotedSpaces
    let word ← quotedWord double ((← get).rest.length + 1)
    return spaces ++ word ++ (← quotedParts double fuel)

def quotedScalar (double : Bool) : Scan Text := do
  forward 1
  let first ← quotedWord double ((← get).rest.length + 1)
  let others ← quotedParts double ((← get).rest.length + 2)
  forward 1
  return first ++ others

inductive Chomping where
  | strip
  | clip
  | keep
  deriving DecidableEq, Repr

def takeChomping : Scan (Option Chomping) := do
  match ← peek with
  | some '+' => forward 1; return some .keep
  | some '-' => forward 1; return some .strip
  | _ => return none

def takeIndentation : Scan (Option Nat) := do
  match ← peek with
  | some c =>
    if Text.asciiDigit c then
      if c = '0' then refuse
      forward 1
      return some (c.toNat - '0'.toNat)
    else return none
  | none => return none

def blockHeader : Scan (Chomping × Option Nat) := do
  let early ← takeChomping
  let indentation ← takeIndentation
  let late ← if early.isNone && indentation.isSome then takeChomping else pure none
  if !endsField (← peek) then refuse
  skipSpaces
  skipComment
  if !endsLine (← peek) then refuse
  let _ ← takeLineBreak
  return ((early.or late).getD .clip, indentation)

def leadingBreaks : Nat → Scan (Text × Nat)
  | 0 => return ([], 0)
  | fuel + 1 => do
    let place ← get
    match place.peek with
    | some c =>
      if lineBreak c then
        let text ← takeLineBreak
        let (others, widest) ← leadingBreaks fuel
        return (text ++ others, widest)
      else if c = ' ' then
        forward 1
        let column := (← get).column
        let (others, widest) ← leadingBreaks fuel
        return (others, max column widest)
      else return ([], 0)
    | none => return ([], 0)

def skipIndentation (indent : Nat) : Scan Unit := do
  let place ← get
  let spaces := place.rest.takeWhile (· == ' ')
  forward (min spaces.length (indent - place.column))

def blockBreaks (indent : Nat) : Nat → Scan Text
  | 0 => return []
  | fuel + 1 => do
    skipIndentation indent
    match ← takeLineBreak with
    | [] => return []
    | text => return text ++ (← blockBreaks indent fuel)

def atBlockLine (indent : Nat) : Scan Bool := do
  let place ← get
  return place.column = indent && place.peek.isSome

def startsBlank (place : Option Char) : Bool :=
  place = some ' ' || place = some '\t'

/-- The lines of a block scalar after the breaks before them: its text without the last line break,
that line break, and the empty lines at the end. -/
def blockLines (folded : Bool) (indent : Nat) : Nat → Text → Scan (Text × Text × Text)
  | 0, breaks => return ([], [], breaks)
  | fuel + 1, breaks => do
    if !(← atBlockLine indent) then return ([], [], breaks)
    let indented := startsBlank (← peek)
    let line ← takeWhile fun c => !lineBreak c
    let ending ← takeLineBreak
    let following ← blockBreaks indent ((← get).rest.length + 1)
    if ← atBlockLine indent then
      let joint : Text :=
        if folded && ending = ['\n'] && !indented && !startsBlank (← peek) then
          if following.isEmpty then [' '] else []
        else ending
      let (text, last, tail) ← blockLines folded indent fuel following
      return (breaks ++ line ++ joint ++ text, last, tail)
    else return (breaks ++ line, ending, following)

def blockScalar (folded : Bool) (outerIndent : Int) : Scan Text := do
  forward 1
  let (chomping, indentation) ← blockHeader
  let least := max (outerIndent + 1).toNat 1
  let fuel := (← get).rest.length + 1
  let (indent, breaks) ← match indentation with
    | none => do
      let (breaks, widest) ← leadingBreaks fuel
      pure (max least widest, breaks)
    | some extra => do
      let indent := least + extra - 1
      pure (indent, ← blockBreaks indent fuel)
  let (text, ending, tail) ← blockLines folded indent ((← get).rest.length + 1) breaks
  match chomping with
  | .strip => return text
  | .clip => return text ++ ending
  | .keep => return text ++ ending ++ tail

end TypedClient.Yaml
