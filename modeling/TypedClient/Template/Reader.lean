import TypedClient.Document.Json
import TypedClient.Template.Rendering
import TypedClient.Text.Blank

/-!
Templates out of texts. Expressions stand in double braces, statements between braces with percent
signs, and comments between braces with number signs. A statement or comment alone on its line takes
the blanks before it and the line feed after it along; a minus sign takes all blanks on its side,
and a plus sign keeps them.

This is a part of the template language only. Statements are choices with at most one `else`, and
loops over one name with an optional condition and an optional `else`. Expressions are names with
their fields and items, `not`, whole numbers, strings, truth values and nothing, in parentheses or
not, and the filters of `filterNames`. Outside are comparisons, arithmetic, `and` and `or`, tests,
calls, lists and tables, loops over several names, `elif`, `set`, macros, blocks, inclusion, raw
text and all other filters. A text that uses any of these is no template here, as one with a broken
statement is none, but another filter in a choice is a fault only when it is used. What such a text
prints is left out of this development.
-/

namespace TypedClient.Template

inductive Symbol where
  | name (name : Text)
  | number (value : Nat)
  | text (value : Text)
  | sign (c : Char)
  deriving DecidableEq, Repr

inductive Tag where
  | text (value : Text)
  | print (symbols : List Symbol)
  | statement (symbols : List Symbol)
  deriving DecidableEq, Repr

inductive Kind where
  | print
  | statement
  | comment
  deriving DecidableEq, Repr

def Kind.endMark : Kind → Char
  | .print => '\x7d'
  | .statement => '%'
  | .comment => '#'

def kindOf? (c : Char) : Option Kind :=
  if c = '\x7b' then some .print
  else if c = '%' then some .statement
  else if c = '#' then some .comment
  else none

def firstTag : Text → Option (Text × Kind × Text)
  | [] => none
  | [_] => none
  | c :: d :: rest =>
    match if c = '\x7b' then kindOf? d else none with
    | some kind => some ([], kind, rest)
    | none => (firstTag (d :: rest)).map fun (before, tag) => (c :: before, tag)

def dropLineStart (atLineStart : Bool) (text : Text) : Text :=
  let line := (text.reverse.takeWhile (· != '\n')).reverse
  let kept := text.take (text.length - line.length)
  if Text.isBlank line && (atLineStart || !kept.isEmpty) then kept else text

def openingSign : Text → Option Char × Text
  | '-' :: rest => (some '-', rest)
  | '+' :: rest => (some '+', rest)
  | rest => (none, rest)

def trimBefore (kind : Kind) (sign : Option Char) (atLineStart : Bool) (text : Text) : Text :=
  if sign = some '-' then Text.dropEndWhile Text.blank text
  else if sign = some '+' ∨ kind = .print then text
  else dropLineStart atLineStart text

/-- The closing mark at the beginning of the text, if it is there: what follows it, and whether
that begins a line. -/
def closing? (kind : Kind) (text : Text) : Option (Text × Bool) :=
  let mark : Text := [kind.endMark, '\x7d']
  match Text.after? ('-' :: mark) text with
  | some rest =>
    let blanks := rest.takeWhile Text.blank
    some (rest.dropWhile Text.blank, blanks.getLast? == some '\n')
  | none =>
    match if kind = .print then none else Text.after? ('+' :: mark) text with
    | some rest => some (rest, false)
    | none =>
      match Text.after? mark text with
      | none => none
      | some rest =>
        match rest with
        | '\n' :: more => if kind = .print then some (rest, false) else some (more, true)
        | _ => some (rest, false)

def skipComment : Text → Option (Text × Bool)
  | [] => none
  | c :: rest =>
    match closing? .comment (c :: rest) with
    | some after => some after
    | none => skipComment rest

def escapeWidth? (c : Char) : Option Nat :=
  if c = 'x' then some 2 else if c = 'u' then some 4 else if c = 'U' then some 8 else none

def plainEscapes : List (Char × Nat) :=
  [('\\', 92), ('\'', 39), ('"', 34), ('a', 7), ('b', 8), ('f', 12), ('n', 10), ('r', 13), ('t', 9),
   ('v', 11)]

def octalDigit (c : Char) : Bool :=
  '0' ≤ c && c ≤ '7'

def octalCode (text : Text) : Nat × Nat :=
  let digits := (text.take 3).takeWhile octalDigit
  (digits.foldl (fun code c => code * 8 + (c.toNat - '0'.toNat)) 0, digits.length)

/-- What a backslash and a character that begins no escape stand for. Other characters than those
of ASCII show their code. -/
def unescaped (c : Char) : Text :=
  '\\' :: (if c.toNat < 0x80 then [c]
    else if c.toNat < 0x100 then 'x' :: Text.hexadecimal 2 c.toNat
    else if c.toNat < 0x10000 then 'u' :: Text.hexadecimal 4 c.toNat
    else 'U' :: Text.hexadecimal 8 c.toNat)

def readQuoted (quote : Char) : Nat → Text → Option (Text × Text)
  | 0, _ => none
  | fuel + 1, text =>
    match text with
    | [] => none
    | '\\' :: '\n' :: rest => readQuoted quote fuel rest
    | '\\' :: c :: rest =>
      match plainEscapes.lookup c, escapeWidth? c with
      | some code, _ => (readQuoted quote fuel rest).map fun (chars, rest) => (Char.ofNat code :: chars, rest)
      | none, some width =>
        match Json.hexValue? width rest with
        | some code =>
          if 0x10FFFF < code then none
          else (readQuoted quote fuel (rest.drop width)).map fun (chars, rest) =>
            (Json.charOfCode code :: chars, rest)
        | none => none
      | none, none =>
        if c = 'N' then none
        else if octalDigit c then
          let (code, count) := octalCode (c :: rest)
          (readQuoted quote fuel (rest.drop (count - 1))).map fun (chars, rest) =>
            (Char.ofNat code :: chars, rest)
        else (readQuoted quote fuel rest).map fun (chars, rest) => (unescaped c ++ chars, rest)
    | c :: rest =>
      if c = quote then some ([], rest)
      else (readQuoted quote fuel rest).map fun (chars, rest) => (c :: chars, rest)

def nameStart (c : Char) : Bool :=
  Text.wordChar c && !Text.decimalDigit c

def signs : Text := "|.[]():,=!<>+-*/~"

/-- The symbols of a tag up to its closing mark, and what follows. Inside brackets no mark closes. -/
def readSymbols (kind : Kind) : Nat → Nat → Text → Option (List Symbol × Text × Bool)
  | 0, _, _ => none
  | fuel + 1, depth, text =>
    match if depth = 0 then closing? kind text else none with
    | some (rest, atLineStart) => some ([], rest, atLineStart)
    | none =>
      match text with
      | [] => none
      | c :: rest =>
        let follow (symbol : Symbol) (depth : Nat) (rest : Text) :=
          (readSymbols kind fuel depth rest).map fun (symbols, after) => (symbol :: symbols, after)
        if Text.blank c then readSymbols kind fuel depth rest
        else if c = '\'' ∨ c = '"' then
          match readQuoted c (rest.length + 1) rest with
          | some (chars, rest) => follow (.text chars) depth rest
          | none => none
        else if nameStart c then
          let name := text.takeWhile Text.wordChar
          follow (.name name) depth (text.drop name.length)
        else if Text.asciiDigit c then
          let digits := text.takeWhile fun d => if c = '0' then d = '0' else Text.asciiDigit d
          follow (.number (Binary64.digitsValue digits)) depth (text.drop digits.length)
        else if c = '[' ∨ c = '(' then follow (.sign c) (depth + 1) rest
        else if c = ']' ∨ c = ')' then
          if depth = 0 then none else follow (.sign c) (depth - 1) rest
        else if c ∈ signs then follow (.sign c) depth rest
        else none

def readTags : Nat → Bool → Text → Option (List Tag)
  | 0, _, _ => none
  | fuel + 1, atLineStart, text =>
    match firstTag text with
    | none => some (if text.isEmpty then [] else [.text text])
    | some (before, kind, rest) =>
      let (sign, rest) := openingSign rest
      let before := trimBefore kind sign atLineStart before
      let found : Option (List Tag × Text × Bool) :=
        match kind with
        | .comment => (skipComment rest).map fun after => ([], after)
        | .print =>
          (readSymbols .print (rest.length + 1) 0 rest).map fun (symbols, after) =>
            ([.print symbols], after)
        | .statement =>
          (readSymbols .statement (rest.length + 1) 0 rest).map fun (symbols, after) =>
            ([.statement symbols], after)
      match found with
      | none => none
      | some (tags, rest, atLineStart) =>
        (readTags fuel atLineStart rest).map fun others =>
          (if before.isEmpty then [] else [.text before]) ++ tags ++ others

abbrev SymbolReader (α : Type) := List Symbol → Option (α × List Symbol)

mutual

def readExpression : Nat → SymbolReader Expression
  | 0, _ => none
  | fuel + 1, symbols =>
    match symbols with
    | .name ['n', 'o', 't'] :: rest =>
      (readExpression fuel rest).map fun (operand, rest) => (.negation operand, rest)
    | symbols =>
      match readPrimary fuel symbols with
      | some (primary, rest) =>
        match readPostfix fuel primary rest with
        | some (object, rest) => readFilters fuel object rest
        | none => none
      | none => none

def readPrimary : Nat → SymbolReader Expression
  | 0, _ => none
  | fuel + 1, symbols =>
    match symbols with
    | .name name :: rest =>
      if name = "true" ∨ name = "True" then some (.truth true, rest)
      else if name = "false" ∨ name = "False" then some (.truth false, rest)
      else if name = "none" ∨ name = "None" then some (.nothing, rest)
      else some (.name name, rest)
    | .number value :: rest => some (.number value, rest)
    | .text value :: rest => some (joinTexts value rest)
    | .sign '(' :: rest =>
      match readExpression fuel rest with
      | some (inner, .sign ')' :: rest) => some (inner, rest)
      | _ => none
    | _ => none
where
  joinTexts (value : Text) : List Symbol → Expression × List Symbol
    | .text more :: rest => joinTexts (value ++ more) rest
    | rest => (.text value, rest)

def readPostfix : Nat → Expression → SymbolReader Expression
  | 0, _, _ => none
  | fuel + 1, object, symbols =>
    match symbols with
    | .sign '.' :: .name field :: rest => readPostfix fuel (.attribute object field) rest
    | .sign '.' :: .number index :: rest => readPostfix fuel (.item object (.number index)) rest
    | .sign '.' :: _ => none
    | .sign '[' :: rest =>
      match readExpression fuel rest with
      | some (index, .sign ']' :: rest) => readPostfix fuel (.item object index) rest
      | _ => none
    | rest => some (object, rest)

def readFilters : Nat → Expression → SymbolReader Expression
  | 0, _, _ => none
  | fuel + 1, input, symbols =>
    match symbols with
    | .sign '|' :: .name name :: rest =>
      match pathName name rest with
      | (name, .sign '(' :: rest) =>
        match readArguments fuel rest with
        | some ((arguments, named), rest) =>
          readFilters fuel (.filter input name arguments named) rest
        | none => none
      | (name, rest) => readFilters fuel (.filter input name [] []) rest
    | .sign '|' :: _ => none
    | rest => some (input, rest)
where
  pathName (name : Text) : List Symbol → Text × List Symbol
    | .sign '.' :: .name part :: rest => pathName (name ++ '.' :: part) rest
    | rest => (name, rest)

def readArguments : Nat → SymbolReader (List Expression × List (Text × Expression))
  | 0, _ => none
  | fuel + 1, symbols =>
    match symbols with
    | .sign ')' :: rest => some (([], []), rest)
    | .name name :: .sign '=' :: rest =>
      match readExpression fuel rest with
      | some (value, rest) =>
        match readMoreArguments fuel rest with
        | some (([], named), rest) => some (([], (name, value) :: named), rest)
        | _ => none
      | none => none
    | symbols =>
      match readExpression fuel symbols with
      | some (value, rest) =>
        (readMoreArguments fuel rest).map fun ((arguments, named), rest) =>
          ((value :: arguments, named), rest)
      | none => none

def readMoreArguments : Nat → SymbolReader (List Expression × List (Text × Expression))
  | 0, _ => none
  | fuel + 1, symbols =>
    match symbols with
    | .sign ')' :: rest => some (([], []), rest)
    | .sign ',' :: rest => readArguments fuel rest
    | _ => none

end

def wholeExpression (symbols : List Symbol) : Option Expression :=
  match readExpression (2 * symbols.length + 2) symbols with
  | some (expression, []) => some expression
  | _ => none

def fixedNames : List Text :=
  ["loop", "true", "True", "false", "False", "none", "None"]

def readLoopHead (symbols : List Symbol) : Option (Text × Expression × Option Expression) :=
  match symbols with
  | .name name :: .name ['i', 'n'] :: rest =>
    if name ∈ fixedNames then none
    else match readExpression (2 * rest.length + 2) rest with
    | some (source, []) => some (name, source, none)
    | some (source, .name ['i', 'f'] :: condition) =>
      (wholeExpression condition).map fun condition => (name, source, some condition)
    | _ => none
  | _ => none

inductive Ending where
  | endOfText
  | otherwise
  | endOfChoice
  | endOfLoop
  deriving DecidableEq, Repr

def endingOf? : List Symbol → Option Ending
  | [.name name] =>
    if name = "else" then some .otherwise
    else if name = "endif" then some .endOfChoice
    else if name = "endfor" then some .endOfLoop
    else none
  | _ => none

mutual

def readParts : Nat → List Tag → Option (List Part × Ending × List Tag)
  | 0, _ => none
  | fuel + 1, tags =>
    match tags with
    | [] => some ([], .endOfText, [])
    | .text value :: rest => continueWith fuel (.text value) rest
    | .print symbols :: rest =>
      match wholeExpression symbols with
      | some expression => continueWith fuel (.print expression) rest
      | none => none
    | .statement symbols :: rest =>
      match endingOf? symbols with
      | some ending => some ([], ending, rest)
      | none =>
        match symbols with
        | .name ['i', 'f'] :: condition =>
          match wholeExpression condition, readBodies fuel .endOfChoice rest with
          | some condition, some (body, otherwise, rest) =>
            continueWith fuel (.choice condition body otherwise) rest
          | _, _ => none
        | .name ['f', 'o', 'r'] :: head =>
          match readLoopHead head, readBodies fuel .endOfLoop rest with
          | some (name, source, condition), some (body, otherwise, rest) =>
            continueWith fuel (.loop name source condition body otherwise) rest
          | _, _ => none
        | _ => none

def continueWith : Nat → Part → List Tag → Option (List Part × Ending × List Tag)
  | 0, _, _ => none
  | fuel + 1, part, rest =>
    (readParts fuel rest).map fun (parts, after) => (part :: parts, after)

def readBodies : Nat → Ending → List Tag → Option (List Part × List Part × List Tag)
  | 0, _, _ => none
  | fuel + 1, ending, tags =>
    match readParts fuel tags with
    | some (body, .otherwise, rest) =>
      match readParts fuel rest with
      | some (otherwise, found, rest) =>
        if found = ending then some (body, otherwise, rest) else none
      | none => none
    | some (body, found, rest) => if found = ending then some (body, [], rest) else none
    | none => none

end

mutual

def Expression.known : Expression → Bool
  | .attribute object _ => object.known
  | .item object index => object.known && index.known
  | .negation operand => operand.known
  | .filter input name arguments named =>
    name ∈ filterNames && input.known && allKnown arguments && allNamedKnown named
  | _ => true

def allKnown : List Expression → Bool
  | [] => true
  | first :: rest => first.known && allKnown rest

def allNamedKnown : List (Text × Expression) → Bool
  | [] => true
  | (_, first) :: rest => first.known && allNamedKnown rest

end

mutual

/-- Filters must be known before anything is printed. In a choice they may turn out to be unknown
later, but no loop in it has that freedom. -/
def Part.filtersKnown (inChoice : Bool) : Part → Bool
  | .text _ => true
  | .print expression => inChoice || expression.known
  | .choice _ body otherwise => filtersKnown true body && filtersKnown true otherwise
  | .loop _ source condition body otherwise =>
    (inChoice || source.known) && condition.all Expression.known
      && filtersKnown false body && filtersKnown false otherwise

def filtersKnown (inChoice : Bool) : List Part → Bool
  | [] => true
  | part :: rest => part.filtersKnown inChoice && filtersKnown inChoice rest

end

def ofText (text : Text) : Option (List Part) :=
  let text := Text.unifyLineBreaks text
  match readTags (text.length + 1) true text with
  | none => none
  | some tags =>
    match readParts (4 * tags.length + 4) tags with
    | some (parts, .endOfText, []) => if filtersKnown false parts then some parts else none
    | _ => none

end TypedClient.Template
