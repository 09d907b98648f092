import TypedClient.Text.Utf8
import TypedClient.Yaml.ScalarText

/-!
The tokens of a YAML text. A scalar turns out to be a key only at the colon after it, so places
where a key may begin are remembered and the key token is put there later.
-/

namespace TypedClient.Yaml

inductive Directive where
  | version (major : Nat)
  | tagHandle (handle replacement : Text)
  | other
  deriving DecidableEq, Repr

inductive Token where
  | streamEnd
  | directive (directive : Directive)
  | documentStart
  | documentEnd
  | blockSequenceStart
  | blockMappingStart
  | blockEnd
  | flowSequenceStart
  | flowMappingStart
  | flowSequenceEnd
  | flowMappingEnd
  | blockEntry
  | flowEntry
  | key
  | value
  | reference (name : Text)
  | anchor (name : Text)
  | tag (handle : Option Text) (suffix : Text)
  | scalar (plain : Bool) (text : Text)
  | unreadable (fault : Fault)
  deriving DecidableEq, Repr

structure PossibleKey where
  token : Nat
  required : Bool
  index : Nat
  line : Nat
  column : Nat
  deriving Repr

/-- The tokens stand in reverse, the last one first, together with their number. -/
structure Lexer where
  place : Cursor
  flowDepth : Nat
  indent : Int
  outerIndents : List Int
  keyAllowed : Bool
  possibleKeys : List (Nat × PossibleKey)
  tokens : List Token
  tokenCount : Nat
  deriving Repr

abbrev Lex := StateT Lexer (Except Fault)

namespace Lexer

def start (text : Text) : Lexer :=
  ⟨Cursor.start text, 0, -1, [], true, [], [], 0⟩

def push (token : Token) (lexer : Lexer) : Lexer :=
  { lexer with tokens := token :: lexer.tokens, tokenCount := lexer.tokenCount + 1 }

def insert (index : Nat) (inserted : List Token) (lexer : Lexer) : Lexer :=
  let later := lexer.tokenCount - index
  { lexer with
    tokens := lexer.tokens.take later ++ inserted.reverse ++ lexer.tokens.drop later
    tokenCount := lexer.tokenCount + inserted.length }

/-- A key is one line of at most 1024 characters. -/
def stale (place : Cursor) (key : PossibleKey) : Bool :=
  key.line != place.line || place.index > key.index + 1024

def possibleKey? (lexer : Lexer) : Option PossibleKey :=
  lexer.possibleKeys.lookup lexer.flowDepth

def settled (lexer : Lexer) : List Token :=
  let pending := lexer.possibleKeys.filter fun (_, key) => !stale lexer.place key
  let count := pending.foldl (fun count (_, key) => min count key.token) lexer.tokenCount
  lexer.tokens.reverse.take count

end Lexer

def scan {α : Type} (scanner : Scan α) : Lex α := do
  let lexer ← get
  match scanner.run lexer.place with
  | .ok (result, place) =>
    set { lexer with place }
    return result
  | .error fault => throw fault

def emit (token : Token) : Lex Unit :=
  modify (Lexer.push token)

def allowKey (allowed : Bool) : Lex Unit :=
  modify fun lexer => { lexer with keyAllowed := allowed }

def inFlow : Lex Bool :=
  return (← get).flowDepth != 0

def dropStaleKeys : Lex Unit := do
  let lexer ← get
  let (stale, kept) := lexer.possibleKeys.partition fun (_, key) => Lexer.stale lexer.place key
  if stale.any fun (_, key) => key.required then throw .malformed
  set { lexer with possibleKeys := kept }

def forgetKey : Lex Unit := do
  let lexer ← get
  if lexer.possibleKey?.any (·.required) then throw .malformed
  set { lexer with possibleKeys := lexer.possibleKeys.filter (·.1 != lexer.flowDepth) }

def rememberKey : Lex Unit := do
  if (← get).keyAllowed then
    forgetKey
    let lexer ← get
    let place := lexer.place
    let required := lexer.flowDepth == 0 && lexer.indent == (place.column : Int)
    let key : PossibleKey :=
      ⟨lexer.tokenCount, required, place.index, place.line, place.column⟩
    set { lexer with possibleKeys := (lexer.flowDepth, key) :: lexer.possibleKeys }

def unwind (column : Int) : Lex Unit :=
  modify fun lexer =>
    if lexer.flowDepth != 0 then lexer
    else
      let all := lexer.indent :: lexer.outerIndents
      let closed := all.takeWhile (column < ·)
      let lexer := closed.foldl (fun lexer _ => lexer.push .blockEnd) lexer
      match all.drop closed.length with
      | indent :: outer => { lexer with indent, outerIndents := outer }
      | [] => lexer

def openBlock (column : Nat) : Lex Bool := do
  let lexer ← get
  if lexer.indent < (column : Int) then
    set { lexer with
      indent := (column : Int), outerIndents := lexer.indent :: lexer.outerIndents }
    return true
  else return false

def indicator (token : Token) (width : Nat) : Lex Unit := do
  scan (forward width)
  emit token

def lexStreamEnd : Lex Unit := do
  unwind (-1)
  forgetKey
  emit .streamEnd

def nameChar (c : Char) : Bool :=
  Text.asciiDigit c || Text.asciiLetter c || c = '-' || c = '_'

def takeName : Scan Text := do
  let name ← takeWhile nameChar
  if name.isEmpty then refuse
  return name

def takeNumber : Scan Nat := do
  let digits ← takeWhile Text.asciiDigit
  if digits.isEmpty then refuse
  if Text.mostDigits < digits.length then throw (.integerSize digits.length)
  return Binary64.digitsValue digits

def uriChar (c : Char) : Bool :=
  Text.asciiDigit c || Text.asciiLetter c || c ∈ ("-;/?:@&=+$,_.!~*'()[]" : Text)

def takeUriBytes : Nat → Scan (List UInt8)
  | 0 => return []
  | fuel + 1 => do
    if (← peek) = some '%' then
      forward 1
      match Json.hexValue? 2 (← get).rest with
      | none => refuse
      | some code =>
        forward 2
        return UInt8.ofNat code :: (← takeUriBytes fuel)
    else return []

def takeUriFrom : Nat → Scan Text
  | 0 => return []
  | fuel + 1 => do
    let chars ← takeWhile uriChar
    if (← peek) = some '%' then
      let bytes ← takeUriBytes ((← get).rest.length + 1)
      match Utf8.decode? bytes with
      | none => refuse
      | some decoded => return chars ++ decoded ++ (← takeUriFrom fuel)
    else return chars

def takeUri : Scan Text := do
  let before := (← get).index
  let uri ← takeUriFrom ((← get).rest.length + 1)
  if (← get).index = before then refuse
  return uri

def takeTagHandle : Scan Text := do
  if (← peek) != some '!' then refuse
  forward 1
  if (← peek) = some ' ' then return ['!']
  let name ← takeWhile nameChar
  if (← peek) != some '!' then refuse
  forward 1
  return '!' :: name ++ ['!']

def takeDirective : Scan Directive := do
  forward 1
  let name ← takeName
  if !endsField (← peek) then refuse
  let directive ←
    if name = "YAML" then do
      skipSpaces
      let major ← takeNumber
      if (← peek) != some '.' then refuse
      forward 1
      let _ ← takeNumber
      if !endsField (← peek) then refuse
      pure (Directive.version major)
    else if name = "TAG" then do
      skipSpaces
      let handle ← takeTagHandle
      if (← peek) != some ' ' then refuse
      skipSpaces
      let replacement ← takeUri
      if !endsField (← peek) then refuse
      pure (Directive.tagHandle handle replacement)
    else do
      skipToLineEnd
      pure Directive.other
  skipSpaces
  skipComment
  if !endsLine (← peek) then refuse
  let _ ← takeLineBreak
  return directive

def endsAnchor (following : Option Char) : Bool :=
  endsWord following || following.any (· ∈ ("?:,]\x7d%@`" : Text))

def takeAnchor : Scan Text := do
  forward 1
  let name ← takeName
  if !endsAnchor (← peek) then refuse
  return name

def hasHandle (afterMark : Text) : Bool :=
  (afterMark.takeWhile fun c => !endsField (some c)).contains '!'

def takeTag : Scan Token := do
  let place ← get
  let token ←
    match place.peekAt 1 with
    | some '<' => do
      forward 2
      let suffix ← takeUri
      if (← peek) != some '>' then refuse
      forward 1
      pure (Token.tag none suffix)
    | following =>
      if endsWord following then do
        forward 1
        pure (Token.tag none ['!'])
      else if hasHandle (place.rest.drop 1) then do
        let handle ← takeTagHandle
        pure (Token.tag (some handle) (← takeUri))
      else do
        forward 1
        pure (Token.tag (some ['!']) (← takeUri))
  if !endsField (← peek) then refuse
  return token

def lexDirective : Lex Unit := do
  unwind (-1)
  forgetKey
  allowKey false
  emit (.directive (← scan takeDirective))

def lexDocumentMark (token : Token) : Lex Unit := do
  unwind (-1)
  forgetKey
  allowKey false
  indicator token 3

def lexFlowStart (token : Token) : Lex Unit := do
  rememberKey
  modify fun lexer => { lexer with flowDepth := lexer.flowDepth + 1 }
  allowKey true
  indicator token 1

def lexFlowEnd (token : Token) : Lex Unit := do
  forgetKey
  if (← get).flowDepth = 0 then throw .malformed
  modify fun lexer => { lexer with flowDepth := lexer.flowDepth - 1 }
  allowKey false
  indicator token 1

def lexFlowEntry : Lex Unit := do
  allowKey true
  forgetKey
  indicator .flowEntry 1

def beginInBlock (opening : Token) : Lex Unit := do
  if !(← inFlow) then
    let lexer ← get
    if !lexer.keyAllowed then throw .malformed
    if ← openBlock lexer.place.column then emit opening

def lexBlockEntry : Lex Unit := do
  beginInBlock .blockSequenceStart
  allowKey true
  forgetKey
  indicator .blockEntry 1

def lexKey : Lex Unit := do
  beginInBlock .blockMappingStart
  allowKey (!(← inFlow))
  forgetKey
  indicator .key 1

def lexValue : Lex Unit := do
  let lexer ← get
  match lexer.possibleKey? with
  | some key =>
    set { lexer with
      possibleKeys := lexer.possibleKeys.filter (·.1 != lexer.flowDepth)
      keyAllowed := false }
    let opened ← if lexer.flowDepth = 0 then openBlock key.column else pure false
    let inserted := if opened then [Token.blockMappingStart, .key] else [.key]
    modify (Lexer.insert key.token inserted)
  | none =>
    beginInBlock .blockMappingStart
    allowKey (!(← inFlow))
    forgetKey
  indicator .value 1

def lexNamed (token : Text → Token) : Lex Unit := do
  rememberKey
  allowKey false
  emit (token (← scan takeAnchor))

def lexTag : Lex Unit := do
  rememberKey
  allowKey false
  emit (← scan takeTag)

def lexBlockScalar (folded : Bool) : Lex Unit := do
  allowKey true
  forgetKey
  let indent := (← get).indent
  emit (.scalar false (← scan (blockScalar folded indent)))

def lexQuoted (double : Bool) : Lex Unit := do
  rememberKey
  allowKey false
  emit (.scalar false (← scan (quotedScalar double)))

def lexPlain : Lex Unit := do
  rememberKey
  let lexer ← get
  let (text, broken) ← scan (plainScalar (lexer.flowDepth != 0) (lexer.indent + 1))
  allowKey broken
  emit (.scalar true text)

def notPlainStart : Text :=
  "-?:,[]\x7b\x7d#&*!|>'\"%@`"

def startsPlain (inFlow : Bool) (first following : Option Char) : Bool :=
  match first with
  | none => false
  | some c =>
    (!endsWord first && c ∉ notPlainStart) ||
      (!endsWord following && (c = '-' || (!inFlow && (c = '?' || c = ':'))))

def skipToToken : Nat → Lex Unit
  | 0 => return
  | fuel + 1 => do
    scan skipSpaces
    scan skipComment
    match ← scan takeLineBreak with
    | [] => return
    | _ =>
      if !(← inFlow) then allowKey true
      skipToToken fuel

def lexToken : Lex Bool := do
  let place := (← get).place
  if place.index = 0 && place.peek = some byteOrderMark then scan (forward 1)
  skipToToken ((← get).place.rest.length + 1)
  dropStaleKeys
  unwind (← get).place.column
  let lexer ← get
  let place := lexer.place
  let nested := lexer.flowDepth != 0
  let following := place.peekAt 1
  match place.peek with
  | none => lexStreamEnd; return false
  | some c =>
    let action : Lex Unit :=
      if c = '%' && place.column = 0 then lexDirective
      else if c = '-' && place.column = 0 && place.documentMark then lexDocumentMark .documentStart
      else if c = '.' && place.column = 0 && place.documentMark then lexDocumentMark .documentEnd
      else if c = '[' then lexFlowStart .flowSequenceStart
      else if c = '\x7b' then lexFlowStart .flowMappingStart
      else if c = ']' then lexFlowEnd .flowSequenceEnd
      else if c = '\x7d' then lexFlowEnd .flowMappingEnd
      else if c = ',' then lexFlowEntry
      else if c = '-' && endsWord following then lexBlockEntry
      else if c = '?' && (nested || endsWord following) then lexKey
      else if c = ':' && (nested || endsWord following) then lexValue
      else if c = '*' then lexNamed .reference
      else if c = '&' then lexNamed .anchor
      else if c = '!' then lexTag
      else if c = '|' && !nested then lexBlockScalar false
      else if c = '>' && !nested then lexBlockScalar true
      else if c = '\'' then lexQuoted false
      else if c = '"' then lexQuoted true
      else if startsPlain nested place.peek following then lexPlain
      else throw .malformed
    action
    return true

/-- Every token takes at least one character, which bounds the loop. Where no token can be read,
the fault stands after the settled tokens: the others are not known before the next one is. -/
def lexAll : Nat → Lexer → List Token
  | 0, lexer => lexer.settled
  | fuel + 1, lexer =>
    match lexToken.run lexer with
    | .ok (true, lexer) => lexAll fuel lexer
    | .ok (false, lexer) => lexer.tokens.reverse
    | .error fault => lexer.settled ++ [.unreadable fault]

def printable (c : Char) : Bool :=
  let n := c.toNat
  n = 0x09 || n = 0x0A || n = 0x0D || (0x20 ≤ n && n ≤ 0x7E) || n = 0x85 ||
    (0xA0 ≤ n && n ≤ 0xD7FF) || (0xE000 ≤ n && n ≤ 0xFFFD) || 0x10000 ≤ n

def Token.ofText (text : Text) : Except Fault (List Token) :=
  if text.all printable then .ok (lexAll (text.length + 2) (Lexer.start text))
  else .error .malformed

end TypedClient.Yaml
