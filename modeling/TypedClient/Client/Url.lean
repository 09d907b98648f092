import TypedClient.Client.Service

/-!
Addresses of operations. A path holds route segments in braces, such as `{id}`, `{id:int}` or
`{*rest}`; a segment that names an argument is filled with it.
-/

namespace TypedClient.Url

def endsSegmentName (c : Char) : Bool :=
  c = '\x7d' || c = ':' || c = '?' || c = '='

/-- The name in a segment, after at most `stars` stars. They belong to the name where it would be
empty without them. -/
def segmentName? : Nat → Text → Option Text
  | stars, inner =>
    let here := inner.takeWhile fun c => !endsSegmentName c
    match stars, inner with
    | stars + 1, '*' :: rest => (segmentName? stars rest).or (if here.isEmpty then none else some here)
    | _, _ => if here.isEmpty then none else some here

inductive Piece where
  | char (c : Char)
  | segment (written name : Text)
  deriving DecidableEq, Repr

/-- Skips the characters of a segment already read. -/
def piecesFrom : Nat → Text → List Piece
  | _, [] => []
  | skipped + 1, _ :: rest => piecesFrom skipped rest
  | 0, c :: rest =>
    let inner := rest.takeWhile (· != '\x7d')
    if c = '\x7b' ∧ inner.length < rest.length then
      match segmentName? 2 inner with
      | some name => .segment ('\x7b' :: inner ++ ['\x7d']) name :: piecesFrom (inner.length + 1) rest
      | none => .char c :: piecesFrom 0 rest
    else .char c :: piecesFrom 0 rest

def pieces (path : Text) : List Piece :=
  piecesFrom 0 path

def key (name : Text) : Text :=
  Text.lower (Text.strip name)

def routeNames (path : Text) : List Text :=
  (pieces path).filterMap fun piece =>
    match piece with
    | .segment _ name => some (key name)
    | .char _ => none

def identifier? (arguments : List Argument) (name : Text) : Option Text :=
  ((arguments.filter fun argument =>
    argument.channel == .route && Text.lower argument.wireName == key name).getLast?).map (·.name)

def Piece.render (arguments : List Argument) : Piece → Text
  | .char c => [c]
  | .segment written name =>
    match identifier? arguments name with
    | some identifier => '$' :: '\x7b' :: identifier ++ ['\x7d']
    | none => written

def Piece.isFilled (arguments : List Argument) : Piece → Bool
  | .char _ => false
  | .segment _ name => (identifier? arguments name).isSome

def full (apiPrefix path : Text) : Text :=
  Text.dropEndWhile (· == '/') apiPrefix ++ '/' :: path.dropWhile (· == '/')

def escapeQuoted (text : Text) : Text :=
  Text.replaceAll ['\''] "\\'" (Text.replaceAll ['\\'] "\\\\" text)

def build (apiPrefix path : Text) (arguments : List Argument) : Text :=
  let pieces := pieces (full apiPrefix path)
  if pieces.any (·.isFilled arguments) then
    '\x60' :: pieces.flatMap (·.render arguments) ++ ['\x60']
  else '\'' :: escapeQuoted (full apiPrefix path) ++ ['\'']

end TypedClient.Url
