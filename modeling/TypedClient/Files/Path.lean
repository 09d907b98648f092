import TypedClient.Text.Basic

/-!
File paths: parts between slashes, without empty parts and single points. Two points are kept. A
path of no parts is the current directory. Exactly two leading slashes differ from one.
-/

namespace TypedClient

structure Path where
  root : Text
  parts : List Text
  deriving DecidableEq, Repr

namespace Path

def rootOf (text : Text) : Text :=
  match (text.takeWhile (· == '/')).length with
  | 0 => []
  | 2 => "//"
  | _ => "/"

def partsOf (text : Text) : List Text :=
  (Text.pieces (· == '/') text).filter fun part => part != [] && part != ['.']

def ofText (text : Text) : Path :=
  ⟨rootOf text, partsOf text⟩

def text (path : Path) : Text :=
  let joined := path.root ++ (['/'] : Text).intercalate path.parts
  if joined.isEmpty then ['.'] else joined

def name (path : Path) : Text :=
  path.parts.getLast?.getD []

def parent (path : Path) : Path :=
  { path with parts := path.parts.dropLast }

def ancestors (path : Path) : List Path :=
  (List.range (path.parts.length + 1)).map fun count => { path with parts := path.parts.take count }

def join (path : Path) (other : Text) : Path :=
  let next := ofText other
  if next.root.isEmpty then { path with parts := path.parts ++ next.parts } else next

end Path

end TypedClient
