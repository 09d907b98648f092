import TypedClient.Text.Blank

/-!
Documentation texts made safe for block comments: one line or several, with limits on the length of
a line and the number of lines. A zero-width space breaks up what would open or close a comment.
-/

namespace TypedClient

structure CommentLimits where
  maxLength : Nat
  maxLines : Nat
  preserveHtmlTags : Bool
  preserveLineBreaks : Bool
  deriving DecidableEq, Repr

def CommentLimits.standard : CommentLimits :=
  ⟨200, 5, true, true⟩

namespace Comment

def zeroWidthSpace : Char := Char.ofNat 0x200B

def ellipsis : Text := "..."

def separate (first second : Char) : Text → Text
  | [] => []
  | [c] => [c]
  | c :: d :: rest =>
    if c = first ∧ d = second then c :: zeroWidthSpace :: separate first second (d :: rest)
    else c :: separate first second (d :: rest)

def escapeDelimiters (text : Text) : Text :=
  separate '/' '*' (separate '*' '/' text)

/-- The ampersand comes last, so that no text decodes twice. -/
def entities : List (Text × Char) :=
  [("&lt;", '<'), ("&gt;", '>'), ("&quot;", '"'), ("&apos;", '\''), ("&amp;", '&')]

def decodeEntities (text : Text) : Text :=
  entities.foldl (fun text (entity, c) => Text.replaceAll entity [c] text) text

def truncate (length : Nat) (text : Text) : Text :=
  if text.length ≤ length then text else text.take (length - ellipsis.length) ++ ellipsis

def neutralize (limits : CommentLimits) (text : Text) : Text :=
  escapeDelimiters (if limits.preserveHtmlTags then text else decodeEntities text)

def singleLine (limits : CommentLimits) (text : Text) : Text :=
  if Text.isBlank text then []
  else truncate limits.maxLength
    (Text.strip (Text.collapse (neutralize limits (Text.strip text))))

/-- The line is trimmed already, and what replaces entities and delimiters is not blank. -/
def lineOf (limits : CommentLimits) (line : Text) : Text :=
  truncate limits.maxLength (Text.collapse (neutralize limits line))

def limitLines (count : Nat) (lines : List Text) : List Text :=
  if count < lines.length then lines.take count ++ [ellipsis] else lines

def multiLine (limits : CommentLimits) (text : Text) : List Text :=
  if Text.isBlank text then []
  else if limits.preserveLineBreaks then
    let lines := ((Text.splitLines text).map Text.strip).filter (· != [])
    limitLines limits.maxLines (lines.map (lineOf limits))
  else [singleLine limits text]

end Comment

end TypedClient
