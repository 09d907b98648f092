import TypedClient.Text.Basic

/-!
Glob patterns: a star stands for any text, a question mark for one character, and brackets for one
character of a set. A set begins with an exclamation mark where it excludes, holds ranges, and may
hold a closing bracket as its first character. A bracket that is not closed stands for itself.
-/

namespace TypedClient.Glob

inductive SetItem where
  | char (c : Char)
  | range (first last : Char)
  deriving DecidableEq, Repr

inductive Part where
  | anyText
  | anyChar
  | char (c : Char)
  | oneOf (excludes : Bool) (items : List SetItem)
  deriving DecidableEq, Repr

def SetItem.holds (c : Char) : SetItem → Bool
  | .char d => c == d
  | .range first last => first ≤ c && c ≤ last

def setContent (rest : Text) : Option (Text × Text) :=
  let (mark, rest) : Text × Text := match rest with
    | '!' :: rest => (['!'], rest)
    | rest => ([], rest)
  let (bracket, rest) : Text × Text := match rest with
    | ']' :: rest => ([']'], rest)
    | rest => ([], rest)
  let body := rest.takeWhile (· != ']')
  if body.length < rest.length then
    some (mark ++ bracket ++ body, rest.drop (body.length + 1))
  else none

/-- Cuts at hyphens that stand between the ends of a range: never the first character, and never
right after the end of another range. `held` is the current chunk. -/
def chunks (held : Text) (wait : Nat) : Text → List Text
  | [] => [held]
  | c :: rest =>
    if c = '-' ∧ wait = 0 then held :: chunks [] 2 rest
    else chunks (held ++ [c]) (wait - 1) rest

def closeChunks (chunks : List Text) : List Text :=
  match chunks.reverse with
  | [] :: last :: others => ((last ++ ['-']) :: others).reverse
  | _ => chunks

def dropEmptyRanges : List Text → List Text
  | [] => []
  | chunk :: rest =>
    match dropEmptyRanges rest with
    | next :: others =>
      match chunk.getLast?, next with
      | some low, high :: more =>
        if high < low then (chunk.dropLast ++ more) :: others else chunk :: next :: others
      | _, _ => chunk :: next :: others
    | [] => [chunk]

def setItems : List Text → List SetItem
  | [] => []
  | [chunk] => chunk.map .char
  | chunk :: next :: rest =>
    match chunk.getLast?, next with
    | some low, high :: _ =>
      chunk.dropLast.map .char ++ .range low high :: setItems (next :: rest)
    | _, _ => chunk.map .char ++ setItems (next :: rest)

def readSet (content : Text) : Part :=
  let wait := if content.head? = some '!' then 2 else 1
  let chunks := dropEmptyRanges (closeChunks (chunks [] wait content))
  match chunks with
  | ('!' :: first) :: rest => .oneOf true (setItems (first :: rest))
  | chunks => .oneOf false (setItems chunks)

def partsFrom : Nat → Text → List Part
  | _, [] => []
  | skipped + 1, _ :: rest => partsFrom skipped rest
  | 0, c :: rest =>
    if c = '*' then .anyText :: partsFrom 0 rest
    else if c = '?' then .anyChar :: partsFrom 0 rest
    else if c = '[' then
      match setContent rest with
      | some (content, _) => readSet content :: partsFrom (content.length + 1) rest
      | none => .char c :: partsFrom 0 rest
    else .char c :: partsFrom 0 rest

def fits : List Part → Text → Bool
  | [], [] => true
  | [], _ :: _ => false
  | .anyText :: parts, [] => fits parts []
  | .anyText :: parts, c :: text => fits parts (c :: text) || fits (.anyText :: parts) text
  | .anyChar :: parts, _ :: text => fits parts text
  | .char d :: parts, c :: text => c == d && fits parts text
  | .oneOf excludes items :: parts, c :: text =>
    (items.any (·.holds c)) != excludes && fits parts text
  | _ :: _, [] => false
termination_by parts text => parts.length + text.length

def fitsEach : List Part → Text → List Bool
  | [], text => [fits [] text]
  | part :: parts, text => fits (part :: parts) text :: fitsEach parts text

def emptyRow : List Part → List Bool
  | [] => [true]
  | part :: parts =>
    let below := emptyRow parts
    (part == .anyText && below.headD false) :: below

def Part.holds (c : Char) : Part → Bool
  | .anyText => false
  | .anyChar => true
  | .char d => c == d
  | .oneOf excludes items => (items.any (·.holds c)) != excludes

def extendRow (c : Char) : List Part → List Bool → List Bool
  | [], _ => [false]
  | part :: parts, row =>
    let below := extendRow c parts row.tail
    let here :=
      if part = .anyText then below.headD false || row.headD false
      else part.holds c && row.tail.headD false
    here :: below

/-- Works through the text once, so that many stars cost no more than few. -/
def matchesPattern (pattern text : Text) : Bool :=
  let parts := partsFrom 0 pattern
  (text.foldr (fun c row => extendRow c parts row) (emptyRow parts)).headD false

theorem headFitsEach (parts : List Part) (text : Text) :
    (fitsEach parts text).head?.getD false = fits parts text := by
  cases parts <;> rfl

theorem emptyRowEq (parts : List Part) : emptyRow parts = fitsEach parts [] := by
  induction parts with
  | nil => simp [emptyRow, fitsEach, fits]
  | cons part parts ih =>
    cases part <;> simp [emptyRow, fitsEach, fits, ih, headFitsEach]

theorem extendRowEq (c : Char) (parts : List Part) (text : Text) :
    extendRow c parts (fitsEach parts text) = fitsEach parts (c :: text) := by
  induction parts with
  | nil => simp [extendRow, fitsEach, fits]
  | cons part parts ih =>
    cases part <;> simp [extendRow, fitsEach, fits, ih, headFitsEach, Part.holds]

theorem matchesPatternEqFits (pattern text : Text) :
    matchesPattern pattern text = fits (partsFrom 0 pattern) text := by
  have rows : ∀ text : Text, text.foldr (fun c row => extendRow c (partsFrom 0 pattern) row)
      (emptyRow (partsFrom 0 pattern)) = fitsEach (partsFrom 0 pattern) text := by
    intro text
    induction text with
    | nil => exact emptyRowEq _
    | cons c text ih => rw [List.foldr_cons, ih, extendRowEq]
  simp [matchesPattern, rows, headFitsEach]

end TypedClient.Glob
