import TypedClient.Text.Blank

/-!
Type signatures: a base name and its ordered arguments. Reading never fails; a text that makes no
sense as a whole becomes a leaf with the whole trimmed text for its name. An array has the base
name `[]` and one argument, and a trailing `?` stands for the base name `System.Nullable`.
-/

namespace TypedClient

inductive Signature where
  | node (name : Text) (arguments : List Signature)
  deriving Repr, Inhabited

namespace Signature

def arrayName : Text := "[]"

def nullableName : Text := "System.Nullable"

def leaf (name : Text) : Signature :=
  node name []

def name : Signature → Text
  | node name _ => name

def arguments : Signature → List Signature
  | node _ arguments => arguments

mutual

def decEq : (first second : Signature) → Decidable (first = second)
  | node name arguments, node name' arguments' =>
    if sameName : name = name' then
      match decEqAll arguments arguments' with
      | isTrue sameArguments => isTrue (by rw [sameName, sameArguments])
      | isFalse differ => isFalse (by simpa [sameName] using differ)
    else isFalse (by simp [sameName])

def decEqAll : (first second : List Signature) → Decidable (first = second)
  | [], [] => isTrue rfl
  | [], _ :: _ => isFalse (by simp)
  | _ :: _, [] => isFalse (by simp)
  | first :: rest, first' :: rest' =>
    match decEq first first', decEqAll rest rest' with
    | isTrue sameFirst, isTrue sameRest => isTrue (by rw [sameFirst, sameRest])
    | isFalse differ, _ => isFalse (by simp [differ])
    | _, isFalse differ => isFalse (by simp [differ])

end

instance : DecidableEq Signature := decEq

mutual

def fold {α : Type} (visit : Signature → List α → α) : Signature → α
  | node name arguments => visit (node name arguments) (foldAll visit arguments)

def foldAll {α : Type} (visit : Signature → List α → α) : List Signature → List α
  | [] => []
  | first :: rest => fold visit first :: foldAll visit rest

end

def textWith (name : Text) : List Text → Text
  | [] => name
  | [argument] => if name = arrayName then argument ++ arrayName else name ++ '<' :: argument ++ ['>']
  | arguments => name ++ '<' :: (([','] : Text).intercalate arguments) ++ ['>']

def text : Signature → Text :=
  fold fun signature arguments => textWith signature.name arguments

def walk : Signature → List Signature :=
  fold fun signature below => signature :: below.flatten

def depth : Signature → Nat :=
  fold fun _ depths => 1 + depths.foldl max 0

def isArray (signature : Signature) : Bool :=
  signature.name == arrayName

def isMalformed (signature : Signature) : Bool :=
  signature.arguments.isEmpty && ('<' ∈ signature.name || '>' ∈ signature.name)

def depthAfter (depth : Nat) (c : Char) : Option Nat :=
  if c = '<' then some (depth + 1)
  else if c = '>' then (match depth with
    | 0 => none
    | outer + 1 => some outer)
  else some depth

def piecesAt : Text → Nat → Option (List Text)
  | [], depth => if depth = 0 then some [[]] else none
  | c :: rest, depth =>
    if c = ',' ∧ depth = 0 then (piecesAt rest 0).map ([] :: ·)
    else (depthAfter depth c).bind fun depth' => (piecesAt rest depth').map (Text.extendFirst c)

def splitArguments (inner : Text) : Option (List Text) :=
  match piecesAt inner 0 with
  | some pieces => if pieces.any Text.isBlank then none else some pieces
  | none => none

theorem lengthPiecesAt {text : Text} {depth : Nat} {pieces : List Text}
    (found : piecesAt text depth = some pieces) : ∀ piece ∈ pieces, piece.length ≤ text.length := by
  induction text generalizing depth pieces with
  | nil =>
    simp only [piecesAt, Option.ite_none_right_eq_some, Option.some.injEq] at found
    simp [← found.2]
  | cons c rest ih =>
    simp only [piecesAt] at found
    split at found
    · simp only [Option.map_eq_some_iff] at found
      obtain ⟨others, eq, rfl⟩ := found
      intro piece mem
      rcases List.mem_cons.mp mem with rfl | inside
      · simp
      · exact Nat.le_succ_of_le (ih eq piece inside)
    · simp only [Option.bind_eq_some_iff, Option.map_eq_some_iff] at found
      obtain ⟨depth', -, others, eq, rfl⟩ := found
      exact Text.lengthExtendFirst (ih eq)

theorem lengthSplitArguments {inner : Text} {pieces : List Text}
    (found : splitArguments inner = some pieces) {piece : Text} (mem : piece ∈ pieces) :
    piece.length ≤ inner.length := by
  unfold splitArguments at found
  split at found
  · split at found
    · contradiction
    · cases Option.some.inj found
      exact lengthPiecesAt (by assumption) piece mem
  · contradiction

def wrap (whole name : Text) (inner : Signature) : Signature :=
  if inner.name.isEmpty ∨ inner.isMalformed then leaf whole else node name [inner]

inductive Shape where
  | array (inner : Text)
  | nullable (inner : Text)
  | generic (base : Text) (arguments : List Text)
  | atom
  deriving DecidableEq, Repr

/-- A suffix is looked at first, then the first opening bracket and the closing one at the end. -/
def shape (trimmed : Text) : Shape :=
  match Text.before? arrayName trimmed with
  | some (c :: rest) => .array (c :: rest)
  | _ =>
    match Text.before? ['?'] trimmed with
    | some (c :: rest) => .nullable (c :: rest)
    | _ =>
      match Text.splitFirst '<' trimmed with
      | some (c :: base, rest) =>
        match Text.before? ['>'] rest with
        | some inner =>
          match splitArguments inner with
          | some arguments => .generic (Text.strip (c :: base)) arguments
          | none => .atom
        | none => .atom
      | _ => .atom

def Shape.parts : Shape → List Text
  | .array inner => [inner]
  | .nullable inner => [inner]
  | .generic _ arguments => arguments
  | .atom => []

theorem lengthShapeParts {trimmed part : Text} (mem : part ∈ (shape trimmed).parts) :
    part.length < trimmed.length := by
  unfold shape at mem
  split at mem
  · rename_i eq
    simp only [Shape.parts, List.mem_singleton] at mem
    subst mem
    rw [Text.beforeEqSome] at eq
    simp [eq, arrayName]
  · split at mem
    · rename_i eq
      simp only [Shape.parts, List.mem_singleton] at mem
      subst mem
      rw [Text.beforeEqSome] at eq
      simp [eq]
    · split at mem
      · rename_i eq
        have whole := (Text.splitFirstEqSome eq).1
        split at mem
        · rename_i closed
          rw [Text.beforeEqSome] at closed
          split at mem
          · rename_i split
            have := lengthSplitArguments split mem
            simp [whole, closed]
            omega
          · simp [Shape.parts] at mem
        · simp [Shape.parts] at mem
      · simp [Shape.parts] at mem

def parse (text : Text) : Signature :=
  let trimmed := Text.strip text
  match _shaped : shape trimmed with
  | .array inner => wrap trimmed arrayName (parse inner)
  | .nullable inner => wrap trimmed nullableName (parse inner)
  | .generic base arguments => node base (arguments.attach.map fun ⟨argument, _⟩ => parse argument)
  | .atom => leaf trimmed
termination_by text.length
decreasing_by
  all_goals
    refine Nat.lt_of_lt_of_le (@lengthShapeParts (Text.strip text) _ ?_) (Text.lengthStrip text)
    have shaped : shape (Text.strip text) = _ := _shaped
    simp only [shaped, Shape.parts, List.mem_singleton]
    try assumption

end Signature

end TypedClient
