import TypedClient.Signature
import TypedClient.Text.LetterCase

/-!
TypeScript types for signatures. The rules are tried in order at every node, and the first that
fits wins: a placeholder, a type that is TypeScript already, the known wrappers and collections,
the scalars, the types of the domain, and `any` for all else.
-/

namespace TypedClient

/-- The domain is the namespace whose types are generated; its prefix has no dot at the end. The
qualifier stands before the names of domain types. -/
structure Mapping where
  namespacePrefix : Text
  qualifier : Text
  deriving DecidableEq, Repr

abbrev Placeholders := List (Text × Text)

namespace Mapping

def ofPrefix (namespacePrefix qualifier : Text) : Mapping :=
  ⟨Text.dropEndWhile (· == '.') namespacePrefix, qualifier⟩

def withQualifier (mapping : Mapping) (qualifier : Text) : Mapping :=
  ofPrefix mapping.namespacePrefix qualifier

def anyType : Text := "any"

def voidType : Text := "void"

def builtinTypes : List Text :=
  ["string", "number", "boolean", "any", "unknown", "void", "null", "undefined", "object", "never"]

def genericTypes : List Text :=
  ["Array", "Promise", "Record", "Partial", "Readonly"]

def modulePrefix : Text := "types."

def nullableNames : List Text := ["Nullable"]

def sequenceNames : List Text :=
  ["List", "IList", "IEnumerable", "ICollection", "IReadOnlyList", "IReadOnlyCollection", "HashSet",
   "ISet", "Collection", "ImmutableArray", "ImmutableList"]

def dictionaryNames : List Text :=
  ["Dictionary", "IDictionary", "IReadOnlyDictionary", "SortedDictionary"]

def asyncNames : List Text := ["Task", "ValueTask"]

def resultNames : List Text := ["ActionResult"]

def scalarAliases : List (Text × Text) :=
  [("string", "string"), ("char", "string"), ("bool", "boolean"), ("byte", "number"),
   ("sbyte", "number"), ("short", "number"), ("ushort", "number"), ("int", "number"),
   ("uint", "number"), ("long", "number"), ("ulong", "number"), ("float", "number"),
   ("double", "number"), ("decimal", "number"), ("object", "any"), ("dynamic", "any"),
   ("guid", "string")]

def scalarPrefixes : List (Text × Text) :=
  [("System.String", "string"), ("System.Char", "string"), ("System.Uri", "string"),
   ("System.Boolean", "boolean"), ("System.Int", "number"), ("System.UInt", "number"),
   ("System.Byte", "number"), ("System.SByte", "number"), ("System.Single", "number"),
   ("System.Double", "number"), ("System.Decimal", "number"), ("System.DateTime", "string"),
   ("System.DateOnly", "string"), ("System.TimeOnly", "string"), ("System.TimeSpan", "string"),
   ("System.Guid", "string"), ("System.Object", "any"), ("System.Void", "void"),
   ("Microsoft.AspNetCore.Mvc.IActionResult", "any"), ("Microsoft.AspNetCore.Mvc.ActionResult", "any"),
   ("Microsoft.AspNetCore.Mvc.FileResult", "any"), ("Microsoft.AspNetCore.Http.IFormFile", "any")]

def simpleName (name : Text) : Text :=
  ((Text.pieces (fun c => c == '.' || c == '+') name).getLast?).getD []

/-- Wrappers are known bare and under the framework's own namespaces. -/
def frameworkName? (name : Text) : Option Text :=
  if '.' ∉ name ∨ ("System." : Text).isPrefixOf name ∨ ("Microsoft." : Text).isPrefixOf name then
    some (simpleName name)
  else none

def isDomain (mapping : Mapping) (name : Text) : Bool :=
  !mapping.namespacePrefix.isEmpty &&
    (name == mapping.namespacePrefix || (mapping.namespacePrefix ++ ['.']).isPrefixOf name)

theorem domainIff {mapping : Mapping} {name : Text} : mapping.isDomain name = true ↔ mapping.namespacePrefix ≠ [] ∧
    (name = mapping.namespacePrefix ∨ mapping.namespacePrefix ++ ['.'] <+: name) := by
  rw [isDomain, Bool.and_eq_true, Bool.not_eq_true', List.isEmpty_eq_false_iff, Bool.or_eq_true,
    beq_iff_eq, List.isPrefixOf_iff_prefix]

def scalar? (name : Text) : Option Text :=
  match scalarAliases.lookup (Text.lower name) with
  | some type =>
    if '.' ∈ name then prefixed else some type
  | none => prefixed
where
  prefixed : Option Text :=
    (scalarPrefixes.find? fun (start, _) => start.isPrefixOf name).map (·.2)

/-- A `T` and decimal digits, perhaps with a line feed at the end. -/
def isPlaceholder (name : Text) : Bool :=
  match name with
  | 'T' :: rest =>
    let digits := (Text.before? ['\n'] rest).getD rest
    !digits.isEmpty && digits.all Text.decimalDigit
  | _ => false

def isTarget (mapping : Mapping) (node : Signature) : Bool :=
  modulePrefix.isPrefixOf node.name
    || (!mapping.qualifier.isEmpty && mapping.qualifier.isPrefixOf node.name)
    || if node.arguments.isEmpty then
        node.name ∈ builtinTypes || '|' ∈ node.name || isPlaceholder node.name
      else node.name ∈ genericTypes

theorem targetAlike (mapping : Mapping) (name : Text) {first second : List Signature}
    (alike : first.isEmpty = second.isEmpty) :
    mapping.isTarget (.node name first) = mapping.isTarget (.node name second) := by
  cases first with
  | nil => rw [List.isEmpty_iff.mp alike.symm]
  | cons => cases second with
    | nil => contradiction
    | cons => rfl

def arrayOf (element : Text) : Text :=
  if '|' ∈ element ∨ '&' ∈ element then '(' :: element ++ ")[]" else element ++ "[]"

def nullablePrefix : Text := "null | "

def nullable (inner : Text) : Text :=
  if nullablePrefix.isPrefixOf inner then inner else nullablePrefix ++ inner

def applied (name : Text) (arguments : List Text) : Text :=
  if arguments.isEmpty then name
  else name ++ '<' :: (", " : Text).intercalate arguments ++ ['>']

def wrapper? (isArray : Bool) (framework : Option Text) (arguments : List Text) : Option Text :=
  let named (names : List Text) : Bool := framework.any (· ∈ names)
  match arguments with
  | [argument] =>
    if named nullableNames then some (nullable argument)
    else if isArray || named sequenceNames then some (arrayOf argument)
    else if named asyncNames || named resultNames then some argument
    else none
  | _ =>
    if isArray || named sequenceNames then some (anyType ++ "[]")
    else if named asyncNames then some voidType
    else match arguments with
      | [key, value] =>
        if named dictionaryNames then
          let key : Text := if key = "string" ∨ key = "number" then key else "string"
          some ("Record<" ++ key ++ ", " ++ value ++ ">")
        else none
      | _ => none

def mapNode (mapping : Mapping) (placeholders : Placeholders) (node : Signature)
    (arguments : List Text) : Text :=
  match placeholders.lookup node.text with
  | some placeholder => placeholder
  | none =>
    if mapping.isTarget node then applied node.name arguments
    else
      let framework := if node.isArray then none else frameworkName? node.name
      match wrapper? node.isArray framework arguments with
      | some type => type
      | none =>
        match scalar? node.name with
        | some type => type
        | none =>
          if mapping.isDomain node.name then
            applied (mapping.qualifier ++ simpleName node.name) arguments
          else anyType

def map (mapping : Mapping) (placeholders : Placeholders) : Signature → Text :=
  Signature.fold (mapping.mapNode placeholders)

def referencesNode (mapping : Mapping) (placeholders : Placeholders) (node : Signature)
    (below : List (List Text)) : List Text :=
  if (placeholders.lookup node.text).isSome || mapping.isTarget node then []
  else if mapping.isDomain node.name then simpleName node.name :: below.flatten
  else below.flatten

def references (mapping : Mapping) (placeholders : Placeholders) (signature : Signature) :
    List Text :=
  Text.distinct (signature.fold (mapping.referencesNode placeholders))

/-- A text with a bar is a TypeScript union and stays as it is. -/
def mapText (mapping : Mapping) (placeholders : Placeholders) (text : Text) : Text :=
  if '|' ∈ text then Text.strip text else mapping.map placeholders (Signature.parse text)

def referencesText (mapping : Mapping) (placeholders : Placeholders) (text : Text) : List Text :=
  if '|' ∈ text then [] else mapping.references placeholders (Signature.parse text)

end Mapping

end TypedClient
