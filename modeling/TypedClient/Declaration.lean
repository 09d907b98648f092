import TypedClient.Configuration
import TypedClient.Description
import TypedClient.Mapping
import TypedClient.Text.Quoted

/-!
The declaration file of one data type: its imports, its documentation, and an interface, a type
alias or an enumeration. A type table gives the base types, and only declared names are imported.
-/

namespace TypedClient

namespace Declaration

def unimportable : List Text := [[], "object", "any"]

def identifierStart (c : Char) : Bool :=
  Text.asciiLetter c || c = '_' || c = '$'

def identifierPart (c : Char) : Bool :=
  Text.wordChar c || c = '$'

/-- One line feed at the end is passed over. -/
def withoutFinalBreak (text : Text) : Text :=
  (Text.before? ['\n'] text).getD text

def isIdentifier (name : Text) : Bool :=
  match withoutFinalBreak name with
  | c :: rest => identifierStart c && rest.all identifierPart
  | [] => false

def memberName (name : Text) : Text :=
  if isIdentifier name then name else Text.literal name

def isNumber (value : Text) : Bool :=
  let unsigned := match withoutFinalBreak value with
    | '-' :: rest => rest
    | rest => rest
  let fraction := unsigned.dropWhile Text.decimalDigit
  !(unsigned.takeWhile Text.decimalDigit).isEmpty &&
    match fraction with
    | [] => true
    | '.' :: digits => !digits.isEmpty && digits.all Text.decimalDigit
    | _ => false

def initializer (value : Text) : Text :=
  if value.isEmpty then []
  else if isNumber value then " = " ++ value
  else " = " ++ Text.literal value

def placeholdersFrom (index : Nat) : List Text → Placeholders → Placeholders
  | [], known => known
  | argument :: rest, known =>
    let text := (Signature.parse argument).text
    let known :=
      if (known.lookup text).isSome then known else known ++ [(text, 'T' :: Text.decimal index)]
    placeholdersFrom (index + 1) rest known

def placeholders (arguments : List Text) : Placeholders :=
  placeholdersFrom 0 arguments []

def genericParameters (count : Nat) : Text :=
  Mapping.applied [] ((List.range count).map fun index => 'T' :: Text.decimal index)

end Declaration

structure DeclarationScope where
  configuration : Configuration
  types : TypeTable
  declared : List Text
  deriving Repr

namespace DeclarationScope

open Declaration

def mapping (scope : DeclarationScope) : Mapping :=
  .ofPrefix scope.configuration.namespacePrefix []

def base? (scope : DeclarationScope) (type : DataType) : Option DataType :=
  match type.baseType with
  | none => none
  | some key => if key.isEmpty then none else Assoc.find? key scope.types

def referred (scope : DeclarationScope) (type : DataType) (text : Text) : List Text :=
  (scope.mapping.referencesText (placeholders type.genericArguments) text).filter
    fun name => name ∈ scope.declared && name != type.name

def imports (scope : DeclarationScope) (type : DataType) : List Text :=
  let ofBase := match scope.base? type with
    | none => []
    | some base =>
      base.genericArguments.flatMap (scope.referred type) ++
        if base.name ∈ unimportable ∨ base.name = type.name then [] else [base.name]
  Text.distinct (ofBase ++ type.properties.flatMap fun property => scope.referred type property.type)

def mapped (scope : DeclarationScope) (type : DataType) (text : Text) : Text :=
  scope.mapping.mapText (placeholders type.genericArguments) text

def baseReference (scope : DeclarationScope) (type : DataType) : Text :=
  match scope.base? type with
  | none => []
  | some base => Mapping.applied base.name (base.genericArguments.map (scope.mapped type))

def documentation (scope : DeclarationScope) (type : DataType) : List Text :=
  let limits := scope.configuration.commentLimits
  let lines := Comment.multiLine limits (type.summary.getD [])
    ++ Comment.multiLine limits (type.remarks.getD [])
  if !scope.configuration.generateComments || lines.isEmpty then []
  else ("/**" : Text) :: (lines.map fun line => " * " ++ line) ++ [(" */" : Text)]

def memberComment (scope : DeclarationScope) (summary : Option Text) : List Text :=
  let text := summary.getD []
  if scope.configuration.generateComments && !text.isEmpty then
    ["  /** " ++ Comment.singleLine scope.configuration.commentLimits text ++ " */"]
  else []

def propertyLines (scope : DeclarationScope) (type : DataType) (property : Property) : List Text :=
  let mark : Text := if property.isNullable || !property.isRequired then "?" else []
  scope.memberComment property.summary ++
    ["  " ++ memberName property.name ++ mark ++ ": " ++ scope.mapped type property.type ++ ";"]

def memberLines (scope : DeclarationScope) (member : EnumMember) : List Text :=
  scope.memberComment member.summary ++
    ["  " ++ memberName member.name ++ initializer member.value ++ ","]

def header (scope : DeclarationScope) (type : DataType) : Text :=
  let named := type.name ++ genericParameters type.genericArguments.length
  let base := scope.baseReference type
  if scope.configuration.useInterface then
    let extension : Text := if base.isEmpty then [] else " extends " ++ base
    "export interface " ++ named ++ extension ++ " \x7b"
  else
    let extension : Text := if base.isEmpty then [] else base ++ " & "
    "export type " ++ named ++ " = " ++ extension ++ "\x7b"

def recordLines (scope : DeclarationScope) (type : DataType) : List Text :=
  let closing : Text := if scope.configuration.useInterface then "\x7d" else "\x7d;"
  scope.header type :: type.properties.flatMap (scope.propertyLines type) ++ [closing]

def enumLines (scope : DeclarationScope) (type : DataType) : List Text :=
  ("export enum " ++ type.name ++ " \x7b") ::
    type.members.flatMap scope.memberLines ++ [("\x7d" : Text)]

def importLine (name : Text) : Text :=
  "import \x7b " ++ name ++ " \x7d from './" ++ name ++ "';"

def importBlock (names : List Text) : List Text :=
  if names.isEmpty then [] else names.map importLine ++ [[]]

def render (scope : DeclarationScope) (type : DataType) : Text :=
  let lines :=
    if type.isEnum then scope.documentation type ++ scope.enumLines type
    else importBlock (scope.imports type) ++ scope.documentation type ++ scope.recordLines type
  Text.lines lines ++ ['\n']

end DeclarationScope

end TypedClient
