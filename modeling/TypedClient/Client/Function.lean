import TypedClient.Client.Url
import TypedClient.Configuration
import TypedClient.Document.Json
import TypedClient.FunctionName
import TypedClient.ReturnResolution

/-!
The client function of one operation: its arguments with the channels that carry them, its address,
its payload and its documentation.
-/

namespace TypedClient

namespace ClientFunction

def reservedWords : List Text :=
  List.map String.toList
  ["break", "case", "catch", "class", "const", "continue", "debugger", "default", "delete", "do",
   "else", "enum", "export", "extends", "false", "finally", "for", "function", "if", "implements",
   "import", "in", "instanceof", "interface", "let", "new", "null", "package", "private",
   "protected", "public", "return", "static", "super", "switch", "this", "throw", "true", "try",
   "typeof", "var", "void", "while", "with", "yield", "await", "arguments", "eval"]

def identifierChar (c : Char) : Char :=
  if Text.wordChar c || c = '$' then c else '_'

def replaceSigns (name : Text) : Text :=
  if name.isEmpty then ['_'] else name.map identifierChar

def guardDigit (name : Text) : Text :=
  if name.head?.any Text.digit then '_' :: name else name

def guardReserved (name : Text) : Text :=
  if name ∈ reservedWords then name ++ ['_'] else name

def toIdentifier (name : Text) : Text :=
  guardReserved (guardDigit (replaceSigns name))

def readOnlyVerbs : List Text := ["GET", "HEAD", "OPTIONS"]

def routeSources : List Text := ["path", "route"]

def channelOf (parameter : Parameter) (verb : Text) (routeNames : List Text) : Channel :=
  let source := Text.lower parameter.source
  if source ∈ routeSources ∨ Text.lower parameter.name ∈ routeNames then .route
  else if source = "header" then .header
  else if verb ∈ readOnlyVerbs ∨ source = "query" then .query
  else if source = "body" then .body
  else .payload

def mapping (configuration : Configuration) : Mapping :=
  .ofPrefix configuration.namespacePrefix configuration.typePrefix

def defaultText : Option Value → Except Json.WriteFault (Option Text)
  | none => .ok none
  | some value => (Json.write value).map some

def argument (configuration : Configuration) (verb : Text) (routeNames : List Text)
    (parameter : Parameter) : Except Json.WriteFault Argument :=
  match defaultText parameter.defaultValue with
  | .error fault => .error fault
  | .ok default => .ok {
      name := toIdentifier parameter.name
      wireName := parameter.name
      type := (mapping configuration).mapText [] parameter.type
      isOptional := parameter.isOptional
      channel := channelOf parameter verb routeNames
      documentation := Comment.singleLine configuration.commentLimits (parameter.summary.getD [])
      default }

def order (parameters : List Parameter) : List Parameter :=
  parameters.filter (!·.isOptional) ++ parameters.filter (·.isOptional)

def objectMember (argument : Argument) : Text :=
  if argument.name = argument.wireName then argument.name
  else '\'' :: argument.wireName ++ "': " ++ argument.name

def objectLiteral (arguments : List Argument) : Text :=
  "\x7b " ++ (", " : Text).intercalate (arguments.map objectMember) ++ " \x7d"

def isData (argument : Argument) : Bool :=
  argument.channel == .body || argument.channel == .payload

def dataEntry (arguments : List Argument) : List Text :=
  match arguments with
  | [] => []
  | [argument] =>
    if argument.channel = .body then ["data: " ++ argument.name]
    else ["data: " ++ objectLiteral [argument]]
  | arguments => ["data: " ++ objectLiteral arguments]

def namedEntry (name : Text) (arguments : List Argument) : List Text :=
  if arguments.isEmpty then [] else [name ++ ": " ++ objectLiteral arguments]

def payloadOf (arguments : List Argument) : List Text :=
  namedEntry "params" (arguments.filter (·.channel == .query))
    ++ dataEntry (arguments.filter isData)
    ++ namedEntry "headers" (arguments.filter (·.channel == .header))

def argumentDocumentation (limits : CommentLimits) (argument : Argument) : List Text :=
  let line (text : Text) : List Text :=
    ["@param " ++ argument.name ++ ' ' :: Comment.singleLine limits text]
  match argument.default with
  | some default => line (Text.strip (argument.documentation ++ " (default: " ++ default ++ ")"))
  | none => if argument.documentation.isEmpty then [] else line argument.documentation

def returnDocumentation (limits : CommentLimits) (returnType : Option ReturnType) : List Text :=
  match returnType.bind (·.summary) with
  | none => []
  | some summary =>
    if summary.isEmpty then [] else ["@returns " ++ Comment.singleLine limits summary]

def documentationOf (configuration : Configuration) (operation : Operation)
    (arguments : List Argument) : List Text :=
  let limits := configuration.commentLimits
  if configuration.generateComments then
    Comment.multiLine limits (operation.summary.getD [])
      ++ Comment.multiLine limits (operation.remarks.getD [])
      ++ arguments.flatMap (argumentDocumentation limits)
      ++ returnDocumentation limits operation.returnType
  else []

def parameterText (argument : Argument) : Text :=
  argument.name ++ (if argument.isOptional then "?: " else ": ") ++ argument.type

def verbOf (operation : Operation) : Text :=
  let verb := operation.verb.getD []
  Text.upper (if verb.isEmpty then "GET" else verb)

def returnTypeOf (configuration : Configuration) (types : TypeTable) (operation : Operation) : Text :=
  (mapping configuration).resolve configuration.unwrapped types
    ((operation.returnType.bind (·.type)).getD [])

def ofOperation (configuration : Configuration) (types : TypeTable) (operation : Operation)
    (name : Text) : Except Json.WriteFault ClientFunction :=
  let verb := verbOf operation
  match (order operation.parameters).mapM
      (argument configuration verb (Url.routeNames operation.path)) with
  | .error fault => .error fault
  | .ok arguments => .ok {
      name
      parameterList := (", " : Text).intercalate (arguments.map parameterText)
      arguments
      returnType := returnTypeOf configuration types operation
      path := operation.path
      url := Url.build configuration.apiPrefix operation.path arguments
      verb := Text.lower verb
      payload := payloadOf arguments
      documentation := documentationOf configuration operation arguments }

end ClientFunction

end TypedClient
