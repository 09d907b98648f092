import TypedClient.Document.Checked

/-!
A client service as a template sees it: one function per operation, everything in it resolved
already. The checks read services that are given as documents.
-/

namespace TypedClient

inductive Channel where
  | route
  | query
  | header
  | body
  | payload
  | other (name : Text)
  deriving DecidableEq, Repr

namespace Channel

def names : List (Text × Channel) :=
  [("route", .route), ("query", .query), ("header", .header), ("body", .body),
   ("payload", .payload)]

def ofText (name : Text) : Channel :=
  (names.lookup name).getD (.other name)

def text : Channel → Text
  | route => "route"
  | query => "query"
  | header => "header"
  | body => "body"
  | payload => "payload"
  | other name => name

end Channel

/-- The name is an identifier; the wire name is the one that the server knows. -/
structure Argument where
  name : Text
  wireName : Text
  type : Text
  isOptional : Bool
  channel : Channel
  documentation : Text
  default : Option Text
  deriving DecidableEq, Repr

structure ClientFunction where
  name : Text
  parameterList : Text
  arguments : List Argument
  returnType : Text
  path : Text
  url : Text
  verb : Text
  payload : List Text
  documentation : List Text
  deriving DecidableEq, Repr

structure Service where
  name : Text
  importLines : List Text
  requestFunction : Text
  functions : List ClientFunction
  deriving DecidableEq, Repr

namespace Check

def argument : Value → Checked Argument :=
  record "ParameterRenderModel" fun fields =>
    Argument.mk
      <$> fields.required ["name"] text
      <*> fields.required ["wire_name"] text
      <*> fields.required ["ts_type"] text
      <*> fields.required ["optional"] truth
      <*> (Channel.ofText <$> fields.required ["source"] text)
      <*> fields.optional ["doc"] [] text
      <*> fields.optional ["default"] none (nullable text)

def clientFunction : Value → Checked ClientFunction :=
  record "EndpointRenderModel" fun fields =>
    ClientFunction.mk
      <$> fields.required ["name"] text
      <*> fields.required ["param_list"] text
      <*> fields.required ["parameters"] (list argument)
      <*> fields.required ["return_type"] text
      <*> fields.required ["path"] text
      <*> fields.required ["url"] text
      <*> fields.required ["http_method"] text
      <*> fields.required ["data_shape"] (list text)
      <*> fields.required ["doc_lines"] (list text)

def service : Value → Checked Service :=
  record "ServiceRenderModel" fun fields =>
    Service.mk
      <$> fields.required ["service_name"] text
      <*> fields.required ["import_lines"] (list text)
      <*> fields.required ["request_function"] text
      <*> fields.required ["endpoints"] (list clientFunction)

end Check

end TypedClient
