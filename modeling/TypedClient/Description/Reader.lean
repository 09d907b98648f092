import TypedClient.Description
import TypedClient.Document.Checked
import TypedClient.Document.Json
import TypedClient.Yaml.Reader

/-!
Descriptions out of documents. A null field counts as absent, and unknown fields are passed over.
A document is YAML, or else JSON; a text that is neither is malformed.
-/

namespace TypedClient

namespace Check

def optionalText (fields : Fields) (name : Text) : Checked (Option Text) :=
  fields.optional (spellings name) none fun value => some <$> text value

def textOr (default : Text) (fields : Fields) (name : Text) : Checked Text :=
  fields.optional (spellings name) default text

def flag (fields : Fields) (name : Text) : Checked Bool :=
  fields.optional (spellings name) false truth

def listOf {α : Type} (check : Value → Checked α) (fields : Fields) (name : Text) :
    Checked (List α) :=
  fields.optional (spellings name) [] (list check)

def describedRecord {α : Type} (model : Text) (check : Fields → Checked α) : Value → Checked α :=
  record model fun fields => check fields.withoutNulls

def memberValue : Value → Checked Text
  | .scalar (.int value) =>
    if Text.tooLong value then .fail .tooLong else .valid (Text.decimalInt value)
  | .scalar (.float value) => .valid value.text
  | value => text value

def enumMember : Value → Checked EnumMember :=
  describedRecord "EnumValue" fun fields =>
    EnumMember.mk
      <$> fields.required (spellings "name") text
      <*> fields.optional (spellings "value") [] memberValue
      <*> optionalText fields "summary"

def property : Value → Checked Property :=
  describedRecord "PropertyDescription" fun fields =>
    Property.mk
      <$> fields.required (spellings "name") text
      <*> textOr [] fields "type"
      <*> flag fields "is_nullable"
      <*> flag fields "is_required"
      <*> optionalText fields "summary"
      <*> optionalText fields "remarks"

def recordOrEnum (type : DataType) : Option Mismatch :=
  if type.properties.isEmpty ∨ type.members.isEmpty then none else some (.recordAndEnum type.name)

def dataType : Value → Checked DataType :=
  describedRecord "TypeDescription" fun fields =>
    Checked.ensure recordOrEnum <|
      DataType.mk
        <$> textOr [] fields "name"
        <*> optionalText fields "namespace"
        <*> optionalText fields "base_type"
        <*> listOf text fields "generic_arguments"
        <*> listOf property fields "properties"
        <*> listOf enumMember fields "enum_values"
        <*> optionalText fields "summary"
        <*> optionalText fields "remarks"

def parameter : Value → Checked Parameter :=
  describedRecord "ParameterDescription" fun fields =>
    Parameter.mk
      <$> fields.required (spellings "name") text
      <*> textOr [] fields "type"
      <*> textOr [] fields "source"
      <*> flag fields "is_optional"
      <*> fields.optional (spellings "default_value") none (fun value => .valid (some value))
      <*> optionalText fields "summary"

def returnType : Value → Checked ReturnType :=
  describedRecord "ReturnTypeModel" fun fields =>
    ReturnType.mk
      <$> optionalText fields "type"
      <*> optionalText fields "type_simple"
      <*> optionalText fields "summary"

def operation : Value → Checked Operation :=
  describedRecord "ApiDescription" fun fields =>
    Operation.mk
      <$> textOr [] fields "controller"
      <*> optionalText fields "action"
      <*> optionalText fields "http_method"
      <*> textOr [] fields "path"
      <*> listOf parameter fields "parameters"
      <*> fields.optional (spellings "return_type") none (fun value => some <$> returnType value)
      <*> optionalText fields "summary"
      <*> optionalText fields "remarks"

def description : Value → Checked Description :=
  describedRecord "ApiDescriptionModel" fun fields =>
    Description.mk
      <$> listOf operation fields "apis"
      <*> (Assoc.ofList <$> fields.optional (spellings "types") [] (mapping dataType))

end Check

namespace Description

inductive LoadFault where
  | unreadable
  | malformed
  | invalid (problems : List Problem)
  deriving DecidableEq, Repr

def LoadFault.message : LoadFault → Text
  | .unreadable => []
  | .malformed => "description document must be a JSON/YAML object"
  | .invalid problems => summary problems

/-- The value of a document. YAML faults other than a malformed text are passed on. -/
def documentValue (text : Text) : Except Yaml.Fault (Option Value) :=
  match Yaml.read text with
  | .ok value => .ok (some value)
  | .error .malformed => .ok (Json.read? text)
  | .error fault => .error fault

def ofValue (value : Value) : Except LoadFault Description :=
  match Check.description value with
  | .valid description => .ok description
  | .invalid problems => .error (.invalid problems)

def ofText (text : Text) : Except Yaml.Fault (Except LoadFault Description) :=
  match documentValue text with
  | .ok (some (.map fields)) => .ok (ofValue (.map fields))
  | .ok _ => .ok (.error .malformed)
  | .error fault => .error fault

end Description

end TypedClient
