import TypedClient.Assoc
import TypedClient.Document.Value

/-!
What the generator reads: the operations of an API and the data types that they use. Types are
listed in document order under keys that other types refer to as their base.
-/

namespace TypedClient

structure EnumMember where
  name : Text
  value : Text
  summary : Option Text
  deriving DecidableEq, Repr

structure Property where
  name : Text
  type : Text
  isNullable : Bool
  isRequired : Bool
  summary : Option Text
  remarks : Option Text
  deriving DecidableEq, Repr

structure DataType where
  name : Text
  namespaceName : Option Text
  baseType : Option Text
  genericArguments : List Text
  properties : List Property
  members : List EnumMember
  summary : Option Text
  remarks : Option Text
  deriving DecidableEq, Repr

structure Parameter where
  name : Text
  type : Text
  source : Text
  isOptional : Bool
  defaultValue : Option Value
  summary : Option Text
  deriving Repr

structure ReturnType where
  type : Option Text
  simpleType : Option Text
  summary : Option Text
  deriving DecidableEq, Repr

structure Operation where
  controller : Text
  action : Option Text
  verb : Option Text
  path : Text
  parameters : List Parameter
  returnType : Option ReturnType
  summary : Option Text
  remarks : Option Text
  deriving Repr

abbrev TypeTable := List (Text × DataType)

structure Description where
  operations : List Operation
  types : TypeTable
  deriving Repr

def DataType.isEnum (type : DataType) : Bool :=
  !type.members.isEmpty

end TypedClient
