import TypedClient.Client.Function
import TypedClient.Emission
import TypedClient.Template.Rendering

/-!
All files for a description: declarations for its types, and one service module for each controller.
Diagnostics stay also where a run fails.
-/

namespace TypedClient

inductive GenerationFault where
  | unresolvedTypes (keys : List Text)
  | templateMissing (path : Path)
  | templateBroken (path : Path)
  | templateUndecodable
  | unwritableDefault (fault : Json.WriteFault)
  deriving DecidableEq, Repr

/-- The detail of a broken template is left out. -/
def GenerationFault.message : GenerationFault → Text
  | .unresolvedTypes keys => "Unresolved type dependencies: " ++ (", " : Text).intercalate keys
  | .templateMissing path => "Template not found: " ++ path.text
  | .templateBroken path => "Template error in " ++ path.text
  | .templateUndecodable => "Template is no text"
  | .unwritableDefault fault => fault.message

structure NamedTemplate where
  path : Path
  parts : List Template.Part
  deriving Repr

def NamedTemplate.standard : NamedTemplate :=
  ⟨.ofText "api_service.ts.j2", Template.standard⟩

structure ServiceScope where
  configuration : Configuration
  template : NamedTemplate
  types : TypeTable
  deriving Repr

namespace ServiceScope

def defaultController : Text := "Default"

def controllerOf (operation : Operation) : Text :=
  if operation.controller.isEmpty then defaultController else operation.controller

def groups (operations : List Operation) : List (Text × List Operation) :=
  operations.foldl (fun groups operation => Assoc.gather (controllerOf operation) operation groups) []

def serviceName (controller : Text) : Text :=
  FunctionName.controllerStem controller ++ "Service"

def importLines (configuration : Configuration) : List Text :=
  let types := Text.dropEndWhile (· == '.') configuration.typePrefix
  (if types.isEmpty then [] else ["import * as " ++ types ++ " from '../types';"])
    ++ configuration.importLines

def proposedNames (controller : Text) (operations : List Operation) : List Text :=
  operations.map fun operation =>
    FunctionName.propose controller (operation.action.getD []) (operation.verb.getD [])

def renameMessage (service before after : Text) : Text :=
  service ++ ": duplicate function name " ++ Text.quotation before ++ " renamed to "
    ++ Text.quotation after

def renameMessages (service : Text) (proposed names : List Text) : List Text :=
  (proposed.zip names).filterMap fun (before, after) =>
    if before = after then none else some (renameMessage service before after)

def functions (scope : ServiceScope) (operations : List Operation) (names : List Text) :
    Except Json.WriteFault (List ClientFunction) :=
  (operations.zip names).mapM fun (operation, name) =>
    ClientFunction.ofOperation scope.configuration scope.types operation name

def buildFunction (scope : ServiceScope) (operation : Operation) (name : Text) :
    Except GenerationFault ClientFunction :=
  (ClientFunction.ofOperation scope.configuration scope.types operation name).mapError
    .unwritableDefault

def build (scope : ServiceScope) (controller : Text) (operations : List Operation) :
    List Text × Except GenerationFault Service :=
  let proposed := proposedNames controller operations
  let names := FunctionName.unique proposed
  let name := serviceName controller
  let service := match scope.functions operations names with
    | .error fault => .error (.unwritableDefault fault)
    | .ok functions => .ok
      ⟨name, importLines scope.configuration, scope.configuration.requestFunction, functions⟩
  (renameMessages name proposed names, service)

def render (scope : ServiceScope) (service : Service) : Except GenerationFault Text :=
  match Template.render scope.template.parts service with
  | some source => .ok source
  | none => .error (.templateBroken scope.template.path)

def generateGroups (scope : ServiceScope) (files : FileTable) :
    List (Text × List Operation) → List Text × Except GenerationFault FileTable
  | [] => ([], .ok files)
  | (controller, operations) :: rest =>
    let (messages, built) := scope.build controller operations
    match built.bind fun service => (scope.render service).map fun source => (service.name, source) with
    | .error fault => (messages, .error fault)
    | .ok (name, source) =>
      let (others, result) :=
        scope.generateGroups (Assoc.put (Emission.fileName name) source files) rest
      (messages ++ others, result)

def generate (scope : ServiceScope) (operations : List Operation) :
    List Text × Except GenerationFault FileTable :=
  scope.generateGroups [] (groups operations)

end ServiceScope

structure Generation where
  types : FileTable
  services : FileTable
  diagnostics : List Text
  deriving DecidableEq, Repr

namespace Generation

def emitTypes (configuration : Configuration) (types : TypeTable) :
    Except GenerationFault Emission :=
  (Emission.ofTypes configuration types).mapError .unresolvedTypes

/-- Types come first; the template is looked for only after them. -/
def ofDescription (configuration : Configuration)
    (template : Except GenerationFault NamedTemplate) (description : Description) :
    Except GenerationFault Generation := do
  let emission ← emitTypes configuration description.types
  let template ← template
  let scope : ServiceScope := ⟨configuration, template, description.types⟩
  let (messages, services) := scope.generate description.operations
  return ⟨emission.files, ← services, emission.diagnostics ++ messages⟩

end Generation

end TypedClient
