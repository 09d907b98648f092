import TypedClient.Declaration

/-!
Declaration files for all types of the namespace. A type is generated only after its base, so the
pending types are gone through again and again until a pass generates none. What is left then
stands on an inheritance cycle or on a base outside the namespace.
-/

namespace TypedClient

abbrev FileTable := List (Text × Text)

structure Emission where
  files : FileTable
  names : List Text
  unresolved : List Text
  skipped : List Text
  duplicates : List Text
  diagnostics : List Text
  deriving DecidableEq, Repr

inductive Blockage where
  | outsideNamespace (base : Text)
  | cycle
  deriving DecidableEq, Repr

def Blockage.text : Blockage → Text
  | .outsideNamespace base => "base " ++ base ++ " is outside the namespace scope"
  | .cycle => "inheritance cycle"

namespace Emission

def empty : Emission :=
  ⟨[], [], [], [], [], []⟩

def inScope (configuration : Configuration) (type : DataType) : Bool :=
  let start := Text.dropEndWhile (· == '.') configuration.namespacePrefix
  let own := type.namespaceName.getD []
  start.isEmpty || own == start || (start ++ ['.']).isPrefixOf own

def fileName (name : Text) : Text :=
  name ++ ".ts"

def indexFile : Text := "index.ts"

def renderIndex (names : List Text) : Text :=
  Text.lines ((Text.distinct names).map fun name => "export * from './" ++ name ++ "';") ++ ['\n']

def namesOf (types : TypeTable) : List Text :=
  (types.map (·.2.name)).filter (· != [])

def baseKey? (types : TypeTable) (type : DataType) : Option Text :=
  type.baseType.filter fun base => !base.isEmpty && (Assoc.find? base types).isSome

structure Progress where
  emission : Emission
  generated : List Text
  deriving Repr

def blocked (types : TypeTable) (progress : Progress) (type : DataType) : Bool :=
  (baseKey? types type).any (· ∉ progress.generated)

/-- A type without a name is generated without a file. -/
def record (scope : DeclarationScope) (emission : Emission) (key : Text) (type : DataType) :
    Emission :=
  if type.name.isEmpty then emission
  else if type.name ∈ emission.names then
    { emission with duplicates := emission.duplicates ++ [key] }
  else
    { emission with
      files := Assoc.put (fileName type.name) (scope.render type) emission.files
      names := emission.names ++ [type.name] }

def generate (scope : DeclarationScope) (progress : Progress) (key : Text) (type : DataType) :
    Progress :=
  ⟨record scope progress.emission key type, key :: progress.generated⟩

def pass (scope : DeclarationScope) : TypeTable → Progress → TypeTable × Progress
  | [], progress => ([], progress)
  | (key, type) :: rest, progress =>
    if blocked scope.types progress type then
      let (left, progress) := pass scope rest progress
      ((key, type) :: left, progress)
    else pass scope rest (generate scope progress key type)

def passes (scope : DeclarationScope) (pending : TypeTable) (progress : Progress) :
    TypeTable × Progress :=
  if (pass scope pending progress).1.length < pending.length then
    passes scope (pass scope pending progress).1 (pass scope pending progress).2
  else pass scope pending progress
termination_by pending.length

def blockageFrom (configuration : Configuration) (types : TypeTable) (seen : List Text) :
    Nat → Option Text → Blockage
  | 0, _ => .cycle
  | fuel + 1, base =>
    match base with
    | none => .cycle
    | some key =>
      match if key.isEmpty then none else Assoc.find? key types with
      | none => .cycle
      | some type =>
        if !inScope configuration type then .outsideNamespace key
        else if key ∈ seen then .cycle
        else blockageFrom configuration types (key :: seen) fuel type.baseType

def blockage (configuration : Configuration) (types : TypeTable) (key : Text) : Blockage :=
  blockageFrom configuration types [key] (types.length + 1)
    ((Assoc.find? key types).bind (·.baseType))

def unresolvedMessage (configuration : Configuration) (types : TypeTable) (keys : List Text) :
    Text :=
  let reasons := keys.map fun key => key ++ " (" ++ (blockage configuration types key).text ++ ")"
  "Types not generated, base types could not be emitted first: " ++ (", " : Text).intercalate reasons

def reportUnresolved (configuration : Configuration) (types : TypeTable) (keys : List Text)
    (emission : Emission) : Except (List Text) Emission :=
  if keys.isEmpty then .ok emission
  else match configuration.cyclePolicy with
    | .error => .error keys
    | .ignore => .ok { emission with unresolved := keys }
    | .warn => .ok { emission with
        unresolved := keys
        diagnostics := emission.diagnostics ++ [unresolvedMessage configuration types keys] }

def addIndex (emission : Emission) : Emission :=
  if emission.names.isEmpty then emission
  else { emission with
    files := Assoc.put indexFile (renderIndex emission.names) emission.files }

def pendingTypes (configuration : Configuration) (types : TypeTable) : TypeTable :=
  types.filter fun (_, type) => inScope configuration type

/-- The emission of a whole type table, or the keys that the policy does not leave out. -/
def ofTypes (configuration : Configuration) (types : TypeTable) : Except (List Text) Emission :=
  let pending := pendingTypes configuration types
  let skipped := (types.filter fun (_, type) => !inScope configuration type).map (·.1)
  let scope : DeclarationScope := ⟨configuration, types, namesOf pending⟩
  let (left, progress) := passes scope pending ⟨{ empty with skipped }, []⟩
  (reportUnresolved configuration types (left.map (·.1)) progress.emission).map addIndex

end Emission

end TypedClient
