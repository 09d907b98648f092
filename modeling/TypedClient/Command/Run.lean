import TypedClient.Command.Arguments
import TypedClient.Loading
import TypedClient.Text.Glob

/-!
What a command does: it prints, and it changes the file tree. A command that does not get as far as
writing leaves the tree as it is.
-/

namespace TypedClient

namespace Command

inductive Ending where
  | done
  | failed (message : Text)
  | escaped (cause : Escape)
  deriving DecidableEq, Repr

inductive Outcome where
  | usage
  | help
  | ran (ending : Ending) (output warnings : List Text)
  deriving DecidableEq, Repr

structure Session where
  tree : FileTree
  output : List Text
  deriving Repr

/-- A run that stops keeps what it has done. -/
abbrev Step := ExceptT Ending (StateM Session)

def say (line : Text) : Step Unit :=
  modify fun session => { session with output := session.output ++ [line] }

def selects (patterns : List Text) (operation : Operation) : Bool :=
  let path := '/' :: operation.path.dropWhile (· == '/')
  let candidates := [operation.controller, path, ClientFunction.verbOf operation ++ ' ' :: path]
  candidates.any fun candidate => patterns.any fun pattern => Glob.matchesPattern pattern candidate

def filterOperations (patterns : List Text) (operations : List Operation) : List Operation :=
  if patterns.isEmpty then operations else operations.filter (selects patterns)

def loadProject (arguments : Arguments) : Step Project := do
  match Project.load (← get).tree (arguments.config.map Path.ofText) with
  | .error cause => throw (.escaped cause)
  | .ok (.error fault) => throw (.failed fault.message)
  | .ok (.ok project) => return project

def override (arguments : Arguments) (project : Project) : Project :=
  { project with
    outputFolder := (arguments.outputFolder.map Path.ofText).getD project.outputFolder
    typesFolder := (arguments.typesFolder.map Path.ofText).getD project.typesFolder
    namespacePrefix := arguments.namespacePrefix.getD project.namespacePrefix
    unwrapped := Text.distinct (project.unwrapped ++ arguments.unwrap)
    useInterface := project.useInterface && !arguments.structural
    generateComments := project.generateComments && !arguments.noComments }

def loadDescription (path : Path) : Step Description := do
  match Description.load (← get).tree path with
  | .error cause => throw (.escaped cause)
  | .ok (.error fault) =>
    let kind : Text := match fault with
      | .unreadable => "unreadable"
      | .malformed => "malformed"
      | .invalid _ => "invalid"
    throw (.failed ("Cannot load " ++ path.text ++ " (" ++ kind ++ "): " ++ fault.message))
  | .ok (.ok description) => return description

def writeFile (label : Text) (folder : Path) (name content : Text) : Step Unit := do
  let path := folder.join name
  match (← get).tree.writeFile path (Utf8.encode content) with
  | .error fault => throw (.escaped (.file fault))
  | .ok tree => modify fun session => { session with tree }
  say ("[" ++ label ++ "] Generated: " ++ path.text)

/-- The folder is made also where there are no files. -/
def writeFiles (label : Text) (folder : Path) (files : FileTable) : Step Unit := do
  match (← get).tree.makeFolders folder with
  | .error fault => throw (.escaped (.file fault))
  | .ok tree => modify fun session => { session with tree }
  files.forM fun (name, content) => writeFile label folder name content

def expectGenerated {α : Type} (result : Except GenerationFault α) : Step α :=
  match result with
  | .ok value => return value
  | .error .templateUndecodable => throw (.escaped .undecodable)
  | .error (.unwritableDefault fault) => throw (.escaped (.defaultValue fault))
  | .error fault => throw (.failed fault.message)

def count {α : Type} (items : List α) : Text :=
  Text.decimal items.length

def runGenerate (arguments : Arguments) (document : Path) : Step (List Text) := do
  let project := override arguments (← loadProject arguments)
  say ("Loading " ++ document.text ++ "...")
  let loaded ← loadDescription document
  let description : Description :=
    { loaded with operations := filterOperations arguments.only loaded.operations }
  say ("Found " ++ count description.operations ++ " endpoints and " ++ count description.types
    ++ " types.")
  let template := NamedTemplate.load (← get).tree project.templatePath
  let result ← expectGenerated
    (Generation.ofDescription project.toConfiguration template description)
  writeFiles "Type" project.typesFolder result.types
  writeFiles "API" project.outputFolder result.services
  say ("Done! Generated " ++ count result.types ++ " type files and " ++ count result.services
    ++ " service files.")
  return result.diagnostics

def runTypes (arguments : Arguments) (document : Path) : Step (List Text) := do
  let project := override arguments (← loadProject arguments)
  let description ← loadDescription document
  let emission ← expectGenerated
    (Generation.emitTypes project.toConfiguration description.types)
  writeFiles "Type" project.typesFolder emission.files
  say ("Generated " ++ count emission.names ++ " types in " ++ project.typesFolder.text)
  return emission.diagnostics

def runServices (arguments : Arguments) (document : Path) : Step (List Text) := do
  let project := override arguments (← loadProject arguments)
  let description ← loadDescription document
  let template ← expectGenerated (NamedTemplate.load (← get).tree project.templatePath)
  let scope : ServiceScope := ⟨project.toConfiguration, template, description.types⟩
  let (diagnostics, result) := scope.generate (filterOperations arguments.only description.operations)
  let files ← expectGenerated result
  writeFiles "API" project.outputFolder files
  say ("Generated " ++ count files ++ " services in " ++ project.outputFolder.text)
  return diagnostics

def runInspect (arguments : Arguments) (document : Path) : Step (List Text) := do
  let project := override arguments (← loadProject arguments)
  let description ← loadDescription document
  let inScope := Emission.pendingTypes project.toConfiguration description.types
  let controllers := Text.distinct (description.operations.map (·.controller))
  say ("Controllers: " ++ count controllers)
  say ("Endpoints: " ++ count description.operations)
  say ("Types: " ++ count description.types ++ " (" ++ count inScope ++ " in scope)")
  return []

def runCommand (command : Command) (arguments : Arguments) (document : Path) : Step (List Text) :=
  match command with
  | .generate => runGenerate arguments document
  | .types => runTypes arguments document
  | .services => runServices arguments document
  | .inspect => runInspect arguments document

/-- What a path is on the command line, where a slash at the end asks for a folder. -/
def entryOf (tree : FileTree) (text : Text) : Option FileEntry :=
  match tree.find? (.ofText text) with
  | some (.file bytes) =>
    if (Text.before? "/" text).isSome ∨ (Text.before? "/." text).isSome then none
    else some (.file bytes)
  | entry => if text.isEmpty then none else entry

def isFolderOf (tree : FileTree) (text : Text) : Bool :=
  entryOf tree text == some .folder

def isFileOf (tree : FileTree) (text : Text) : Bool :=
  match entryOf tree text with
  | some (.file _) => true
  | _ => false

def pathsFit (tree : FileTree) (arguments : Arguments) (document : Text) : Bool :=
  isFileOf tree document && !arguments.config.any (isFolderOf tree)
    && !arguments.typesFolder.any (isFileOf tree) && !arguments.outputFolder.any (isFileOf tree)

def runWords (tree : FileTree) (words : List Text) : Outcome × FileTree :=
  if words.head? = some "--help" then (.help, tree)
  else match Command.read words with
    | none => (.usage, tree)
    | some (command, arguments) =>
      if arguments.help then (.help, tree)
      else match arguments.documents with
        | [document] =>
          if pathsFit tree arguments document then
            match (runCommand command arguments (.ofText document)).run.run ⟨tree, []⟩ with
            | (.ok diagnostics, session) =>
              (.ran .done session.output (diagnostics.map ("warning: " ++ ·)), session.tree)
            | (.error ending, session) => (.ran ending session.output [], session.tree)
          else (.usage, tree)
        | _ => (.usage, tree)

def namedPaths (words : List Text) : List Path :=
  match Command.read words with
  | none => []
  | some (_, arguments) =>
    (arguments.documents ++ arguments.config.toList ++ arguments.typesFolder.toList
      ++ arguments.outputFolder.toList).map Path.ofText

def settingsPaths (tree : FileTree) (words : List Text) : List Path :=
  match Command.read words with
  | none => []
  | some (_, arguments) =>
    match Project.load tree (arguments.config.map Path.ofText) with
    | .ok (.ok project) =>
      project.outputFolder :: project.typesFolder :: project.templatePath.toList
    | _ => []

end Command

end TypedClient
