import TypedClient.Command.Run
import TypedClient.Proofs.Collections

/-!
What a command does to the file tree. A run has two parts: it reads, generates and prints, and only
then it writes. The first part may fail in many ways and leaves the tree alone; the second part fails
only where a folder cannot be made or a file cannot be written. So a run that fails before its first
write leaves the tree as it was, whatever else it would have written.
-/

namespace TypedClient.Command

variable {α β : Type} {command : Command} {arguments : Arguments} {document : Path}
  {tree : FileTree} {words : List Text}

structure Batch where
  label : Text
  folder : Path
  files : FileTable
  deriving Repr

structure Delivery where
  batches : List Batch
  closing : List Text
  diagnostics : List Text
  deriving Repr

def prepareGenerate (arguments : Arguments) (document : Path) : Step Delivery := do
  let project := override arguments (← loadProject arguments)
  say ("Loading " ++ document.text ++ "...")
  let loaded ← loadDescription document
  let description : Description :=
    { loaded with operations := filterOperations arguments.only loaded.operations }
  say ("Found " ++ count description.operations ++ " endpoints and " ++ count description.types
    ++ " types.")
  let template := NamedTemplate.load (← get).tree project.templatePath
  let result ← expectGenerated
    (Generation.ofDescription project.toConfiguration template description)
  return ⟨[⟨"Type", project.typesFolder, result.types⟩, ⟨"API", project.outputFolder, result.services⟩],
    ["Done! Generated " ++ count result.types ++ " type files and " ++ count result.services
      ++ " service files."], result.diagnostics⟩

def prepareTypes (arguments : Arguments) (document : Path) : Step Delivery := do
  let project := override arguments (← loadProject arguments)
  let description ← loadDescription document
  let emission ← expectGenerated (Generation.emitTypes project.toConfiguration description.types)
  return ⟨[⟨"Type", project.typesFolder, emission.files⟩],
    ["Generated " ++ count emission.names ++ " types in " ++ project.typesFolder.text],
    emission.diagnostics⟩

def prepareServices (arguments : Arguments) (document : Path) : Step Delivery := do
  let project := override arguments (← loadProject arguments)
  let description ← loadDescription document
  let template ← expectGenerated (NamedTemplate.load (← get).tree project.templatePath)
  let scope : ServiceScope := ⟨project.toConfiguration, template, description.types⟩
  let (diagnostics, result) := scope.generate (filterOperations arguments.only description.operations)
  let files ← expectGenerated result
  return ⟨[⟨"API", project.outputFolder, files⟩],
    ["Generated " ++ count files ++ " services in " ++ project.outputFolder.text], diagnostics⟩

def prepareInspect (arguments : Arguments) (document : Path) : Step Delivery := do
  let project := override arguments (← loadProject arguments)
  let description ← loadDescription document
  let inScope := Emission.pendingTypes project.toConfiguration description.types
  let controllers := Text.distinct (description.operations.map (·.controller))
  return ⟨[], ["Controllers: " ++ count controllers,
    "Endpoints: " ++ count description.operations,
    "Types: " ++ count description.types ++ " (" ++ count inScope ++ " in scope)"], []⟩

def prepare (command : Command) (arguments : Arguments) (document : Path) : Step Delivery :=
  match command with
  | .generate => prepareGenerate arguments document
  | .types => prepareTypes arguments document
  | .services => prepareServices arguments document
  | .inspect => prepareInspect arguments document

def deliver (delivery : Delivery) : Step (List Text) := do
  delivery.batches.forM fun batch => writeFiles batch.label batch.folder batch.files
  delivery.closing.forM say
  return delivery.diagnostics

theorem runCommandEq :
    runCommand command arguments document = prepare command arguments document >>= deliver := by
  cases command <;>
    simp [runCommand, prepare, runGenerate, prepareGenerate, runTypes, prepareTypes, runServices,
      prepareServices, runInspect, prepareInspect, deliver, List.forM]

def Keeps (step : Step α) : Prop :=
  ∀ session, (step.run.run session).2.tree = session.tree

theorem keepsPure (value : α) : Keeps (pure value : Step α) := fun _ => rfl

theorem keepsThrow (ending : Ending) : Keeps (throw ending : Step α) := fun _ => rfl

theorem keepsGet : Keeps (get : Step Session) := fun _ => rfl

theorem keepsSay (line : Text) : Keeps (say line) := fun _ => rfl

theorem runBind (step : Step α) (next : α → Step β) (session : Session) :
    (step >>= next).run.run session =
      match step.run.run session with
      | (.ok value, after) => (next value).run.run after
      | (.error ending, after) => (.error ending, after) := by
  simp only [ExceptT.run_bind, StateT.run_bind]
  rcases step.run.run session with ⟨_ | value, after⟩ <;> rfl

theorem keepsBind {step : Step α} {next : α → Step β} (first : Keeps step)
    (others : ∀ value, Keeps (next value)) : Keeps (step >>= next) := by
  intro session
  have still := first session
  rw [runBind]
  split
  · rename_i value after ran
    rw [others value after]
    rwa [ran] at still
  · rename_i ending after ran
    rwa [ran] at still

theorem keepsLoadProject (arguments : Arguments) : Keeps (loadProject arguments) := by
  refine keepsBind keepsGet fun session => ?_
  split
  · exact keepsThrow _
  · exact keepsThrow _
  · exact keepsPure _

theorem keepsLoadDescription (document : Path) : Keeps (loadDescription document) := by
  refine keepsBind keepsGet fun session => ?_
  split
  · exact keepsThrow _
  · exact keepsThrow _
  · exact keepsPure _

theorem keepsExpectGenerated (result : Except GenerationFault α) :
    Keeps (expectGenerated result) := by
  unfold expectGenerated
  split
  · exact keepsPure _
  · exact keepsThrow _
  · exact keepsThrow _
  · exact keepsThrow _

theorem keepsPrepare (command : Command) (arguments : Arguments) (document : Path) :
    Keeps (prepare command arguments document) := by
  cases command with
  | generate =>
    refine keepsBind (keepsLoadProject arguments) fun project => ?_
    refine keepsBind (keepsSay _) fun _ => ?_
    refine keepsBind (keepsLoadDescription document) fun loaded => ?_
    refine keepsBind (keepsSay _) fun _ => ?_
    refine keepsBind keepsGet fun session => ?_
    exact keepsBind (keepsExpectGenerated _) fun result => keepsPure _
  | types =>
    refine keepsBind (keepsLoadProject arguments) fun project => ?_
    refine keepsBind (keepsLoadDescription document) fun description => ?_
    exact keepsBind (keepsExpectGenerated _) fun emission => keepsPure _
  | services =>
    refine keepsBind (keepsLoadProject arguments) fun project => ?_
    refine keepsBind (keepsLoadDescription document) fun description => ?_
    refine keepsBind keepsGet fun session => ?_
    refine keepsBind (keepsExpectGenerated _) fun template => ?_
    exact keepsBind (keepsExpectGenerated _) fun files => keepsPure _
  | inspect =>
    refine keepsBind (keepsLoadProject arguments) fun project => ?_
    exact keepsBind (keepsLoadDescription document) fun description => keepsPure _

inductive Write where
  | folder (path : Path)
  | file (path : Path) (bytes : List UInt8)
  deriving DecidableEq, Repr

def Write.apply (tree : FileTree) : Write → Except FileFault FileTree
  | .folder path => tree.makeFolders path
  | .file path bytes => tree.writeFile path bytes

def perform (tree : FileTree) : List Write → Option FileFault × FileTree
  | [] => (none, tree)
  | write :: rest =>
    match write.apply tree with
    | .error fault => (some fault, tree)
    | .ok tree => perform tree rest

theorem performAppend (first second : List Write) (tree : FileTree) :
    perform tree (first ++ second) =
      match perform tree first with
      | (some fault, after) => (some fault, after)
      | (none, after) => perform after second := by
  induction first generalizing tree with
  | nil => rfl
  | cons write rest ih =>
    rw [List.cons_append, perform, perform]
    cases write.apply tree with
    | error fault => rfl
    | ok after => exact ih after

def Batch.writes (batch : Batch) : List Write :=
  .folder batch.folder :: batch.files.map fun (name, content) =>
    .file (batch.folder.join name) (Utf8.encode content)

def Delivery.writes (delivery : Delivery) : List Write :=
  delivery.batches.flatMap Batch.writes

def endingOf (value : α) : Option FileFault → Except Ending α
  | none => .ok value
  | some fault => .error (.escaped (.file fault))

/- A step that does these writes, and fails only where one of them does. -/
def Performs (step : Step α) (writes : List Write) (value : α) : Prop :=
  ∀ session, (step.run.run session).1 = endingOf value (perform session.tree writes).1 ∧
    (step.run.run session).2.tree = (perform session.tree writes).2

theorem performsPure (value : α) : Performs (pure value : Step α) [] value := fun _ => ⟨rfl, rfl⟩

theorem performsSay (line : Text) : Performs (say line) [] () := fun _ => ⟨rfl, rfl⟩

theorem performsBind {step : Step α} {next : α → Step β} {first second : List Write} {value : α}
    {result : β} (here : Performs step first value) (later : Performs (next value) second result) :
    Performs (step >>= next) (first ++ second) result := by
  intro session
  obtain ⟨ended, left⟩ := here session
  rw [runBind, performAppend]
  rcases ran : step.run.run session with ⟨outcome, after⟩
  rcases done : perform session.tree first with ⟨fault, changed⟩
  simp only [ran, done] at ended left
  subst left
  cases fault with
  | some fault =>
    rw [endingOf] at ended
    subst ended
    exact ⟨rfl, rfl⟩
  | none =>
    rw [endingOf] at ended
    subst ended
    exact later after

theorem performsAll {items : List α} {step : α → Step Unit} {writes : α → List Write}
    (each : ∀ item, Performs (step item) (writes item) ()) :
    Performs (items.forM step) (items.flatMap writes) () := by
  induction items with
  | nil => exact performsPure ()
  | cons item rest ih => exact performsBind (each item) ih

def change (write : Write) : Step Unit := do
  match write.apply (← get).tree with
  | .error fault => throw (.escaped (.file fault))
  | .ok tree => modify fun session => { session with tree }

theorem runGet (session : Session) :
    (get : Step Session).run.run session = (.ok session, session) := rfl

theorem performsChange (write : Write) : Performs (change write) [write] () := by
  intro session
  rw [change, runBind, runGet, perform]
  dsimp only
  cases write.apply session.tree with
  | error fault => exact ⟨rfl, rfl⟩
  | ok after => exact ⟨rfl, rfl⟩

theorem writeFileEq (label : Text) (folder : Path) (name content : Text) :
    writeFile label folder name content
      = change (.file (folder.join name) (Utf8.encode content)) >>= fun _ =>
        say ("[" ++ label ++ "] Generated: " ++ (folder.join name).text) := by
  simp only [writeFile, change, bind_assoc]
  congr 1
  funext session
  simp only [Write.apply]
  cases session.tree.writeFile (folder.join name) (Utf8.encode content) <;> rfl

theorem performsWriteFile (label : Text) (folder : Path) (name content : Text) :
    Performs (writeFile label folder name content)
      [.file (folder.join name) (Utf8.encode content)] () := by
  rw [writeFileEq]
  exact performsBind (performsChange _) (performsSay _)

theorem writeFilesEq (batch : Batch) :
    writeFiles batch.label batch.folder batch.files
      = change (.folder batch.folder) >>= fun _ =>
        batch.files.forM fun file => writeFile batch.label batch.folder file.1 file.2 := by
  simp only [writeFiles, change, bind_assoc]
  congr 1
  funext session
  simp only [Write.apply]
  cases session.tree.makeFolders batch.folder <;> rfl

theorem performsWriteFiles (batch : Batch) :
    Performs (writeFiles batch.label batch.folder batch.files) batch.writes () := by
  rw [writeFilesEq, Batch.writes, List.map_eq_flatMap]
  exact performsBind (performsChange _) (performsAll fun _ => performsWriteFile _ _ _ _)

theorem performsSayAll (lines : List Text) : Performs (lines.forM say) [] () := by
  induction lines with
  | nil => exact performsPure ()
  | cons line rest ih => exact performsBind (performsSay line) ih

theorem performsDeliver (delivery : Delivery) :
    Performs (deliver delivery) delivery.writes delivery.diagnostics := by
  have closing : Performs (delivery.closing.forM say >>= fun _ => pure delivery.diagnostics) []
      delivery.diagnostics :=
    performsBind (performsSayAll delivery.closing) (performsPure delivery.diagnostics)
  have whole : Performs (deliver delivery) (delivery.writes ++ []) delivery.diagnostics :=
    performsBind (performsAll performsWriteFiles) closing
  rwa [List.append_nil] at whole

structure Starts (tree : FileTree) (words : List Text) (command : Command) (arguments : Arguments)
    (document : Text) : Prop where
  plain : words.head? ≠ some "--help"
  read : Command.read words = some (command, arguments)
  quiet : arguments.help = false
  single : arguments.documents = [document]
  fits : pathsFit tree arguments document = true

def outcomeOf : Except Ending (List Text) × Session → Outcome × FileTree
  | (.ok diagnostics, session) =>
    (.ran .done session.output (diagnostics.map ("warning: " ++ ·)), session.tree)
  | (.error ending, session) => (.ran ending session.output [], session.tree)

theorem runWordsOfStarts {text : Text} (starts : Starts tree words command arguments text) :
    runWords tree words
      = outcomeOf ((runCommand command arguments (.ofText text)).run.run ⟨tree, []⟩) := by
  unfold runWords
  rw [if_neg starts.plain]
  simp only [starts.read, starts.quiet, starts.single, starts.fits, if_true, Bool.false_eq_true,
    if_false]
  rcases (runCommand command arguments (.ofText text)).run.run ⟨tree, []⟩ with ⟨_ | _, _⟩ <;> rfl

theorem runStopped {text : Text} {ending : Ending} {session : Session}
    (starts : Starts tree words command arguments text)
    (prepared : (prepare command arguments (.ofText text)).run.run ⟨tree, []⟩
      = (.error ending, session)) :
    runWords tree words = (.ran ending session.output [], tree) := by
  have kept : session.tree = tree := by
    simpa only [prepared] using keepsPrepare command arguments (.ofText text) ⟨tree, []⟩
  rw [runWordsOfStarts starts, runCommandEq, runBind, prepared]
  rw [← kept, outcomeOf]

theorem runWritten {text : Text} {delivery : Delivery} {session : Session}
    (starts : Starts tree words command arguments text)
    (prepared : (prepare command arguments (.ofText text)).run.run ⟨tree, []⟩
      = (.ok delivery, session)) :
    ∃ output, runWords tree words =
      (match (perform tree delivery.writes).1 with
        | none => .ran .done output (delivery.diagnostics.map ("warning: " ++ ·))
        | some fault => .ran (.escaped (.file fault)) output [],
      (perform tree delivery.writes).2) := by
  have kept : session.tree = tree := by
    simpa only [prepared] using keepsPrepare command arguments (.ofText text) ⟨tree, []⟩
  obtain ⟨ended, left⟩ := performsDeliver delivery session
  rw [kept] at ended left
  rw [runWordsOfStarts starts, runCommandEq, runBind, prepared]
  dsimp only
  rcases delivered : (deliver delivery).run.run session with ⟨result, after⟩
  simp only [delivered] at ended left
  refine ⟨after.output, ?_⟩
  rw [ended, ← left]
  cases (perform tree delivery.writes).1 <;> rfl

theorem runIdle
    (never : ∀ command arguments text, ¬ Starts tree words command arguments text) :
    runWords tree words = (.help, tree) ∨ runWords tree words = (.usage, tree) := by
  unfold runWords
  split
  · exact .inl rfl
  · rename_i plain
    split
    · exact .inr rfl
    · rename_i command arguments read
      split
      · exact .inl rfl
      · rename_i quiet
        split
        · rename_i text single
          split
          · rename_i fits
            exact absurd ⟨plain, read, by simpa using quiet, single, fits⟩
              (never command arguments text)
          · exact .inr rfl
        · exact .inr rfl

def Outcome.Fails (outcome : Outcome) : Prop :=
  outcome ≠ .help ∧ ∀ output warnings, outcome ≠ .ran .done output warnings

/- The run generates everything, and then a folder cannot be made or a file cannot be written. -/
def WriteFails (tree : FileTree) (words : List Text) : Prop :=
  ∃ command arguments text delivery session fault, Starts tree words command arguments text ∧
    (prepare command arguments (.ofText text)).run.run ⟨tree, []⟩ = (.ok delivery, session) ∧
      (perform tree delivery.writes).1 = some fault

theorem writeFailsOfPrepared {text : Text} {fault : FileFault}
    (starts : Starts tree words command arguments text)
    (prepared : ((prepare command arguments (.ofText text)).run.run ⟨tree, []⟩).1.toOption.any
      (fun delivery => (perform tree delivery.writes).1 = some fault) = true) :
    WriteFails tree words := by
  obtain ⟨delivery, ok, broke⟩ := Results.okOfAny prepared
  exact ⟨command, arguments, text, delivery, _, fault, starts, Prod.ext ok rfl,
    of_decide_eq_true broke⟩

theorem brokenRun (broken : WriteFails tree words) :
    ∃ fault output, (runWords tree words).1 = .ran (.escaped (.file fault)) output [] := by
  obtain ⟨command, arguments, text, delivery, session, fault, starts, prepared, broke⟩ := broken
  obtain ⟨output, ran⟩ := runWritten starts prepared
  rw [ran, broke]
  exact ⟨fault, output, rfl⟩

theorem failsOfMessage {outcome : Outcome} {message : Text} {output warnings : List Text}
    (failed : outcome = .ran (.failed message) output warnings) : outcome.Fails := by
  subst failed
  simp [Outcome.Fails]

theorem soundOfMessage {message : Text} {output warnings : List Text}
    (failed : (runWords tree words).1 = .ran (.failed message) output warnings) :
    ¬ WriteFails tree words := by
  intro broken
  obtain ⟨fault, shown, broke⟩ := brokenRun broken
  rw [failed] at broke
  cases broke

/- A run either leaves the tree as it is, or everything was generated and its writes begin. -/
theorem runCases (tree : FileTree) (words : List Text) :
    (runWords tree words).2 = tree ∨ WriteFails tree words ∨
      ∃ output warnings, (runWords tree words).1 = .ran .done output warnings := by
  by_cases begun : ∃ command arguments text, Starts tree words command arguments text
  · obtain ⟨command, arguments, text, starts⟩ := begun
    rcases prepared : (prepare command arguments (.ofText text)).run.run ⟨tree, []⟩
      with ⟨ending | delivery, session⟩
    · rw [runStopped starts prepared]
      exact .inl rfl
    · obtain ⟨output, ran⟩ := runWritten starts prepared
      rcases wrote : (perform tree delivery.writes).1 with - | fault
      · rw [ran, wrote]
        exact .inr (.inr ⟨output, _, rfl⟩)
      · exact .inr (.inl ⟨_, _, _, _, _, fault, starts, prepared, wrote⟩)
  · simp only [not_exists] at begun
    rcases runIdle begun with help | usage
    · rw [help]
      exact .inl rfl
    · rw [usage]
      exact .inl rfl

theorem failedRunKeepsTree (tree : FileTree) (words : List Text) :
    ((runWords tree words).1.Fails → ¬ WriteFails tree words → (runWords tree words).2 = tree) ∧
    (∀ message output warnings,
      (runWords tree words).1 = .ran (.failed message) output warnings →
        (runWords tree words).2 = tree) ∧
    (WriteFails tree words →
      ∃ fault output, (runWords tree words).1 = .ran (.escaped (.file fault)) output []) := by
  refine ⟨fun fails sound => ?_, fun message output warnings failed => ?_, brokenRun⟩
  · rcases runCases tree words with same | broken | ⟨output, warnings, finished⟩
    · exact same
    · exact absurd broken sound
    · exact absurd finished (fails.2 output warnings)
  · rcases runCases tree words with same | broken | ⟨_, _, finished⟩
    · exact same
    · exact absurd broken (soundOfMessage failed)
    · rw [failed] at finished
      cases finished

def shopTree : FileTree :=
  let document : Text := "\x7btypes: \x7bW: \x7bname: W\x7d\x7d, apis: [\x7b\x7d]\x7d"
  ⟨["work"], [(["work", "shop.yaml"], .file (Utf8.encode document)),
    (["work", "own.yaml"], .file (Utf8.encode "template_path: own.ts"))]⟩

def generateWords : List Text := ["generate", "shop.yaml", "-c", "own.yaml"]

def typesWords : List Text := ["types", "shop.yaml"]

def insideWords : List Text := ["types", "shop.yaml", "--types-dir", "shop.yaml/types"]

def insideArguments : Arguments :=
  { Arguments.empty with documents := ["shop.yaml"], typesFolder := some "shop.yaml/types" }

theorem failedRunShop :
    (runWords shopTree generateWords).1 = .ran (.failed "Template not found: own.ts")
      ["Loading shop.yaml...", "Found 1 endpoints and 1 types."] [] ∧
    ¬ WriteFails shopTree generateWords ∧
    (runWords shopTree generateWords).2 = shopTree ∧
    (runWords shopTree typesWords).2 ≠ shopTree ∧
    WriteFails shopTree insideWords ∧
    ∃ fault output, (runWords shopTree insideWords).1 = .ran (.escaped (.file fault)) output [] := by
  have outcome : (runWords shopTree generateWords).1 = .ran (.failed "Template not found: own.ts")
      ["Loading shop.yaml...", "Found 1 endpoints and 1 types."] [] := by decide +kernel
  have written : (runWords shopTree typesWords).2 ≠ shopTree := by decide +kernel
  have sound := soundOfMessage outcome
  have starts : Starts shopTree insideWords .types insideArguments "shop.yaml" :=
    ⟨by decide, by decide +kernel, by decide, by decide, by decide +kernel⟩
  have prepared : ((prepare .types insideArguments (.ofText "shop.yaml")).run.run
      ⟨shopTree, []⟩).1.toOption.any
        (fun delivery => (perform shopTree delivery.writes).1 = some .notFolder) = true := by
    decide +kernel
  have broken := writeFailsOfPrepared starts prepared
  exact ⟨outcome, sound, (failedRunKeepsTree shopTree generateWords).1 (failsOfMessage outcome) sound,
    written, broken, (failedRunKeepsTree shopTree insideWords).2.2 broken⟩

end TypedClient.Command
