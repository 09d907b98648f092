import TypedClient.Text.Basic

/-!
The words of a command line: one command, one document, and the options of that command. Options
with a value take the next word or what follows an equals sign.
-/

namespace TypedClient

inductive Command where
  | generate
  | types
  | services
  | inspect
  deriving DecidableEq, Repr

namespace Command

inductive OptionName where
  | config
  | namespacePrefix
  | noComments
  | typesFolder
  | structural
  | outputFolder
  | unwrap
  | only
  | help
  deriving DecidableEq, Repr

/-- Options that are given more than once keep their last value, except those that collect. -/
structure Arguments where
  documents : List Text
  config : Option Text
  namespacePrefix : Option Text
  noComments : Bool
  typesFolder : Option Text
  structural : Bool
  outputFolder : Option Text
  unwrap : List Text
  only : List Text
  help : Bool
  deriving DecidableEq, Repr

def Arguments.empty : Arguments :=
  ⟨[], none, none, false, none, false, none, [], [], false⟩

def names : List (Text × Command) :=
  [("generate", .generate), ("types", .types), ("services", .services), ("inspect", .inspect)]

def optionNames : List (Text × OptionName) :=
  [("--config", .config), ("--namespace-prefix", .namespacePrefix), ("--no-comments", .noComments),
   ("--types-dir", .typesFolder), ("--structural", .structural), ("--output-dir", .outputFolder),
   ("--unwrap", .unwrap), ("--only", .only), ("--help", .help)]

def commonOptions : List OptionName :=
  [.config, .namespacePrefix, .noComments, .help]

def typeOptions : List OptionName :=
  [.typesFolder, .structural]

def serviceOptions : List OptionName :=
  [.outputFolder, .unwrap, .only]

def options : Command → List OptionName
  | generate => commonOptions ++ typeOptions ++ serviceOptions
  | types => commonOptions ++ typeOptions
  | services => commonOptions ++ serviceOptions
  | inspect => [.config, .namespacePrefix, .help]

def option? (command : Command) (name : Text) : Option OptionName :=
  (optionNames.lookup name).filter (· ∈ command.options)

namespace Arguments

def setFlag (arguments : Arguments) : OptionName → Option Arguments
  | .noComments => some { arguments with noComments := true }
  | .structural => some { arguments with structural := true }
  | .help => some { arguments with help := true }
  | _ => none

def setValue (arguments : Arguments) (value : Text) : OptionName → Option Arguments
  | .config => some { arguments with config := some value }
  | .namespacePrefix => some { arguments with namespacePrefix := some value }
  | .typesFolder => some { arguments with typesFolder := some value }
  | .outputFolder => some { arguments with outputFolder := some value }
  | .unwrap => some { arguments with unwrap := arguments.unwrap ++ [value] }
  | .only => some { arguments with only := arguments.only ++ [value] }
  | _ => none

def addDocument (arguments : Arguments) (document : Text) : Arguments :=
  { arguments with documents := arguments.documents ++ [document] }

def optionOf (command : Command) (word : Text) : Option (OptionName × Option Text) :=
  let (name, value) := match Text.splitFirst '=' word with
    | some (name, value) => (name, some value)
    | none => (word, none)
  match command.option? name with
  | some option => some (option, value)
  | none =>
    match word with
    | '-' :: 'c' :: [] => some (.config, none)
    | '-' :: 'c' :: value => some (.config, some value)
    | _ => none

def isOption (word : Text) : Bool :=
  match word with
  | '-' :: _ :: _ => true
  | _ => false

def read (command : Command) (arguments : Arguments) : List Text → Option Arguments
  | [] => some arguments
  | word :: rest =>
    if word = "--" then some (rest.foldl addDocument arguments)
    else if isOption word then
      match optionOf command word with
      | none => none
      | some (option, some value) => (arguments.setValue value option).bind (read command · rest)
      | some (option, none) =>
        match arguments.setFlag option with
        | some arguments => read command arguments rest
        | none =>
          match rest with
          | [] => none
          | value :: rest => (arguments.setValue value option).bind (read command · rest)
    else read command (arguments.addDocument word) rest

end Arguments

def read : List Text → Option (Command × Arguments)
  | [] => none
  | ['-', '-'] :: word :: rest => readNamed word rest
  | word :: rest => readNamed word rest
where
  readNamed (word : Text) (rest : List Text) : Option (Command × Arguments) :=
    match names.lookup word with
    | some command => (Arguments.empty.read command rest).map fun arguments => (command, arguments)
    | none => none

end Command

end TypedClient
