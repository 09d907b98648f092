import TypedClient.Configuration.Reader
import TypedClient.Description.Reader
import TypedClient.Files.FileTree
import TypedClient.Generation
import TypedClient.Template.Reader

/-!
Descriptions, settings and templates out of files. Some faults are no result of loading but end the
whole run: a settings file that is no text, a date that does not exist.
-/

namespace TypedClient

inductive Escape where
  | undecodable
  | document (fault : Yaml.Fault)
  | file (fault : FileFault)
  | defaultValue (fault : Json.WriteFault)
  deriving DecidableEq, Repr

def Description.load (tree : FileTree) (path : Path) :
    Except Escape (Except Description.LoadFault Description) :=
  match tree.readBytes path with
  | .error .nullCharacter => .error (.file .nullCharacter)
  | .error _ => .ok (.error .unreadable)
  | .ok bytes =>
    match decodeText? bytes with
    | none => .ok (.error .unreadable)
    | some text => (Description.ofText text).mapError .document

/-- Without a file the standard settings hold; of a name that is too long no one can tell. -/
def Project.load (tree : FileTree) (path : Option Path) :
    Except Escape (Except Project.LoadFault Project) :=
  match path with
  | none => .ok (.ok .standard)
  | some path =>
    match tree.locate path, tree.readBytes path with
    | .error .nameTooLong, _ => .error (.file .nameTooLong)
    | .error _, _ => .ok (.ok .standard)
    | .ok _, .error .missing => .ok (.ok .standard)
    | .ok _, .error _ => .ok (.error (.unreadable path.text))
    | .ok _, .ok bytes =>
      match decodeText? bytes with
      | none => .error .undecodable
      | some text => (Project.ofText path.text text).mapError .document

def NamedTemplate.load (tree : FileTree) (path : Option Path) :
    Except GenerationFault NamedTemplate :=
  match path with
  | none => .ok .standard
  | some path =>
    if path.name = ".." then .error (.templateMissing path)
    else match tree.readBytes path with
      | .error _ => .error (.templateMissing path)
      | .ok bytes =>
        match Utf8.decode? bytes with
        | none => .error .templateUndecodable
        | some text =>
          match Template.ofText text with
          | some parts => .ok ⟨path, parts⟩
          | none => .error (.templateBroken path)

end TypedClient
