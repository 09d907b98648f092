import TypedClient.Comment
import TypedClient.Files.Path

/-!
Settings of the generator, and where a project keeps the generated files.
-/

namespace TypedClient

inductive CyclePolicy where
  | ignore
  | warn
  | error
  deriving DecidableEq, Repr

structure Configuration where
  useInterface : Bool
  namespacePrefix : Text
  unwrapped : List Text
  generateComments : Bool
  commentLimits : CommentLimits
  typePrefix : Text
  importLines : List Text
  requestFunction : Text
  apiPrefix : Text
  templatePath : Option Path
  cyclePolicy : CyclePolicy
  deriving DecidableEq, Repr

structure Project extends Configuration where
  outputFolder : Path
  typesFolder : Path
  deriving DecidableEq, Repr

def Configuration.standard : Configuration where
  useInterface := true
  namespacePrefix := []
  unwrapped := []
  generateComments := true
  commentLimits := .standard
  typePrefix := "types."
  importLines := ["import \x7b request as requestHttp \x7d from '../request';"]
  requestFunction := "requestHttp"
  apiPrefix := []
  templatePath := none
  cyclePolicy := .warn

def Project.standard : Project where
  toConfiguration := .standard
  outputFolder := .ofText "./api"
  typesFolder := .ofText "./types"

end TypedClient
