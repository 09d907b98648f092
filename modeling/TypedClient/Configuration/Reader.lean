import TypedClient.Configuration
import TypedClient.Document.Checked
import TypedClient.Yaml.Reader

/-!
Settings out of documents. Here a null field is not absent; it fits only where a setting may be
null. The settings file is YAML alone.
-/

namespace TypedClient

namespace Check

def commentLimits : Value → Checked CommentLimits :=
  record "CommentConfig" fun fields =>
    CommentLimits.mk
      <$> fields.optional (spellings "max_length") CommentLimits.standard.maxLength (atLeast 4)
      <*> fields.optional (spellings "max_lines") CommentLimits.standard.maxLines (atLeast 1)
      <*> fields.optional (spellings "preserve_html_tags") true truth
      <*> fields.optional (spellings "preserve_line_breaks") true truth

def cyclePolicies : List (Text × CyclePolicy) :=
  [("ignore", .ignore), ("warn", .warn), ("error", .error)]

def settings (fields : Fields) : Checked Configuration :=
  let standard := Configuration.standard
  Configuration.mk
    <$> fields.optional (spellings "use_interface") standard.useInterface truth
    <*> fields.optional (spellings "namespace_prefix") standard.namespacePrefix text
    <*> fields.optional (spellings "unwrap_generic_types") standard.unwrapped textSet
    <*> fields.optional (spellings "generate_comments") standard.generateComments truth
    <*> fields.optional (spellings "comment_config" ++ (["comments", "Comments"] : List Text))
      standard.commentLimits commentLimits
    <*> fields.optional (spellings "type_prefix") standard.typePrefix text
    <*> fields.optional (spellings "import_lines" ++ (["importLine", "ImportLine"] : List Text))
      standard.importLines (list text)
    <*> fields.optional (spellings "request_function") standard.requestFunction text
    <*> fields.optional (spellings "api_prefix") standard.apiPrefix text
    <*> fields.optional (spellings "template_path") standard.templatePath (nullable path)
    <*> fields.optional (spellings "cycle_policy") standard.cyclePolicy (choice cyclePolicies)

def configuration : Value → Checked Configuration :=
  record "GeneratorConfig" settings

def project : Value → Checked Project :=
  record "ProjectConfig" fun fields =>
    Project.mk
      <$> settings fields
      <*> fields.optional (spellings "output_dir") Project.standard.outputFolder path
      <*> fields.optional (spellings "types_dir") Project.standard.typesFolder path

end Check

namespace Project

inductive LoadFault where
  | unreadable (name : Text)
  | notMapping (name : Text)
  | invalid (name : Text) (problems : List Problem)
  deriving DecidableEq, Repr

/-- The texts of the reader's own messages are left out. -/
def LoadFault.message : LoadFault → Text
  | .unreadable name => "Cannot read config " ++ name
  | .notMapping name => "Config " ++ name ++ " must be a mapping"
  | .invalid name problems => "Invalid config " ++ name ++ ":\n" ++ summary problems

def ofText (name text : Text) : Except Yaml.Fault (Except LoadFault Project) :=
  match Yaml.read text with
  | .ok (.scalar .null) => .ok (.ok .standard)
  | .ok (.map fields) =>
    match Check.project (.map fields) with
    | .valid project => .ok (.ok project)
    | .invalid problems => .ok (.error (.invalid name problems))
  | .ok _ => .ok (.error (.notMapping name))
  | .error .malformed => .ok (.error (.unreadable name))
  | .error fault => .error fault

end Project

end TypedClient
