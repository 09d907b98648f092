import TypedClient.Client.Service

/-!
Templates for service modules: texts, printed expressions, choices and loops. The standard template
is given as a tree.
-/

namespace TypedClient.Template

inductive Expression where
  | text (value : Text)
  | number (value : Nat)
  | truth (value : Bool)
  | nothing
  | name (name : Text)
  | attribute (object : Expression) (field : Text)
  | item (object index : Expression)
  | negation (operand : Expression)
  | filter (input : Expression) (name : Text) (arguments : List Expression)
      (named : List (Text × Expression))
  deriving Repr, Inhabited

inductive Part where
  | text (value : Text)
  | print (expression : Expression)
  | choice (condition : Expression) (body otherwise : List Part)
  | loop (variableName : Text) (source : Expression) (condition : Option Expression)
      (body otherwise : List Part)
  deriving Repr, Inhabited

def field (object name : Text) : Expression :=
  .attribute (.name object) name

def printField (object name : Text) : Part :=
  .print (field object name)

def loopOver (variableName object name : Text) (body : List Part) : Part :=
  .loop variableName (field object name) none body []

def documentationPart : Part :=
  .choice (field "api" "doc_lines")
    [.text "  /**\n",
     loopOver "line" "api" "doc_lines" [.text "   * ", .print (.name "line"), .text "\n"],
     .text "   */\n"]
    []

def functionParts : List Part :=
  [documentationPart,
   .text "  ", printField "api" "name", .text "(", printField "api" "param_list",
   .text "): Promise<", printField "api" "return_type", .text "> \x7b\n    return ",
   printField "service" "request_function", .text "<", printField "api" "return_type",
   .text ">(\x7b\n      url: ", printField "api" "url", .text ",\n      method: '",
   printField "api" "http_method", .text "',\n",
   loopOver "line" "api" "data_shape" [.text "      ", .print (.name "line"), .text ",\n"],
   .text "    \x7d);\n  \x7d,\n",
   .choice (.negation (field "loop" "last")) [.text "\n"] []]

def standard : List Part :=
  [loopOver "line" "service" "import_lines" [.print (.name "line"), .text "\n"],
   .text "\nexport const ", printField "service" "service_name", .text " = \x7b\n",
   loopOver "api" "service" "endpoints" functionParts,
   .text "\x7d;\n\nexport default ", printField "service" "service_name", .text ";\n"]

end TypedClient.Template
