import Mathlib.Data.List.Forall2
import TypedClient.Template.Rendering

/-!
The text that the standard template prints. It prints one for every service: all that it names is
there, so no service is a fault.
-/

namespace TypedClient.Template

variable {α : Type}

def eachText (print : Nat → α → Text) (index : Nat) (items : List α) : Text :=
  (items.zipIdx index).flatMap fun (item, index) => print index item

theorem eachTextConst (print : α → Text) (index : Nat) (items : List α) :
    eachText (fun _ => print) index items = items.flatMap print := by
  induction items generalizing index with
  | nil => rfl
  | cons item rest ih => exact congrArg (print item ++ ·) (ih (index + 1))

theorem renderEachText {render : Bindings → Option Text} {bindings : Bindings}
    {variableName : Text} {count : Nat} {datum : α → Datum} {print : Nat → α → Text}
    (each : ∀ item index,
      render ((variableName, datum item) :: ("loop", loopState index count) :: bindings) =
        some (print index item)) (index : Nat) (items : List α) :
    renderEach render bindings variableName count index (items.map datum) =
      some (eachText print index items) := by
  induction items generalizing index with
  | nil => rfl
  | cons item rest ih =>
    simp only [List.map_cons, renderEach, each, ih]
    rfl

theorem renderLoop {bindings : Bindings} {variableName object name : Text} {body : List Part}
    {datum : α → Datum} {items : List α} {print : Nat → α → Text}
    (held : evaluate bindings (field object name) = some (.list (items.map datum)))
    (each : ∀ item index,
      renderParts body
          ((variableName, datum item) :: ("loop", loopState index items.length) :: bindings) =
        some (print index item)) :
    (loopOver variableName object name body).render bindings = some (eachText print 0 items) := by
  have listed : ∀ data, selectItems bindings variableName none data = some data := by
    rintro (_ | ⟨first, rest⟩) <;> rfl
  cases items with
  | nil => simp [loopOver, Part.render, held, Datum.items?, listed, eachText, renderParts]
  | cons item rest =>
    simp only [loopOver, Part.render, held, Option.bind_some, Datum.items?, listed, List.map_cons,
      List.length_cons, List.length_map]
    exact renderEachText each 0 (item :: rest)

theorem renderPartsOf {bindings : Bindings} {parts : List Part} {texts : List Text}
    (each : List.Forall₂ (fun part text => part.render bindings = some text) parts texts) :
    renderParts parts bindings = some texts.flatten := by
  induction each with
  | nil => rfl
  | cons first _ ih => simp only [renderParts, first, ih, List.flatten_cons]

def linesText (before after : Text) (lines : List Text) : Text :=
  lines.flatMap fun line => List.flatten [before, line, after]

theorem renderLines {bindings : Bindings} {object name : Text} {body : List Part}
    {lines : List Text} {before after : Text}
    (held : evaluate bindings (field object name) = some (Datum.ofTexts lines))
    (each : ∀ line index,
      renderParts body (("line", .text line) :: ("loop", loopState index lines.length) :: bindings) =
        some (List.flatten [before, line, after])) :
    (loopOver "line" object name body).render bindings = some (linesText before after lines) := by
  rw [renderLoop held each, eachTextConst]
  rfl

def documentationText (lines : List Text) : Text :=
  if lines.isEmpty then [] else
    List.flatten ["  /**\n", linesText "   * " "\n" lines, "   */\n"]

def functionText (request : Text) (isLast : Bool) (function : ClientFunction) : Text :=
  List.flatten
    [documentationText function.documentation,
     "  ", function.name, "(", function.parameterList,
     "): Promise<", function.returnType, "> \x7b\n    return ",
     request, "<", function.returnType,
     ">(\x7b\n      url: ", function.url, ",\n      method: '",
     function.verb, "',\n",
     linesText "      " ",\n" function.payload,
     "    \x7d);\n  \x7d,\n",
     if isLast then [] else "\n"]

def moduleText (service : Service) : Text :=
  let print (index : Nat) := functionText service.requestFunction (index + 1 == service.functions.length)
  List.flatten
    [linesText "" "\n" service.importLines,
     "\nexport const ", service.name, " = \x7b\n",
     eachText print 0 service.functions,
     "\x7d;\n\nexport default ", service.name, ";\n"]

section

variable (service : Service) (function : ClientFunction) (index count : Nat)

def functionBindings : Bindings :=
  [("api", Datum.ofFunction function), ("loop", loopState index count),
    ("service", Datum.ofService service)]

theorem documentationRendered :
    documentationPart.render (functionBindings service function index count) =
      some (documentationText function.documentation) := by
  have lines : (loopOver "line" "api" "doc_lines"
      [.text "   * ", .print (.name "line"), .text "\n"]).render
        (functionBindings service function index count) =
      some (linesText "   * " "\n" function.documentation) :=
    renderLines rfl fun _ _ => renderPartsOf (.cons rfl (.cons rfl (.cons rfl .nil)))
  have held : evaluate (functionBindings service function index count) (field "api" "doc_lines") =
      some (Datum.ofTexts function.documentation) := rfl
  simp only [documentationPart, Part.render, held, Option.bind_some, Datum.ofTexts, Datum.truth?,
    List.isEmpty_map, documentationText]
  cases function.documentation.isEmpty with
  | true => rfl
  | false => exact renderPartsOf (.cons rfl (.cons lines (.cons rfl .nil)))

theorem separatorRendered :
    (Part.choice (.negation (field "loop" "last")) [.text "\n"] []).render
        (functionBindings service function index count) =
      some (if index + 1 == count then [] else "\n") := by
  have held : evaluate (functionBindings service function index count)
      (.negation (field "loop" "last")) = some (.truth (!(index + 1 == count))) := rfl
  simp only [Part.render, held, Option.bind_some, Datum.truth?]
  cases index + 1 == count <;> rfl

theorem functionRendered :
    renderParts functionParts (functionBindings service function index count) =
      some (functionText service.requestFunction (index + 1 == count) function) := by
  have payload : (loopOver "line" "api" "data_shape"
      [.text "      ", .print (.name "line"), .text ",\n"]).render
        (functionBindings service function index count) =
      some (linesText "      " ",\n" function.payload) :=
    renderLines rfl fun _ _ => renderPartsOf (.cons rfl (.cons rfl (.cons rfl .nil)))
  refine renderPartsOf (.cons (documentationRendered service function index count) ?_)
  iterate 15 refine .cons rfl ?_
  exact .cons payload (.cons rfl (.cons (separatorRendered service function index count) .nil))

end

theorem standardRendered (service : Service) :
    render standard service = some (moduleText service) := by
  have imports : (loopOver "line" "service" "import_lines"
      [.print (.name "line"), .text "\n"]).render [("service", Datum.ofService service)] =
      some (linesText "" "\n" service.importLines) :=
    renderLines rfl fun line _ => show renderParts _ _ = some (List.flatten [line, "\n"]) from
      renderPartsOf (.cons rfl (.cons rfl .nil))
  have functions : (loopOver "api" "service" "endpoints" functionParts).render
      [("service", Datum.ofService service)] =
      some (eachText (fun index => functionText service.requestFunction
        (index + 1 == service.functions.length)) 0 service.functions) :=
    renderLoop rfl fun function index => functionRendered service function index _
  exact renderPartsOf (.cons imports (.cons rfl (.cons rfl (.cons rfl (.cons functions
    (.cons rfl (.cons rfl (.cons rfl .nil))))))))

end TypedClient.Template
