import TypedClient.Template.Basic

/-!
What a template prints for a service. Every use of a value that is not there is a fault, except to
name it. The filters are `upper`, `join` and `map` by an attribute. Of a loop its position, its
length and whether it is at an end are known, and it runs over lists and the characters of texts.
-/

namespace TypedClient.Template

/-- Values in a template. Records know the name of their kind, which shows when they are printed. -/
inductive Datum where
  | text (value : Text)
  | number (value : Nat)
  | truth (value : Bool)
  | nothing
  | list (items : List Datum)
  | record (kind : Text) (fields : List (Text × Datum))
  | undefined
  deriving Repr, Inhabited

namespace Datum

def ofTexts (texts : List Text) : Datum :=
  list (texts.map text)

def ofArgument (argument : Argument) : Datum :=
  record "ParameterRenderModel"
    [("name", text argument.name), ("wire_name", text argument.wireName),
     ("ts_type", text argument.type), ("optional", truth argument.isOptional),
     ("source", text argument.channel.text), ("doc", text argument.documentation),
     ("default", (argument.default.map text).getD nothing)]

def ofFunction (function : ClientFunction) : Datum :=
  record "EndpointRenderModel"
    [("name", text function.name), ("param_list", text function.parameterList),
     ("parameters", list (function.arguments.map ofArgument)),
     ("return_type", text function.returnType), ("path", text function.path),
     ("url", text function.url), ("http_method", text function.verb),
     ("data_shape", ofTexts function.payload), ("doc_lines", ofTexts function.documentation)]

def ofService (service : Service) : Datum :=
  record "ServiceRenderModel"
    [("service_name", text service.name), ("import_lines", ofTexts service.importLines),
     ("request_function", text service.requestFunction),
     ("endpoints", list (service.functions.map ofFunction))]

mutual

def quotation : Datum → Text
  | text value => Text.quotation value
  | number value => Text.decimal value
  | truth value => if value then "True" else "False"
  | nothing => "None"
  | list items => '[' :: (", " : Text).intercalate (quotations items) ++ [']']
  | record kind fields => kind ++ '(' :: (", " : Text).intercalate (fieldTexts fields) ++ [')']
  | undefined => []

def quotations : List Datum → List Text
  | [] => []
  | item :: rest => item.quotation :: quotations rest

def fieldTexts : List (Text × Datum) → List Text
  | [] => []
  | (name, value) :: rest => (name ++ '=' :: value.quotation) :: fieldTexts rest

end

def print? : Datum → Option Text
  | undefined => none
  | text value => some value
  | record _ fields => some (([' '] : Text).intercalate (fieldTexts fields))
  | value => some value.quotation

def truth? : Datum → Option Bool
  | undefined => none
  | text value => some (!value.isEmpty)
  | number value => some (value != 0)
  | truth value => some value
  | nothing => some false
  | list items => some (!items.isEmpty)
  | record .. => some true

def items? : Datum → Option (List Datum)
  | list items => some items
  | text value => some (value.map fun c => text [c])
  | _ => none

/-- A field that a value does not have is undefined; an undefined value has no fields at all. -/
def attribute? (name : Text) : Datum → Option Datum
  | undefined => none
  | record _ fields => some ((fields.lookup name).getD undefined)
  | _ => some undefined

def item? : Datum → Datum → Option Datum
  | undefined, _ => none
  | list items, number n => some (items[n]?.getD undefined)
  | text value, number n => some ((value[n]?.map fun c => text [c]).getD undefined)
  | record kind fields, text name => (record kind fields).attribute? name
  | _, _ => some undefined

def path? : List Text → Datum → Option Datum
  | [], value => some value
  | name :: rest, value =>
    let next :=
      if !name.isEmpty && name.all Text.asciiDigit then
        value.item? (number (Binary64.digitsValue name))
      else value.attribute? name
    match next with
    | some value => path? rest value
    | none => none

end Datum

abbrev Bindings := List (Text × Datum)

def argument? (position : Nat) (name : Text) (arguments : List Datum)
    (named : List (Text × Datum)) : Option Datum :=
  arguments[position]?.or (named.lookup name)

def attributeOf (name : Datum) (value : Datum) : Option Datum :=
  match name with
  | .text name => Datum.path? (Text.pieces (· == '.') name) value
  | .number n => value.item? (.number n)
  | _ => none

def upperFilter (input : Datum) : Option Datum :=
  (input.print?).map fun text => .text (Text.upper text)

def joinFilter (arguments : List Datum) (named : List (Text × Datum)) (input : Datum) :
    Option Datum := do
  let separator ← ((argument? 0 "d" arguments named).getD (.text [])).print?
  let items ← input.items?
  let items ← match argument? 1 "attribute" arguments named with
    | some .nothing | none => some items
    | some name => items.mapM (attributeOf name)
  let texts ← items.mapM Datum.print?
  return .text (separator.intercalate texts)

def mapFilter (named : List (Text × Datum)) (input : Datum) : Option Datum := do
  let name ← named.lookup ("attribute" : Text)
  let items ← input.items?
  return .list (← items.mapM (attributeOf name))

def filterNames : List Text := ["upper", "join", "map"]

def applyFilter (name : Text) (arguments : List Datum) (named : List (Text × Datum))
    (input : Datum) : Option Datum :=
  if name = "upper" then upperFilter input
  else if name = "join" then joinFilter arguments named input
  else if name = "map" then mapFilter named input
  else none

mutual

def evaluate (bindings : Bindings) : Expression → Option Datum
  | .text value => some (.text value)
  | .number value => some (.number value)
  | .truth value => some (.truth value)
  | .nothing => some .nothing
  | .name name => some ((bindings.lookup name).getD .undefined)
  | .attribute object field =>
    match evaluate bindings object with
    | some value => value.attribute? field
    | none => none
  | .item object index =>
    match evaluate bindings object, evaluate bindings index with
    | some value, some index => value.item? index
    | _, _ => none
  | .negation operand =>
    match evaluate bindings operand with
    | some value => value.truth?.map fun truth => .truth (!truth)
    | none => none
  | .filter input name arguments named =>
    match evaluate bindings input, evaluateAll bindings arguments, evaluateNamed bindings named with
    | some input, some arguments, some named => applyFilter name arguments named input
    | _, _, _ => none

def evaluateAll (bindings : Bindings) : List Expression → Option (List Datum)
  | [] => some []
  | first :: rest =>
    match evaluate bindings first, evaluateAll bindings rest with
    | some value, some values => some (value :: values)
    | _, _ => none

def evaluateNamed (bindings : Bindings) : List (Text × Expression) → Option (List (Text × Datum))
  | [] => some []
  | (name, first) :: rest =>
    match evaluate bindings first, evaluateNamed bindings rest with
    | some value, some values => some ((name, value) :: values)
    | _, _ => none

end

def loopState (index count : Nat) : Datum :=
  .record "loop" [("index", .number (index + 1)), ("index0", .number index),
    ("first", .truth (index == 0)), ("last", .truth (index + 1 == count)),
    ("length", .number count)]

def selectItems (bindings : Bindings) (variableName : Text) (condition : Option Expression) :
    List Datum → Option (List Datum)
  | [] => some []
  | item :: rest =>
    match condition with
    | none => some (item :: rest)
    | some test =>
      match (evaluate ((variableName, item) :: bindings) test).bind Datum.truth?,
          selectItems bindings variableName condition rest with
      | some passes, some others => some (if passes then item :: others else others)
      | _, _ => none

def renderEach (render : Bindings → Option Text) (bindings : Bindings) (variableName : Text)
    (count : Nat) : Nat → List Datum → Option Text
  | _, [] => some []
  | index, item :: rest =>
    match render ((variableName, item) :: ("loop", loopState index count) :: bindings),
        renderEach render bindings variableName count (index + 1) rest with
    | some text, some others => some (text ++ others)
    | _, _ => none

mutual

def Part.render : Part → Bindings → Option Text
  | .text value, _ => some value
  | .print expression, bindings => (evaluate bindings expression).bind Datum.print?
  | .choice condition body otherwise, bindings =>
    match (evaluate bindings condition).bind Datum.truth? with
    | some true => renderParts body bindings
    | some false => renderParts otherwise bindings
    | none => none
  | .loop variableName source condition body otherwise, bindings =>
    match ((evaluate bindings source).bind Datum.items?).bind
        (selectItems bindings variableName condition) with
    | none => none
    | some [] => renderParts otherwise bindings
    | some items =>
      renderEach (renderParts body) bindings variableName items.length 0 items

def renderParts : List Part → Bindings → Option Text
  | [], _ => some []
  | part :: rest, bindings =>
    match part.render bindings, renderParts rest bindings with
    | some text, some others => some (text ++ others)
    | _, _ => none

end

def render (template : List Part) (service : Service) : Option Text :=
  renderParts template [("service", Datum.ofService service)]

end TypedClient.Template
