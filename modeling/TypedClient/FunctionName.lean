import TypedClient.Text.LetterCase

/-!
Names of client functions, from the action or else the verb of an operation. Repeated names get
numbers from 2 on.
-/

namespace TypedClient.FunctionName

def verbNames : List (Text × Text) :=
  [("get", "get"), ("post", "create"), ("put", "update"), ("delete", "delete")]

def ofVerb (verb : Text) : Text :=
  let known := Text.lower (if verb.isEmpty then "get" else verb)
  (verbNames.lookup known).getD "do"

def controllerStem (controller : Text) : Text :=
  Text.dropSuffix "Controller" controller

def plainAction (action : Text) : Text :=
  Text.dropSuffix "Action" (Text.dropSuffix "Async" action)

def withoutStem (stem action : Text) : Text :=
  (Text.after? stem action).getD action

def lowerFirst : Text → Text
  | [] => []
  | c :: rest => Text.lower [c] ++ rest

def propose (controller action verb : Text) : Text :=
  if action.isEmpty then ofVerb verb
  else
    let short := withoutStem (controllerStem controller) (plainAction action)
    lowerFirst (if short.isEmpty then ofVerb verb else short)

def firstFree (seen : List Text) (name : Text) : Nat → Nat → Text
  | 0, n => name ++ Text.decimal n
  | fuel + 1, n =>
    let candidate := name ++ Text.decimal n
    if candidate ∈ seen then firstFree seen name fuel (n + 1) else candidate

def fresh (seen : List Text) (name : Text) : Text :=
  if name ∈ seen then firstFree seen name seen.length 2 else name

def uniqueFrom (seen : List Text) : List Text → List Text
  | [] => []
  | name :: rest =>
    let given := fresh seen name
    given :: uniqueFrom (given :: seen) rest

def unique (names : List Text) : List Text :=
  uniqueFrom [] names

end TypedClient.FunctionName
