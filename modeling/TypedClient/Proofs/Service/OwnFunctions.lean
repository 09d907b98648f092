import TypedClient.Proofs.Service.FunctionNames

/-!
The functions of one service. Each operation has its own one, at its place, under a name that no other
function of the service has; where that is not the proposed name, one message says so.
-/

namespace TypedClient

namespace FunctionName

theorem lowerCharNonempty (c : Char) : Text.lowerChar c ≠ [] := by
  unfold Text.lowerChar
  split_ifs <;> simp

theorem lowerNonempty (c : Char) : Text.lower [c] ≠ [] := by
  rw [Text.lower, Text.lowerFrom, Text.lowerFrom, List.append_nil]
  split_ifs
  · exact List.cons_ne_nil _ _
  · exact List.cons_ne_nil _ _
  · exact lowerCharNonempty c

theorem lowerFirstNonempty {name : Text} (filled : name ≠ []) : lowerFirst name ≠ [] := by
  obtain ⟨c, rest, rfl⟩ := List.exists_cons_of_ne_nil filled
  exact List.append_ne_nil_of_left_ne_nil (lowerNonempty c) rest

theorem ofVerbNonempty (verb : Text) : ofVerb verb ≠ [] := by
  have all : ∀ entry ∈ verbNames, entry.2 ≠ [] := by decide
  unfold ofVerb
  dsimp only
  cases found : verbNames.lookup (Text.lower (if verb.isEmpty then "get" else verb)) with
  | none => decide
  | some name =>
    obtain ⟨before, after, whole, _⟩ := List.lookup_eq_some_iff.mp found
    exact all (_, name) (whole ▸ List.mem_append_right before List.mem_cons_self)

theorem proposeNonempty (controller action verb : Text) : propose controller action verb ≠ [] := by
  unfold propose
  split
  · exact ofVerbNonempty verb
  · refine lowerFirstNonempty ?_
    split
    · exact ofVerbNonempty verb
    · rename_i short
      simpa using short

theorem candidateNonempty {name : Text} (filled : name ≠ []) (count : Nat) : candidate name count ≠ [] := by
  cases count with
  | zero => exact filled
  | succ count => exact List.append_ne_nil_of_left_ne_nil filled _

end FunctionName

namespace ServiceScope

open FunctionName (Chosen unique)

def proposal (controller : Text) (operation : Operation) : Text :=
  FunctionName.propose controller (operation.action.getD []) (operation.verb.getD [])

theorem proposedEach (controller : Text) (operations : List Operation) :
    proposedNames controller operations = operations.map (proposal controller) := rfl

structure Reaches (scope : ServiceScope) (operation : Operation) (function : ClientFunction) : Prop where
  calls : Calls scope operation function
  path : function.path = operation.path
  verb : function.verb = Text.lower (ClientFunction.verbOf operation)

def renamed (controller : Text) (pair : Operation × ClientFunction) : Bool :=
  pair.2.name != proposal controller pair.1

structure OwnFunctions (scope : ServiceScope) (controller : Text) (operations : List Operation)
    (messages : List Text) (functions : List ClientFunction) : Prop where
  reaches : List.Forall₂ (Reaches scope) operations functions
  filled : ∀ function ∈ functions, function.name ≠ []
  apart : (functions.map ClientFunction.name).Nodup
  chosen : ∀ place operation function, operations[place]? = some operation →
    functions[place]? = some function → ∃ rounds ≤ place,
      Chosen ((functions.take place).map ClientFunction.name) (proposal controller operation) function.name rounds
  told : messages = ((operations.zip functions).filter (renamed controller)).map fun pair =>
    renameMessage (serviceName controller) (proposal controller pair.1) pair.2.name

variable {scope : ServiceScope} {controller : Text} {operations : List Operation}
  {names : List Text} {functions : List ClientFunction} {service : Service}

theorem reachesOfCalls {operation : Operation} {function : ClientFunction}
    (calls : Calls scope operation function) : Reaches scope operation function := by
  have given := calls
  unfold Calls ClientFunction.ofOperation at given
  dsimp only at given
  split at given
  · contradiction
  · have same := Except.ok.inj given
    exact ⟨calls, (congrArg ClientFunction.path same).symm, (congrArg ClientFunction.verb same).symm⟩

theorem functionsNamed (short : names.length ≤ operations.length)
    (ok : scope.functions operations names = .ok functions) :
    functions.map ClientFunction.name = names := by
  have each := (Results.eachOfMapM ok).imp fun _ _ given => (ClientFunction.ofOperationOk given).1
  have inOrder : List.Forall₂ (fun name function => ClientFunction.name function = name)
      ((operations.zip names).map Prod.snd) functions := List.forall₂_map_left_iff.mpr each
  rw [List.map_snd_zip short] at inOrder
  exact Results.mapOfEach inOrder

theorem messagesTold (service controller : Text) (operations : List Operation)
    (functions : List ClientFunction) :
    renameMessages service (operations.map (proposal controller)) (functions.map ClientFunction.name) =
      ((operations.zip functions).filter (renamed controller)).map fun pair =>
        renameMessage service (proposal controller pair.1) pair.2.name := by
  rw [renameMessages, List.zip_map, List.filterMap_map]
  induction operations.zip functions with
  | nil => rfl
  | cons pair rest ih =>
    rw [List.filterMap_cons, ih, Function.comp_apply, Prod.map]
    dsimp only
    cases other : renamed controller pair with
    | true =>
      have apart : pair.2.name ≠ proposal controller pair.1 := bne_iff_ne.mp other
      rw [if_neg apart.symm, List.filter_cons_of_pos other, List.map_cons]
    | false =>
      have same : pair.2.name = proposal controller pair.1 := by simpa [renamed] using other
      rw [if_pos same.symm, List.filter_cons_of_neg (Bool.eq_false_iff.mp other)]

theorem functionsChosen
    (named : functions.map ClientFunction.name = unique (proposedNames controller operations))
    {place : Nat} {operation : Operation} {function : ClientFunction}
    (here : operations[place]? = some operation) (there : functions[place]? = some function) :
    ∃ rounds ≤ place, Chosen ((functions.take place).map ClientFunction.name)
      (proposal controller operation) function.name rounds := by
  have proposed : (proposedNames controller operations)[place]? = some (proposal controller operation) := by
    rw [proposedEach, List.getElem?_map, here, Option.map_some]
  obtain ⟨given, rounds, found, chosen⟩ := FunctionName.chosenAt proposed
  rw [← named, List.getElem?_map, there] at found
  cases Option.some.inj found
  rw [← named, ← List.map_take] at chosen
  have bound := FunctionName.triedBound chosen.tried
  rw [List.length_map] at bound
  exact ⟨rounds, Nat.le_trans bound (List.length_take_le place functions), chosen⟩

theorem buildOwn (built : (scope.build controller operations).2 = .ok service) :
    OwnFunctions scope controller operations (scope.build controller operations).1 service.functions := by
  have covered : (unique (proposedNames controller operations)).length = operations.length := by
    simp [FunctionName.lengthUnique, proposedNames]
  have reaches := (buildCalls built).2.imp fun _ _ => reachesOfCalls
  have named := functionsNamed (Nat.le_of_eq covered) (buildOk built).2
  have chosen := @functionsChosen controller operations service.functions named
  refine ⟨reaches, ?_, ?_, fun _ _ _ => chosen, ?_⟩
  · intro function member
    obtain ⟨place, there⟩ := List.mem_iff_getElem?.mp member
    obtain ⟨inside, _⟩ := List.getElem?_eq_some_iff.mp there
    have here := List.getElem?_eq_getElem (reaches.length_eq.symm ▸ inside)
    obtain ⟨rounds, _, search⟩ := chosen here there
    rw [search.reached]
    exact FunctionName.candidateNonempty (FunctionName.proposeNonempty _ _ _) rounds
  · rw [named]
    exact FunctionName.nodupUnique _
  · rw [← messagesTold, named]
    rfl

theorem everyOperationOwn (scope : ServiceScope) (controller : Text) (operations : List Operation) :
    ((∃ service, (scope.build controller operations).2 = .ok service) ↔
      ∀ operation ∈ operations, ClientFunction.Writable operation) ∧
    ∀ service, (scope.build controller operations).2 = .ok service →
      OwnFunctions scope controller operations (scope.build controller operations).1 service.functions :=
  ⟨buildTotal scope controller operations, fun _ => buildOwn⟩

def bareScope : ServiceScope :=
  ⟨.standard, .standard, []⟩

def bareOperation (action verb : Option Text) (default : Option Value) : Operation :=
  ⟨"Widget", action, verb, "widgets", [⟨"since", "System.String", "query", true, default, none⟩],
    none, none, none⟩

def repeatedOperations : List Operation :=
  [bareOperation (some "WidgetGet") none none, bareOperation (some "GetAsync") none none,
    bareOperation (some "Get2") none none, bareOperation none (some "post") none,
    bareOperation (some "Widget") (some "Get") none]

theorem everyOperationOwnRepeated :
    ∃ functions : List ClientFunction,
      functions.map ClientFunction.name = ["get", "get2", "get22", "create", "get3"] ∧
      OwnFunctions bareScope "Widget" repeatedOperations
        ["WidgetService: duplicate function name 'get' renamed to 'get2'",
          "WidgetService: duplicate function name 'get2' renamed to 'get22'",
          "WidgetService: duplicate function name 'get' renamed to 'get3'"] functions := by
  have run : (bareScope.build "Widget" repeatedOperations).2.toOption.any (fun service =>
      service.functions.map ClientFunction.name =
        (["get", "get2", "get22", "create", "get3"] : List Text)) = true := by decide +kernel
  obtain ⟨service, built, named⟩ := Results.okOfAny run
  have own := (everyOperationOwn bareScope "Widget" repeatedOperations).2 service built
  have told : (bareScope.build "Widget" repeatedOperations).1 =
      ["WidgetService: duplicate function name 'get' renamed to 'get2'",
        "WidgetService: duplicate function name 'get2' renamed to 'get22'",
        "WidgetService: duplicate function name 'get' renamed to 'get3'"] := by decide +kernel
  rw [told] at own
  exact ⟨service.functions, of_decide_eq_true named, own⟩

/- A mapping with a date as a key has no text, though the date alone has one. -/
theorem datedDefaultUnbuilt :
    (∃ service, (bareScope.build "Widget"
      [bareOperation none none (some (.scalar (.date ⟨2020, 1, 1⟩)))]).2 = .ok service) ∧
    ¬ ∃ service, (bareScope.build "Widget"
      [bareOperation none none (some (.map [(.date ⟨2020, 1, 1⟩, .scalar (.int 1))]))]).2 = .ok service := by
  constructor
  · exact ⟨_, rfl⟩
  · rintro ⟨service, built⟩
    contradiction

end ServiceScope

end TypedClient
