import TypedClient.Generation
import TypedClient.Proofs.Collections

/-!
The functions of a service, one for each operation and in the order of the operations. A service is
built where the defaults of all its parameters can be written.
-/

namespace TypedClient

namespace FunctionName

theorem lengthUniqueFrom (seen names : List Text) : (uniqueFrom seen names).length = names.length := by
  induction names generalizing seen with
  | nil => rfl
  | cons name rest ih => exact congrArg (· + 1) (ih _)

theorem lengthUnique (names : List Text) : (unique names).length = names.length :=
  lengthUniqueFrom [] names

end FunctionName

namespace ClientFunction

/- The only fault of a function: a default of a parameter that no text can be given for. -/
def Writable (operation : Operation) : Prop :=
  ∀ parameter ∈ operation.parameters, ∃ text, defaultText parameter.defaultValue = .ok text

theorem argumentTotal {configuration : Configuration} {verb : Text} {routeNames : List Text}
    {parameter : Parameter} :
    (∃ given, argument configuration verb routeNames parameter = .ok given) ↔
      ∃ text, defaultText parameter.defaultValue = .ok text := by
  unfold argument
  cases defaultText parameter.defaultValue <;> simp

theorem orderPerm (parameters : List Parameter) : (order parameters).Perm parameters := by
  have parts := List.filter_append_perm (fun parameter : Parameter => !parameter.isOptional) parameters
  simpa [order] using parts

theorem memOrder {parameters : List Parameter} {parameter : Parameter} :
    parameter ∈ order parameters ↔ parameter ∈ parameters :=
  (orderPerm parameters).mem_iff

theorem ofOperationTotal {configuration : Configuration} {types : TypeTable} {operation : Operation}
    {name : Text} :
    (∃ function, ofOperation configuration types operation name = .ok function) ↔
      Writable operation := by
  have all : (∃ arguments, (order operation.parameters).mapM
      (argument configuration (verbOf operation) (Url.routeNames operation.path)) = .ok arguments) ↔
      ∀ parameter ∈ order operation.parameters, ∃ given,
        argument configuration (verbOf operation) (Url.routeNames operation.path) parameter =
          .ok given := Results.mapMTotal
  simp only [argumentTotal, memOrder] at all
  rw [Writable, ← all, ofOperation]
  split
  · rename_i failed
    simp [failed]
  · rename_i arguments ok
    simp [ok]

structure Given (verb : Text) (routeNames : List Text) (parameter : Parameter) (given : Argument) :
    Prop where
  name : given.name = toIdentifier parameter.name
  wireName : given.wireName = parameter.name
  channel : given.channel = channelOf parameter verb routeNames

theorem argumentOk {configuration : Configuration} {verb : Text} {routeNames : List Text}
    {parameter : Parameter} {given : Argument}
    (ok : argument configuration verb routeNames parameter = .ok given) :
    Given verb routeNames parameter given := by
  unfold argument at ok
  split at ok
  · contradiction
  · cases Except.ok.inj ok
    exact ⟨rfl, rfl, rfl⟩

/- What a function holds, told by its own arguments: one for each parameter, required ones first. -/
structure Built (configuration : Configuration) (types : TypeTable) (operation : Operation)
    (function : ClientFunction) : Prop where
  arguments : List.Forall₂ (fun parameter given =>
    argument configuration (verbOf operation) (Url.routeNames operation.path) parameter = .ok given)
    (order operation.parameters) function.arguments
  returnType : function.returnType = returnTypeOf configuration types operation
  url : function.url = Url.build configuration.apiPrefix operation.path function.arguments
  payload : function.payload = payloadOf function.arguments
  documentation : function.documentation =
    documentationOf configuration operation function.arguments

theorem ofOperationOk {configuration : Configuration} {types : TypeTable} {operation : Operation}
    {name : Text} {function : ClientFunction}
    (ok : ofOperation configuration types operation name = .ok function) :
    function.name = name ∧ Built configuration types operation function := by
  unfold ofOperation at ok
  dsimp only at ok
  split at ok
  · contradiction
  · rename_i arguments given
    cases Except.ok.inj ok
    exact ⟨rfl, Results.eachOfMapM given, rfl, rfl, rfl, rfl⟩

end ClientFunction

namespace ServiceScope

variable {scope : ServiceScope} {controller : Text} {operations : List Operation} {service : Service}

def Calls (scope : ServiceScope) (operation : Operation) (function : ClientFunction) : Prop :=
  ClientFunction.ofOperation scope.configuration scope.types operation function.name = .ok function

theorem callsOfOk {operation : Operation} {name : Text} {function : ClientFunction}
    (ok : ClientFunction.ofOperation scope.configuration scope.types operation name = .ok function) :
    Calls scope operation function := by
  have named := (ClientFunction.ofOperationOk ok).1
  rwa [Calls, named]

theorem functionsCall {names : List Text} {functions : List ClientFunction}
    (long : operations.length ≤ names.length)
    (ok : scope.functions operations names = .ok functions) :
    List.Forall₂ (Calls scope) operations functions := by
  have each := (Results.eachOfMapM ok).imp fun _ _ => callsOfOk
  rwa [← List.forall₂_map_left_iff, List.map_fst_zip long] at each

theorem functionsTotal (scope : ServiceScope) {names : List Text}
    (long : operations.length ≤ names.length) :
    (∃ functions, scope.functions operations names = .ok functions) ↔
      ∀ operation ∈ operations, ClientFunction.Writable operation := by
  unfold functions
  rw [Results.mapMTotal]
  simp only [ClientFunction.ofOperationTotal]
  constructor
  · intro all operation member
    rw [← List.map_fst_zip long] at member
    obtain ⟨pair, inside, rfl⟩ := List.mem_map.mp member
    exact all pair inside
  · intro all pair inside
    exact all pair.1 (List.of_mem_zip inside).1

theorem namesCover (controller : Text) (operations : List Operation) :
    operations.length ≤ (FunctionName.unique (proposedNames controller operations)).length := by
  simp [FunctionName.lengthUnique, proposedNames]

theorem buildOk (built : (scope.build controller operations).2 = .ok service) :
    service.name = serviceName controller ∧
      scope.functions operations (FunctionName.unique (proposedNames controller operations)) =
        .ok service.functions := by
  unfold build at built
  dsimp only at built
  split at built
  · contradiction
  · rename_i functions ok
    cases Except.ok.inj built
    exact ⟨rfl, ok⟩

theorem buildCalls (built : (scope.build controller operations).2 = .ok service) :
    service.name = serviceName controller ∧ List.Forall₂ (Calls scope) operations service.functions := by
  obtain ⟨named, ok⟩ := buildOk built
  exact ⟨named, functionsCall (namesCover controller operations) ok⟩

theorem buildTotal (scope : ServiceScope) (controller : Text) (operations : List Operation) :
    (∃ service, (scope.build controller operations).2 = .ok service) ↔
      ∀ operation ∈ operations, ClientFunction.Writable operation := by
  rw [← functionsTotal scope (namesCover controller operations), build]
  dsimp only
  split
  · rename_i failed
    simp [failed]
  · rename_i functions ok
    simp [ok]

end ServiceScope

end TypedClient
