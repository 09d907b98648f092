import Mathlib.Data.List.Forall2
import TypedClient.Proofs.Service.Functions
import TypedClient.Proofs.Service.PayloadParts

/-!
The order of parameters. Required ones come first, by a stable sort, and everything that is written
for the arguments of a function (its list, its documentation and its payload) has them in this order.
-/

namespace TypedClient.ClientFunction

section Flags

variable {α : Type} (late : α → Bool)

/- Nothing that is late comes before something that is not. -/
def precedes (first second : α) : Bool :=
  !late first || late second

theorem precedesTrans (first second third : α) (here : precedes late first second = true)
    (there : precedes late second third = true) : precedes late first third = true := by
  simp only [precedes, Bool.or_eq_true, Bool.not_eq_true'] at here there ⊢
  grind

theorem precedesTotal (first second : α) :
    (precedes late first second || precedes late second first) = true := by
  cases here : late first <;> cases there : late second <;> simp [precedes, here, there]

theorem sortedParts {items : List α}
    (sorted : items.Pairwise fun first second => precedes late first second = true) :
    items.filter (!late ·) ++ items.filter late = items := by
  induction items with
  | nil => rfl
  | cons item rest ih =>
    obtain ⟨first, later⟩ := List.pairwise_cons.mp sorted
    cases flag : late item with
    | false =>
      rw [List.filter_cons_of_pos (by simp [flag]), List.filter_cons_of_neg (by simp [flag]),
        List.cons_append, ih later]
    | true =>
      have all : ∀ other ∈ rest, late other = true := fun other member => by
        simpa [precedes, flag] using first other member
      have none : (item :: rest).filter (!late ·) = [] := by
        refine List.filter_eq_nil_iff.mpr fun other member => ?_
        rcases List.mem_cons.mp member with rfl | inside
        · simp [flag]
        · simp [all other inside]
      rw [none, List.nil_append, List.filter_eq_self]
      exact List.forall_mem_cons.mpr ⟨flag, all⟩

theorem sortedAlike (chosen : α → Bool)
    (alike : ∀ first second, chosen first = true → chosen second = true → late first = late second)
    (items : List α) : (items.mergeSort (precedes late)).filter chosen = items.filter chosen := by
  have flat : (items.filter chosen).Pairwise fun first second => precedes late first second = true := by
    refine List.pairwise_filter.mpr (List.pairwise_of_forall fun first second here there => ?_)
    simp [precedes, alike first second here there]
  have inside := List.sublist_mergeSort (precedesTrans late) (precedesTotal late) flat List.filter_sublist
  have kept := inside.filter chosen
  simp only [List.filter_filter, Bool.and_self] at kept
  exact (kept.eq_of_length ((List.mergeSort_perm items _).filter chosen).length_eq.symm).symm

theorem stableParts (items : List α) :
    items.filter (!late ·) ++ items.filter late = items.mergeSort (precedes late) := by
  have required := sortedAlike late (!late ·) (by simp_all) items
  have optional := sortedAlike late late (by simp_all) items
  rw [← required, ← optional]
  exact sortedParts late (List.pairwise_mergeSort (precedesTrans late) (precedesTotal late) items)

end Flags

def required (parameters : List Parameter) : List Parameter :=
  parameters.filter (!·.isOptional)

def optional (parameters : List Parameter) : List Parameter :=
  parameters.filter (·.isOptional)

structure Renders (configuration : Configuration) (parameter : Parameter) (argument : Argument) :
    Prop where
  name : argument.name = toIdentifier parameter.name
  wireName : argument.wireName = parameter.name
  type : argument.type = (mapping configuration).mapText [] parameter.type
  isOptional : argument.isOptional = parameter.isOptional

theorem argumentRenders {configuration : Configuration} {verb : Text} {routeNames : List Text}
    {parameter : Parameter} {given : Argument}
    (ok : argument configuration verb routeNames parameter = .ok given) :
    Renders configuration parameter given := by
  unfold argument at ok
  split at ok
  · contradiction
  · cases Except.ok.inj ok
    exact ⟨rfl, rfl, rfl, rfl⟩

theorem listOk {configuration : Configuration} {types : TypeTable} {operation : Operation}
    {name : Text} {function : ClientFunction}
    (ok : ofOperation configuration types operation name = .ok function) :
    function.parameterList = (", " : Text).intercalate (function.arguments.map parameterText) := by
  unfold ofOperation at ok
  dsimp only at ok
  split at ok
  · contradiction
  · cases Except.ok.inj ok
    rfl

inductive Listed (argument : Argument) : Text → Prop where
  | required (needed : argument.isOptional = false) :
      Listed argument (argument.name ++ ": " ++ argument.type)
  | optional (omitted : argument.isOptional = true) :
      Listed argument (argument.name ++ "?: " ++ argument.type)

theorem parameterListed (argument : Argument) : Listed argument (parameterText argument) := by
  unfold parameterText
  cases flag : argument.isOptional with
  | false => exact .required flag
  | true => exact .optional flag

def isDescribed (argument : Argument) : Bool :=
  argument.documentation ≠ [] ∨ argument.default ≠ none

inductive Describes (argument : Argument) : Text → Prop where
  | line (text : Text) : Describes argument ("@param " ++ argument.name ++ ' ' :: text)

theorem argumentDescribed (limits : CommentLimits) (argument : Argument) :
    (isDescribed argument = false ∧ argumentDocumentation limits argument = []) ∨
      (isDescribed argument = true ∧
        ∃ line, argumentDocumentation limits argument = [line] ∧ Describes argument line) := by
  unfold argumentDocumentation isDescribed
  cases default : argument.default with
  | some text => exact .inr ⟨by simp, _, rfl, .line _⟩
  | none =>
    cases documentation : argument.documentation with
    | nil => exact .inl ⟨by simp, by simp⟩
    | cons c rest => exact .inr ⟨by simp, _, by simp; rfl, .line _⟩

theorem argumentsDescribed (limits : CommentLimits) (arguments : List Argument) :
    List.Forall₂ Describes (arguments.filter isDescribed)
      (arguments.flatMap (argumentDocumentation limits)) := by
  induction arguments with
  | nil => exact .nil
  | cons argument rest ih =>
    rw [List.flatMap_cons]
    rcases argumentDescribed limits argument with ⟨bare, none⟩ | ⟨described, line, written, describes⟩
    · rw [none, List.filter_cons_of_neg (by simp [bare])]
      exact ih
    · rw [written, List.filter_cons_of_pos described]
      exact .cons describes ih

structure Arranged (configuration : Configuration) (operation : Operation)
    (function : ClientFunction) : Prop where
  sorted : required operation.parameters ++ optional operation.parameters =
    operation.parameters.mergeSort (precedes Parameter.isOptional)
  whole : (required operation.parameters ++ optional operation.parameters).Perm operation.parameters
  arguments : List.Forall₂ (Renders configuration)
    (required operation.parameters ++ optional operation.parameters) function.arguments
  requiredFirst : function.arguments.Pairwise fun first second =>
    first.isOptional = true → second.isOptional = true
  list : ∃ texts, List.Forall₂ Listed function.arguments texts ∧
    function.parameterList = (", " : Text).intercalate texts
  described : configuration.generateComments = true →
    ∃ lines, List.Forall₂ Describes (function.arguments.filter isDescribed) lines ∧
      function.documentation =
        Comment.multiLine configuration.commentLimits (operation.summary.getD []) ++
          Comment.multiLine configuration.commentLimits (operation.remarks.getD []) ++ lines ++
          returnDocumentation configuration.commentLimits operation.returnType
  silent : configuration.generateComments = false → function.documentation = []
  payload : ∃ content, Parts function.arguments function.payload content

theorem requiredFirst {configuration : Configuration} {parameters : List Parameter}
    {arguments : List Argument} (each : List.Forall₂ (Renders configuration)
      (required parameters ++ optional parameters) arguments) :
    arguments.Pairwise fun first second => first.isOptional = true → second.isOptional = true := by
  have flags : arguments.map (·.isOptional) =
      (required parameters ++ optional parameters).map (·.isOptional) :=
    Results.mapOfEach (List.forall₂_map_left_iff.mpr (each.imp fun _ _ renders => renders.isOptional))
  have sorted := List.pairwise_mergeSort (precedesTrans Parameter.isOptional)
    (precedesTotal Parameter.isOptional) parameters
  rw [← stableParts] at sorted
  have marked : ((required parameters ++ optional parameters).map (·.isOptional)).Pairwise
      fun first second => first = true → second = true := by
    rw [List.pairwise_map]
    exact sorted.imp fun {first second} before here => by simpa [precedes, here] using before
  rwa [← flags, List.pairwise_map] at marked

theorem parametersArranged (configuration : Configuration) (types : TypeTable) (operation : Operation)
    (name : Text) :
    ((∃ function, ofOperation configuration types operation name = .ok function) ↔ Writable operation) ∧
    ∀ function, ofOperation configuration types operation name = .ok function →
      Arranged configuration operation function := by
  refine ⟨ofOperationTotal, fun function ok => ?_⟩
  have built := (ofOperationOk ok).2
  have each : List.Forall₂ (Renders configuration)
      (required operation.parameters ++ optional operation.parameters) function.arguments :=
    built.arguments.imp fun _ _ => argumentRenders
  refine ⟨stableParts _ _, orderPerm _, each, requiredFirst each, ?_, ?_, ?_, ?_⟩
  · refine ⟨function.arguments.map parameterText, ?_, listOk ok⟩
    rw [List.forall₂_map_right_iff, List.forall₂_same]
    exact fun argument _ => parameterListed argument
  · intro commented
    refine ⟨_, argumentsDescribed configuration.commentLimits function.arguments, ?_⟩
    rw [built.documentation, documentationOf, if_pos commented]
  · intro silent
    rw [built.documentation, documentationOf, silent, if_neg Bool.false_ne_true]
  · rw [built.payload]
    exact payloadParts function.arguments

def taking (parameters : List (Text × Text × Bool × Option Text)) : Operation where
  controller := "Widget"
  action := some "Find"
  verb := some "POST"
  path := "widgets/\x7bid\x7d"
  parameters := parameters.map fun (name, source, isOptional, summary) =>
    ⟨name, "System.String", source, isOptional, none, summary⟩
  returnType := none
  summary := some "Finds widgets."
  remarks := none

theorem takingWritable (parameters : List (Text × Text × Bool × Option Text)) :
    Writable (taking parameters) := by
  intro parameter member
  obtain ⟨_, _, rfl⟩ := List.mem_map.mp member
  exact ⟨none, rfl⟩

def mixedParameters : List (Text × Text × Bool × Option Text) :=
  [("skip", "Query", true, some "Left out."), ("id", "Path", false, none),
   ("note", "Form", true, some "Kept."), ("term", "Query", false, some "Sought."),
   ("X-Tenant", "Header", true, none), ("input", "Body", false, some "Sent.")]

theorem parametersArrangedMixed :
    ∃ function, ofOperation .standard [] (taking mixedParameters) "find" = .ok function ∧
      Arranged .standard (taking mixedParameters) function := by
  obtain ⟨total, arranged⟩ := parametersArranged .standard [] (taking mixedParameters) "find"
  obtain ⟨function, ok⟩ := total.mpr (takingWritable mixedParameters)
  exact ⟨function, ok, arranged function ok⟩

end TypedClient.ClientFunction
