import TypedClient.Client.Function
import TypedClient.Declaration
import TypedClient.Proofs.Collections
import TypedClient.Proofs.Comment.Lines
import TypedClient.Proofs.Service.Functions
import TypedClient.Proofs.Service.Identifiers
import TypedClient.Proofs.Template.Standard

/-!
Documentation stays inside its comment: every comment that is written for a declaration, for a member of
one or for a client function is closed by its last two characters and nowhere before.
-/

namespace TypedClient

namespace Comment

def closing : Text := ['*', '/']

/- The closing stands in the text once, at its end. -/
def Closed (comment : Text) : Prop :=
  ∃ body, ∀ before after, comment = before ++ closing ++ after ↔ before = body ∧ after = []

theorem closedOf {body : Text} (apart : (body ++ ['*']).IsChain Apart) : Closed (body ++ closing) := by
  refine ⟨body, fun before after => ⟨fun same => ?_, ?_⟩⟩
  · cases after using List.reverseRecOn with
    | nil =>
      rw [List.append_nil] at same
      exact ⟨(List.append_cancel_right same).symm, rfl⟩
    | append_singleton front c =>
      have inside : body ++ ['*'] = before ++ '*' :: '/' :: front := by
        have cut := congrArg List.dropLast same
        rw [← List.append_assoc, List.dropLast_concat] at cut
        simpa [closing, List.dropLast_append_of_ne_nil] using cut
      rw [inside] at apart
      exact absurd ⟨rfl, rfl⟩ (List.isChain_append_cons_cons.mp apart).2.1
  · rintro ⟨rfl, rfl⟩
    rw [List.append_nil]

theorem linesWhole (first : Text) (rest : List Text) :
    Text.lines (first :: rest) = first ++ rest.flatMap ('\n' :: ·) := by
  induction rest generalizing first with
  | nil => simp [Text.lines]
  | cons second rest ih =>
    rw [Text.lines, List.intercalate_cons_cons, ← Text.lines, ih]
    simp

theorem quietLines {before after : Text} {lines : List Text}
    (each : ∀ line ∈ lines, Quiet (before ++ line ++ after)) :
    Quiet (Template.linesText before after lines) := by
  induction lines with
  | nil => exact ⟨.nil, by simp [Template.linesText]⟩
  | cons line rest ih =>
    have here := each line List.mem_cons_self
    have later := ih fun line member => each line (List.mem_cons_of_mem _ member)
    have whole : Template.linesText before after (line :: rest) =
        before ++ line ++ after ++ Template.linesText before after rest := by
      simp [Template.linesText]
    rw [whole]
    exact here.append later

theorem closedBlock {opening before after gap : Text} {lines : List Text}
    (opens : opening.IsChain Apart) (margin : Quiet before) (ends : Quiet after)
    (last : Quiet (gap ++ ['*'])) (safe : ∀ line ∈ lines, SafeLine line) :
    Closed (opening ++ Template.linesText (before ++ [' ']) after lines ++ gap ++ closing) := by
  have each : ∀ line ∈ lines, Quiet (before ++ [' '] ++ line ++ after) := by
    intro line member
    have spaced := margin.append (quietSpace (safe line member).apart)
    rw [List.append_assoc before]
    exact spaced.append ends
  refine closedOf ?_
  rw [List.append_assoc]
  exact apartAppend (apartAppend opens (quietLines each)) last

end Comment

namespace DeclarationScope

open Comment

theorem documentationBlock (scope : DeclarationScope) (type : DataType) :
    scope.documentation type = [] ∨ ∃ lines : List Text, (∀ line ∈ lines, SafeLine line) ∧
      scope.documentation type = ("/**" : Text) :: lines.map (" * " ++ ·) ++ [(" */" : Text)] := by
  unfold documentation
  dsimp only
  split
  · exact .inl rfl
  · refine .inr ⟨_, ?_, rfl⟩
    intro line member
    rcases List.mem_append.mp member with ofSummary | ofRemarks
    · exact safeMultiLine _ _ line ofSummary
    · exact safeMultiLine _ _ line ofRemarks

theorem blockText (lines : List Text) :
    Text.lines (("/**" : Text) :: lines.map (" * " ++ ·) ++ [(" */" : Text)]) =
      "/**" ++ Template.linesText ("\n *" ++ [' ']) [] lines ++ "\n " ++ closing := by
  have each : ∀ line : Text, '\n' :: (" * " ++ line) =
      [("\n *" : Text) ++ [' '], line, ([] : Text)].flatten := by
    intro line
    simp only [List.flatten_cons, List.flatten_nil, List.append_nil]
    rfl
  rw [List.cons_append, linesWhole, List.flatMap_append, List.flatMap_map]
  simp only [each, List.flatMap_singleton, Template.linesText, List.append_assoc]
  rfl

theorem closedDocumentation {scope : DeclarationScope} {type : DataType}
    (written : scope.documentation type ≠ []) :
    Closed (Text.lines (scope.documentation type)) := by
  rcases documentationBlock scope type with none | ⟨lines, safe, whole⟩
  · exact absurd none written
  · rw [whole, blockText]
    exact closedBlock (by decide) ⟨by decide, by decide⟩ ⟨.nil, by simp⟩ ⟨by decide, by decide⟩ safe

theorem unbrokenDocumentation (scope : DeclarationScope) (type : DataType) :
    ∀ line ∈ scope.documentation type, Unbroken line := by
  rcases documentationBlock scope type with none | ⟨lines, safe, whole⟩
  · rw [none]
    simp
  · rw [whole]
    intro line member
    rcases List.mem_append.mp member with (_ | ⟨_, inside⟩) | last
    · decide +kernel
    · obtain ⟨source, among, rfl⟩ := List.mem_map.mp inside
      exact Unbroken.append (by decide +kernel) (safe source among).unbroken
    · cases List.mem_singleton.mp last
      decide +kernel

theorem closedMember (scope : DeclarationScope) (summary : Option Text) :
    ∀ comment ∈ scope.memberComment summary, Closed comment ∧ Unbroken comment := by
  intro comment member
  unfold memberComment at member
  dsimp only at member
  split at member
  · cases List.mem_singleton.mp member
    have safe := safeSingleLine scope.configuration.commentLimits (summary.getD [])
    refine ⟨?_, (Unbroken.append (by decide +kernel) safe.unbroken).append (by decide +kernel)⟩
    have whole : ∀ line : Text, ("  /** " : Text) ++ line ++ " */" =
        "  /**" ++ ' ' :: line ++ [' '] ++ closing := by
      intro line
      simp only [List.append_assoc, List.cons_append]
      rfl
    rw [whole]
    refine closedOf ?_
    rw [List.append_assoc _ [' ']]
    exact apartAppend (apartAppend (by decide) (quietSpace safe.apart)) ⟨by decide, by decide⟩
  · contradiction

end DeclarationScope

namespace ClientFunction

open Comment

theorem noSlash {name : Text} (parts : Identifying name) : '/' ∉ name := by
  intro member
  exact absurd (parts '/' member) (by decide)

theorem safeIdentifying {name : Text} (parts : Identifying name) : SafeLine name where
  apart := by
    refine List.isChain_iff_forall_rel_of_append_cons_cons.mpr ?_
    rintro c d front rest rfl
    refine apartAfter c ?_
    rintro rfl
    exact noSlash parts (by simp)
  unbroken := by
    have outside : lineBreaks.all (fun c => !Declaration.identifierPart c) = true := by decide +kernel
    intro c member breaks
    have part := List.all_eq_true.mp outside c breaks
    rw [parts c member] at part
    exact Bool.false_ne_true part

theorem safeParameterLine {name line : Text} (parts : Identifying name) (safe : SafeLine line) :
    SafeLine ("@param " ++ name ++ ' ' :: line) := by
  have opening : SafeLine "@param " := ⟨by decide, by decide +kernel⟩
  have named := opening.append (safeIdentifying parts) fun first =>
    noSlash parts (List.mem_of_mem_head? first)
  exact named.append (safeSpace safe) (quietSpace safe.apart).begins

theorem safeArgument {limits : CommentLimits} {argument : Argument} (parts : Identifying argument.name) :
    ∀ line ∈ argumentDocumentation limits argument, SafeLine line := by
  intro line member
  unfold argumentDocumentation at member
  dsimp only at member
  split at member
  · cases List.mem_singleton.mp member
    exact safeParameterLine parts (safeSingleLine limits _)
  · split at member
    · contradiction
    · cases List.mem_singleton.mp member
      exact safeParameterLine parts (safeSingleLine limits _)

theorem safeReturn (limits : CommentLimits) (returnType : Option ReturnType) :
    ∀ line ∈ returnDocumentation limits returnType, SafeLine line := by
  have opening : SafeLine "@returns" := ⟨by decide, by decide +kernel⟩
  intro line member
  unfold returnDocumentation at member
  split at member
  · contradiction
  · split at member
    · contradiction
    · cases List.mem_singleton.mp member
      have safe := safeSingleLine limits (by assumption)
      exact opening.append (safeSpace safe) (quietSpace safe.apart).begins

theorem safeDocumentation {configuration : Configuration} {operation : Operation}
    {arguments : List Argument} (parts : ∀ argument ∈ arguments, Identifying argument.name) :
    ∀ line ∈ documentationOf configuration operation arguments, SafeLine line := by
  intro line member
  unfold documentationOf at member
  dsimp only at member
  split at member
  · simp only [List.mem_append, List.mem_flatMap] at member
    rcases member with ((ofSummary | ofRemarks) | ⟨argument, among, ofArgument⟩) | ofReturn
    · exact safeMultiLine _ _ line ofSummary
    · exact safeMultiLine _ _ line ofRemarks
    · exact safeArgument (parts argument among) line ofArgument
    · exact safeReturn _ _ line ofReturn
  · contradiction

theorem safeFunction {configuration : Configuration} {types : TypeTable} {operation : Operation}
    {name : Text} {function : ClientFunction}
    (ok : ofOperation configuration types operation name = .ok function) :
    ∀ line ∈ function.documentation, SafeLine line := by
  have built := (ofOperationOk ok).2
  rw [built.documentation]
  refine safeDocumentation fun argument member => ?_
  obtain ⟨parameter, _, given⟩ := Results.eachSource built.arguments member
  rw [(argumentOk given).name]
  exact identifyingIdentifier parameter.name

theorem closedFunction {configuration : Configuration} {types : TypeTable} {operation : Operation}
    {name : Text} {function : ClientFunction}
    (ok : ofOperation configuration types operation name = .ok function)
    (written : function.documentation ≠ []) (service : Service) (index count : Nat) :
    ∃ comment, Closed comment ∧
      Template.documentationPart.render (Template.functionBindings service function index count) =
        some (comment ++ ['\n']) := by
  have closed : Closed ("  /**\n" ++ Template.linesText ("   *" ++ [' ']) ['\n'] function.documentation ++
      "   " ++ closing) :=
    closedBlock (by decide) ⟨by decide, by decide⟩ ⟨by decide, by decide⟩ ⟨by decide, by decide⟩
      (safeFunction ok)
  refine ⟨_, closed, ?_⟩
  have text : ∀ body : Text, List.flatten ["  /**\n", body, "   */\n"] =
      "  /**\n" ++ body ++ "   " ++ closing ++ ['\n'] := by
    intro body
    simp only [List.flatten_cons, List.flatten_nil, List.append_nil, List.append_assoc]
    rfl
  have shown : ¬ function.documentation.isEmpty = true := by simpa using written
  rw [Template.documentationRendered, Template.documentationText, if_neg shown, text]
  rfl

end ClientFunction

namespace Comment

theorem commentsClosed :
    (∀ (scope : DeclarationScope) (type : DataType),
        (scope.documentation type ≠ [] → Closed (Text.lines (scope.documentation type))) ∧
          ∀ line ∈ scope.documentation type, Unbroken line) ∧
      (∀ (scope : DeclarationScope) (summary : Option Text), ∀ comment ∈ scope.memberComment summary,
        Closed comment ∧ Unbroken comment) ∧
      ∀ (configuration : Configuration) (types : TypeTable) (operation : Operation) (name : Text)
        (function : ClientFunction),
        ClientFunction.ofOperation configuration types operation name = .ok function →
          (∀ line ∈ function.documentation, Unbroken line) ∧
            ∀ (service : Service) (index count : Nat),
              (function.documentation = [] ∧
                Template.documentationPart.render
                  (Template.functionBindings service function index count) = some []) ∨
              ∃ comment, Closed comment ∧
                Template.documentationPart.render
                  (Template.functionBindings service function index count) =
                    some (comment ++ ['\n']) := by
  refine ⟨fun scope type => ⟨?_, ?_⟩, ?_, ?_⟩
  · exact DeclarationScope.closedDocumentation
  · exact DeclarationScope.unbrokenDocumentation scope type
  · exact DeclarationScope.closedMember
  · intro configuration types operation name function ok
    refine ⟨fun line member => (ClientFunction.safeFunction ok line member).unbroken, ?_⟩
    intro service index count
    by_cases written : function.documentation = []
    · refine .inl ⟨written, ?_⟩
      rw [Template.documentationRendered, written]
      rfl
    · exact .inr (ClientFunction.closedFunction ok written service index count)

def sampleScope : DeclarationScope where
  configuration := { Configuration.standard with commentLimits := ⟨12, 1, false, true⟩ }
  types := []
  declared := []

def sampleType : DataType where
  name := "Order"
  namespaceName := none
  baseType := none
  genericArguments := []
  properties := []
  members := []
  summary := some "**/ a\u2028b\r/*&gt;"
  remarks := none

def sampleSummary : Text := "*/*&lt;/ \x0B &amp; more"

def sampleOperation : Operation where
  controller := "Order"
  action := none
  verb := none
  path := []
  parameters := [⟨"*/", "int", [], false, some (.scalar (.text "*/")), some "*"⟩]
  returnType := none
  summary := none
  remarks := none

theorem commentsClosedAround :
    (sampleScope.documentation sampleType =
        ["/**", " * **\u200b/ a b", " * ...", " */"].map String.toList ∧
      Closed (Text.lines (sampleScope.documentation sampleType))) ∧
    (sampleScope.memberComment (some sampleSummary) =
        [("  /** *\u200b/\u200b*</ &... */" : Text)] ∧
      Closed ("  /** *\u200b/\u200b*</ &... */" : Text)) ∧
    ∃ function, ClientFunction.ofOperation sampleScope.configuration [] sampleOperation "get" =
        .ok function ∧
      function.documentation = [("@param __ * (defaul..." : Text)] ∧
      ∃ comment, Closed comment ∧
        Template.documentationPart.render
          (Template.functionBindings ⟨"OrderService", [], "request", [function]⟩ function 0 1) =
            some (comment ++ ['\n']) := by
  obtain ⟨declarations, members, functions⟩ := commentsClosed
  have documented : sampleScope.documentation sampleType =
      ["/**", " * **\u200b/ a b", " * ...", " */"].map String.toList := by decide +kernel
  have commented : sampleScope.memberComment (some sampleSummary) =
      [("  /** *\u200b/\u200b*</ &... */" : Text)] := by decide +kernel
  refine ⟨⟨documented, (declarations _ _).1 (by rw [documented]; simp)⟩, ⟨commented, ?_⟩, ?_⟩
  · exact (members sampleScope (some sampleSummary) _ (commented ▸ List.mem_cons_self)).1
  · refine ⟨_, rfl, by decide +kernel, ?_⟩
    rcases (functions sampleScope.configuration [] sampleOperation "get" _ rfl).2 _ 0 1 with
      ⟨empty, _⟩ | closed
    · exact absurd empty (by decide +kernel)
    · exact closed

end Comment

end TypedClient
