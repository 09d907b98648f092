import Mathlib.Data.List.Forall2
import TypedClient.Proofs.Service.Payload
import TypedClient.Proofs.Signature.Pieces

/-!
The payload as a partition of the arguments. An entry has the arguments of its channels, and it is
written only if there are some; every argument outside the route is a member of exactly one entry.
-/

namespace TypedClient.ClientFunction

/- A member of an object, by its key and its value. A value alone has its own name as the key. -/
inductive Member : Text × Text → Text → Prop where
  | short (name : Text) : Member (name, name) name
  | keyed {key name : Text} (other : name ≠ key) :
      Member (key, name) ('\'' :: key ++ "': " ++ name)

inductive Object (members : List (Text × Text)) : Text → Prop where
  | written {texts : List Text} (each : List.Forall₂ Member members texts) :
      Object members ("\x7b " ++ (", " : Text).intercalate texts ++ " \x7d")

def keyed (argument : Argument) : Text × Text :=
  (argument.wireName, argument.name)

theorem memberWritten (argument : Argument) : Member (keyed argument) (objectMember argument) := by
  unfold keyed objectMember
  split
  · rename_i same
    exact same ▸ .short argument.name
  · rename_i other
    exact .keyed other

theorem objectWritten (arguments : List Argument) :
    Object (arguments.map keyed) (objectLiteral arguments) := by
  refine .written ?_
  rw [List.forall₂_map_left_iff, List.forall₂_map_right_iff, List.forall₂_same]
  exact fun argument _ => memberWritten argument

theorem nameWithin {arguments : List Argument} {argument : Argument} (member : argument ∈ arguments) :
    argument.name.length < (objectLiteral arguments).length := by
  have inMember : argument.name <:+: objectMember argument := by
    unfold objectMember
    split
    · exact List.infix_rfl
    · exact (List.suffix_append _ _).isInfix
  have inObject := Text.infixIntercalate ", " (List.mem_map_of_mem (f := objectMember) member)
  have short := (inMember.trans inObject).length_le
  have marks : (objectLiteral arguments).length =
      ((", " : Text).intercalate (arguments.map objectMember)).length + 4 := by
    simp [objectLiteral]
  omega

namespace Entry

def channels : Entry → List Channel
  | params => [.query]
  | data => [.body, .payload]
  | headers => [.header]

def part (entry : Entry) (arguments : List Argument) : List Argument :=
  arguments.filter fun argument => argument.channel ∈ entry.channels

def Whole (entry : Entry) (arguments : List Argument) : Prop :=
  entry = data ∧ ∃ argument, arguments = [argument] ∧ argument.channel = .body

def content (entry : Entry) (arguments : List Argument) : Text :=
  match entry, arguments with
  | data, [argument] => if argument.channel = .body then argument.name else objectLiteral [argument]
  | _, arguments => objectLiteral arguments

theorem contentCases (entry : Entry) (arguments : List Argument) :
    (entry = data ∧ ∃ argument, arguments = [argument] ∧ argument.channel = .body ∧
      entry.content arguments = argument.name) ∨
    (¬ Whole entry arguments ∧ entry.content arguments = objectLiteral arguments) := by
  unfold content
  split
  · rename_i argument
    split
    · rename_i whole
      exact .inl ⟨rfl, argument, rfl, whole, rfl⟩
    · rename_i parts
      refine .inr ⟨?_, rfl⟩
      rintro ⟨_, _, same, whole⟩
      cases same
      exact parts whole
  · rename_i other
    refine .inr ⟨?_, rfl⟩
    rintro ⟨sent, argument, same, _⟩
    exact other argument sent same

theorem linesContent (entry : Entry) (arguments : List Argument) :
    entry.lines arguments =
      if arguments = [] then [] else [entry.name ++ ": " ++ entry.content arguments] := by
  cases arguments with
  | nil => cases entry <;> rfl
  | cons argument rest =>
    rw [if_neg (List.cons_ne_nil _ _)]
    cases entry with
    | params => rfl
    | headers => rfl
    | data =>
      cases rest with
      | cons second others => rfl
      | nil =>
        simp only [lines, dataEntry, content]
        split <;> rfl

theorem channelIff (entry : Entry) (channel : Channel) :
    channel ∈ entry.channels ↔ ofChannel? channel = some entry := by
  cases entry <;> cases channel <;> simp [channels, ofChannel?]

theorem partShare (entry : Entry) (arguments : List Argument) :
    entry.part arguments = share (ofChannel? ·.channel) arguments (some entry) :=
  List.filter_congr fun argument _ => decide_eq_decide.mpr (channelIff entry argument.channel)

end Entry

structure Parts (arguments : List Argument) (payload : List Text) (content : Entry → Text) : Prop where
  lines : payload = (Entry.all.filter fun entry => entry.part arguments ≠ []).map fun entry =>
    entry.name ++ ": " ++ content entry
  whole : ∀ entry, (∃ argument ∈ entry.part arguments, content entry = argument.name) ↔
    entry.Whole (entry.part arguments)
  object : ∀ entry, ¬ entry.Whole (entry.part arguments) →
    Object ((entry.part arguments).map keyed) (content entry)

theorem payloadParts (arguments : List Argument) :
    ∃ content, Parts arguments (payloadOf arguments) content := by
  refine ⟨fun entry => entry.content (entry.part arguments), ?_, fun entry => ?_, fun entry other => ?_⟩
  · rw [payloadLines]
    simp only [← Entry.partShare, Entry.linesContent]
    induction Entry.all with
    | nil => rfl
    | cons entry rest ih =>
      rw [List.flatMap_cons, ih, List.filter_cons]
      split <;> simp_all
  · rcases Entry.contentCases entry (entry.part arguments) with
      ⟨sent, argument, alone, body, bare⟩ | ⟨other, object⟩
    · refine iff_of_true ⟨argument, ?_, bare⟩ ⟨sent, argument, alone, body⟩
      rw [alone]
      exact List.mem_singleton_self argument
    · refine iff_of_false ?_ other
      rintro ⟨argument, member, bare⟩
      have longer := nameWithin member
      rw [← object, bare] at longer
      exact absurd longer (Nat.lt_irrefl _)
  · rcases Entry.contentCases entry (entry.part arguments) with
      ⟨sent, argument, alone, body, _⟩ | ⟨_, object⟩
    · exact absurd ⟨sent, argument, alone, body⟩ other
    · exact object ▸ objectWritten (entry.part arguments)

def knownChannels : List Channel := [.route, .query, .body, .payload, .header]

theorem channelElsewhere {channel : Channel} (known : channel ∈ knownChannels)
    (elsewhere : channel ≠ .route) : Entry.ofChannel? channel ≠ none := by
  cases channel <;> simp_all [knownChannels, Entry.ofChannel?]

theorem payloadPartitioned {arguments : List Argument}
    (known : ∀ argument ∈ arguments, argument.channel ∈ knownChannels) :
    (Entry.all.flatMap (·.part arguments)).Perm (arguments.filter (·.channel ≠ .route)) ∧
      ∃ content, Parts arguments (payloadOf arguments) content := by
  refine ⟨?_, payloadParts arguments⟩
  have parts : ∀ entry : Entry, entry.part arguments = Entry.share (Entry.ofChannel? ·.channel)
      (arguments.filter (·.channel ≠ .route)) (some entry) := by
    intro entry
    rw [Entry.partShare, Entry.share, Entry.share, List.filter_filter]
    refine List.filter_congr fun argument _ => ?_
    cases argument.channel <;> simp [Entry.ofChannel?]
  have rest : Entry.share (Entry.ofChannel? ·.channel)
      (arguments.filter (·.channel ≠ .route)) none = [] := by
    refine List.eq_nil_iff_forall_not_mem.mpr fun argument member => ?_
    obtain ⟨outside, lost⟩ := (Entry.memShare _).mp member
    obtain ⟨inside, elsewhere⟩ := List.mem_filter.mp outside
    exact channelElsewhere (known argument inside) (of_decide_eq_true elsewhere) lost
  have whole := Entry.sharePerm (Entry.ofChannel? ·.channel) (arguments.filter (·.channel ≠ .route))
  rw [rest, List.append_nil] at whole
  simp only [parts]
  exact whole

def sentAs (name wireName : Text) (channel : Channel) : Argument :=
  ⟨name, wireName, "string", false, channel, [], none⟩

def mixedArguments : List Argument :=
  [sentAs "id" "id" .route, sentAs "page" "page" .query, sentAs "X_Tenant" "X-Tenant" .header,
   sentAs "note" "note" .payload, sentAs "size" "page.size" .query, sentAs "input" "input" .body]

theorem payloadPartitionedMixed :
    (∀ argument ∈ mixedArguments, argument.channel ∈ knownChannels) ∧
      (Entry.all.flatMap (·.part mixedArguments)).Perm
        (mixedArguments.filter (·.channel ≠ .route)) ∧
      ∃ content, Parts mixedArguments (payloadOf mixedArguments) content :=
  have known : ∀ argument ∈ mixedArguments, argument.channel ∈ knownChannels := by decide
  ⟨known, payloadPartitioned known⟩

end TypedClient.ClientFunction
