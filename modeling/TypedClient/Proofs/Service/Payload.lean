import TypedClient.Client.Function

/-!
The payload of a function. Each argument outside the route has one entry. The arguments of an entry
are written together, in their order, as the members of one object; a single body stands alone.
-/

namespace TypedClient.ClientFunction

inductive Entry where
  | params
  | data
  | headers
  deriving DecidableEq, Repr

namespace Entry

def all : List Entry := [params, data, headers]

def name : Entry → Text
  | params => "params"
  | data => "data"
  | headers => "headers"

def ofChannel? : Channel → Option Entry
  | .query => some params
  | .body | .payload => some data
  | .header => some headers
  | .route | .other _ => none

theorem ofQuery (channel : Channel) : (channel == .query) = decide (ofChannel? channel = some params) := by
  cases channel <;> rfl

theorem ofData (channel : Channel) :
    (channel == .body || channel == .payload) = decide (ofChannel? channel = some data) := by
  cases channel <;> rfl

theorem ofHeader (channel : Channel) :
    (channel == .header) = decide (ofChannel? channel = some headers) := by
  cases channel <;> rfl

section Share

variable {α : Type} (entryOf? : α → Option Entry)

def share (items : List α) (chosen : Option Entry) : List α :=
  items.filter fun item => entryOf? item = chosen

theorem memShare {items : List α} {chosen : Option Entry} {item : α} :
    item ∈ share entryOf? items chosen ↔ item ∈ items ∧ entryOf? item = chosen := by
  simp [share]

theorem sharePerm (items : List α) :
    (all.flatMap (share entryOf? items ∘ some) ++ share entryOf? items none).Perm items := by
  induction items with
  | nil => rfl
  | cons item rest ih =>
    simp only [all, List.flatMap_cons, List.flatMap_nil, List.append_nil, Function.comp_apply,
      List.append_assoc] at ih ⊢
    unfold share at ih ⊢
    match found : entryOf? item with
    | some .params => simpa [found] using ih
    | some .data =>
      simp only [List.filter_cons, found]
      exact List.perm_middle.trans (ih.cons item)
    | some .headers =>
      simp only [List.filter_cons, found, ← List.append_assoc]
      simp only [← List.append_assoc] at ih
      exact (List.perm_middle.append_right _).trans (ih.cons item)
    | none =>
      simp only [List.filter_cons, found, ← List.append_assoc]
      simp only [← List.append_assoc] at ih
      exact List.perm_middle.trans (ih.cons item)

end Share

inductive Writes (entry : Entry) : List Argument → List Text → Prop where
  | nothing : Writes entry [] []
  | body {argument : Argument} (sent : entry = data) (whole : argument.channel = .body) :
      Writes entry [argument] [entry.name ++ ": " ++ argument.name]
  | object {arguments : List Argument} (some : arguments ≠ [])
      (parts : ¬ ∃ argument, entry = data ∧ arguments = [argument] ∧ argument.channel = .body) :
      Writes entry arguments [entry.name ++ ": " ++ objectLiteral arguments]

theorem Writes.named {entry : Entry} (other : entry ≠ data) (arguments : List Argument) :
    Writes entry arguments (namedEntry entry.name arguments) := by
  cases arguments with
  | nil => exact .nothing
  | cons argument rest => exact .object (List.cons_ne_nil _ _) fun ⟨_, same, _⟩ => other same

theorem Writes.sent (arguments : List Argument) : Writes data arguments (dataEntry arguments) := by
  unfold dataEntry
  split
  · exact .nothing
  · split
    · rename_i argument whole
      exact .body rfl whole
    · rename_i argument whole
      refine .object (List.cons_ne_nil _ _) ?_
      rintro ⟨other, _, same, whole'⟩
      cases same
      exact whole whole'
  · rename_i none single
    exact .object none fun ⟨argument, _, same, _⟩ => single argument same

def lines (entry : Entry) (arguments : List Argument) : List Text :=
  match entry with
  | params => namedEntry "params" arguments
  | data => dataEntry arguments
  | headers => namedEntry "headers" arguments

theorem linesWrite (entry : Entry) (arguments : List Argument) :
    Writes entry arguments (lines entry arguments) := by
  cases entry with
  | params => exact .named (by decide) arguments
  | data => exact .sent arguments
  | headers => exact .named (by decide) arguments

end Entry

def Carries (payload : List Text) (members : Entry → List Argument) : Prop :=
  ∃ lines : Entry → List Text, (∀ entry, Entry.Writes entry (members entry) (lines entry)) ∧
    payload = Entry.all.flatMap lines

theorem payloadLines (arguments : List Argument) :
    payloadOf arguments = Entry.all.flatMap fun entry =>
      entry.lines (Entry.share (Entry.ofChannel? ·.channel) arguments (some entry)) := by
  have query : arguments.filter (·.channel == .query) =
      Entry.share (Entry.ofChannel? ·.channel) arguments (some .params) :=
    List.filter_congr fun argument _ => Entry.ofQuery argument.channel
  have sent : arguments.filter isData =
      Entry.share (Entry.ofChannel? ·.channel) arguments (some .data) :=
    List.filter_congr fun argument _ => Entry.ofData argument.channel
  have header : arguments.filter (·.channel == .header) =
      Entry.share (Entry.ofChannel? ·.channel) arguments (some .headers) :=
    List.filter_congr fun argument _ => Entry.ofHeader argument.channel
  rw [payloadOf, query, sent, header, List.append_assoc, Entry.all, List.flatMap_cons,
    List.flatMap_cons, List.flatMap_singleton]
  rfl

theorem payloadCarries (arguments : List Argument) :
    Carries (payloadOf arguments)
      (Entry.share (Entry.ofChannel? ·.channel) arguments ∘ some) :=
  ⟨_, fun entry => Entry.linesWrite entry _, payloadLines arguments⟩

end TypedClient.ClientFunction
