import Mathlib.Data.List.Forall2
import TypedClient.Proofs.Service.Address
import TypedClient.Proofs.Service.Functions
import TypedClient.Proofs.Service.Payload

/-!
How the parameters of an operation reach the server. The declaration alone decides: a parameter is in
the route by its source or by its name, and every other one is a member of one entry of the payload.
-/

namespace TypedClient.ClientFunction

/- In the route by its source, or since a segment of the path has its name. -/
def Routed (operation : Operation) (parameter : Parameter) : Prop :=
  Text.lower parameter.source ∈ routeSources ∨
    Text.lower parameter.name ∈ Url.routeNames operation.path

instance (operation : Operation) (parameter : Parameter) : Decidable (Routed operation parameter) :=
  inferInstanceAs (Decidable (_ ∨ _))

def entryOf? (operation : Operation) (parameter : Parameter) : Option Entry :=
  if Routed operation parameter then none
  else if Text.lower parameter.source = "header" then some .headers
  else if verbOf operation ∈ readOnlyVerbs ∨ Text.lower parameter.source = "query" then some .params
  else some .data

theorem entryNone {operation : Operation} {parameter : Parameter} :
    entryOf? operation parameter = none ↔ Routed operation parameter := by
  unfold entryOf?
  split_ifs with routed <;> simp [routed]

theorem channelEntry (operation : Operation) (parameter : Parameter) :
    Entry.ofChannel? (channelOf parameter (verbOf operation) (Url.routeNames operation.path)) =
      entryOf? operation parameter := by
  unfold channelOf entryOf? Routed
  dsimp only
  split_ifs <;> simp [Entry.ofChannel?, *]

theorem channelRoute (operation : Operation) (parameter : Parameter) :
    channelOf parameter (verbOf operation) (Url.routeNames operation.path) = .route ↔
      Routed operation parameter := by
  unfold channelOf Routed
  dsimp only
  split_ifs with routed <;> simp [routed]

def Stems (operation : Operation) : Parameter → Argument → Prop :=
  Given (verbOf operation) (Url.routeNames operation.path)

theorem Stems.entry {operation : Operation} {parameter : Parameter} {argument : Argument}
    (stems : Stems operation parameter argument) :
    Entry.ofChannel? argument.channel = entryOf? operation parameter := by
  rw [stems.channel, channelEntry]

theorem Stems.route {operation : Operation} {parameter : Parameter} {argument : Argument}
    (stems : Stems operation parameter argument) :
    argument.channel = .route ↔ entryOf? operation parameter = none := by
  rw [stems.channel, channelRoute, entryNone]

def pairs (operation : Operation) (function : ClientFunction) : List (Parameter × Argument) :=
  (order operation.parameters).zip function.arguments

def members (operation : Operation) (function : ClientFunction) (chosen : Option Entry) :
    List (Parameter × Argument) :=
  Entry.share (entryOf? operation ·.1) (pairs operation function) chosen

section Paired

variable {configuration : Configuration} {types : TypeTable} {operation : Operation}
  {function : ClientFunction}

theorem Built.stems (built : Built configuration types operation function) :
    List.Forall₂ (Stems operation) (order operation.parameters) function.arguments :=
  built.arguments.imp fun _ _ => argumentOk

theorem pairsArguments (built : Built configuration types operation function) :
    (pairs operation function).map Prod.snd = function.arguments :=
  List.map_snd_zip built.stems.length_eq.ge

theorem pairsParameters (built : Built configuration types operation function) :
    (pairs operation function).map Prod.fst = order operation.parameters :=
  List.map_fst_zip built.stems.length_eq.le

theorem pairStems (built : Built configuration types operation function)
    {pair : Parameter × Argument} (member : pair ∈ pairs operation function) :
    Stems operation pair.1 pair.2 :=
  (List.forall₂_iff_zip.mp built.stems).2 member

theorem memberStems (built : Built configuration types operation function) {chosen : Option Entry}
    {pair : Parameter × Argument} (member : pair ∈ members operation function chosen) :
    Stems operation pair.1 pair.2 :=
  pairStems built ((Entry.memShare _).mp member).1

theorem membersArguments (built : Built configuration types operation function)
    (chosen : Option Entry) :
    Entry.share (Entry.ofChannel? ·.channel) function.arguments chosen =
      (members operation function chosen).map Prod.snd := by
  rw [← pairsArguments built, members, Entry.share, Entry.share, List.filter_map]
  congr 1
  refine List.filter_congr fun pair member => ?_
  rw [Function.comp_apply, (pairStems built member).entry]

theorem Built.carries (built : Built configuration types operation function) :
    Carries function.payload fun entry => (members operation function (some entry)).map Prod.snd := by
  have carries := payloadCarries function.arguments
  rw [← built.payload] at carries
  simpa only [Function.comp_def, membersArguments built] using carries

theorem routedArguments (built : Built configuration types operation function) :
    Url.routed function.arguments = (members operation function none).map Prod.snd := by
  rw [← pairsArguments built, members, Entry.share, Url.routed, List.filter_map]
  congr 1
  refine List.filter_congr fun pair member => ?_
  exact decide_eq_decide.mpr (pairStems built member).route

end Paired

structure Delivery (apiPrefix : Text) (operation : Operation) (function : ClientFunction)
    (places : List Url.Place) : Prop where
  parameters : ((pairs operation function).map Prod.fst).Perm operation.parameters
  arguments : (pairs operation function).map Prod.snd = function.arguments
  named : ∀ pair ∈ pairs operation function,
    pair.2.wireName = pair.1.name ∧ pair.2.name = toIdentifier pair.1.name
  once : (Entry.all.flatMap (members operation function ∘ some) ++ members operation function none).Perm
    (pairs operation function)
  payload : Carries function.payload fun entry =>
    (members operation function (some entry)).map Prod.snd
  url : function.url = Url.literal places
  stands : List.Forall₂ (Url.Stands ((members operation function none).map Prod.snd))
    (Url.pieces (Url.full apiPrefix operation.path)) places
  alone : ∀ pair ∈ members operation function none,
    (∀ other ∈ members operation function none,
      Text.lower other.1.name = Text.lower pair.1.name → other = pair) →
    (∀ stand ∈ (Url.pieces (Url.full apiPrefix operation.path)).zip places,
      stand.2 = .filled pair.2 ↔ stand.1.named? = some (Text.lower pair.1.name)) ∧
    (Url.Closed apiPrefix → Text.lower pair.1.name ∈ Url.routeNames operation.path →
      .filled pair.2 ∈ places)

theorem delivered {configuration : Configuration} {types : TypeTable} {operation : Operation}
    {name : Text} {function : ClientFunction}
    (ok : ofOperation configuration types operation name = .ok function) :
    ∃ places, Delivery configuration.apiPrefix operation function places := by
  have built := (ofOperationOk ok).2
  obtain ⟨places, stands, url⟩ :=
    Url.buildStands configuration.apiPrefix operation.path function.arguments
  rw [← built.url] at url
  rw [routedArguments built] at stands
  refine ⟨places, ⟨?_, pairsArguments built, ?_, Entry.sharePerm _ _, built.carries, url, stands, ?_⟩⟩
  · rw [pairsParameters built]
    exact orderPerm operation.parameters
  · intro pair member
    have stems := pairStems built member
    exact ⟨stems.wireName, stems.name⟩
  · intro pair member unique
    have wireName : ∀ other ∈ members operation function none, other.2.wireName = other.1.name :=
      fun other inside => (memberStems built inside).wireName
    have alone : ∀ other ∈ (members operation function none).map Prod.snd,
        Text.lower other.wireName = Text.lower pair.2.wireName → other = pair.2 := by
      intro argument inside same
      obtain ⟨other, paired, rfl⟩ := List.mem_map.mp inside
      rw [wireName other paired, wireName pair member] at same
      rw [unique other paired same]
    have fills : ∀ stand ∈ (Url.pieces (Url.full configuration.apiPrefix operation.path)).zip places,
        stand.2 = .filled pair.2 ↔ stand.1.named? = some (Text.lower pair.1.name) := by
      intro stand inside
      rw [← wireName pair member]
      exact ((List.forall₂_iff_zip.mp stands).2 inside).alone
        (List.mem_map_of_mem member) alone
    refine ⟨fills, fun closed named => ?_⟩
    rw [Url.routeNamesPieces] at named
    obtain ⟨piece, inside, same⟩ := List.mem_filterMap.mp named
    have kept := Url.segmentFull closed same inside
    rw [← List.map_fst_zip stands.length_eq.le] at kept
    obtain ⟨stand, zipped, rfl⟩ := List.mem_map.mp kept
    exact (fills stand zipped).mpr same ▸ (List.of_mem_zip zipped).2

def getting (path : Text) (parameters : List (Text × Text)) : Operation where
  controller := "Widget"
  action := some "Get"
  verb := none
  path := path
  parameters := parameters.map fun (name, source) => ⟨name, "System.Int32", source, false, none, none⟩
  returnType := none
  summary := none
  remarks := none

theorem gettingTotal (path : Text) (parameters : List (Text × Text)) :
    ∃ function, ofOperation .standard [] (getting path parameters) "get" = .ok function := by
  have writable : Writable (getting path parameters) := by
    intro parameter member
    obtain ⟨pair, _, rfl⟩ := List.mem_map.mp member
    exact ⟨none, rfl⟩
  exact ofOperationTotal.mpr writable

def headerInRoute : Operation :=
  getting "api/widgets/\x7bid:int\x7d" [("page", "Query"), ("ID", "Header"), ("trace", "header")]

theorem deliveredWidget :
    ∃ function places, ofOperation .standard [] headerInRoute "get" = .ok function ∧
      Delivery [] headerInRoute function places := by
  obtain ⟨function, ok⟩ := gettingTotal "api/widgets/\x7bid:int\x7d"
    [("page", "Query"), ("ID", "Header"), ("trace", "header")]
  obtain ⟨places, delivery⟩ := delivered ok
  exact ⟨function, places, ok, delivery⟩

def routeUnnamed : Operation :=
  getting "api/widgets/\x7bid\x7d" [("id", "Header"), ("page", "Path")]

theorem deliveredNowhere :
    ∃ function, ofOperation .standard [] routeUnnamed "get" = .ok function ∧
      function.arguments.map (·.name) = ["id", "page"].map String.toList ∧ function.payload = [] ∧
      function.url = "\x60/api/widgets/$\x7bid\x7d\x60" ∧ ¬ ("page" : Text) <:+: function.url := by
  have run : (ofOperation .standard [] routeUnnamed "get").toOption.any (fun function =>
      function.arguments.map (·.name) = ["id", "page"].map String.toList ∧ function.payload = [] ∧
        function.url = ("\x60/api/widgets/$\x7bid\x7d\x60" : Text)) = true := by
    decide +kernel
  obtain ⟨function, ok, found⟩ := Results.okOfAny run
  obtain ⟨names, payload, url⟩ := of_decide_eq_true found
  refine ⟨function, ok, names, payload, url, ?_⟩
  rw [url]
  decide +kernel

end TypedClient.ClientFunction
