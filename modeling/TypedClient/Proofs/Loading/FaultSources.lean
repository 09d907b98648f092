import TypedClient.Yaml.Reader

/-!
Where the faults of the YAML reader come from. What reads tokens, resolves merge keys and builds
values refuses a text as malformed and nothing else; every other fault was met before it, in a token
that cannot be read, or below it, in a scalar that has no value.
-/

namespace TypedClient.Yaml

variable {σ α β : Type} {valid : σ → Prop} {source : Fault → Prop}

/- From a valid state a step ends in a valid state or with a fault of a known source. -/
def Within (valid : σ → Prop) (source : Fault → Prop) (step : StateT σ (Except Fault) α) : Prop :=
  ∀ state, valid state →
    (∃ value after, step.run state = .ok (value, after) ∧ valid after) ∨
      ∃ fault, step.run state = .error fault ∧ source fault

theorem withinPure (value : α) : Within valid source (pure value) :=
  fun state kept => .inl ⟨value, state, rfl, kept⟩

theorem withinThrow {fault : Fault} (known : source fault) :
    Within valid source (throw fault : StateT σ (Except Fault) α) :=
  fun _ _ => .inr ⟨fault, rfl, known⟩

theorem withinSet {state : σ} (kept : valid state) : Within valid source (set state) :=
  fun _ _ => .inl ⟨_, state, rfl, kept⟩

theorem withinModify {change : σ → σ} (kept : ∀ state, valid state → valid (change state)) :
    Within valid source (modify change : StateT σ (Except Fault) Unit) :=
  fun state here => .inl ⟨_, change state, rfl, kept state here⟩

theorem withinBind {step : StateT σ (Except Fault) α} {next : α → StateT σ (Except Fault) β}
    (first : Within valid source step) (others : ∀ value, Within valid source (next value)) :
    Within valid source (step >>= next) := by
  intro state kept
  rcases first state kept with ⟨value, after, ran, still⟩ | ⟨fault, ran, known⟩
  · rcases others value after still with ⟨result, last, ended, stays⟩ | ⟨fault, ended, known⟩
    · exact .inl ⟨result, last, by rw [StateT.run_bind, ran]; exact ended, stays⟩
    · exact .inr ⟨fault, by rw [StateT.run_bind, ran]; exact ended, known⟩
  · exact .inr ⟨fault, by rw [StateT.run_bind, ran]; rfl, known⟩

theorem withinGet {next : σ → StateT σ (Except Fault) β}
    (others : ∀ state, valid state → Within valid source (next state)) :
    Within valid source (get >>= next) :=
  fun state kept => others state kept state kept

theorem withinMap {step : StateT σ (Except Fault) α} (change : α → β)
    (first : Within valid source step) : Within valid source (change <$> step) := by
  rw [map_eq_pure_bind]
  exact withinBind first fun _ => withinPure _

theorem withinIf {condition : Prop} [Decidable condition] {first second : StateT σ (Except Fault) α}
    (yes : Within valid source first) (no : Within valid source second) :
    Within valid source (if condition then first else second) := by
  split
  · exact yes
  · exact no

theorem withinForM {items : List α} {step : α → StateT σ (Except Fault) Unit}
    (each : ∀ item, Within valid source (step item)) : Within valid source (items.forM step) := by
  induction items with
  | nil => exact withinPure ()
  | cons item rest ih => exact withinBind (each item) fun _ => ih

theorem withinMapM {items : List α} {step : α → StateT σ (Except Fault) β}
    (each : ∀ item, Within valid source (step item)) : Within valid source (items.mapM step) := by
  induction items with
  | nil => exact withinPure _
  | cons item rest ih =>
    rw [List.mapM_cons]
    exact withinBind (each item) fun _ => withinBind ih fun _ => withinPure _

namespace Graph

theorem nodeSet (graph : Graph) (number other : Nat) (node : Node) :
    Graph.node (graph.setIfInBounds number node) other =
      if other = number ∧ number < graph.size then node else graph.node other := by
  unfold Graph.node
  rw [Array.getD_eq_getD_getElem?, Array.getD_eq_getD_getElem?, Array.getElem?_setIfInBounds]
  by_cases same : number = other
  · subst same
    by_cases inside : number < graph.size
    · simp [inside]
    · simp [inside]
  · simp [same, Ne.symm same]

theorem boundedOfMapping {graph : Graph} {number : Nat} (mapping : graph.isMapping number = true) :
    number < graph.size := by
  refine Nat.lt_of_not_le fun outside => ?_
  have nothing : graph.node number = default := by
    rw [node, Array.getD_eq_getD_getElem?, Array.getElem?_eq_none outside]
    rfl
  rw [isMapping, nothing] at mapping
  cases mapping

theorem entriesOfOther {graph : Graph} {number : Nat} (other : graph.isMapping number = false) :
    graph.entries number = [] := by
  unfold isMapping at other
  unfold entries
  split <;> simp_all

/- One graph after merging: mappings have other entries, and the key that stands for a value has become
a text. -/
structure Alike (first second : Graph) : Prop where
  tags : ∀ number, second.tag number = first.tag number ∨
    second.tag number = Tag.text ∧ first.tag number = Tag.value
  contents : ∀ number, (second.node number).content = (first.node number).content ∨
    second.isMapping number = true ∧ first.isMapping number = true

theorem Alike.refl (graph : Graph) : Alike graph graph :=
  ⟨fun _ => .inl rfl, fun _ => .inl rfl⟩

theorem Alike.mappings {first second : Graph} (alike : Alike first second) (number : Nat) :
    second.isMapping number = first.isMapping number := by
  rcases alike.contents number with same | ⟨mapping, mappingFirst⟩
  · rw [isMapping, isMapping, same]
  · rw [mapping, mappingFirst]

theorem Alike.setMapping {first second : Graph} (alike : Alike first second) {number : Nat}
    (mapping : first.isMapping number = true) (entries : List (Nat × Nat)) :
    Alike first (second.setContent number (.mapping entries)) := by
  have inside := boundedOfMapping ((alike.mappings number).trans mapping)
  refine ⟨fun other => ?_, fun other => ?_⟩
  · rw [tag, setContent, nodeSet]
    split
    · rename_i here
      obtain ⟨rfl, _⟩ := here
      exact alike.tags other
    · exact alike.tags other
  · rw [isMapping, setContent, nodeSet]
    split
    · rename_i here
      obtain ⟨rfl, _⟩ := here
      exact .inr ⟨rfl, mapping⟩
    · exact alike.contents other

theorem Alike.setText {first second : Graph} (alike : Alike first second) {number : Nat}
    (valued : second.tag number = Tag.value) : Alike first (second.setTag number Tag.text) := by
  have different : Tag.value ≠ Tag.text := by decide
  refine ⟨fun other => ?_, fun other => ?_⟩
  · rw [tag, setTag, nodeSet]
    split
    · rename_i here
      obtain ⟨rfl, _⟩ := here
      rcases alike.tags other with same | ⟨text, _⟩
      · exact .inr ⟨rfl, same.symm.trans valued⟩
      · exact absurd (valued.symm.trans text) different
    · exact alike.tags other
  · rw [isMapping, setTag, nodeSet]
    split
    · rename_i here
      obtain ⟨rfl, _⟩ := here
      exact alike.contents other
    · exact alike.contents other

end Graph
namespace Merging

variable {start : Graph} {inner : Nat → Merging Unit}

/- Merging keeps all but the entries of mappings, and it refuses and does nothing else. -/
abbrev Only (start : Graph) (step : Merging α) : Prop :=
  Within (Graph.Alike start) (· = .malformed) step

theorem onlyResolved (each : ∀ number, Only start (inner number)) (number : Nat) :
    Only start (resolved inner number) := by
  have entries : Only start (do
      inner number
      let graph ← get
      return graph.entries number) :=
    withinBind (each number) fun _ => withinGet fun _ _ => withinPure _
  exact withinGet fun graph _ => withinIf (withinBind (withinThrow rfl) fun _ => entries) entries

theorem onlyContribution (each : ∀ number, Only start (inner number)) (number : Nat) :
    Only start (contribution inner number) := by
  refine withinGet fun graph _ => ?_
  split
  · exact withinBind (withinMapM (onlyResolved each)) fun _ => withinPure _
  · exact onlyResolved each number

theorem onlyGather (each : ∀ number, Only start (inner number)) {number : Nat}
    (mapping : start.isMapping number = true) (entries : List (Nat × Nat)) :
    Only start (gather inner number entries) := by
  induction entries with
  | nil => exact withinPure _
  | cons entry rest ih =>
    refine withinGet fun graph alike => withinIf (withinIf ?_ ih) ?_
    · refine withinBind (withinSet (alike.setMapping mapping _)) fun _ => ?_
      exact withinBind (onlyContribution each _) fun _ => withinBind ih fun _ => withinPure _
    · split
      · rename_i valued
        exact withinBind (withinSet (alike.setText valued)) fun _ => ih
      · exact ih

theorem onlyResolve (fuel number : Nat) : Only start (resolve fuel number) := by
  induction fuel generalizing number with
  | zero => exact withinThrow rfl
  | succ fuel ih =>
    refine withinGet fun graph alike => ?_
    rcases mapping : start.isMapping number with - | -
    · have entries : graph.entries number = [] :=
        Graph.entriesOfOther ((alike.mappings number).trans mapping)
      rw [entries, gather, pure_bind]
      exact withinPure ()
    · refine withinBind (onlyGather ih mapping _) fun merged => withinIf ?_ (withinPure _)
      exact withinModify fun _ alike => alike.setMapping mapping _

end Merging

theorem resolveMergesFault {start graph : Graph} (alike : start.Alike graph) {number : Nat}
    {fault : Fault} (failed : graph.resolveMerges number = .error fault) : fault = .malformed := by
  unfold Graph.resolveMerges at failed
  rcases Merging.onlyResolve (graph.entryCount + 2) number graph alike with
    ⟨_, _, ran, _⟩ | ⟨other, ran, refused⟩
  · rw [ran] at failed
    cases failed
  · rw [ran] at failed
    cases failed
    exact refused

theorem resolveMergesAlike {start graph merged : Graph} (alike : start.Alike graph) {number : Nat}
    (resolved : graph.resolveMerges number = .ok merged) : start.Alike merged := by
  unfold Graph.resolveMerges at resolved
  rcases Merging.onlyResolve (graph.entryCount + 2) number graph alike with
    ⟨_, _, ran, still⟩ | ⟨other, ran, _⟩
  · rw [ran] at resolved
    cases resolved
    exact still
  · rw [ran] at resolved
    cases resolved

def OfScalar (start : Graph) (fault : Fault) : Prop :=
  fault = .malformed ∨ ∃ (graph : Graph) (number : Nat), start.Alike graph ∧
    graph.scalar number = .error fault

namespace Build

variable {start : Graph}

abbrev Only (start : Graph) (step : Build α) : Prop :=
  Within (fun builder => start.Alike builder.graph) (OfScalar start) step

theorem onlyRefuse : Only start (refuse : Build α) :=
  withinThrow (.inl rfl)

theorem onlyBegin (number : Nat) : Only start (begin number) := by
  refine withinGet fun builder alike => ?_
  split
  · exact withinPure _
  · refine withinIf (withinBind (withinSet alike) fun _ => withinPure _) ?_
    split
    · exact withinBind (withinSet alike) fun _ => withinPure _
    · rename_i fault failed
      exact withinThrow (.inr ⟨builder.graph, number, alike, failed⟩)

theorem onlyItems (number : Nat) : Only start (items number) := by
  refine withinGet fun builder _ => ?_
  split
  · exact withinPure _
  · exact onlyRefuse

theorem onlyPair (number : Nat) : Only start (pair number) := by
  refine withinGet fun builder _ => ?_
  split
  · exact withinBind (onlyBegin _) fun _ => withinBind (onlyBegin _) fun _ => withinPure _
  · exact onlyRefuse

theorem onlyEntry (key value : Nat) : Only start (entry key value) := by
  refine withinBind (onlyBegin key) fun built => ?_
  split
  · exact withinBind (onlyBegin value) fun _ => withinGet fun _ _ => withinPure _
  · exact onlyRefuse

theorem onlyTable (number : Nat) : Only start (table number) := by
  refine withinGet fun builder alike => ?_
  rcases resolved : builder.graph.resolveMerges number with fault | graph
  · have refused := resolveMergesFault alike resolved
    exact withinIf (withinBind onlyRefuse fun _ => withinThrow (.inl refused))
      (withinThrow (.inl refused))
  · have still := resolveMergesAlike alike resolved
    refine withinIf (withinBind onlyRefuse fun _ => ?_) ?_ <;>
      exact withinBind (withinSet still) fun _ =>
        withinBind (withinMapM fun _ => onlyEntry _ _) fun _ => withinPure _

theorem onlyCollection (number : Nat) : Only start (collection number) := by
  refine withinGet fun builder _ => withinIf ?_ (withinIf ?_ (withinIf ?_ ?_))
  · exact withinBind (onlyTable number) fun _ => withinPure _
  · exact withinBind (onlyTable number) fun _ => withinPure _
  · refine withinBind (onlyItems number) fun items => ?_
    exact withinBind (withinForM fun item => withinBind (onlyBegin item) fun _ => withinPure _)
      fun _ => withinPure _
  · refine withinBind (onlyItems number) fun items => ?_
    exact withinBind (withinMapM onlyPair) fun _ => withinPure _

theorem onlyFinish (number : Nat) : Only start (finish number) :=
  withinBind (onlyCollection number) fun _ => withinModify fun _ alike => alike

theorem onlyLevels (fuel : Nat) : Only start (levels fuel) := by
  induction fuel with
  | zero => exact withinPure ()
  | succ fuel ih =>
    refine withinGet fun builder _ => ?_
    split
    · exact withinPure ()
    · refine withinBind (withinModify fun _ alike => alike) fun _ => ?_
      exact withinBind (withinForM onlyFinish) fun _ => ih

end Build

theorem valueFault {graph : Graph} {root : Nat} {fault : Fault}
    (failed : graph.value root = .error fault) : OfScalar graph fault := by
  have work := withinBind (Build.onlyBegin root) (fun _ => Build.onlyLevels (graph.size + 1))
    ⟨graph, Array.replicate graph.size none, []⟩ (Graph.Alike.refl graph)
  unfold Graph.value at failed
  dsimp only at failed
  rcases work with ⟨_, _, ran, _⟩ | ⟨other, ran, known⟩
  · rw [ran] at failed
    cases failed
  · rw [ran] at failed
    cases failed
    exact known

namespace Compose

variable {tokens : List Token}

/- The tokens left are some of the document's, and the only faults are those that stand among them. -/
abbrev Only (tokens : List Token) (step : Compose α) : Prop :=
  Within (fun composer => composer.tokens ⊆ tokens)
    (fun fault => fault = .malformed ∨ .unreadable fault ∈ tokens) step

theorem onlyRefuse : Only tokens (refuse : Compose α) :=
  withinThrow (.inl rfl)

theorem onlyNext : Only tokens next := by
  refine withinGet fun composer kept => ?_
  split
  · rename_i fault first
    exact withinThrow (.inr (kept (List.mem_of_mem_head? first)))
  · exact withinPure _

theorem onlySkip : Only tokens skip :=
  withinModify fun _ kept => fun _ inside => kept (List.mem_of_mem_tail inside)

theorem onlyNextIs (others : List Token) : Only tokens (nextIs others) := by
  refine withinBind onlyNext fun token => ?_
  split
  · exact withinPure _
  · exact withinPure _

theorem onlyAdd (anchor : Option Text) (node : Node) : Only tokens (add anchor node) :=
  withinGet fun _ kept => withinBind (withinSet kept) fun _ => withinPure _

theorem onlyEmpty : Only tokens empty :=
  onlyAdd none _

theorem onlyFullTag (handle : Option Text) (suffix : Text) :
    Only tokens (fullTag handle suffix) := by
  unfold fullTag
  split
  · exact withinPure _
  · refine withinGet fun composer _ => ?_
    split
    · exact withinPure _
    · exact onlyRefuse

theorem onlyProperties : Only tokens properties := by
  refine withinBind onlyNext fun token => ?_
  split
  · refine withinBind onlySkip fun _ => withinBind onlyNext fun token => ?_
    split
    · exact withinBind onlySkip fun _ => withinBind (onlyFullTag _ _) fun _ => withinPure _
    · exact withinPure _
  · refine withinBind onlySkip fun _ => withinBind onlyNext fun token => ?_
    split
    · exact withinBind onlySkip fun _ => withinBind (onlyFullTag _ _) fun _ => withinPure _
    · exact withinBind (onlyFullTag _ _) fun _ => withinPure _
  · exact withinPure _

theorem onlyCollection {content : Compose Content} (anchor tag : Option Text) (kind : Text)
    (inside : Only tokens content) : Only tokens (collection anchor tag kind content) := by
  refine withinBind (onlyAdd _ _) fun number => withinBind inside fun content => ?_
  exact withinBind (withinModify fun _ kept => kept) fun _ => withinPure _

theorem onlyMissing (anchor tag : Option Text) : Only tokens (missing anchor tag) := by
  unfold missing
  split
  · exact onlyRefuse
  · exact onlyAdd _ _

theorem onlyReferred (name : Text) : Only tokens (referred name) := by
  refine withinGet fun composer _ => ?_
  split
  · exact withinPure _
  · exact onlyRefuse

theorem onlyPart {part : Compose Nat} {join : Nat → Compose β} (here : Only tokens part)
    (joined : ∀ number, Only tokens (join number)) (absent : Bool) :
    Only tokens (if absent = true then empty >>= join else part >>= join) :=
  withinIf (withinBind onlyEmpty joined) (withinBind here joined)

theorem onlyValue {part : Compose Nat} {join : Nat → Compose β} (here : Only tokens part)
    (joined : ∀ number, Only tokens (join number)) (marked : Bool) (ends : List Token) :
    Only tokens (if marked = true then do
        skip
        if ← nextIs ends then empty >>= join else part >>= join
      else empty >>= join) :=
  withinIf (withinBind onlySkip fun _ => withinBind (onlyNextIs ends) (onlyPart here joined))
    (withinBind onlyEmpty joined)

structure Nodes (tokens : List Token) (fuel : Nat) : Prop where
  node : ∀ inBlock indentless, Only tokens (node inBlock indentless fuel)
  blockItems : Only tokens (blockItems fuel)
  indentlessItems : Only tokens (indentlessItems fuel)
  blockEntries : Only tokens (blockEntries fuel)
  flowItems : ∀ first, Only tokens (flowItems first fuel)
  flowEntries : ∀ first, Only tokens (flowEntries first fuel)

variable {fuel : Nat}

theorem onlyNode (inner : Nodes tokens fuel) (inBlock indentless : Bool) :
    Only tokens (node inBlock indentless (fuel + 1)) := by
  rw [node]
  refine withinBind onlyNext fun token => ?_
  split
  · exact withinBind onlySkip fun _ => onlyReferred _
  · refine withinBind onlyProperties fun found => ?_
    obtain ⟨anchor, tag⟩ := found
    refine withinBind onlyNext fun following => ?_
    -- What comes after the check of the anchor is one step that both ways share.
    extract_lets content
    have contents : ∀ done, Only tokens (content done) := by
      intro done
      dsimp only [content]
      split
      · exact withinBind onlySkip fun _ => onlyAdd _ _
      · exact withinBind onlySkip fun _ => onlyCollection _ _ _ (withinMap _ (inner.flowItems true))
      · exact withinBind onlySkip fun _ =>
          onlyCollection _ _ _ (withinMap _ (inner.flowEntries true))
      · exact withinIf (onlyCollection _ _ _ (withinMap _ inner.indentlessItems)) (onlyMissing _ _)
      · exact withinIf (withinBind onlySkip fun _ =>
          onlyCollection _ _ _ (withinMap _ inner.blockItems)) (onlyMissing _ _)
      · exact withinIf (withinBind onlySkip fun _ =>
          onlyCollection _ _ _ (withinMap _ inner.blockEntries)) (onlyMissing _ _)
      · exact onlyMissing _ _
    split
    · exact withinGet fun _ _ => withinIf (withinBind onlyRefuse contents) (contents ())
    · exact contents ()

theorem onlyBlockItems (inner : Nodes tokens fuel) : Only tokens (blockItems (fuel + 1)) := by
  have more (item : Nat) : Only tokens (blockItems fuel >>= fun rest => pure (item :: rest)) :=
    withinBind inner.blockItems fun _ => withinPure _
  refine withinBind onlyNext fun token => ?_
  split
  · exact withinBind onlySkip fun _ =>
      withinBind (onlyNextIs _) (onlyPart (inner.node true false) more)
  · exact withinBind onlySkip fun _ => withinPure _
  · exact onlyRefuse

theorem onlyIndentlessItems (inner : Nodes tokens fuel) :
    Only tokens (indentlessItems (fuel + 1)) := by
  have more (item : Nat) : Only tokens (indentlessItems fuel >>= fun rest => pure (item :: rest)) :=
    withinBind inner.indentlessItems fun _ => withinPure _
  refine withinBind onlyNext fun token => ?_
  split
  · exact withinBind onlySkip fun _ =>
      withinBind (onlyNextIs _) (onlyPart (inner.node true false) more)
  · exact withinPure _

theorem onlyBlockEntries (inner : Nodes tokens fuel) : Only tokens (blockEntries (fuel + 1)) := by
  refine withinBind onlyNext fun token => ?_
  split
  · refine withinBind onlySkip fun _ =>
      withinBind (onlyNextIs _) (onlyPart (inner.node true true) fun key => ?_)
    refine withinBind onlyNext fun mark => onlyValue (inner.node true true) (fun value => ?_) _ _
    exact withinBind inner.blockEntries fun _ => withinPure _
  · exact withinBind onlySkip fun _ => withinPure _
  · exact onlyRefuse

theorem onlyFlowItems (inner : Nodes tokens fuel) (first : Bool) :
    Only tokens (flowItems first (fuel + 1)) := by
  refine withinBind onlyNext fun token => ?_
  split
  · exact withinBind onlySkip fun _ => withinPure _
  · extract_lets keyed items
    have keyedOnly : ∀ key, Only tokens (keyed key) := by
      refine fun key => withinBind onlyNext fun mark => ?_
      refine onlyValue (inner.node false false) (fun value => ?_) _ _
      exact withinBind (onlyAdd _ _) fun _ => withinBind (inner.flowItems false) fun _ => withinPure _
    have itemsOnly : ∀ done, Only tokens (items done) := by
      refine fun _ => withinBind onlyNext fun token => ?_
      split
      · exact withinBind onlySkip fun _ => withinPure _
      · exact withinBind onlySkip fun _ =>
          withinBind (onlyNextIs _) (onlyPart (inner.node false false) keyedOnly)
      · exact withinBind (inner.node false false) fun _ =>
          withinBind (inner.flowItems false) fun _ => withinPure _
    refine withinIf (withinBind onlyNext fun token => ?_) (itemsOnly ())
    exact withinIf (withinBind onlySkip itemsOnly) (withinBind onlyRefuse itemsOnly)

theorem onlyFlowEntries (inner : Nodes tokens fuel) (first : Bool) :
    Only tokens (flowEntries first (fuel + 1)) := by
  refine withinBind onlyNext fun token => ?_
  split
  · exact withinBind onlySkip fun _ => withinPure _
  · extract_lets keyed entries
    have keyedOnly : ∀ key, Only tokens (keyed key) := by
      refine fun key => withinBind onlyNext fun mark => ?_
      refine onlyValue (inner.node false false) (fun value => ?_) _ _
      exact withinBind (inner.flowEntries false) fun _ => withinPure _
    have entriesOnly : ∀ done, Only tokens (entries done) := by
      refine fun _ => withinBind onlyNext fun token => ?_
      split
      · exact withinBind onlySkip fun _ => withinPure _
      · exact withinBind onlySkip fun _ =>
          withinBind (onlyNextIs _) (onlyPart (inner.node false false) keyedOnly)
      · exact withinBind (inner.node false false) fun _ => withinBind onlyEmpty fun _ =>
          withinBind (inner.flowEntries false) fun _ => withinPure _
    refine withinIf (withinBind onlyNext fun token => ?_) (entriesOnly ())
    exact withinIf (withinBind onlySkip entriesOnly) (withinBind onlyRefuse entriesOnly)

theorem onlyNodes (fuel : Nat) : Nodes tokens fuel := by
  induction fuel with
  | zero =>
    exact ⟨fun _ _ => onlyRefuse, onlyRefuse, onlyRefuse, onlyRefuse, fun _ => onlyRefuse,
      fun _ => onlyRefuse⟩
  | succ fuel ih =>
    exact ⟨onlyNode ih, onlyBlockItems ih, onlyIndentlessItems ih, onlyBlockEntries ih,
      onlyFlowItems ih, onlyFlowEntries ih⟩

theorem onlyDirectives (versioned : Bool) (handles : List (Text × Text)) (rest : List Token)
    (inside : rest ⊆ tokens) : Only tokens (directives versioned handles rest) := by
  fun_induction directives versioned handles rest with
  | case1 => exact onlyRefuse
  | case2 _ _ _ _ _ ih =>
    exact ih fun _ member => inside (List.mem_cons_of_mem _ member)
  | case3 => exact onlyRefuse
  | case4 _ _ _ _ _ _ ih =>
    exact ih fun _ member => inside (List.mem_cons_of_mem _ member)
  | case5 _ _ _ ih =>
    exact ih fun _ member => inside (List.mem_cons_of_mem _ member)
  | case6 => exact withinModify fun _ _ => inside

theorem onlyDocumentStart : Only tokens documentStart := by
  refine withinGet fun composer kept => ?_
  refine withinBind (onlyDirectives false [] _ kept) fun _ => withinBind onlyNext fun token => ?_
  exact withinIf (withinBind onlyRefuse fun _ => onlySkip) onlySkip

theorem onlyDocument : Only tokens document := by
  refine withinGet fun composer kept => ?_
  refine withinBind onlyNext fun token => ?_
  extract_lets ending
  have ended : ∀ root, Only tokens (ending root) := by
    refine fun root => withinBind (withinModify fun _ kept => ?_) fun _ => ?_
    · exact fun _ inside => kept ((List.dropWhile_sublist _).subset inside)
    · refine withinBind onlyNext fun token => withinIf ?_ (withinPure root)
      exact withinBind onlyDocumentStart fun _ => withinBind onlyRefuse fun _ => withinPure root
  have missing : Only tokens (some <$> empty >>= ending) :=
    withinBind (withinMap some onlyEmpty) ended
  have there (fuel : Nat) : Only tokens (some <$> node true false fuel >>= ending) :=
    withinBind (withinMap some ((onlyNodes fuel).node true false)) ended
  split
  · exact withinBind (withinPure none) ended
  · refine withinBind onlyDocumentStart fun _ => withinBind onlyNext fun token => ?_
    split
    · exact missing
    · exact missing
    · exact missing
    · exact missing
    · exact there _
  · refine withinBind onlyDocumentStart fun _ => withinBind onlyNext fun token => ?_
    split
    · exact missing
    · exact missing
    · exact missing
    · exact missing
    · exact there _
  · exact there _

end Compose

theorem ofTokensFault {tokens : List Token} {fault : Fault}
    (failed : Graph.ofTokens tokens = .error fault) :
    fault = .malformed ∨ .unreadable fault ∈ tokens := by
  unfold Graph.ofTokens at failed
  rcases Compose.onlyDocument ⟨tokens, Compose.defaultHandles, [], #[]⟩ (List.Subset.refl tokens)
    with ⟨_, _, ran, _⟩ | ⟨other, ran, known⟩
  · rw [ran] at failed
    cases failed
  · rw [ran] at failed
    cases failed
    exact known

theorem ofTextFault {text : Text} {fault : Fault} (failed : Token.ofText text = .error fault) :
    fault = .malformed := by
  unfold Token.ofText at failed
  split at failed
  · contradiction
  · exact (Except.error.inj failed).symm

inductive BadScalar (graph : Graph) (number : Nat) (fault : Fault) : Prop where
  | text {text : Text} (content : (graph.node number).content = .scalar text)
      (tagged : graph.tag number ∈ [Tag.bool, Tag.int, Tag.float, Tag.timestamp])
      (failed : scalarValue (graph.tag number) text = .error fault) : BadScalar graph number fault
  | mapping (mapping : graph.isMapping number = true)
      (tagged : graph.tag number ∈ Tag.value :: scalarTags) : BadScalar graph number fault

theorem binaryFault {text : Text} {fault : Fault} (failed : binaryOf text = .error fault) :
    fault = .malformed := by
  unfold binaryOf at failed
  split at failed
  · split at failed
    · contradiction
    · exact (Except.error.inj failed).symm
  · exact (Except.error.inj failed).symm

theorem scalarValueFault {tag text : Text} {fault : Fault}
    (failed : scalarValue tag text = .error fault) (foreign : fault ≠ .malformed) :
    tag ∈ [Tag.bool, Tag.int, Tag.float, Tag.timestamp] := by
  unfold scalarValue at failed
  split at failed
  · contradiction
  split at failed
  · contradiction
  split at failed
  · simp [*]
  split at failed
  · simp [*]
  split at failed
  · simp [*]
  split at failed
  · simp [*]
  split at failed
  · rcases read : binaryOf text with stopped | bytes
    · rw [read] at failed
      cases failed
      exact absurd (binaryFault read) foreign
    · rw [read] at failed
      cases failed
  · exact absurd (Except.error.inj failed).symm foreign

theorem scalarFault {start graph : Graph} (alike : start.Alike graph) {number : Nat} {fault : Fault}
    (failed : graph.scalar number = .error fault) (foreign : fault ≠ .malformed) :
    BadScalar start number fault := by
  unfold Graph.scalar at failed
  dsimp only at failed
  split at failed
  · rename_i tagged
    rcases content : (graph.node number).content with text | items | entries
    · have plain : graph.isMapping number = false := by rw [Graph.isMapping, content]
      have read : graph.scalarText (graph.size + 1) number = .ok text := by
        rw [Graph.scalarText, content]
      rw [read] at failed
      simp only [plain, Bool.false_eq_true, and_false, if_false] at failed
      have tags := scalarValueFault failed foreign
      have same : graph.tag number = start.tag number :=
        (alike.tags number).resolve_right fun changed => absurd (changed.1 ▸ tags) (by decide)
      have kept : (start.node number).content = .scalar text := by
        rcases alike.contents number with same | ⟨mapping, _⟩
        · rw [← same, content]
        · rw [plain] at mapping
          cases mapping
      exact .text kept (same ▸ tags) (same ▸ failed)
    · have read : graph.scalarText (graph.size + 1) number = .error .malformed := by
        rw [Graph.scalarText, content]
      rw [read] at failed
      exact absurd (Except.error.inj failed).symm foreign
    · have mapping : graph.isMapping number = true := by rw [Graph.isMapping, content]
      refine .mapping ((alike.mappings number).symm.trans mapping) ?_
      rcases alike.tags number with same | ⟨_, valued⟩
      · exact List.mem_cons_of_mem _ (same ▸ tagged)
      · exact valued ▸ List.mem_cons_self
  · exact absurd (Except.error.inj failed).symm foreign

/- A fault of the reader other than a malformed text comes from one token or one scalar. -/
inductive FaultSource (text : Text) (fault : Fault) : Prop where
  | token {tokens : List Token} (lexed : Token.ofText text = .ok tokens)
      (stands : .unreadable fault ∈ tokens) : FaultSource text fault
  | scalar {tokens : List Token} {graph : Graph} {root number : Nat}
      (lexed : Token.ofText text = .ok tokens)
      (composed : Graph.ofTokens tokens = .ok (graph, some root))
      (bad : BadScalar graph number fault) : FaultSource text fault

theorem readFault {text : Text} {fault : Fault} (failed : read text = .error fault)
    (foreign : fault ≠ .malformed) : FaultSource text fault := by
  unfold read at failed
  rcases lexed : Token.ofText text with stopped | tokens
  · rw [lexed] at failed
    cases failed
    exact absurd (ofTextFault lexed) foreign
  rcases composed : Graph.ofTokens tokens with stopped | ⟨graph, root⟩
  · simp only [lexed, composed, bind, Except.bind] at failed
    cases failed
    exact .token lexed ((ofTokensFault composed).resolve_left foreign)
  · simp only [lexed, composed, bind, Except.bind] at failed
    cases root with
    | none => cases failed
    | some root =>
      obtain ⟨changed, number, alike, failed⟩ := (valueFault failed).resolve_left foreign
      exact .scalar lexed composed (scalarFault alike failed foreign)

end TypedClient.Yaml
