import TypedClient.Yaml.Tag
import TypedClient.Yaml.Token

/-!
The nodes of a YAML text, each with its tag. They form a graph: an alias is another edge to the
node that it names, which may be a node that the alias stands in.
-/

namespace TypedClient.Yaml

inductive Content where
  | scalar (text : Text)
  | sequence (items : List Nat)
  | mapping (entries : List (Nat × Nat))
  deriving DecidableEq, Repr, Inhabited

structure Node where
  tag : Text
  content : Content
  deriving DecidableEq, Repr, Inhabited

abbrev Graph := Array Node

namespace Graph

def node (graph : Graph) (number : Nat) : Node :=
  graph.getD number default

def tag (graph : Graph) (number : Nat) : Text :=
  (graph.node number).tag

def setContent (graph : Graph) (number : Nat) (content : Content) : Graph :=
  graph.setIfInBounds number ⟨graph.tag number, content⟩

def setTag (graph : Graph) (number : Nat) (tag : Text) : Graph :=
  graph.setIfInBounds number ⟨tag, (graph.node number).content⟩

end Graph

structure Composer where
  tokens : List Token
  handles : List (Text × Text)
  anchors : List (Text × Nat)
  graph : Graph
  deriving Repr

abbrev Compose := StateT Composer (Except Fault)

namespace Compose

def refuse {α : Type} : Compose α :=
  throw .malformed

def next : Compose (Option Token) := do
  match (← get).tokens.head? with
  | some (.unreadable fault) => throw fault
  | token => return token

def skip : Compose Unit :=
  modify fun composer => { composer with tokens := composer.tokens.tail }

def nextIs (tokens : List Token) : Compose Bool := do
  match ← next with
  | some token => return token ∈ tokens
  | none => return true

def add (anchor : Option Text) (node : Node) : Compose Nat := do
  let composer ← get
  let number := composer.graph.size
  let anchors := match anchor with
    | none => composer.anchors
    | some name => (name, number) :: composer.anchors
  set { composer with graph := composer.graph.push node, anchors }
  return number

def empty : Compose Nat :=
  add none ⟨Tag.null, .scalar []⟩

def defaultHandles : List (Text × Text) :=
  [("!", "!"), ("!!", "tag:yaml.org,2002:")]

def fullTag (handle : Option Text) (suffix : Text) : Compose Text := do
  match handle with
  | none => return suffix
  | some handle =>
    match (← get).handles.lookup handle with
    | some start => return start ++ suffix
    | none => refuse

def properties : Compose (Option Text × Option Text) := do
  match ← next with
  | some (.anchor name) =>
    skip
    match ← next with
    | some (.tag handle suffix) => skip; return (some name, some (← fullTag handle suffix))
    | _ => return (some name, none)
  | some (.tag handle suffix) =>
    skip
    match ← next with
    | some (.anchor name) => skip; return (some name, some (← fullTag handle suffix))
    | _ => return (none, some (← fullTag handle suffix))
  | _ => return (none, none)

def impliedTag (tag : Option Text) : Bool :=
  tag == none || tag == some ['!']

def scalarTag (tag : Option Text) (plain : Bool) (text : Text) : Text :=
  if tag = some ['!'] ∨ (tag = none ∧ plain) then Tag.ofImplicit text
  else tag.getD Tag.text

def collectionTag (tag : Option Text) (kind : Text) : Text :=
  if impliedTag tag then kind else tag.getD kind

/-- A collection is in the graph before its parts are, so that they can refer to it. -/
def collection (anchor tag : Option Text) (kind : Text) (content : Compose Content) :
    Compose Nat := do
  let number ← add anchor ⟨collectionTag tag kind, .sequence []⟩
  let content ← content
  modify fun composer => { composer with graph := composer.graph.setContent number content }
  return number

def missing (anchor tag : Option Text) : Compose Nat :=
  if anchor.isNone && tag.isNone then refuse
  else add anchor ⟨if impliedTag tag then Tag.null else tag.getD Tag.null, .scalar []⟩

def referred (name : Text) : Compose Nat := do
  match (← get).anchors.lookup name with
  | some number => return number
  | none => refuse

mutual

/-- One node. Block collections are allowed only outside brackets, and a sequence without
indentation of its own only as the value of a mapping. -/
def node (inBlock indentless : Bool) : Nat → Compose Nat
  | 0 => refuse
  | fuel + 1 => do
    if let some (.reference name) ← next then
      skip
      return ← referred name
    let (anchor, tag) ← properties
    let following ← next
    if let some name := anchor then
      if ((← get).anchors.lookup name).isSome then refuse
    match following with
    | some (.scalar plain text) =>
      skip
      add anchor ⟨scalarTag tag plain text, .scalar text⟩
    | some .flowSequenceStart =>
      skip
      collection anchor tag Tag.sequence (.sequence <$> flowItems true fuel)
    | some .flowMappingStart =>
      skip
      collection anchor tag Tag.mapping (.mapping <$> flowEntries true fuel)
    | some .blockEntry =>
      if indentless then
        collection anchor tag Tag.sequence (.sequence <$> indentlessItems fuel)
      else missing anchor tag
    | some .blockSequenceStart =>
      if inBlock then
        skip
        collection anchor tag Tag.sequence (.sequence <$> blockItems fuel)
      else missing anchor tag
    | some .blockMappingStart =>
      if inBlock then
        skip
        collection anchor tag Tag.mapping (.mapping <$> blockEntries fuel)
      else missing anchor tag
    | _ => missing anchor tag

def blockItems : Nat → Compose (List Nat)
  | 0 => refuse
  | fuel + 1 => do
    match ← next with
    | some .blockEntry =>
      skip
      let item ← if ← nextIs [.blockEntry, .blockEnd] then empty else node true false fuel
      return item :: (← blockItems fuel)
    | some .blockEnd => skip; return []
    | _ => refuse

def indentlessItems : Nat → Compose (List Nat)
  | 0 => refuse
  | fuel + 1 => do
    match ← next with
    | some .blockEntry =>
      skip
      let item ←
        if ← nextIs [.blockEntry, .key, .value, .blockEnd] then empty else node true false fuel
      return item :: (← indentlessItems fuel)
    | _ => return []

def blockEntries : Nat → Compose (List (Nat × Nat))
  | 0 => refuse
  | fuel + 1 => do
    match ← next with
    | some .key =>
      skip
      let key ←
        if ← nextIs [.key, .value, .blockEnd] then empty else node true true fuel
      let value ←
        if (← next) == some .value then do
          skip
          if ← nextIs [.key, .value, .blockEnd] then empty else node true true fuel
        else empty
      return (key, value) :: (← blockEntries fuel)
    | some .blockEnd => skip; return []
    | _ => refuse

def flowItems (first : Bool) : Nat → Compose (List Nat)
  | 0 => refuse
  | fuel + 1 => do
    if (← next) == some .flowSequenceEnd then skip; return []
    if !first then
      if (← next) == some .flowEntry then skip else refuse
    match ← next with
    | some .flowSequenceEnd => skip; return []
    | some .key =>
      skip
      let key ←
        if ← nextIs [.value, .flowEntry, .flowSequenceEnd] then empty else node false false fuel
      let value ←
        if (← next) == some .value then do
          skip
          if ← nextIs [.flowEntry, .flowSequenceEnd] then empty else node false false fuel
        else empty
      let pair ← add none ⟨Tag.mapping, .mapping [(key, value)]⟩
      return pair :: (← flowItems false fuel)
    | _ =>
      let item ← node false false fuel
      return item :: (← flowItems false fuel)

def flowEntries (first : Bool) : Nat → Compose (List (Nat × Nat))
  | 0 => refuse
  | fuel + 1 => do
    if (← next) == some .flowMappingEnd then skip; return []
    if !first then
      if (← next) == some .flowEntry then skip else refuse
    match ← next with
    | some .flowMappingEnd => skip; return []
    | some .key =>
      skip
      let key ←
        if ← nextIs [.value, .flowEntry, .flowMappingEnd] then empty else node false false fuel
      let value ←
        if (← next) == some .value then do
          skip
          if ← nextIs [.flowEntry, .flowMappingEnd] then empty else node false false fuel
        else empty
      return (key, value) :: (← flowEntries false fuel)
    | _ =>
      let key ← node false false fuel
      return (key, ← empty) :: (← flowEntries false fuel)

end

def directives (versioned : Bool) (handles : List (Text × Text)) : List Token → Compose Unit
  | .directive (.version major) :: rest =>
    if versioned ∨ major ≠ 1 then refuse else directives true handles rest
  | .directive (.tagHandle handle start) :: rest =>
    if (handles.lookup handle).isSome then refuse
    else directives versioned ((handle, start) :: handles) rest
  | .directive .other :: rest => directives versioned handles rest
  | rest => modify fun composer => { composer with tokens := rest, handles := handles ++ defaultHandles }

def documentStart : Compose Unit := do
  directives false [] (← get).tokens
  if (← next) != some .documentStart then refuse
  skip

/-- The one document of the text, if it has any. A second one is read no further than its
beginning. -/
def document : Compose (Option Nat) := do
  let fuel := 2 * (← get).tokens.length + 2
  let root ←
    match ← next with
    | some .streamEnd => pure none
    | some (.directive _) | some .documentStart => do
      documentStart
      match ← next with
      | some (.directive _) | some .documentStart | some .documentEnd | some .streamEnd =>
        some <$> empty
      | _ => some <$> node true false fuel
    | _ => some <$> node true false fuel
  modify fun composer =>
    { composer with tokens := composer.tokens.dropWhile (· == .documentEnd) }
  if (← next) != some .streamEnd then
    documentStart
    refuse
  return root

end Compose

def Graph.ofTokens (tokens : List Token) : Except Fault (Graph × Option Nat) :=
  match Compose.document.run ⟨tokens, Compose.defaultHandles, [], #[]⟩ with
  | .ok (root, composer) => .ok (composer.graph, root)
  | .error fault => .error fault

end TypedClient.Yaml
