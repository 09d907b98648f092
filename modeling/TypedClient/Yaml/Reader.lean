import TypedClient.Document.NumberOrder
import TypedClient.Yaml.Merge
import TypedClient.Yaml.ScalarValue

/-!
The document value of a YAML text. Values are built level by level from the root, so among several
faults the one nearest to the root is met, and on one level the first. A node is built once, however
many aliases it has.
-/

namespace TypedClient.Yaml

inductive Built where
  | begun
  | scalar (value : Scalar)
  | list (items : List Nat)
  | pairs (items : List (Nat × Nat))
  | set (members : List Scalar)
  | map (entries : List (Scalar × Nat))
  deriving Repr

structure Builder where
  graph : Graph
  built : Array (Option Built)
  waiting : List Nat
  deriving Repr

abbrev Build := StateT Builder (Except Fault)

def scalarTags : List Text :=
  [Tag.text, Tag.null, Tag.bool, Tag.int, Tag.float, Tag.timestamp, Tag.binary]

def collectionTags : List Text :=
  [Tag.sequence, Tag.mapping, Tag.set] ++ Tag.pairs

namespace Graph

/-- The text of a node that stands for a scalar: a mapping does so through its key `=`. -/
def scalarText (graph : Graph) : Nat → Nat → Except Fault Text
  | 0, _ => .error .endless
  | fuel + 1, number =>
    match (graph.node number).content with
    | .scalar text => .ok text
    | .mapping entries =>
      match entries.find? fun (key, _) => graph.tag key == Tag.value with
      | some (_, value) => graph.scalarText fuel value
      | none => .error .malformed
    | .sequence _ => .error .malformed

def scalar (graph : Graph) (number : Nat) : Except Fault Scalar :=
  let tag := graph.tag number
  if tag ∈ scalarTags then
    match graph.scalarText (graph.size + 1) number with
    | .ok text =>
      if tag = Tag.timestamp ∧ graph.isMapping number then .error .timestampOfMapping
      else scalarValue tag text
    | .error fault => .error fault
  else .error .malformed

/-- A key with a number that tells apart what is not equal to itself: what is not a number is a key
of its own in each node, unless it is called by its name. -/
def keyOf (graph : Graph) (number : Nat) (scalar : Scalar) : Nat × Scalar :=
  match scalar, graph.scalarText (graph.size + 1) number with
  | .float .notANumber, .ok text => (if namesNotANumber text then 0 else number + 1, scalar)
  | _, _ => (0, scalar)

end Graph

def sameKey (first second : Nat × Scalar) : Bool :=
  first.1 == second.1 && first.2.sameKey second.2

namespace Build

def refuse {α : Type} : Build α :=
  throw .malformed

def begin (number : Nat) : Build Built := do
  let builder ← get
  match builder.built.getD number none with
  | some built => return built
  | none =>
    if builder.graph.tag number ∈ collectionTags then
      set { builder with
        built := builder.built.setIfInBounds number (some .begun)
        waiting := number :: builder.waiting }
      return .begun
    else
      match builder.graph.scalar number with
      | .ok value =>
        set { builder with built := builder.built.setIfInBounds number (some (.scalar value)) }
        return .scalar value
      | .error fault => throw fault

def items (number : Nat) : Build (List Nat) := do
  match ((← get).graph.node number).content with
  | .sequence items => return items
  | _ => refuse

def pair (number : Nat) : Build (Nat × Nat) := do
  match ((← get).graph.node number).content with
  | .mapping [(key, value)] =>
    let _ ← begin key
    let _ ← begin value
    return (key, value)
  | _ => refuse

def entry (key value : Nat) : Build ((Nat × Scalar) × Nat) := do
  match ← begin key with
  | .scalar scalar =>
    let _ ← begin value
    return ((← get).graph.keyOf key scalar, value)
  | _ => refuse

def table (number : Nat) : Build (List (Scalar × Nat)) := do
  let builder ← get
  if !builder.graph.isMapping number then refuse
  match builder.graph.resolveMerges number with
  | .ok graph =>
    set { builder with graph }
    let entries ← (graph.entries number).mapM fun (key, value) => entry key value
    return (Value.tableOfList sameKey entries).map fun ((_, key), value) => (key, value)
  | .error fault => throw fault

def collection (number : Nat) : Build Built := do
  let tag := (← get).graph.tag number
  if tag = Tag.mapping then return .map (← table number)
  else if tag = Tag.set then
    return .set (NumberOrder.ofMembers ((← table number).map (·.1)))
  else if tag = Tag.sequence then
    let items ← items number
    items.forM fun item => do
      let _ ← begin item
    return .list items
  else return .pairs (← (← items number).mapM pair)

def finish (number : Nat) : Build Unit := do
  let built ← collection number
  modify fun builder =>
    { builder with built := builder.built.setIfInBounds number (some built) }

/-- Every level holds at least one node, which bounds their number. -/
def levels : Nat → Build Unit
  | 0 => return
  | fuel + 1 => do
    match (← get).waiting.reverse with
    | [] => return
    | level =>
      modify fun builder => { builder with waiting := [] }
      level.forM finish
      levels fuel

end Build

structure Outline where
  values : Array (Option Value)
  around : List Nat
  loops : List Nat

abbrev Outlining := StateM Outline

namespace Outlining

def meetAgain (number : Nat) : Outlining Value := do
  modify fun outline =>
    if outline.loops.contains number then outline
    else { outline with loops := number :: outline.loops }
  return .loop number []

/-- The collections around a node are different ones, which bounds the depth. -/
def value (built : Array (Option Built)) : Nat → Nat → Outlining Value
  | 0, number => meetAgain number
  | fuel + 1, number => do
    let outline ← get
    match outline.values.getD number none with
    | some value => return value
    | none =>
      if outline.around.contains number then return ← meetAgain number
      set { outline with around := number :: outline.around }
      let made : Value ← match built.getD number none with
        | some (.scalar value) => pure (.scalar value)
        | some (.list items) => Value.list <$> items.mapM (value built fuel)
        | some (.pairs pairs) => Value.list <$> pairs.mapM fun (key, item) => do
            return Value.list [← value built fuel key, ← value built fuel item]
        | some (.set members) => pure (.set members)
        | some (.map entries) => Value.map <$> entries.mapM fun (key, item) => do
            return (key, ← value built fuel item)
        | some .begun | none => pure (.list [])
      modify fun after =>
        { after with
          values := after.values.setIfInBounds number (some made), around := outline.around }
      return made

end Outlining

def outlined (built : Array (Option Built)) (root : Nat) : Value :=
  let start : Outline := ⟨Array.replicate built.size none, [], []⟩
  let (value, outline) := (Outlining.value built (built.size + 1) root).run start
  let known := outline.loops.filterMap fun number =>
    (outline.values.getD number none).map fun value => (number, value)
  value.informed known

def Graph.value (graph : Graph) (root : Nat) : Except Fault Value :=
  let work : Build Unit := do
    let _ ← Build.begin root
    Build.levels (graph.size + 1)
  match work.run ⟨graph, Array.replicate graph.size none, []⟩ with
  | .ok (_, builder) => .ok (outlined builder.built root)
  | .error fault => .error fault

def read (text : Text) : Except Fault Value := do
  let (graph, root) ← Graph.ofTokens (← Token.ofText text)
  match root with
  | none => return .scalar .null
  | some root => graph.value root

end TypedClient.Yaml
