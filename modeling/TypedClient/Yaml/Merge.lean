import TypedClient.Yaml.Node

/-!
Merge keys: their entries go before the own entries of a mapping, so that the own ones win, and of
a list of mappings the earlier ones win. A mapping that is merged has its own merge keys resolved
first. The key `=` is a plain text in a mapping that is read as one.
-/

namespace TypedClient.Yaml

namespace Graph

def isMapping (graph : Graph) (number : Nat) : Bool :=
  match (graph.node number).content with
  | .mapping _ => true
  | _ => false

def entries (graph : Graph) (number : Nat) : List (Nat × Nat) :=
  match (graph.node number).content with
  | .mapping entries => entries
  | _ => []

def entryCount (graph : Graph) : Nat :=
  graph.foldl (fun count node => count + match node.content with
    | .mapping entries => entries.length
    | _ => 0) 0

end Graph

abbrev Merging := StateT Graph (Except Fault)

namespace Merging

def refuse {α : Type} : Merging α :=
  throw .malformed

def resolved (resolve : Nat → Merging Unit) (number : Nat) : Merging (List (Nat × Nat)) := do
  if !(← get).isMapping number then refuse
  resolve number
  return (← get).entries number

def contribution (resolve : Nat → Merging Unit) (number : Nat) : Merging (List (Nat × Nat)) := do
  match ((← get).node number).content with
  | .sequence items => return (← items.mapM (resolved resolve)).reverse.flatten
  | _ => resolved resolve number

/-- Goes through the entries that a mapping had at first. Its merge keys may go away on the way,
where a mapping merges itself. -/
def gather (resolve : Nat → Merging Unit) (number : Nat) :
    List (Nat × Nat) → Merging (List (Nat × Nat))
  | [] => return []
  | (key, value) :: rest => do
    let graph ← get
    let tag := graph.tag key
    if tag = Tag.merge then
      let entries := graph.entries number
      if entries.contains (key, value) then
        set (graph.setContent number (.mapping (entries.erase (key, value))))
        let merged ← contribution resolve value
        return merged ++ (← gather resolve number rest)
      else gather resolve number rest
    else
      if tag = Tag.value then set (graph.setTag key Tag.text)
      gather resolve number rest

/-- Every step inwards takes a merge key away, which bounds the depth. -/
def resolve : Nat → Nat → Merging Unit
  | 0, _ => refuse
  | fuel + 1, number => do
    let merged ← gather (resolve fuel) number ((← get).entries number)
    if !merged.isEmpty then
      modify fun graph => graph.setContent number (.mapping (merged ++ graph.entries number))

end Merging

def Graph.resolveMerges (graph : Graph) (number : Nat) : Except Fault Graph :=
  match (Merging.resolve (graph.entryCount + 2) number).run graph with
  | .ok (_, graph) => .ok graph
  | .error fault => .error fault

end TypedClient.Yaml
