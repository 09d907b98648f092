/-!
Ordered association lists: entries stand in the order in which their keys were first written, and
writing a key again changes its value in place.
-/

namespace TypedClient.Assoc

variable {α β : Type} [DecidableEq α]

def find? (key : α) : List (α × β) → Option β
  | [] => none
  | (k, value) :: rest => if k = key then some value else find? key rest

def put (key : α) (value : β) : List (α × β) → List (α × β)
  | [] => [(key, value)]
  | (k, old) :: rest => if k = key then (k, value) :: rest else (k, old) :: put key value rest

def ofList (entries : List (α × β)) : List (α × β) :=
  entries.foldl (fun table entry => put entry.1 entry.2 table) []

def gather {γ : Type} (key : α) (item : γ) : List (α × List γ) → List (α × List γ)
  | [] => [(key, [item])]
  | (k, items) :: rest =>
    if k = key then (k, items ++ [item]) :: rest else (k, items) :: gather key item rest

end TypedClient.Assoc
