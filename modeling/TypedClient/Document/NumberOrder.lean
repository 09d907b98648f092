import TypedClient.Document.Value

/-!
The order in which a set shows its numbers. A number has a mark, its remainder by a prime, and the
mark says at which place of a table the number stands; if that place is taken, a fixed way through
the table leads to a free one. The order is that of the places. The size of the table grows with
the set, so small sets of small numbers are shown in ascending order.
-/

namespace TypedClient.NumberOrder

/-- Powers of two have the period 61 by this prime. -/
def markPrime : Nat := 2305843009213693951

def signedMark (negative : Bool) (magnitude : Nat) : Nat :=
  let signed : Int := if negative then -(magnitude : Int) else magnitude
  let signed := if signed = -1 then -2 else signed
  (signed % 18446744073709551616).toNat

def mark? : Scalar → Option Nat
  | .bool value => some (if value then 1 else 0)
  | .int value => some (signedMark (value < 0) (value.natAbs % markPrime))
  | .float (.finite negative mantissa exponent) =>
    some (signedMark negative (mantissa * Nat.pow 2 (exponent % 61).toNat % markPrime))
  | .float (.infinite negative) => some (signedMark negative 314159)
  | _ => none

def tableSize (least : Nat) : Nat :=
  max 8 (Nat.pow 2 (least.log2 + 1))

/-- Places are tried ten at a time, or one by one near the end of the table. -/
def freePlace? (table : Array (Option Scalar)) (place : Nat) : Option Nat :=
  let tried := if place + 9 < table.size then List.range' place 10 else [place]
  tried.find? fun place => (table.getD place none).isNone

def put (number : Scalar) : Nat → Array (Option Scalar) → Nat → Nat → Array (Option Scalar)
  | 0, table, _, _ => table
  | fuel + 1, table, place, rest =>
    match freePlace? table place with
    | some free => table.setIfInBounds free (some number)
    | none =>
      let rest := rest / 32
      put number fuel table ((place * 5 + 1 + rest) % table.size) rest

def arrange (marked : List (Nat × Scalar)) : List Scalar :=
  let count := marked.length
  let size := if count * 5 < 21 then 8 else tableSize (2 * count)
  let table := marked.foldl
    (fun table (mark, number) => put number (size + 16) table (mark % size) mark)
    (Array.replicate size none)
  table.toList.filterMap id

def ofMembers (members : List Scalar) : List Scalar :=
  match members.mapM fun member => (mark? member).map fun mark => (mark, member) with
  | some marked => arrange marked
  | none => members

end TypedClient.NumberOrder
