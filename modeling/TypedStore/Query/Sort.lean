import TypedStore.Query.Error
import TypedStore.Query.Redirects

/-!
# Sorting nodes

A sort names fields with directions; the first field on which two nodes differ
decides, and nodes that differ on none keep their order. The value of a field is
found at its path; of an array that is not empty the least element counts in
ascending order and the greatest in descending order. Values are ranked by kind,
and a missing value comes after every other one.
-/

namespace TypedStore

/-- The direction of a sort. -/
inductive Direction where
  | ascending
  | descending
deriving DecidableEq, Repr

namespace Direction

/-- The short name of a direction. -/
def name : Direction → String
  | ascending => "asc"
  | descending => "desc"

/-- Read a direction, in letters of either case. -/
def parse? (text : String) : Option Direction :=
  let lower := text.toList.map Char.toLower
  if lower = ['a', 's', 'c'] then some ascending
  else if lower = ['d', 'e', 's', 'c'] then some descending
  else none

/-- An ordering seen in a direction. -/
def orient : Direction → Ordering → Ordering
  | ascending, o => o
  | descending, o => o.swap

end Direction

/-- One field of a sort. -/
structure SortKey where
  field : String
  direction : Direction
deriving DecidableEq, Repr

/-- The fields of a sort, the most important one first. -/
structure SortSpec where
  keys : List SortKey
deriving DecidableEq, Repr

namespace SortSpec

/-- The sort without fields. -/
def empty : SortSpec := ⟨[]⟩

/-- Add a field of less importance than the others. -/
def andThen (spec : SortSpec) (field : String) (direction : Direction) : SortSpec :=
  ⟨spec.keys ++ [⟨field, direction⟩]⟩

/-- The keys of fields and the names of their directions, one for one. -/
def readKeys : List String → List String → Except SortFault (List SortKey)
  | field :: fields, order :: orders =>
      match Direction.parse? order with
      | none => .error (.unknownOrder order)
      | some direction => (readKeys fields orders).map (⟨field, direction⟩ :: ·)
  | _, _ => .ok []

/-- The sort by some fields, with the names of their directions in a second list
of the same length. -/
def ofLists (fields orders : List String) : Except QueryError SortSpec :=
  if fields.length = orders.length then
    match readKeys fields orders with
    | .ok keys => .ok ⟨keys⟩
    | .error fault => .error (.invalidSort fault)
  else .error (.invalidSort (.lengths fields.length orders.length))

end SortSpec

namespace Json

/-- The rank of a kind of value in a sort. -/
def sortRank : Json → Nat
  | null => 0
  | bool _ => 1
  | number _ => 2
  | string _ => 3
  | array _ => 4
  | object _ => 5

/-- The order of values in a sort: by kind, and truth values, numbers and texts
among themselves. Two nulls, arrays or objects are not told apart. A number that cannot
be had as a double counts as zero, and doubles without an order count as equal. -/
def sortOrder (a b : Json) : Ordering :=
  if a.sortRank ≠ b.sortRank then compare a.sortRank b.sortRank
  else
    match a, b with
    | bool a, bool b => compare a b
    | number a, number b =>
        ((a.asDouble?.getD .zero).partialCompare (b.asDouble?.getD .zero)).getD .eq
    | string a, string b => compare a b
    | _, _ => .eq

/-- The order of values that may be missing: a missing one comes last. -/
def sortOrder? : Option Json → Option Json → Ordering
  | none, none => .eq
  | none, some _ => .gt
  | some _, none => .lt
  | some a, some b => sortOrder a b

/-- The first least one of some values. -/
def least (first : Json) (others : List Json) : Json :=
  others.foldl (fun best item => if sortOrder item best = .lt then item else best) first

/-- The last greatest one of some values. -/
def greatest (first : Json) (others : List Json) : Json :=
  others.foldl (fun best item => if sortOrder item best = .lt then best else item) first

/-- The value that counts in a sort: of an array with elements the least or the greatest one. -/
def sortValue (direction : Direction) : Option Json → Option Json
  | some (array (first :: others)) =>
      match direction with
      | .ascending => some (least first others)
      | .descending => some (greatest first others)
  | other => other

end Json

namespace SortSpec

/-- The values of a stamped node that count in a sort. -/
def values (spec : SortSpec) (redirects : Redirects) (stamped : StampedNode) : List (Option Json) :=
  spec.keys.map fun key => Json.sortValue key.direction (stamped.at? (redirects.target key.field))

/-- The order of two nodes by their values: the first difference decides. -/
def order : List SortKey → List (Option Json) → List (Option Json) → Ordering
  | key :: keys, a :: as, b :: bs =>
      (key.direction.orient (Json.sortOrder? a b)).then (order keys as bs)
  | _, _, _ => .eq

/-- Nodes in the order of a sort. Nodes that the sort does not tell apart keep their order. -/
def sort (spec : SortSpec) (redirects : Redirects) (nodes : List StampedNode) : List StampedNode :=
  let keyed := nodes.map fun stamped => (spec.values redirects stamped, stamped)
  let sorted := keyed.mergeSort fun a b => order spec.keys a.1 b.1 != .gt
  sorted.map Prod.snd

end SortSpec

end TypedStore
