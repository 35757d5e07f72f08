import TypedStore.Ascending
import TypedStore.Json.Basic

/-!
# Index keys

A scalar value has one key, and values that are equal to a filter share it: an
integer and the double of the same value have the same key, and so have both
zeros. A double that is no integer of 64 bits is keyed by its place in the order
of all doubles. Nulls, arrays and objects have no key.
-/

namespace TypedStore

-- Powers are those of the numbers themselves, whatever other powers there are.
attribute [local instance(2000)] instPowNat

/-- The key of a scalar value. -/
inductive IndexKey where
  | bool (value : Bool)
  | int (value : Int)
  /-- The place of a double in the order of all doubles. -/
  | float (place : Nat)
  | string (value : String)
deriving DecidableEq, Repr

/-- The place of a double in the order of all doubles: the negative ones from
−∞ upward lie below 2⁶³, the others from zero upward start at 2⁶³. Both zeros
have the same place. -/
def Double.place (d : Double) : Nat :=
  if d.isNegative ∧ d.magnitude ≠ 0 then 2 ^ (63 : Nat) - 1 - d.magnitude
  else 2 ^ (63 : Nat) + d.magnitude

namespace IndexKey

/-- The key of a double as such. -/
def ofDouble (d : Double) : IndexKey := float d.place

/-- The key of a number: integers and doubles of the same value share it. -/
def ofNumber : Number → IndexKey
  | .int i _ _ =>
      if i < 2 ^ (63 : Nat) then int i else ofQuantity (Double.ofInt i)
  | .double d _ => ofQuantity d
where
  /-- The key of a double that may be an integer of 64 bits. -/
  ofQuantity (d : Double) : IndexKey :=
    match d.toInt? with
    | some i => if -2 ^ (63 : Nat) ≤ i ∧ i < 2 ^ (63 : Nat) then int i else ofDouble d
    | none => ofDouble d

/-- The key of a scalar value. -/
def ofJson? : Json → Option IndexKey
  | .bool b => some (bool b)
  | .number n => some (ofNumber n)
  | .string s => some (string s)
  | _ => none

/-- The rank of a kind of key. -/
def rank : IndexKey → Nat
  | bool _ => 0
  | int _ => 1
  | float _ => 2
  | string _ => 3

/-- The order of keys: by kind, then by value. -/
def cmp : IndexKey → IndexKey → Ordering
  | bool a, bool b => Ord.compare a b
  | int a, int b => Ord.compare a b
  | float a, float b => Ord.compare a b
  | string a, string b => Ord.compare a b
  | a, b => Ord.compare a.rank b.rank

/-- All keys under which a value is found: an array has the keys of its elements. -/
def allOf : Json → List IndexKey
  | .array items => Ascending.ofList cmp (items.filterMap ofJson?)
  | scalar => (ofJson? scalar).toList

theorem eq_of_cmp_eq (a b : IndexKey) (h : cmp a b = .eq) : a = b := by
  cases a <;> cases b <;> simp_all [cmp, rank]

theorem mem_allOf_array_iff {key : IndexKey} {items : List Json} :
    key ∈ allOf (.array items) ↔ ∃ item ∈ items, ofJson? item = some key := by
  simp [allOf, Ascending.mem_ofList_iff eq_of_cmp_eq]

end IndexKey

end TypedStore
