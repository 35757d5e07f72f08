import TypedStore.Entries
import TypedStore.Json.Number

/-!
# JSON values

An object holds its members as a list of entries. `Json.Canonical` says that the
members of every object in a value are in increasing order of their names, which
is how objects are read and built in this library.
-/

namespace TypedStore

/-- A JSON value. -/
inductive Json where
  | null
  | bool (value : Bool)
  | number (value : Number)
  | string (value : String)
  | array (items : List Json)
  | object (members : List (String × Json))
deriving Inhabited

namespace Json

/-- The empty object. -/
def emptyObject : Json := object []

/-- The object of a list of members; of several members with one name the last one counts. -/
def ofMembers (members : List (String × Json)) : Json := object (Entries.ofList members)

/-- The word for the kind of a value. -/
def kind : Json → String
  | null => "null"
  | bool _ => "boolean"
  | number _ => "number"
  | string _ => "string"
  | array _ => "array"
  | object _ => "object"

/-- The member of an object with a given name. -/
def member? (name : String) : Json → Option Json
  | object members => Entries.get? name members
  | _ => none

/-- The text of a string value. -/
def text? : Json → Option String
  | string s => some s
  | _ => none

/-- The members of an object; any other value counts as an empty object. -/
def members : Json → List (String × Json)
  | object entries => entries
  | _ => []

/-- An object with a member put in its place; any other value is replaced by an
object of that one member. -/
def withMember (whole : Json) (name : String) (value : Json) : Json :=
  object (Entries.insert name value whole.members)

mutual

/-- Deep sameness: the same shape, the same names, and the same numbers in the
same representation. -/
def same : Json → Json → Bool
  | null, null => true
  | bool a, bool b => a == b
  | number a, number b => a.same b
  | string a, string b => a == b
  | array a, array b => sameItems a b
  | object a, object b => sameMembers a b
  | _, _ => false

/-- Sameness of lists, element by element. -/
def sameItems : List Json → List Json → Bool
  | [], [] => true
  | a :: as, b :: bs => same a b && sameItems as bs
  | _, _ => false

/-- Sameness of members, in order. -/
def sameMembers : List (String × Json) → List (String × Json) → Bool
  | [], [] => true
  | (n, a) :: as, (m, b) :: bs => n == m && same a b && sameMembers as bs
  | _, _ => false

end

mutual

/-- The members of every object in a value are in increasing order of their names. -/
def Canonical : Json → Prop
  | array items => CanonicalItems items
  | object entries => Entries.Sorted entries ∧ CanonicalMembers entries
  | _ => True

/-- Every value of a list is canonical. -/
def CanonicalItems : List Json → Prop
  | [] => True
  | item :: rest => Canonical item ∧ CanonicalItems rest

/-- Every value among some members is canonical. -/
def CanonicalMembers : List (String × Json) → Prop
  | [] => True
  | (_, value) :: rest => Canonical value ∧ CanonicalMembers rest

end

end Json

end TypedStore
