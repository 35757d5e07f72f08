import TypedStore.Filter.Operator
import TypedStore.Query.Sort

/-!
# Queries

A query names the types of the nodes it asks for, a filter, a sort, whether one
node is enough, and the paths that are read from overlays. Two shapes of filters
can be answered without a scan: equality of one contributed field, and equality of
the id.
-/

namespace TypedStore

/-- A request for nodes. -/
structure Query where
  /-- The types of the nodes, in the order in which they are looked through. -/
  types : List String
  filter : Json
  sort : Option SortSpec
  /-- One node at most is asked for. -/
  firstOnly : Bool
  redirects : Redirects

namespace Query

/-- The only member of an object. -/
def singleMember? : Json → Option (String × Json)
  | .object [member] => some member
  | _ => none

/-- The only member is read off objects with one member. -/
theorem singleMember?_eq_some_iff {value : Json} {member : String × Json} :
    singleMember? value = some member ↔ value = .object [member] := by
  constructor
  · intro h
    unfold singleMember? at h
    split at h
    · rw [Option.some.inj h]
    · contradiction
  · rintro rfl
    rfl

/-- The name and the value of a filter that asks for equality of one contributed
field and nothing else. -/
def fieldEquality? (filter : Json) : Option (String × Json) :=
  match singleMember? filter with
  | some (root, fields) =>
      if root = "fields" then
        match singleMember? fields with
        | some (name, operators) =>
          match singleMember? operators with
          | some (operator, value) =>
              if operator = Operator.equal.name then some (name, value) else none
          | none => none
        | none => none
      else none
  | none => none

/-- The equality of one contributed field that a query asks for, unless the field is
read from overlays. -/
def fieldShortcut? (query : Query) : Option (String × Json) :=
  match fieldEquality? query.filter with
  | some (name, value) =>
      if query.redirects.covers ("fields." ++ name) then none else some (name, value)
  | none => none

/-- The text of a filter that asks for equality of the id with a text and nothing else. -/
def idEquality? (filter : Json) : Option String :=
  match singleMember? filter with
  | some (name, operators) =>
    match singleMember? operators with
    | some (operator, value) =>
        if name = "id" ∧ operator = Operator.equal.name then value.text? else none
    | none => none
  | none => none

end Query

end TypedStore
