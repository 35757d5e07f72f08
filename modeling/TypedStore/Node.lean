import TypedStore.Path
import TypedStore.Store.Error

/-!
# Nodes

A node is a record with an id, a type, a digest of its content and a body of
attributes. The body repeats the identity: `id` holds the id, and `internal`
holds the type and the digest, so that paths reach them like any attribute.
A stamped node carries the value that was resolved for it, under a root segment
of its own.
-/

namespace TypedStore

/-- A typed record. -/
structure Node where
  id : String
  type : String
  digest : String
  body : Dict Json

namespace Node

/-- The member of `internal` that repeats the type. -/
def typeName : String := "type"

/-- The member of `internal` that repeats the digest. -/
def digestName : String := "contentDigest"

/-- The same node with its identity written into its body. -/
def stamped (node : Node) : Node :=
  let internal := (node.body.get? "internal").getD Json.emptyObject
  let internal := internal.withMember typeName (.string node.type)
  let internal := internal.withMember digestName (.string node.digest)
  { node with body := (node.body.insert "id" (.string node.id)).insert "internal" internal }

/-- The node that has no attributes beyond its identity. -/
def bare (id type digest : String) : Node := stamped ⟨id, type, digest, ∅⟩

/-- Set an attribute. The identity attributes keep the node's identity. -/
def withAttribute (node : Node) (name : String) (value : Json) : Node :=
  stamped { node with body := node.body.insert name value }

/-- Set a contributed field, a member of the attribute `fields`. -/
def withField (node : Node) (name : String) (value : Json) : Node :=
  let fields := (node.body.get? "fields").getD Json.emptyObject
  { node with body := node.body.insert "fields" (fields.withMember name value) }

/-- The text under two names, the second one below the first. -/
def innerText? (body : Dict Json) (outer inner : String) : Option String :=
  ((body.get? outer).bind (Json.member? inner)).bind Json.text?

/-- The node that an object describes. Its id, type and digest must be texts. -/
def ofJson : Json → Except StoreError Node
  | .object members =>
      let body := Dict.ofList members
      match (body.get? "id").bind Json.text? with
      | none => .error (.malformed (.missingText "id"))
      | some id =>
        match innerText? body "internal" typeName with
        | none => .error (.malformed (.missingText "internal.type"))
        | some type =>
          match innerText? body "internal" digestName with
          | none => .error (.malformed (.missingText "internal.contentDigest"))
          | some digest => .ok ⟨id, type, digest, body⟩
  | _ => .error (.malformed .notAnObject)

/-- The contributed field with a given name. -/
def field? (node : Node) (name : String) : Option Json :=
  (node.body.get? "fields").bind (Json.member? name)

/-- The value at a path. The node itself is no value, so the empty path leads nowhere. -/
def at? (node : Node) : Path → Option Json
  | [] => none
  | name :: rest => (node.body.get? name).bind fun value => value.at? rest

end Node

/-- The first segment of the paths that lead into resolved values. -/
def overlaySegment : String := "__resolved"

/-- A node together with the value that was resolved for it, if there is one. -/
structure StampedNode where
  node : Node
  overlay : Option Json

namespace StampedNode

/-- The id of the node. -/
def id (stamped : StampedNode) : String := stamped.node.id

/-- The type of the node. -/
def type (stamped : StampedNode) : String := stamped.node.type

/-- The value at a path. Paths that start with the overlay segment lead into the
resolved value, all others into the node. -/
def at? (stamped : StampedNode) : Path → Option Json
  | [] => none
  | name :: rest =>
      if name = overlaySegment then stamped.overlay.bind fun value => value.at? rest
      else stamped.node.at? (name :: rest)

end StampedNode

end TypedStore
