import TypedStore.Node

/-!
# The identity of a node

A node comes from an id, a type and a digest or is read from an object, and then has
attributes and contributed fields set. Whichever way it is made, its body repeats
its id.
-/

namespace TypedStore

/-- Only a string value has a text. -/
theorem Json.text?_eq_some_iff {value : Json} {text : String} :
    value.text? = some text ↔ value = .string text := by
  cases value <;> simp [text?]

namespace Node

/-- The nodes that can be made. -/
inductive Made : Node → Prop
  | bare (id type digest : String) : Made (bare id type digest)
  | read {value : Json} {node : Node} (h : ofJson value = .ok node) : Made node
  | withAttribute {node : Node} (made : Made node) (name : String) (value : Json) :
      Made (node.withAttribute name value)
  | withField {node : Node} (made : Made node) (name : String) (value : Json) :
      Made (node.withField name value)

/-- Writing the identity of a node into its body writes its id. -/
theorem get?_id_stamped (node : Node) :
    node.stamped.body.get? "id" = some (.string node.stamped.id) := by
  simp [stamped]

/-- A node is read from an object in which texts stand in the places of its id, its type and its
digest. -/
theorem ofJson_eq_ok {value : Json} {node : Node} (h : ofJson value = .ok node) :
    ∃ members, value = .object members ∧ node.body = Dict.ofList members ∧
      (node.body.get? "id").bind Json.text? = some node.id ∧
      innerText? node.body "internal" typeName = some node.type ∧
      innerText? node.body "internal" digestName = some node.digest := by
  cases value with
  | object members =>
    simp only [ofJson] at h
    split at h
    · contradiction
    · rename_i id hid
      split at h
      · contradiction
      · rename_i type htype
        split at h
        · contradiction
        · rename_i digest hdigest
          obtain rfl := Except.ok.inj h
          exact ⟨members, rfl, rfl, hid, htype, hdigest⟩
  | null | bool | number | string | array => simp [ofJson] at h

/-- What is read from an object has the id that the object gives. -/
theorem get?_id_of_ofJson {value : Json} {node : Node} (h : ofJson value = .ok node) :
    node.body.get? "id" = some (.string node.id) := by
  obtain ⟨-, -, -, hid, -, -⟩ := ofJson_eq_ok h
  obtain ⟨found, hfound, htext⟩ := Option.bind_eq_some_iff.mp hid
  rw [hfound, Json.text?_eq_some_iff.mp htext]

/-- The body of a node repeats its id. -/
theorem Made.get?_id {node : Node} (made : node.Made) :
    node.body.get? "id" = some (.string node.id) := by
  induction made with
  | bare id type digest => exact get?_id_stamped _
  | read h => exact get?_id_of_ofJson h
  | withAttribute _ name value => exact get?_id_stamped _
  | withField _ name value ih => simpa [Node.withField] using ih

/-- The id of a node is the value at the path of its id. -/
theorem Made.at?_id {node : Node} (made : node.Made) :
    node.at? ["id"] = some (.string node.id) := by
  simp [Node.at?, made.get?_id]

end Node

end TypedStore
