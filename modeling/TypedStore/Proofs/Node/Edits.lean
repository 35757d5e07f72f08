import TypedStore.Pattern.Dialect
import TypedStore.Proofs.Entries
import TypedStore.Proofs.Node.Identity
import TypedStore.Proofs.Query.Flattening
import TypedStore.Proofs.Query.Selection

/-!
# Edited nodes

A node is made from its identity or read from an object, and then attributes and contributed
fields are set in it one after another. Whatever is written over its identity, the body repeats
it: writing the identity again mends the attributes that hold it and changes nothing where they
are whole. So an edit changes what it sets and nothing else, and filters on the identity select
by it.
-/

namespace TypedStore

namespace Json

theorem canonicalMembers_iff {members : List (String × Json)} :
    CanonicalMembers members ↔ ∀ entry ∈ members, entry.2.Canonical := by
  induction members with
  | nil => simp [CanonicalMembers]
  | cons entry rest ih => simp [CanonicalMembers, ih]

/-- The members of a canonical value are in order. -/
theorem Canonical.sorted_members {value : Json} (canonical : value.Canonical) :
    Entries.Sorted value.members := by
  cases value with
  | object members => exact canonical.1
  | null | bool | number | string | array => exact Entries.sorted_nil

/-- A member of any value is found among its members. -/
theorem get?_members (value : Json) (name : String) :
    Entries.get? name value.members = value.member? name := by
  cases value <;> rfl

end Json

namespace Node

/-- A node that has not been edited: made from its identity, or read from an object. -/
inductive Unedited : Node → Prop
  | bare (id type digest : String) : Unedited (bare id type digest)
  | read {value : Json} {node : Node} (canonical : value.Canonical) (h : ofJson value = .ok node) :
      Unedited node

/-- What is set in a node. -/
inductive Edit where
  | setAttribute (name : String) (value : Json) (canonical : value.Canonical)
  | setField (name : String) (value : Json) (canonical : value.Canonical)

/-- The node in which something is set. -/
def edit (node : Node) : Edit → Node
  | .setAttribute name value _ => node.withAttribute name value
  | .setField name value _ => node.withField name value

/-- The node in which things are set one after another. -/
def editAll (node : Node) (edits : List Edit) : Node := edits.foldl edit node

/-- The body of a node repeats its identity, with some members in the attribute `internal`. -/
structure RepeatsIdentity (node : Node) (members : List (String × Json)) : Prop where
  id : node.body.get? "id" = some (.string node.id)
  internal : node.body.get? "internal" = some (.object members)
  type : Entries.get? typeName members = some (.string node.type)
  digest : Entries.get? digestName members = some (.string node.digest)
  sorted : Entries.Sorted members

/-- The members of the attribute `internal` of a node. -/
def internalMembers (node : Node) : List (String × Json) :=
  ((node.body.get? "internal").getD Json.emptyObject).members

/-- Members into which the type and the digest of a node are written. -/
def stampedMembers (node : Node) (members : List (String × Json)) : List (String × Json) :=
  Entries.insert digestName (.string node.digest)
    (Entries.insert typeName (.string node.type) members)

/-- Two members are written, and no other one is changed. -/
theorem get?_stampedMembers (node : Node) (members : List (String × Json)) (name : String) :
    Entries.get? name (node.stampedMembers members) =
      if name = digestName then some (.string node.digest)
      else if name = typeName then some (.string node.type)
      else Entries.get? name members := by
  simp only [stampedMembers, Entries.get?_insert, eq_comm]

theorem body_stamped (node : Node) :
    node.stamped.body = (node.body.insert "id" (.string node.id)).insert "internal"
      (.object (node.stampedMembers node.internalMembers)) := rfl

/-- A node into whose body its identity was written repeats it there. -/
theorem repeatsIdentity_stamped {node : Node} (sorted : Entries.Sorted node.internalMembers) :
    node.stamped.RepeatsIdentity (node.stampedMembers node.internalMembers) where
  id := get?_id_stamped node
  internal := by simp [body_stamped]
  type := by
    have hne : typeName ≠ digestName := by decide
    rw [get?_stampedMembers, if_neg hne, if_pos rfl]
    rfl
  digest := by
    rw [get?_stampedMembers, if_pos rfl]
    rfl
  sorted := Entries.sorted_insert (Entries.sorted_insert sorted)

variable {node : Node} {members : List (String × Json)}

/-- Where the identity is whole, writing it again changes nothing. -/
theorem RepeatsIdentity.stamped_eq (h : node.RepeatsIdentity members) : node.stamped = node := by
  have hmembers : node.internalMembers = members := by
    simp [internalMembers, h.internal, Json.members]
  have hstamped : node.stampedMembers members = members := by
    refine Entries.eq_of_get?_eq (Entries.sorted_insert (Entries.sorted_insert h.sorted)) h.sorted
      fun name => ?_
    rw [get?_stampedMembers]
    split
    · rename_i hname
      rw [hname, h.digest]
    · split
      · rename_i hname
        rw [hname, h.type]
      · rfl
  have hbody : node.stamped.body = node.body := by
    rw [body_stamped, hmembers, hstamped, Dict.insert_eq_self h.id, Dict.insert_eq_self h.internal]
  calc
    node.stamped = { node with body := node.stamped.body } := rfl
    _ = node := by rw [hbody]

/-- What is read from an object repeats its identity as the object does. -/
theorem exists_repeatsIdentity_of_ofJson {value : Json} (canonical : value.Canonical)
    (h : ofJson value = .ok node) : ∃ members, node.RepeatsIdentity members := by
  obtain ⟨outer, rfl, hbody, -, htype, hdigest⟩ := ofJson_eq_ok h
  obtain ⟨type, hinner, hlookup⟩ := Option.bind_eq_some_iff.mp htype
  obtain ⟨internal, hinternal, hmember⟩ := Option.bind_eq_some_iff.mp hinner
  have hcanonical : internal.Canonical := by
    rw [hbody, Dict.get?, Dict.ofList, Entries.get?_ofList] at hinternal
    exact Json.canonicalMembers_iff.mp canonical.2 _
      (List.mem_reverse.mp (Entries.mem_of_get? hinternal))
  cases internal with
  | object members =>
    refine ⟨members, get?_id_of_ofJson h, hinternal, ?_, ?_, hcanonical.1⟩
    · rw [← Json.text?_eq_some_iff.mp hlookup]
      exact hmember
    · simpa [innerText?, hinternal, Json.member?, Option.bind_eq_some_iff,
        Json.text?_eq_some_iff] using hdigest
  | null | bool | number | string | array => simp [Json.member?] at hmember

/-- A node that has not been edited repeats its identity. -/
theorem Unedited.exists_repeatsIdentity (h : node.Unedited) :
    ∃ members, node.RepeatsIdentity members := by
  cases h with
  | bare id type digest => exact ⟨_, repeatsIdentity_stamped Entries.sorted_nil⟩
  | read canonical h => exact exists_repeatsIdentity_of_ofJson canonical h

/-- An attribute of another name than the identity is set and nothing else is changed. -/
theorem RepeatsIdentity.withAttribute_eq (h : node.RepeatsIdentity members) {name : String}
    (hid : name ≠ "id") (hinternal : name ≠ "internal") (value : Json) :
    node.withAttribute name value = { node with body := node.body.insert name value } := by
  have hset : RepeatsIdentity { node with body := node.body.insert name value } members :=
    ⟨by simp [hid, h.id], by simp [hinternal, h.internal], h.type, h.digest, h.sorted⟩
  exact hset.stamped_eq

/-- The id that is written over the id is replaced by it again. -/
theorem RepeatsIdentity.withAttribute_id (h : node.RepeatsIdentity members) (value : Json) :
    node.withAttribute "id" value = node := by
  have hstamped : node.withAttribute "id" value = node.stamped := by
    simp [withAttribute, stamped, Dict.insert_insert]
  rw [hstamped, h.stamped_eq]

/-- What is written over `internal` becomes an object that keeps its members but for two. -/
theorem RepeatsIdentity.withAttribute_internal (h : node.RepeatsIdentity members) (value : Json) :
    node.withAttribute "internal" value =
      { node with
        body := node.body.insert "internal" (.object (node.stampedMembers value.members)) } := by
  have hbody : (node.withAttribute "internal" value).body =
      node.body.insert "internal" (.object (node.stampedMembers value.members)) := by
    have hmembers : internalMembers { node with body := node.body.insert "internal" value } =
        value.members := by simp [internalMembers]
    have hid : (node.body.insert "internal" value).insert "id" (.string node.id) =
        node.body.insert "internal" value := Dict.insert_eq_self (by simp [h.id])
    rw [withAttribute, body_stamped, hmembers, hid, Dict.insert_insert]
    rfl
  calc
    node.withAttribute "internal" value =
        { node with body := (node.withAttribute "internal" value).body } := rfl
    _ = _ := by rw [hbody]

/-- A contributed field is set among the others, and nothing else is changed. -/
theorem withField_eq (node : Node) (name : String) (value : Json) :
    ∃ fields, node.withField name value =
        { node with body := node.body.insert "fields" (.object fields) } ∧
      ∀ other, Entries.get? other fields =
        if name = other then some value else node.field? other := by
  refine ⟨_, rfl, fun other => ?_⟩
  rw [Entries.get?_insert, Json.get?_members, field?]
  cases node.body.get? "fields" with
  | none => rfl
  | some whole => rfl

/-- An edit leaves a node that repeats its identity. -/
theorem RepeatsIdentity.edit (h : node.RepeatsIdentity members) (edit : Edit) :
    ∃ members, (node.edit edit).RepeatsIdentity members := by
  cases edit with
  | setAttribute name value canonical =>
    have hmembers : internalMembers { node with body := node.body.insert name value } =
        if name = "internal" then value.members else members := by
      by_cases hname : name = "internal" <;>
        simp [internalMembers, hname, h.internal, Json.members]
    refine ⟨_, repeatsIdentity_stamped ?_⟩
    rw [hmembers]
    split
    · exact canonical.sorted_members
    · exact h.sorted
  | setField name value =>
    refine ⟨members, ?_, ?_, h.type, h.digest, h.sorted⟩
    · simpa [Node.edit, withField] using h.id
    · simpa [Node.edit, withField] using h.internal

/-- An edit keeps the id, the type and the digest. -/
theorem edit_identity (node : Node) (edit : Edit) : (node.edit edit).id = node.id ∧
    (node.edit edit).type = node.type ∧ (node.edit edit).digest = node.digest := by
  cases edit <;> exact ⟨rfl, rfl, rfl⟩

/-- So do edits one after another. -/
theorem editAll_identity (node : Node) (edits : List Edit) :
    (node.editAll edits).id = node.id ∧ (node.editAll edits).type = node.type ∧
      (node.editAll edits).digest = node.digest := by
  induction edits generalizing node with
  | nil => exact ⟨rfl, rfl, rfl⟩
  | cons edit rest ih =>
    obtain ⟨hid, htype, hdigest⟩ := node.edit_identity edit
    obtain ⟨hrestId, hrestType, hrestDigest⟩ := ih (node.edit edit)
    exact ⟨hrestId.trans hid, hrestType.trans htype, hrestDigest.trans hdigest⟩

/-- Edited nodes repeat their identity. -/
theorem exists_repeatsIdentity_editAll (h : node.RepeatsIdentity members) (edits : List Edit) :
    ∃ members, (node.editAll edits).RepeatsIdentity members := by
  induction edits generalizing node members with
  | nil => exact ⟨members, h⟩
  | cons edit rest ih =>
    obtain ⟨_, hedit⟩ := h.edit edit
    exact ih hedit

end Node

namespace Filter

/-- The filter that asks for equality with a text below some names. -/
def textEquality (names : List String) (text : String) : Json :=
  .object (nest names [(Operator.equal.name, .string text)])

example (text : String) : textEquality ["internal", "type"] text =
    .object [("internal", .object [("type", .object [("eq", .string text)])])] := rfl

/-- Without redirects, such a filter selects by the text that a node has at the names. -/
theorem exists_compile_textEquality [PatternEngine] {names : List String}
    (hne : names ≠ []) (hnames : elementOperator ∉ names)
    (hdots : ∀ name ∈ names, '.' ∉ name.toList) (hroot : names.head hne ≠ overlaySegment)
    (text : String) :
    ∃ filter, compile Redirects.none (textEquality names text) = .ok filter ∧
      ∀ (stamped : StampedNode) (found : String), stamped.node.at? names = some (.string found) →
        (filter.matchesNode stamped = true ↔ found = text) := by
  refine ⟨_, compile_nest_operator hne hnames (by simp) rfl, fun stamped found hfound => ?_⟩
  have hsplit : Path.split (Path.join names) = names := Path.split_join hne hdots
  obtain ⟨name, rest, rfl⟩ := List.exists_cons_of_ne_nil hne
  rw [matchesNode_of_not_covers rfl hsplit hroot, hfound]
  simp [Condition.holds, Json.equals, Json.agrees, Json.same]

end Filter

namespace Node

variable {node : Node} {members : List (String × Json)}

/-- The parts of an identity are found at their paths. -/
theorem RepeatsIdentity.at?_eq (h : node.RepeatsIdentity members) :
    node.at? ["id"] = some (.string node.id) ∧
      node.at? ["internal", "type"] = some (.string node.type) ∧
      node.at? ["internal", "contentDigest"] = some (.string node.digest) := by
  refine ⟨by simp [at?, h.id], ?_, ?_⟩
  · simpa [at?, h.internal, Json.at?, Json.memberAt?_eq, typeName] using h.type
  · simpa [at?, h.internal, Json.at?, Json.memberAt?_eq, digestName] using h.digest

/-- Where no path is redirected, filters that ask for a part of an identity let pass the nodes that
have it. -/
theorem RepeatsIdentity.selects [PatternEngine] (h : node.RepeatsIdentity members)
    {names : List String} {part : String} (hpart : (names, part) ∈
      [(["id"], node.id), (["internal", "type"], node.type),
        (["internal", "contentDigest"], node.digest)]) (text : String) :
    ∃ filter, Filter.compile Redirects.none (Filter.textEquality names text) = .ok filter ∧
      ∀ overlay, filter.matchesNode ⟨node, overlay⟩ = true ↔ part = text := by
  have hselects (hne : names ≠ []) (hnames : elementOperator ∉ names)
      (hdots : ∀ name ∈ names, '.' ∉ name.toList) (hroot : names.head hne ≠ overlaySegment)
      (hfound : node.at? names = some (.string part)) :
      ∃ filter, Filter.compile Redirects.none (Filter.textEquality names text) = .ok filter ∧
        ∀ overlay, filter.matchesNode ⟨node, overlay⟩ = true ↔ part = text := by
    obtain ⟨filter, hcompile, hmatches⟩ :=
      Filter.exists_compile_textEquality hne hnames hdots hroot text
    exact ⟨filter, hcompile, fun overlay => hmatches ⟨node, overlay⟩ part hfound⟩
  obtain ⟨hid, htype, hdigest⟩ := h.at?_eq
  simp only [List.mem_cons, Prod.mk.injEq, List.not_mem_nil, or_false] at hpart
  rcases hpart with ⟨rfl, rfl⟩ | ⟨rfl, rfl⟩ | ⟨rfl, rfl⟩
  · exact hselects (by decide) (by decide) (by decide) (by decide) hid
  · exact hselects (by decide) (by decide) (by decide) (by decide) htype
  · exact hselects (by decide) (by decide) (by decide) (by decide) hdigest

/-- Edited nodes have the identity that they had at first, and their bodies repeat it. So filters
that ask for a part of the identity let pass exactly the nodes that have it. An edit sets the
attribute or the contributed field that it names and changes nothing else; over the id nothing can
be written, and `internal` becomes an object in which the type and the digest stay. -/
theorem editAll_keeps_identity [PatternEngine] {start : Node} (unedited : start.Unedited)
    (edits : List Edit) :
    let node := start.editAll edits
    (node.id = start.id ∧ node.type = start.type ∧ node.digest = start.digest) ∧
      node.body.get? "id" = some (.string start.id) ∧
      (∃ members, node.body.get? "internal" = some (.object members) ∧
        Entries.get? "type" members = some (.string start.type) ∧
        Entries.get? "contentDigest" members = some (.string start.digest)) ∧
      (∀ names part, (names, part) ∈ [(["id"], start.id), (["internal", "type"], start.type),
          (["internal", "contentDigest"], start.digest)] →
        ∀ text, ∃ filter,
          Filter.compile Redirects.none (Filter.textEquality names text) = .ok filter ∧
            ∀ overlay, filter.matchesNode ⟨node, overlay⟩ = true ↔ part = text) ∧
      (∀ name value, name ≠ "id" → name ≠ "internal" →
        node.withAttribute name value = { node with body := node.body.insert name value }) ∧
      (∀ value, node.withAttribute "id" value = node) ∧
      (∀ value, ∃ members, node.withAttribute "internal" value =
          { node with body := node.body.insert "internal" (.object members) } ∧
        ∀ name, Entries.get? name members =
          if name = "contentDigest" then some (.string start.digest)
          else if name = "type" then some (.string start.type)
          else value.member? name) ∧
      ∀ name value, ∃ fields, node.withField name value =
          { node with body := node.body.insert "fields" (.object fields) } ∧
        ∀ other, Entries.get? other fields =
          if name = other then some value else node.field? other := by
  intro node
  obtain ⟨_, hstart⟩ := unedited.exists_repeatsIdentity
  obtain ⟨members, h⟩ := exists_repeatsIdentity_editAll hstart edits
  obtain ⟨hid, htype, hdigest⟩ := start.editAll_identity edits
  rw [← hid, ← htype, ← hdigest]
  refine ⟨⟨rfl, rfl, rfl⟩, h.id, ⟨members, h.internal, h.type, h.digest⟩,
    fun names part hpart text => h.selects hpart text,
    fun name value hname hother => h.withAttribute_eq hname hother value,
    fun value => h.withAttribute_id value, fun value => ?_, node.withField_eq⟩
  refine ⟨_, h.withAttribute_internal value, fun name => ?_⟩
  rw [get?_stampedMembers, Json.get?_members]
  rfl

/-- An object that describes a post. -/
def describedPost : Json :=
  .object [("id", .string "b"),
    ("internal", .object [("contentDigest", .string "d2"), ("type", .string "Post")])]

/-- What is set to write over an identity: another id, an `internal` that tells another type, one
that is no object, and `fields` that are none. -/
def forgery : List Edit :=
  [.setAttribute "id" (.string "forged") trivial,
    .setAttribute "internal" (.object [("owner", .string "plugin"), ("type", .string "Page")])
      ⟨List.pairwise_pair.mpr (by decide), trivial, trivial, trivial⟩,
    .setAttribute "fields" (.bool true) trivial, .setField "slug" (.string "/b") trivial,
    .setAttribute "internal" .null trivial]

open scoped PatternEngine

/-- The post is read, and what is written over its identity does not change it. -/
theorem editAll_keeps_identity_forgery :
    ∃ start, ofJson describedPost = .ok start ∧ start.Unedited ∧
      (start.editAll forgery).body.get? "id" = some (.string "b") ∧
      ∃ filter, Filter.compile Redirects.none (Filter.textEquality ["internal", "type"] "Post") =
        .ok filter ∧ filter.matchesNode ⟨start.editAll forgery, none⟩ = true := by
  have hinternal : Entries.Sorted
      [("contentDigest", Json.string "d2"), ("type", .string "Post")] :=
    List.pairwise_pair.mpr (by decide)
  have hcanonical : describedPost.Canonical :=
    ⟨List.pairwise_pair.mpr (by decide), trivial, ⟨hinternal, trivial, trivial, trivial⟩, trivial⟩
  obtain ⟨start, hread, hid, htype⟩ : ∃ start, ofJson describedPost = .ok start ∧
      start.id = "b" ∧ start.type = "Post" := ⟨_, rfl, rfl, rfl⟩
  have unedited : start.Unedited := .read hcanonical hread
  obtain ⟨-, hbody, -, hselects, -⟩ := editAll_keeps_identity unedited forgery
  obtain ⟨filter, hcompile, hmatches⟩ :=
    hselects ["internal", "type"] start.type (by simp) "Post"
  exact ⟨start, hread, unedited, hid ▸ hbody, filter, hcompile, (hmatches none).mpr htype⟩

end Node

end TypedStore
