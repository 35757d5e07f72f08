import TypedStore.Index.Cache
import TypedStore.Proofs.Index.Bucket
import TypedStore.Proofs.Index.Name
import TypedStore.Proofs.Store.History

/-!
# Asking for an index and looking up in it

An index that is asked for is there already and in use, or it is built from the
store as it is. After it was built, a lookup answers equality with any value, and so
does the lookup of an id, which goes past the indexes.
-/

namespace TypedStore

variable {store : Store} {types : List String} {text : String} {path : FieldPath}

namespace FieldPath

/-- The path of ids has one segment. -/
theorem segments_of_parse_id (parsed : parse "id" = .ok path) : path.segments = ["id"] := by
  have hid : parse "id" = .ok ⟨"id", ["id"]⟩ := rfl
  obtain rfl := Except.ok.inj (hid.symm.trans parsed)
  rfl

/-- The path of a contributed field is not the path of ids. -/
theorem contributed_append_ne_id (name : String) : contributed ++ name ≠ "id" := by
  intro hid
  have hlength := congrArg String.length hid
  rw [String.length_append] at hlength
  have hfields : contributed.length = 7 := by decide
  have htwo : "id".length = 2 := by decide
  omega

end FieldPath

/-- Looking up an id answers equality with a value on the path of ids. -/
theorem Store.Consistent.answersEquality_findAmong? (consistent : store.Consistent)
    (types : List String) (value : Json) :
    store.AnswersEquality ["id"] types value
      (value.text?.bind fun id => (store.findAmong? id types).map fun stamped => [stamped]) := by
  have hequals {node : Node} (hlive : store.get? node.id = some node) :
      Json.equals (node.at? ["id"]) value = true ↔ value.text? = some node.id := by
    rw [(consistent.made _ _ hlive).at?_id]
    cases value <;> simp [Json.equals, Json.agrees, Json.same, Json.text?, @eq_comm _ node.id]
  cases htext : value.text? with
  | none =>
    have hnone (node : Node) (h : store.Qualifies ["id"] types value node) : False := by
      simpa [htext] using (hequals h.live).mp h.equals
    exact ⟨by simpa using Or.inr hnone, by simp, by simp⟩
  | some id =>
    have hqualifies {node : Node} : store.Qualifies ["id"] types value node ↔
        store.get? id = some node ∧ node.type ∈ types := by
      constructor
      · intro h
        have hid := (hequals h.live).mp h.equals
        rw [htext, Option.some.injEq] at hid
        exact ⟨hid ▸ h.live, h.typed⟩
      · rintro ⟨hlive, htyped⟩
        obtain rfl := consistent.id_eq _ _ hlive
        exact ⟨hlive, htyped, (hequals hlive).mpr htext⟩
    have hmem {stamped : StampedNode} : store.findAmong? id types = some stamped ↔
        ∃ node, store.Qualifies ["id"] types value node ∧ stamped = store.stamp node := by
      simp only [findAmong?_eq_some_iff, hqualifies, and_assoc]
    have hscalar : value.isScalar = true := by cases value <;> simp_all [Json.text?, Json.isScalar]
    rw [Option.bind_some]
    cases hfound : store.findAmong? id types with
    | none =>
      have hnone (node : Node) (h : store.Qualifies ["id"] types value node) : False := by
        simpa [hfound] using hmem.mpr ⟨node, h, rfl⟩
      exact ⟨by simpa using Or.inr hnone, by simp, by simp⟩
    | some only =>
      obtain ⟨node, hnode, rfl⟩ := hmem.mp hfound
      refine ⟨?_, by simp, ?_⟩
      · simp only [Option.map_some, reduceCtorEq, hscalar, Bool.true_eq_false, false_or, false_iff]
        exact fun hnone => hnone node hnode
      · intro found hsome stamped
        obtain rfl := Option.some.inj hsome
        rw [List.mem_singleton, ← hmem, hfound, Option.some.injEq, eq_comm]

namespace IndexCache

/-- Asking for an index finds one that is in use and changes nothing, or builds the index
from the store. -/
theorem ensure_cases (cache : IndexCache) (store : Store) (types : List String)
    (parsed : FieldPath.parse text = .ok path) :
    (∃ index, cache.indexes.get? (IndexName.of types path) = some index ∧
        cache.isFresh index store = true ∧
        cache.ensure store text types = .ok ⟨cache, false, []⟩) ∨
      ((∀ index, cache.indexes.get? (IndexName.of types path) = some index →
          cache.isFresh index store = false) ∧
        ∃ before, cache.ensure store text types =
          .ok (cache.build store (IndexName.of types path) path.segments types before)) := by
  simp only [ensure, parsed]
  cases cache.indexes.get? (IndexName.of types path) with
  | none => exact Or.inr ⟨by simp, _, rfl⟩
  | some index =>
    by_cases hfresh : cache.isFresh index store = true
    · exact Or.inl ⟨index, rfl, hfresh, by simp [hfresh]⟩
    · exact Or.inr ⟨by simpa using hfresh, _, by simp only [if_neg hfresh]; rfl⟩

/-- An index is provided only over a field path. -/
theorem parse_of_ensure {cache : IndexCache} {ensured : Ensured}
    (h : cache.ensure store text types = .ok ensured) :
    ∃ path, FieldPath.parse text = .ok path := by
  unfold ensure at h
  split at h
  · contradiction
  · exact ⟨_, ‹_›⟩

/-- An index over a contributed field is asked for by its path. -/
@[simp] theorem ensureField_eq (cache : IndexCache) (store : Store) (name : String)
    (types : List String) :
    cache.ensureField store name types =
      cache.ensure store (FieldPath.contributed ++ name) types := by
  unfold ensureField FieldPath.ofField
  cases hparse : FieldPath.parse (FieldPath.contributed ++ name) with
  | error e => simp only [ensure, hparse]
  | ok path => simp only [FieldPath.text_of_parse hparse]

/-- A contributed field is looked up by its path. -/
@[simp] theorem lookupField?_eq (cache : IndexCache) (store : Store) (name : String) (value : Json)
    (types : List String) :
    cache.lookupField? store name value types =
      cache.lookup? store (FieldPath.contributed ++ name) value types := by
  unfold lookupField? FieldPath.ofField
  cases hparse : FieldPath.parse (FieldPath.contributed ++ name) with
  | error e => simp only [lookup?, FieldPath.contributed_append_ne_id, if_false, hparse]
  | ok path => simp only [FieldPath.text_of_parse hparse]

/-- An index is in use at the generation that it was built at. -/
theorem isFresh_build (cache : IndexCache) (store : Store) (path : Path) (types : List String) :
    cache.isFresh (FieldIndex.build store path types) store = true := by
  unfold isFresh Freshness.accepts
  split <;> simp [FieldIndex.build]

/-- Away from the path of ids, a lookup reads the index that is kept under the name. -/
theorem lookup?_of_ne_id (cache : IndexCache) (store : Store) (value : Json) (types : List String)
    (hid : text ≠ "id") (parsed : FieldPath.parse text = .ok path) :
    cache.lookup? store text value types =
      (cache.indexes.get? (IndexName.of types path)).bind fun index =>
        if cache.isFresh index store then (IndexKey.ofJson? value).bind index.bucket?
        else none := by
  simp only [lookup?, if_neg hid, parsed]
  cases cache.indexes.get? (IndexName.of types path) <;> rfl

/-- What a lookup finds away from the path of ids is the bucket of the key of the value, in the
index in use that is kept under the name. -/
theorem bucket?_of_lookup? {cache : IndexCache} {value : Json} {found : List StampedNode}
    (hid : text ≠ "id") (h : cache.lookup? store text value types = some found) :
    ∃ path index key, FieldPath.parse text = .ok path ∧
      cache.indexes.get? (IndexName.of types path) = some index ∧
      cache.isFresh index store = true ∧ IndexKey.ofJson? value = some key ∧
      index.bucket? key = some found := by
  cases hparse : FieldPath.parse text with
  | error e => simp [lookup?, hid, hparse] at h
  | ok path =>
    rw [lookup?_of_ne_id _ _ _ _ hid hparse] at h
    obtain ⟨index, hindex, h⟩ := Option.bind_eq_some_iff.mp h
    split at h
    · rename_i hfresh
      obtain ⟨key, hkey, hbucket⟩ := Option.bind_eq_some_iff.mp h
      exact ⟨path, index, key, rfl, hindex, hfresh, hkey, hbucket⟩
    · contradiction

/-- After an index was built, a lookup answers equality. -/
theorem answersEquality_lookup?_build (cache : IndexCache) (consistent : store.Consistent)
    (parsed : FieldPath.parse text = .ok path) (types : List String) (before : List Entry)
    (value : Json) :
    store.AnswersEquality path.segments types value
      ((cache.build store (IndexName.of types path) path.segments types before).cache.lookup?
        store text value types) := by
  by_cases hid : text = "id"
  · subst hid
    rw [FieldPath.segments_of_parse_id parsed, lookup?, if_pos rfl]
    exact consistent.answersEquality_findAmong? types value
  · rw [lookup?_of_ne_id _ _ _ _ hid parsed]
    simp only [build, Table.get?_set, if_true, Option.bind_some, isFresh_build]
    exact FieldIndex.answersEquality_build consistent _ _ _

/-- Asking for an index over a field path always succeeds, and it builds the index unless
one is in use. When it was built, a lookup of any value answers equality with the value,
and it is what the index that is kept now has under the key of the value. -/
theorem lookup?_ensured (reachable : store.Reachable) (cache : IndexCache)
    (parsed : FieldPath.parse text = .ok path) (types : List String) :
    ∃ ensured, cache.ensure store text types = .ok ensured ∧
      (ensured.built = true ↔ ∀ index,
        cache.indexes.get? (IndexName.of types path) = some index →
          cache.isFresh index store = false) ∧
      (ensured.built = true → ∀ value,
        store.AnswersEquality path.segments types value
            (ensured.cache.lookup? store text value types) ∧
          ∃ index, ensured.cache.indexes.get? (IndexName.of types path) = some index ∧
            ensured.cache.lookup? store text value types =
              (IndexKey.ofJson? value).bind index.bucket?) := by
  have consistent := reachable.consistent
  rcases ensure_cases cache store types parsed with
    ⟨index, hindex, hfresh, hensure⟩ | ⟨hstale, before, hensure⟩
  · refine ⟨_, hensure, ?_, by simp⟩
    simp only [Bool.false_eq_true, false_iff]
    intro hstale
    simp [hstale index hindex] at hfresh
  · refine ⟨_, hensure, by simpa [build] using hstale, fun _ value => ?_⟩
    have hlookup := answersEquality_lookup?_build cache consistent parsed types before value
    refine ⟨hlookup, FieldIndex.build store path.segments types, by simp [build], ?_⟩
    exact hlookup.unique (FieldIndex.answersEquality_build consistent _ _ _)

/-- The addition of a node with a tag. -/
def addTagged (id : String) (tag : Json) : Change :=
  .add ((Node.bare id "Post" "d").withField "tag" tag) ((Node.Made.bare ..).withField ..)

/-- A store with two nodes, one with a list of tags and one with a single tag. -/
def taggedStore : Store :=
  (Store.empty.change (addTagged "a" (.array [.string "x", .string "y", .string "x"]))).change
    (addTagged "b" (.string "x"))

/-- In this store both nodes are found by a tag that they share, each once. -/
theorem lookup?_ensured_tagged :
    taggedStore.Reachable ∧
      FieldPath.parse "fields/tag" = .ok ⟨"fields/tag", ["fields", "tag"]⟩ ∧
      ∃ ensured, (empty .generation).ensure taggedStore "fields/tag" ["Post"] = .ok ensured ∧
        ensured.built = true ∧
        taggedStore.AnswersEquality ["fields", "tag"] ["Post"] (.string "x")
          (ensured.cache.lookup? taggedStore "fields/tag" (.string "x") ["Post"]) ∧
        (ensured.cache.lookup? taggedStore "fields/tag" (.string "x") ["Post"]).map
          (List.map StampedNode.id) = some ["a", "b"] := by
  have reachable : taggedStore.Reachable := (Store.Reachable.empty.change _).change _
  have parsed : FieldPath.parse "fields/tag" = .ok ⟨"fields/tag", ["fields", "tag"]⟩ := rfl
  obtain ⟨ensured, hensure, -, hlookup⟩ :=
    lookup?_ensured reachable (empty .generation) parsed ["Post"]
  refine ⟨reachable, parsed, ensured, hensure, ?_⟩
  obtain rfl : _ = ensured := Except.ok.inj hensure
  exact ⟨rfl, (hlookup rfl _).1, by decide⟩

end IndexCache

end TypedStore
