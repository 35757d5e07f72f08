import TypedStore.Index.Basic
import TypedStore.Index.Freshness
import TypedStore.Journal.Span

/-!
# The cache of indexes

Indexes are built when they are first asked for and kept under their names. Whether
an index that was built from an older store is still used is a matter of policy; one
that is not used is built anew in its place.
-/

namespace TypedStore

-- Sums start at the zero of the numbers themselves, whatever other zeros there are.
attribute [local instance(2000)] Zero.ofOfNat0

/-- The sizes of all indexes of a cache together. -/
structure IndexSizes where
  indexes : Nat
  buckets : Nat
  entries : Nat
deriving DecidableEq, Repr

/-- The indexes that have been built, by their names. -/
structure IndexCache where
  indexes : Table IndexName FieldIndex
  policy : Freshness

namespace IndexCache

/-- The cache without indexes. -/
def empty (policy : Freshness) : IndexCache := ⟨[], policy⟩

/-- An index is used for a store. -/
def isFresh (cache : IndexCache) (index : FieldIndex) (store : Store) : Bool :=
  cache.policy.accepts index.generation store.generation

/-- What came of asking for an index: the cache, whether the index was built, and
the entries for the journal. -/
structure Ensured where
  cache : IndexCache
  built : Bool
  journal : List Entry

/-- The entry for an index that is out of date. -/
def staleEntry (name : IndexName) (index : FieldIndex) (store : Store) : Entry :=
  .ofEvent .indexStale
    [("built_at", toString index.generation), ("generation", toString store.generation),
      ("index", name.text)]

/-- The span of building an index. -/
def buildSpan (name : IndexName) : Span := ⟨"INDEX_BUILD", [("index", name.text)]⟩

/-- Build an index and keep it under its name. -/
def build (cache : IndexCache) (store : Store) (name : IndexName) (path : Path)
    (types : List String) (before : List Entry) : Ensured :=
  let index := FieldIndex.build store path types
  let ending : SpanEnding :=
    .complete [("buckets", toString index.buckets.length), ("entries", toString index.size)]
  { cache := { cache with indexes := cache.indexes.set name index }
    built := true
    journal := before ++ (buildSpan name).around [] ending }

/-- Make sure that there is an index over a field path of some types that is used for
the store. -/
def ensure (cache : IndexCache) (store : Store) (text : String) (types : List String) :
    Except IndexError Ensured :=
  match FieldPath.parse text with
  | .error e => .error e
  | .ok path =>
    let name := IndexName.of types path
    match cache.indexes.get? name with
    | none => .ok (cache.build store name path.segments types [])
    | some index =>
        if cache.isFresh index store then .ok ⟨cache, false, []⟩
        else .ok (cache.build store name path.segments types [staleEntry name index store])

/-- Make sure that there is an index over a contributed field. -/
def ensureField (cache : IndexCache) (store : Store) (name : String) (types : List String) :
    Except IndexError Ensured :=
  match FieldPath.ofField name with
  | .error e => .error e
  | .ok path => cache.ensure store path.text types

/-- The nodes of some types whose value at a field path equals a value. The path `id`
needs no index: the node with the id is looked up. Otherwise there is no answer
without an index that is used for the store, without a key of the value or without
a node. -/
def lookup? (cache : IndexCache) (store : Store) (text : String) (value : Json)
    (types : List String) : Option (List StampedNode) :=
  if text = "id" then
    value.text?.bind fun id => (store.findAmong? id types).map fun stamped => [stamped]
  else
    match FieldPath.parse text with
    | .error _ => none
    | .ok path =>
      match cache.indexes.get? (IndexName.of types path) with
      | none => none
      | some index =>
          if cache.isFresh index store then (IndexKey.ofJson? value).bind index.bucket? else none

/-- The nodes of some types whose contributed field equals a value. -/
def lookupField? (cache : IndexCache) (store : Store) (name : String) (value : Json)
    (types : List String) : Option (List StampedNode) :=
  match FieldPath.ofField name with
  | .error _ => none
  | .ok path => cache.lookup? store path.text value types

/-- The number of indexes. -/
def count (cache : IndexCache) : Nat := cache.indexes.length

/-- The sizes of all indexes together. -/
def sizes (cache : IndexCache) : IndexSizes where
  indexes := cache.indexes.length
  buckets := (cache.indexes.map fun entry => entry.2.buckets.length).sum
  entries := (cache.indexes.map fun entry => entry.2.size).sum

/-- Drop all indexes. -/
def clear (cache : IndexCache) : IndexCache := { cache with indexes := [] }

end IndexCache

end TypedStore
