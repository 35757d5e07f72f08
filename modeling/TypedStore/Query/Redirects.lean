import TypedStore.Ascending
import TypedStore.Node

/-!
# Redirected paths

A query declares the paths whose values were resolved outside the nodes. A path
that meets a declared one, because it is equal to it, above it or below it, is
read from the overlay of a node instead of the node itself.
-/

namespace TypedStore

/-- One dotted text continues another one behind a dot. -/
def isBelow (text above : String) : Bool := (above.toList ++ ['.']).isPrefixOf text.toList

/-- The dotted paths that are read from overlays, in increasing order. -/
structure Redirects where
  paths : List String
deriving DecidableEq, Repr

namespace Redirects

/-- No path is read from overlays. -/
def none : Redirects := ⟨[]⟩

instance : Inhabited Redirects := ⟨none⟩

/-- The set of some declared paths. -/
def ofPaths (paths : List String) : Redirects := ⟨Ascending.ofTexts paths⟩

/-- A name below a dotted path; below the empty text it stands alone. -/
def extend (above name : String) : String := if above.isEmpty then name else above ++ "." ++ name

mutual

/-- The dotted paths of the leaves of an object below a path. Leaves are empty
objects and values that are no objects. -/
def leafPaths (above : String) : List (String × Json) → List String
  | [] => []
  | (name, value) :: rest => valuePaths (extend above name) value ++ leafPaths above rest

/-- The dotted paths of the leaves of one member, whose own path is given. -/
def valuePaths (path : String) : Json → List String
  | .object (member :: members) => leafPaths path (member :: members)
  | _ => [path]

end

/-- The paths declared by a nested object. Any other value declares none. -/
def ofJson : Json → Redirects
  | .object members => ofPaths (leafPaths "" members)
  | _ => none

/-- A path meets a declared path. -/
def covers (redirects : Redirects) (path : String) : Bool :=
  redirects.paths.any fun declared =>
    declared = path || isBelow declared path || isBelow path declared

/-- The segments at which the value of a dotted path is found on a stamped node. -/
def target (redirects : Redirects) (path : String) : Path :=
  if redirects.covers path then overlaySegment :: Path.split path else Path.split path

end Redirects

end TypedStore
