import TypedStore.Ascending
import TypedStore.Index.Error
import TypedStore.Path

/-!
# Field paths and index names

An index is kept for a set of types and a field path. `fields/<name>` is the path
of a contributed field, any other text is a dotted path of attributes; no segment
is empty. The name of an index spells the types in increasing order, each once and
with commas between them, so sets of types with commas in their names can share a
spelling.
-/

namespace TypedStore

/-- A path that an index can have: its text and its segments. -/
structure FieldPath where
  text : String
  segments : Path
deriving DecidableEq, Repr

namespace FieldPath

/-- What the paths of contributed fields start with. -/
def contributed : String := "fields/"

/-- The segments of a field path, unless it names a contributed field by no name. -/
def segmentsOf (text : String) : Except PathFault Path :=
  if contributed.toList.isPrefixOf text.toList then
    let name := text.toList.drop contributed.length
    if name.isEmpty then .error .emptyFieldName
    else .ok ("fields" :: Path.split (String.ofList name))
  else .ok (Path.split text)

/-- Read a field path. -/
def parse (text : String) : Except IndexError FieldPath :=
  match segmentsOf text with
  | .error fault => .error ⟨text, fault⟩
  | .ok segments =>
      if segments.any String.isEmpty then .error ⟨text, .emptySegment⟩ else .ok ⟨text, segments⟩

/-- The path of a contributed field. -/
def ofField (name : String) : Except IndexError FieldPath := parse (contributed ++ name)

end FieldPath

/-- The name of an index: the spelling of its types and the text of its path. -/
structure IndexName where
  types : String
  path : String
deriving DecidableEq, Repr

namespace IndexName

/-- The name of the index for some types and a path. -/
def of (types : List String) (path : FieldPath) : IndexName :=
  ⟨Separated.joinTexts ',' (Ascending.ofTexts types), path.text⟩

/-- The name in one text. -/
def text (name : IndexName) : String := name.types ++ "/" ++ name.path

end IndexName

end TypedStore
