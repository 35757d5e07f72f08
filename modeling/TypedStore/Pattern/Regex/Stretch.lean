/-!
# Places in the text of an expression

Faults are told with the place where they are: the line and the column, both counted
from one.
-/

namespace TypedStore.Regex

/-- A place between two characters of a text. -/
structure Place where
  /-- The number of characters in front of it. -/
  offset : Nat
  line : Nat
  column : Nat
deriving DecidableEq, Repr

/-- The place in front of a text. -/
def Place.start : Place := ⟨0, 1, 1⟩

/-- The place behind a character. -/
def Place.behind (place : Place) (c : Char) : Place :=
  if c = '\n' then ⟨place.offset + 1, place.line + 1, 1⟩
  else ⟨place.offset + 1, place.line, place.column + 1⟩

/-- What lies between two places. -/
structure Stretch where
  first : Place
  last : Place
deriving DecidableEq, Repr

namespace Stretch

/-- From the beginning of one stretch to the end of another one. -/
def spanning (a b : Stretch) : Stretch := ⟨a.first, b.last⟩

/-- Both ends are on the same line. -/
def isOnOneLine (stretch : Stretch) : Bool := stretch.first.line = stretch.last.line

/-- A stretch does not come behind another one. -/
def isUpTo (a b : Stretch) : Bool :=
  a.first.offset < b.first.offset ||
    (a.first.offset = b.first.offset && a.last.offset ≤ b.last.offset)

end Stretch

end TypedStore.Regex
