import TypedStore.Pattern.Regex.Class

/-!
# Places between characters

Whether a place is a boundary depends on the characters before and after it alone.
Of the flags around a boundary only those are kept that bear on it, so that two
boundaries are equal where they hold at the same places.
-/

namespace TypedStore.Regex

/-- A boundary, with the flags that bear on it. -/
structure Assertion where
  kind : Boundary
  /-- A carriage return ends a line too. -/
  carriageReturn : Bool
  /-- Words are made of the characters of all scripts. -/
  unicode : Bool
deriving DecidableEq, Repr

namespace Assertion

/-- A boundary of the text. -/
def ofText (kind : Boundary) : Assertion := ⟨kind, false, false⟩

/-- A boundary of a line where lines count, else the one of the text. -/
def ofLine (multiLine carriageReturn : Bool) (line text : Boundary) : Assertion :=
  if multiLine then ⟨line, carriageReturn, false⟩ else ofText text

/-- A boundary under some flags. -/
def ofBoundary (multiLine carriageReturn unicode : Bool) (kind : Boundary) : Assertion :=
  match kind with
  | .lineStart => ofLine multiLine carriageReturn .lineStart .textStart
  | .lineEnd => ofLine multiLine carriageReturn .lineEnd .textEnd
  | .textStart => ofText .textStart
  | .textEnd => ofText .textEnd
  | _ => ⟨kind, false, unicode⟩

/-- A boundary is between two characters, either of which may be missing. -/
def holds (assertion : Assertion) : Option Nat → Option Nat → Bool :=
  let words := LetterClass.word.codes assertion.unicode
  let isWord (code : Option Nat) : Bool := code.any words.contains
  match assertion.kind with
  | .textStart => fun before _ => before.isNone
  | .textEnd => fun _ after => after.isNone
  | .lineStart => fun before after =>
      before.isNone || before = some 10 ||
        (assertion.carriageReturn && before = some 13 && after ≠ some 10)
  | .lineEnd => fun before after =>
      after.isNone ||
        (if assertion.carriageReturn then after = some 13 || (after = some 10 && before ≠ some 13)
         else after = some 10)
  | .word => fun before after => isWord before != isWord after
  | .notWord => fun before after => isWord before == isWord after
  | .wordStart => fun before after => !isWord before && isWord after
  | .wordEnd => fun before after => isWord before && !isWord after
  | .wordStartHalf => fun before _ => !isWord before
  | .wordEndHalf => fun _ after => !isWord after

end Assertion

end TypedStore.Regex
