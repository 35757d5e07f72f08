import TypedStore.Pattern.Engine
import TypedStore.Pattern.Error
import TypedStore.Pattern.Regex.Automaton.Basic
import TypedStore.Pattern.Regex.Meaning
import TypedStore.Pattern.Regex.Parser

/-!
# Regular expressions

An expression is read under switches; it is refused for what is wrong with it and, last,
for the size of its automata. A text matches where any stretch of it does.
-/

namespace TypedStore

/-- A regular expression that has been read. -/
structure Regex where
  pattern : Pattern

namespace Regex

/-- How deep an expression may be nested. -/
def depthLimit : Nat := 250

/-- Read an expression under some switches as a form. -/
def read (switches : Switches) (text : List Char) : Except Fault Form := do
  let ast ← parse switches.ignoreSpace depthLimit text
  let modes : Modes :=
    ⟨switches.ignoreCase, switches.multiLine, switches.dotAll, false, true, false⟩
  let (form, _) ← formOf modes ast
  return form

/-- Read an expression under some switches. The size of its automata is looked at last. -/
def compile (switches : Switches) (text : List Char) : Except PatternFault Regex :=
  match read switches text with
  | .error fault => .error (.regex text fault)
  | .ok form =>
      if form.isSmall then .ok ⟨form.pattern⟩ else .error (.tooLarge Automaton.byteLimit)

/-- Some stretch of a text matches. -/
def isMatch (regex : Regex) (text : String) : Bool :=
  regex.pattern.occursIn (text.toList.map Char.toNat)

end Regex

end TypedStore
