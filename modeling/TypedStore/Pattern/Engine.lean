/-!
# Engines for patterns

Patterns are read and matched by foreign code. Of it no more is known than what it is given and
what it answers: a regular expression is read under switches, a glob is read and then made into a
matcher. All that reads filters takes such an engine, whichever it is.
-/

namespace TypedStore

/-- What is made of a pattern: a test of texts. -/
abbrev Matcher := String → Bool

/-- The switches under which a regular expression is read. -/
structure Regex.Switches where
  ignoreCase : Bool
  multiLine : Bool
  dotAll : Bool
  ignoreSpace : Bool
deriving DecidableEq, Repr

/-- All switches off. -/
def Regex.Switches.off : Switches := ⟨false, false, false, false⟩

/-- The foreign code that patterns are handed to. What it cannot read it refuses with a reason in
words. -/
class PatternEngine where
  /-- Read a regular expression. -/
  regex (switches : Regex.Switches) (pattern : String) : Except String Matcher
  /-- Read a glob and make a matcher of it. For a glob that can be read there is no matcher where
  making it panics. -/
  glob (pattern : String) : Except String (Option Matcher)

end TypedStore
