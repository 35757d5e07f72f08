import TypedStore.Pattern.Glob.Limits

/-!
# The dialect of patterns

One engine for patterns: regular expressions that find stretches of a text, and globs that match a
whole text byte for byte. It has to be asked for, so that nothing is about this engine unawares.
-/

namespace TypedStore

/-- Read a regular expression of the dialect. -/
def Regex.matcher (switches : Switches) (pattern : String) : Except PatternFault Matcher :=
  (compile switches pattern.toList).map isMatch

/-- The engine for the dialect. -/
scoped instance PatternEngine.dialect : PatternEngine where
  regex switches pattern := (Regex.matcher switches pattern).mapError PatternFault.message
  glob pattern := ((Glob.ofText pattern).map Glob.matcher?).mapError PatternFault.message

end TypedStore
