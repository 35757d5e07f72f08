import TypedStore.Pattern.Regex.Fault

/-!
# Faults of patterns

Why the text of a pattern cannot be used, and the words for it.
-/

namespace TypedStore

/-- What is wrong with a glob. -/
inductive GlobFault where
  | unclosedClass
  | invalidRange (first last : Char)
  | unopenedAlternate
  | unclosedAlternate
  | danglingEscape
deriving DecidableEq, Repr

/-- The words for what is wrong with a glob. -/
def GlobFault.message : GlobFault → String
  | unclosedClass => "unclosed character class; missing ']'"
  | invalidRange first last =>
      "invalid range; '" ++ first.toString ++ "' > '" ++ last.toString ++ "'"
  | unopenedAlternate =>
      "unopened alternate group; missing '\x7b' (maybe escape '\x7d' with '[\x7d]'?)"
  | unclosedAlternate =>
      "unclosed alternate group; missing '\x7d' (maybe escape '\x7b' with '[\x7b]'?)"
  | danglingEscape => "dangling '\\'"

/-- What is wrong with a pattern. -/
inductive PatternFault where
  /-- The text of a regular expression is faulty. -/
  | regex (text : List Char) (fault : Regex.Fault)
  /-- The automaton for a regular expression takes more bytes than it may. -/
  | tooLarge (limit : Nat)
  | glob (text : String) (fault : GlobFault)
deriving DecidableEq, Repr

/-- The words for what is wrong with a pattern. -/
def PatternFault.message : PatternFault → String
  | regex text fault => fault.message text
  | tooLarge limit =>
      "Compiled regex exceeds size limit of " ++ toString limit ++ " bytes."
  | glob text fault => "error parsing glob '" ++ text ++ "': " ++ fault.message

end TypedStore
