import TypedStore.Filter.Error
import TypedStore.Pattern.Engine
import TypedStore.Stop

/-!
# Patterns in filters

The operand of a regular expression is either a bare expression or an expression between slashes
with letters behind the last one. The letters `i`, `m`, `s` and `x` set switches, `g` and `u` do
nothing. A glob is handed to the engine as it is written.
-/

namespace TypedStore

variable [PatternEngine]

namespace Regex

/-- A text parted at the last occurrence of a character. -/
def splitAtLast (separator : Char) : List Char → Option (List Char × List Char)
  | [] => none
  | c :: rest =>
      match splitAtLast separator rest with
      | some (before, after) => some (c :: before, after)
      | none => if c = separator then some ([], rest) else none

/-- The expression and the letters of an operand. -/
def splitOperand (operand : List Char) : List Char × List Char :=
  match operand with
  | '/' :: rest => (splitAtLast '/' rest).getD (operand, [])
  | _ => (operand, [])

/-- Set a switch by its letter. -/
def Switches.set? (switches : Switches) (letter : Char) : Option Switches :=
  if letter = 'i' then some { switches with ignoreCase := true }
  else if letter = 'm' then some { switches with multiLine := true }
  else if letter = 's' then some { switches with dotAll := true }
  else if letter = 'x' then some { switches with ignoreSpace := true }
  else if letter = 'g' ∨ letter = 'u' then some switches
  else none

/-- Set the switches of a list of letters, up to the first letter without a meaning. -/
def Switches.setAll (switches : Switches) : List Char → Except Char Switches
  | [] => .ok switches
  | letter :: rest =>
      match switches.set? letter with
      | some changed => changed.setAll rest
      | none => .error letter

/-- The words for a letter without a meaning. -/
def unknownFlag (letter : Char) : String := "unknown regex flag '" ++ letter.toString ++ "'"

/-- Read an operand. The letters are looked at before the expression is handed to the engine. -/
def ofOperand (operand : String) : Except FilterError Matcher :=
  let (pattern, letters) := splitOperand operand.toList
  match Switches.off.setAll letters with
  | .error letter => .error (.invalidPattern operand (unknownFlag letter))
  | .ok switches =>
      (PatternEngine.regex switches (String.ofList pattern)).mapError
        (FilterError.invalidPattern operand)

end Regex

/-- Read a glob and make a matcher of it. -/
def Glob.ofOperand (operand : String) : Except (Stop FilterError) Matcher :=
  match PatternEngine.glob operand with
  | .error reason => .error (.fault (.invalidPattern operand reason))
  | .ok none => .error .panic
  | .ok (some matcher) => .ok matcher

end TypedStore
