import TypedStore.Json.Printer
import TypedStore.Json.ReadError
import TypedStore.Unicode.Shown

/-!
# Faults of settings

Why a text is no settings, and the words for it: the text is no JSON, or it holds
a value where another one was expected.
-/

namespace TypedStore

/-- What was found in place of an expected value. -/
inductive Finding where
  | null
  | bool (value : Bool)
  | number (value : Number)
  | string (value : String)
  | list
  | object
  /-- A bare name of a choice that has a content. -/
  | bareName
deriving DecidableEq, Repr

/-- The words for what was found. -/
def Finding.words : Finding → String
  | null => "null"
  | bool true => "boolean `true`"
  | bool false => "boolean `false`"
  | number (.int i _ _) => "integer `" ++ String.ofList (intText i) ++ "`"
  | number (.double d _) => "floating point `" ++ String.ofList d.text ++ "`"
  | string s => "string " ++ Unicode.shown s
  | list => "sequence"
  | object => "map"
  | bareName => "unit variant"

/-- What was expected. -/
inductive Expectation where
  | settings
  | nothing
  | count
  | choiceWithContent
deriving DecidableEq, Repr

/-- The words for what was expected. -/
def Expectation.words : Expectation → String
  | settings => "struct QueryConfig"
  | nothing => "unit"
  | count => "usize"
  | choiceWithContent => "newtype variant"

/-- Why a text is no settings. -/
inductive SettingsError where
  | text (fault : ReadError)
  | wrongKind (found : Finding) (expected : Expectation)
  | wrongValue (found : Finding) (expected : Expectation)
  | unknownChoice (name : String) (choices : List String)
  | repeatedName (name : String)
deriving DecidableEq, Repr

/-- A name between backquotes. -/
def ticked (name : String) : String := "`" ++ name ++ "`"

/-- The words for some choices. -/
def choiceWords : List String → String
  | [first, second] => ticked first ++ " or " ++ ticked second
  | [first] => ticked first
  | choices => "one of " ++ ", ".intercalate (choices.map ticked)

namespace SettingsError

/-- The words for what is wrong with the text. -/
def reason : SettingsError → String
  | text fault => fault.message
  | wrongKind found expected => "invalid type: " ++ found.words ++ ", expected " ++ expected.words
  | wrongValue found expected => "invalid value: " ++ found.words ++ ", expected " ++ expected.words
  | unknownChoice name choices =>
      "unknown variant " ++ ticked name ++ ", expected " ++ choiceWords choices
  | repeatedName name => "duplicate field " ++ ticked name

/-- The code of refused settings. -/
def code (_ : SettingsError) : String := "NODEQ_CONFIG_INVALID"

/-- The words for refused settings. -/
def message (e : SettingsError) : String := "invalid configuration: " ++ e.reason

end SettingsError

end TypedStore
