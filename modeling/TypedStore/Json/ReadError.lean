/-!
# Faults of JSON text

What can be wrong with a JSON text, and the words for it. An end of text is told
apart by what was being read when it came.
-/

namespace TypedStore

/-- A fault found while reading JSON text. -/
inductive ReadError where
  | endOfValue
  | endOfString
  | endOfList
  | endOfObject
  | expectedColon
  | expectedListSeparator
  | expectedMemberSeparator
  | expectedWord
  | expectedValue
  | nameNotString
  | invalidNumber
  | numberOutOfRange
  | controlCharacter
  | invalidEscape
  | loneSurrogate
  | unpairedSurrogate
  | trailingComma
  | trailingCharacters
deriving DecidableEq, Repr, Inhabited

/-- The words for a fault. -/
def ReadError.message : ReadError → String
  | endOfValue => "EOF while parsing a value"
  | endOfString => "EOF while parsing a string"
  | endOfList => "EOF while parsing a list"
  | endOfObject => "EOF while parsing an object"
  | expectedColon => "expected `:`"
  | expectedListSeparator => "expected `,` or `]`"
  | expectedMemberSeparator => "expected `,` or `\x7d`"
  | expectedWord => "expected ident"
  | expectedValue => "expected value"
  | nameNotString => "key must be a string"
  | invalidNumber => "invalid number"
  | numberOutOfRange => "number out of range"
  | controlCharacter => "control character (\\u0000-\\u001F) found while parsing a string"
  | invalidEscape => "invalid escape"
  | loneSurrogate => "lone leading surrogate in hex escape"
  | unpairedSurrogate => "unexpected end of hex escape"
  | trailingComma => "trailing comma"
  | trailingCharacters => "trailing characters"

end TypedStore
