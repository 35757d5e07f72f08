import TypedStore.Json.Basic
import TypedStore.Json.Numeral
import TypedStore.Json.Quoted

/-!
# Reading JSON text

A value is read from the front of a text, and what comes after it is handed on.
Each step into a list or an object uses up at least one character, so the length
of the text bounds the depth of the reading.
-/

namespace TypedStore.Reader

/-- The blanks between the parts of a JSON text. -/
def isBlank (c : Char) : Bool := c = ' ' ∨ c = '\n' ∨ c = '\t' ∨ c = '\r'

/-- A text without the blanks at its front. -/
def skipBlanks (text : List Char) : List Char := text.dropWhile isBlank

/-- Read the remaining letters of a word. -/
def word : List Char → List Char → Except ReadError (List Char)
  | [], rest => .ok rest
  | _ :: _, [] => .error .endOfValue
  | expected :: more, c :: rest => if c = expected then word more rest else .error .expectedWord

/-- Read the colon between a name and its value. -/
def colon (text : List Char) : Except ReadError (List Char) :=
  match skipBlanks text with
  | [] => .error .endOfObject
  | ':' :: rest => .ok rest
  | _ => .error .expectedColon

/-- Read a number whose sign has been read. -/
def number (negative : Bool) (text : List Char) : Except ReadError (Number × List Char) := do
  let (numeral, rest) ← Numeral.read .endOfValue negative text
  match numeral.toNumber? with
  | some number => return (number, rest)
  | none => throw .numberOutOfRange

/-- Read the quoted name of a member and the colon after it. -/
def name (text : List Char) : Except ReadError (String × List Char) := do
  let (chars, rest) ← Quoted.read text
  let rest ← colon rest
  return (String.ofList chars, rest)

mutual

/-- Read a value. -/
def value : Nat → List Char → Except ReadError (Json × List Char)
  | 0, _ => .error .endOfValue
  | fuel + 1, text =>
    match skipBlanks text with
    | [] => .error .endOfValue
    | c :: rest =>
      if c = 'n' then return (.null, ← word "ull".toList rest)
      else if c = 't' then return (.bool true, ← word "rue".toList rest)
      else if c = 'f' then return (.bool false, ← word "alse".toList rest)
      else if c = '-' then do
        let (n, after) ← number true rest
        return (.number n, after)
      else if c.isDigit then do
        let (n, after) ← number false (c :: rest)
        return (.number n, after)
      else if c = '"' then do
        let (chars, after) ← Quoted.read rest
        return (.string (String.ofList chars), after)
      else if c = '[' then do
        let (found, after) ← items fuel rest
        return (.array found, after)
      else if c = '{' then do
        let (found, after) ← members fuel rest
        return (Json.ofMembers found, after)
      else .error .expectedValue

/-- Read the items of a list whose bracket has been read. -/
def items : Nat → List Char → Except ReadError (List Json × List Char)
  | 0, _ => .error .endOfList
  | fuel + 1, text =>
    match skipBlanks text with
    | [] => .error .endOfList
    | ']' :: rest => .ok ([], rest)
    | rest => do
      let (first, after) ← value fuel rest
      let (others, after) ← moreItems fuel after
      return (first :: others, after)

/-- Read the items of a list after its first one. -/
def moreItems : Nat → List Char → Except ReadError (List Json × List Char)
  | 0, _ => .error .endOfList
  | fuel + 1, text =>
    match skipBlanks text with
    | [] => .error .endOfList
    | ']' :: rest => .ok ([], rest)
    | ',' :: rest =>
      match skipBlanks rest with
      | [] => .error .endOfValue
      | ']' :: _ => .error .trailingComma
      | rest => do
        let (next, after) ← value fuel rest
        let (others, after) ← moreItems fuel after
        return (next :: others, after)
    | _ => .error .expectedListSeparator

/-- Read the members of an object whose brace has been read, in the order of the text. -/
def members : Nat → List Char → Except ReadError (List (String × Json) × List Char)
  | 0, _ => .error .endOfObject
  | fuel + 1, text =>
    match skipBlanks text with
    | [] => .error .endOfObject
    | '}' :: rest => .ok ([], rest)
    | '"' :: rest => do
      let (key, after) ← name rest
      let (first, after) ← value fuel after
      let (others, after) ← moreMembers fuel after
      return ((key, first) :: others, after)
    | _ => .error .nameNotString

/-- Read the members of an object after its first one. -/
def moreMembers : Nat → List Char → Except ReadError (List (String × Json) × List Char)
  | 0, _ => .error .endOfObject
  | fuel + 1, text =>
    match skipBlanks text with
    | [] => .error .endOfObject
    | '}' :: rest => .ok ([], rest)
    | ',' :: rest =>
      match skipBlanks rest with
      | [] => .error .endOfValue
      | '"' :: rest => do
        let (key, after) ← name rest
        let (next, after) ← value fuel after
        let (others, after) ← moreMembers fuel after
        return ((key, next) :: others, after)
      | '}' :: _ => .error .trailingComma
      | _ => .error .nameNotString
    | _ => .error .expectedMemberSeparator

end

/-- Nothing but blanks is left. -/
def finish (text : List Char) : Except ReadError Unit :=
  if (skipBlanks text).isEmpty then .ok () else .error .trailingCharacters

end TypedStore.Reader

namespace TypedStore.Json

/-- Read a whole text as one value. -/
def read (text : String) : Except ReadError Json := do
  let chars := text.toList
  let (value, rest) ← Reader.value (chars.length + 1) chars
  Reader.finish rest
  return value

/-- Read a whole text as one object and give its members in the order of the text. -/
def readMembers (text : String) : Except ReadError (List (String × Json)) :=
  let chars := text.toList
  match Reader.skipBlanks chars with
  | [] => .error .endOfValue
  | '{' :: rest => do
    let (members, rest) ← Reader.members (chars.length + 1) rest
    Reader.finish rest
    return members
  | _ => .error .expectedValue

end TypedStore.Json
