import TypedStore.Json.Reader

/-!
# Passing over values

A value whose name means nothing is passed over. Its text must have the form of
JSON, but numbers may be of any size and surrogates need not come in pairs.
-/

namespace TypedStore.Skip

/-- Pass over a number whose sign has been passed over. -/
def number (text : List Char) : Except ReadError (List Char) :=
  (Numeral.read .invalidNumber false text).map Prod.snd

mutual

/-- Pass over a value. -/
def value : Nat → List Char → Except ReadError (List Char)
  | 0, _ => .error .endOfValue
  | fuel + 1, text =>
    match Reader.skipBlanks text with
    | [] => .error .endOfValue
    | c :: rest =>
      if c = 'n' then Reader.word "ull".toList rest
      else if c = 't' then Reader.word "rue".toList rest
      else if c = 'f' then Reader.word "alse".toList rest
      else if c = '-' then number rest
      else if c.isDigit then number (c :: rest)
      else if c = '"' then Quoted.skip rest
      else if c = '[' then
        match Reader.skipBlanks rest with
        | ']' :: after => .ok after
        | [] => .error .endOfList
        | rest => do
            let after ← value fuel rest
            moreItems fuel after
      else if c = '{' then
        match Reader.skipBlanks rest with
        | '}' :: after => .ok after
        | [] => .error .endOfObject
        | rest => do
            let after ← member fuel rest
            moreMembers fuel after
      else .error .expectedValue

/-- Pass over the items of a list after the first one. -/
def moreItems : Nat → List Char → Except ReadError (List Char)
  | 0, _ => .error .endOfList
  | fuel + 1, text =>
    match Reader.skipBlanks text with
    | [] => .error .endOfList
    | ']' :: after => .ok after
    | ',' :: rest => do
        let after ← value fuel rest
        moreItems fuel after
    | _ => .error .expectedListSeparator

/-- Pass over a member of an object. -/
def member : Nat → List Char → Except ReadError (List Char)
  | 0, _ => .error .endOfObject
  | fuel + 1, text =>
    match Reader.skipBlanks text with
    | [] => .error .endOfObject
    | '"' :: rest => do
        let after ← Quoted.skip rest
        let after ← Reader.colon after
        value fuel after
    | _ => .error .nameNotString

/-- Pass over the members of an object after the first one. -/
def moreMembers : Nat → List Char → Except ReadError (List Char)
  | 0, _ => .error .endOfObject
  | fuel + 1, text =>
    match Reader.skipBlanks text with
    | [] => .error .endOfObject
    | '}' :: after => .ok after
    | ',' :: rest => do
        let after ← member fuel rest
        moreMembers fuel after
    | _ => .error .expectedMemberSeparator

end

end TypedStore.Skip
