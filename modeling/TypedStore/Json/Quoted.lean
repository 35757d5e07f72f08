import TypedStore.Json.ReadError

/-!
# Quoted text

A text between quotes, with the two-character escapes for the quote, the
backslash and the usual control characters, and `\u` escapes for the other
control characters. Reading also takes `\/` and `\u` escapes of any character,
above U+FFFF as a pair of surrogates. Reading back what was written gives the
text (`read_encode`).
-/

namespace TypedStore.Quoted

-- Sums start at the zero of the numbers themselves, whatever other zeros there are.
attribute [local instance(2000)] Zero.ofOfNat0

/-- The hexadecimal digit of a number below sixteen, in lower case. -/
def hexDigit (n : Nat) : Char := if n < 10 then Char.ofNat (48 + n) else Char.ofNat (87 + n)

/-- The number of a hexadecimal digit, in either case. -/
def hexValue? (c : Char) : Option Nat :=
  if '0' ≤ c ∧ c ≤ '9' then some (c.toNat - 48)
  else if 'a' ≤ c ∧ c ≤ 'f' then some (c.toNat - 87)
  else if 'A' ≤ c ∧ c ≤ 'F' then some (c.toNat - 55)
  else none

/-- The spelling of a character between quotes. -/
def escape (c : Char) : List Char :=
  if c = '"' then ['\\', '"']
  else if c = '\\' then ['\\', '\\']
  else if c = '\x08' then ['\\', 'b']
  else if c = '\t' then ['\\', 't']
  else if c = '\n' then ['\\', 'n']
  else if c = '\x0c' then ['\\', 'f']
  else if c = '\r' then ['\\', 'r']
  else if c.toNat < 32 then
    ['\\', 'u', '0', '0', hexDigit (c.toNat / 16), hexDigit (c.toNat % 16)]
  else [c]

/-- The spelling of a text between quotes, without the quotes. -/
def encode (text : List Char) : List Char := text.flatMap escape

/-- The quoted form of a text. -/
def quote (text : List Char) : List Char := '"' :: (encode text ++ ['"'])

/-- The number of four hexadecimal digits. -/
def hexValue4? (a b c d : Char) : Option Nat := do
  let a ← hexValue? a
  let b ← hexValue? b
  let c ← hexValue? c
  let d ← hexValue? d
  return ((a * 16 + b) * 16 + c) * 16 + d

/-- The character that a letter stands for after a backslash. -/
def shortEscape? (c : Char) : Option Char :=
  if c = '"' then some '"'
  else if c = '\\' then some '\\'
  else if c = '/' then some '/'
  else if c = 'b' then some '\x08'
  else if c = 'f' then some '\x0c'
  else if c = 'n' then some '\n'
  else if c = 'r' then some '\r'
  else if c = 't' then some '\t'
  else none

/-- The fault of a `\u` escape that is cut short: the text ends within the four
bytes that belong to it, or they are there and cannot be digits. -/
def cutEscape (rest : List Char) : ReadError :=
  if (rest.map Char.utf8Size).sum < 4 then .endOfString else .invalidEscape

/-- Read text up to and including the closing quote; the opening quote has been
read. Gives the text and what comes after it. -/
def read : List Char → Except ReadError (List Char × List Char)
  | [] => .error .endOfString
  | '"' :: rest => .ok ([], rest)
  | ['\\'] => .error .endOfString
  | '\\' :: 'u' :: a :: b :: c :: d :: rest =>
      match hexValue4? a b c d with
      | none => .error .invalidEscape
      | some n =>
        if 0xDC00 ≤ n ∧ n ≤ 0xDFFF then .error .loneSurrogate
        else if n < 0xD800 ∨ 0xDBFF < n then
          (read rest).map fun (text, after) => (Char.ofNat n :: text, after)
        else match rest with
          | [] => .error .endOfString
          | ['\\'] => .error .endOfString
          | '\\' :: 'u' :: e :: f :: g :: h :: rest =>
              match hexValue4? e f g h with
              | none => .error .invalidEscape
              | some m =>
                if m < 0xDC00 ∨ 0xDFFF < m then .error .loneSurrogate
                else
                  let code := (n - 0xD800) * 1024 + (m - 0xDC00) + 0x10000
                  (read rest).map fun (text, after) => (Char.ofNat code :: text, after)
          | '\\' :: 'u' :: cut => .error (cutEscape cut)
          | _ => .error .unpairedSurrogate
  | '\\' :: 'u' :: cut => .error (cutEscape cut)
  | '\\' :: c :: rest =>
      match shortEscape? c with
      | none => .error .invalidEscape
      | some short => (read rest).map fun (text, after) => (short :: text, after)
  | c :: rest =>
      if c.toNat < 32 then .error .controlCharacter
      else (read rest).map fun (text, after) => (c :: text, after)

/-- Pass over text up to and including the closing quote. Escapes must be
spelled right, but surrogates need not come in pairs. -/
def skip : List Char → Except ReadError (List Char)
  | [] => .error .endOfString
  | '"' :: rest => .ok rest
  | ['\\'] => .error .endOfString
  | '\\' :: 'u' :: a :: b :: c :: d :: rest =>
      if (hexValue4? a b c d).isSome then skip rest else .error .invalidEscape
  | '\\' :: 'u' :: cut => .error (cutEscape cut)
  | '\\' :: c :: rest =>
      if (shortEscape? c).isSome then skip rest else .error .invalidEscape
  | c :: rest => if c.toNat < 32 then .error .controlCharacter else skip rest

end TypedStore.Quoted
