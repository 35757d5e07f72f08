import TypedStore.Unicode.Unseen

/-!
# Text shown in messages

A text in a message stands between quotes. Characters that would not be seen as
themselves are spelled by their numbers.
-/

namespace TypedStore.Unicode

/-- The spelling of a character in a shown text. -/
def shownChar (c : Char) : List Char :=
  if c = '\x00' then ['\\', '0']
  else if c = '\t' then ['\\', 't']
  else if c = '\r' then ['\\', 'r']
  else if c = '\n' then ['\\', 'n']
  else if c = '"' then ['\\', '"']
  else if c = '\\' then ['\\', '\\']
  else if unseen.contains c.toNat then
    ['\\', 'u', '{'] ++ Nat.toDigits 16 c.toNat ++ ['}']
  else [c]

/-- A text between quotes, as it is shown in messages. -/
def shown (text : String) : String :=
  String.ofList ('"' :: (text.toList.flatMap shownChar ++ ['"']))

end TypedStore.Unicode
