import TypedStore.Pattern.Regex.Ast
import TypedStore.Unicode.Query

/-!
# Classes of characters

The classes with a letter and the classes between colons. Those between colons are
within ASCII, and so are those with a letter where Unicode is switched off.
-/

namespace TypedStore.Regex

open Unicode (Ranges)

/-- The classes between colons, by name. -/
def asciiClasses : List (String × List (Char × Char)) := [
  ("alnum", [('0', '9'), ('A', 'Z'), ('a', 'z')]),
  ("alpha", [('A', 'Z'), ('a', 'z')]),
  ("ascii", [('\x00', '\x7f')]),
  ("blank", [('\t', '\t'), (' ', ' ')]),
  ("cntrl", [('\x00', '\x1f'), ('\x7f', '\x7f')]),
  ("digit", [('0', '9')]),
  ("graph", [('!', '~')]),
  ("lower", [('a', 'z')]),
  ("print", [(' ', '~')]),
  ("punct", [('!', '/'), (':', '@'), ('[', '\x60'), ('\x7b', '~')]),
  ("space", [('\t', '\r'), (' ', ' ')]),
  ("upper", [('A', 'Z')]),
  ("word", [('0', '9'), ('A', 'Z'), ('_', '_'), ('a', 'z')]),
  ("xdigit", [('0', '9'), ('A', 'F'), ('a', 'f')])]

/-- The characters of a class between colons. -/
def asciiCodes (name : String) : Ranges :=
  match asciiClasses.find? fun entry => entry.1 = name with
  | some (_, ranges) => ⟨ranges.map fun range => (range.1.toNat, range.2.toNat)⟩
  | none => Ranges.empty

/-- The characters of a class with a letter. -/
def LetterClass.codes (unicode : Bool) (kind : LetterClass) : Ranges :=
  match kind with
  | digit => if unicode then Unicode.digits else asciiCodes "digit"
  | space => if unicode then Unicode.blanks else asciiCodes "space"
  | word => if unicode then Unicode.wordCharacters else asciiCodes "word"

end TypedStore.Regex
