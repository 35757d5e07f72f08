import TypedStore.Json.Basic
import TypedStore.Json.Decimal
import TypedStore.Json.Quoted

/-!
# Writing JSON text

The compact form of a value: no blanks, the members of an object in the order of
its list, texts quoted and doubles with the fewest digits that read back.
-/

namespace TypedStore

/-- The digits of an integer after its sign. -/
def intText (i : Int) : List Char :=
  (if i < 0 then ['-'] else []) ++ Decimal.digitChars i.natAbs

/-- The written form of a number. -/
def Number.text : Number → List Char
  | int i _ _ => intText i
  | double d _ => d.text

namespace Json

mutual

/-- The compact text of a value. -/
def chars : Json → List Char
  | null => ['n', 'u', 'l', 'l']
  | bool true => ['t', 'r', 'u', 'e']
  | bool false => ['f', 'a', 'l', 's', 'e']
  | number n => n.text
  | string s => Quoted.quote s.toList
  | array items => '[' :: itemChars items
  | object members => '{' :: memberChars members

/-- The items of a list after its bracket, with the closing bracket. -/
def itemChars : List Json → List Char
  | [] => [']']
  | item :: rest => chars item ++ moreItemChars rest

/-- The items of a list after its first one, with the closing bracket. -/
def moreItemChars : List Json → List Char
  | [] => [']']
  | item :: rest => ',' :: (chars item ++ moreItemChars rest)

/-- The members of an object after its brace, with the closing brace. -/
def memberChars : List (String × Json) → List Char
  | [] => ['}']
  | (name, value) :: rest =>
      Quoted.quote name.toList ++ ':' :: (chars value ++ moreMemberChars rest)

/-- The members of an object after its first one, with the closing brace. -/
def moreMemberChars : List (String × Json) → List Char
  | [] => ['}']
  | (name, value) :: rest =>
      ',' :: (Quoted.quote name.toList ++ ':' :: (chars value ++ moreMemberChars rest))

end

/-- The compact text of a value. -/
def text (value : Json) : String := String.ofList value.chars

end Json

end TypedStore
