import TypedStore.Json.Basic
import TypedStore.Separated

/-!
# Paths into values

A dotted path is a list of segments. Walking a path down a value takes members
of objects and numbered elements of arrays; a segment that is no number is
applied to every element of an array, and what the elements yield is gathered
in one array.
-/

namespace TypedStore

-- Powers are those of the numbers themselves, whatever other powers there are.
attribute [local instance(2000)] instPowNat

/-- The steps of a way down a value. -/
abbrev Path := List String

namespace Path

/-- The segments of a dotted path. The empty text has one segment, which is empty. -/
def split (text : String) : Path := (Separated.split '.' text.toList).map String.ofList

/-- The dotted text of a path. -/
def join (path : Path) : String := Separated.joinTexts '.' path

/-- Segments without dots are found again in their dotted text. -/
theorem split_join {path : Path} (hne : path ≠ []) (h : ∀ segment ∈ path, '.' ∉ segment.toList) :
    split (join path) = path := by
  rw [split, join, Separated.joinTexts, String.toList_ofList,
    Separated.split_join (by simpa using hne) (by simpa using h)]
  simp [Function.comp_def]

/-- The value of decimal digits, read on from a number. -/
def digitsValue (start : Nat) : List Char → Option Nat
  | [] => some start
  | c :: rest => if c.isDigit then digitsValue (10 * start + (c.toNat - 48)) rest else none

/-- The position that a segment names: decimal digits after an optional plus
sign, less than 2⁶⁴. -/
def position? (segment : String) : Option Nat :=
  let digits := match segment.toList with
    | '+' :: rest => rest
    | all => all
  if digits.isEmpty then none
  else (digitsValue 0 digits).bind fun n => if n < 2 ^ (64 : Nat) then some n else none

end Path

namespace Json

/-- The items of one gathered value: an array gives its items, any other value itself. -/
def gathered : Option Json → List Json
  | some (array items) => items
  | some leaf => [leaf]
  | none => []

/-- What was gathered from an array, if there was anything. -/
def ofGathered : List Json → Option Json
  | [] => none
  | items => some (array items)

mutual

/-- The value at the end of a path. A segment that is no position, applied to an
array, is applied to every element. -/
def at? : Json → Path → Option Json
  | value, [] => some value
  | object members, name :: rest => memberAt? members name rest
  | array items, segment :: rest =>
      match Path.position? segment with
      | some position => itemAt? items position rest
      | none => ofGathered (gather items (segment :: rest))
  | _, _ :: _ => none

/-- The value at the end of a path below the member with a given name. -/
def memberAt? : List (String × Json) → String → Path → Option Json
  | [], _, _ => none
  | (key, value) :: more, name, rest =>
      if key = name then at? value rest else memberAt? more name rest

/-- The value at the end of a path below the item at a position. -/
def itemAt? : List Json → Nat → Path → Option Json
  | [], _, _ => none
  | item :: _, 0, rest => at? item rest
  | _ :: items, position + 1, rest => itemAt? items position rest

/-- All that a path reaches from the items of an array, in order. An array found
below one item gives its own items. -/
def gather : List Json → Path → List Json
  | [], _ => []
  | item :: items, path => gathered (at? item path) ++ gather items path

end

@[simp] theorem at?_nil (value : Json) : value.at? [] = some value := by
  cases value <;> simp [at?]

theorem memberAt?_eq (members : List (String × Json)) (name : String) (rest : Path) :
    memberAt? members name rest = (Entries.get? name members).bind fun value => at? value rest := by
  induction members with
  | nil => simp [memberAt?, Entries.get?]
  | cons entry more ih =>
    obtain ⟨key, value⟩ := entry
    by_cases h : key = name <;> simp [memberAt?, Entries.get?, h, ih]

theorem itemAt?_eq (items : List Json) (position : Nat) (rest : Path) :
    itemAt? items position rest = items[position]?.bind fun value => at? value rest := by
  induction items generalizing position with
  | nil => simp [itemAt?]
  | cons item items ih => cases position <;> simp [itemAt?, ih]

theorem gather_eq (items : List Json) (path : Path) :
    gather items path = items.flatMap fun item => gathered (at? item path) := by
  induction items with
  | nil => simp [gather]
  | cons item items ih => simp [gather, ih]

end Json

end TypedStore
