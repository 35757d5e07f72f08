/-!
# Sets of characters

A set of characters is a list of ranges in ascending order, with a gap between each
two of them. Tables spell such a list as a row of letters. The letters spell numbers
to the base 26, the last digit of each in lower case and the others in upper case;
the numbers tell in turn how many characters are left out and how many follow the
first one that is in the set.
-/

namespace TypedStore.Unicode

/-- Ranges of codes, each with its first and its last code. -/
structure Ranges where
  all : List (Nat × Nat)
deriving DecidableEq, Repr

/-- A table: the names of a set and the letters that spell it. -/
abbrev Table := List String × List String

/-- The numbers that letters spell, the first one read on from a start. -/
def numbers (start : Nat) : List Char → List Nat
  | [] => []
  | c :: rest =>
      if c.isLower then (start * 26 + (c.toNat - 97)) :: numbers 0 rest
      else numbers (start * 26 + (c.toNat - 65)) rest

namespace Ranges

/-- The greatest code. -/
def greatest : Nat := 0x10FFFF

/-- A code lies in one of the ranges. -/
def contains (ranges : Ranges) (code : Nat) : Bool :=
  ranges.all.any fun range => range.1 ≤ code && code ≤ range.2

/-- No code. -/
def empty : Ranges := ⟨[]⟩

/-- All codes from a first one to a last one. -/
def span (first last : Nat) : Ranges := ⟨[(first, last)]⟩

/-- Ranges in the order of their first codes, one in front of them; ranges that meet become one. -/
def joined (first last : Nat) : List (Nat × Nat) → List (Nat × Nat)
  | [] => [(first, last)]
  | range :: rest =>
      if range.1 ≤ last + 1 then joined first (max last range.2) rest
      else (first, last) :: joined range.1 range.2 rest

/-- The set of ranges that are in the order of their first codes. -/
def ofAscending : List (Nat × Nat) → Ranges
  | [] => empty
  | range :: rest => ⟨joined range.1 range.2 rest⟩

/-- The set of ranges in any order. -/
def ofList (ranges : List (Nat × Nat)) : Ranges :=
  ofAscending (ranges.mergeSort fun a b => a.1 ≤ b.1)

/-- The codes of either set. -/
def union (a b : Ranges) : Ranges := ofAscending (List.merge a.all b.all fun a b => a.1 ≤ b.1)

/-- The last code below the surrogates. No text holds a surrogate. -/
def belowSurrogates : Nat := 0xD7FF

/-- The first code above the surrogates. -/
def aboveSurrogates : Nat := 0xE000

/-- The surrogates. -/
def surrogates : Ranges := span (belowSurrogates + 1) (aboveSurrogates - 1)

/-- The code after a given one. -/
def next (code : Nat) : Nat := if code = belowSurrogates then aboveSurrogates else code + 1

/-- The code in front of a given one. -/
def previous (code : Nat) : Nat := if code = aboveSurrogates then belowSurrogates else code - 1

/-- What ranges leave out of the codes from a given one on. -/
def gaps (start : Nat) : List (Nat × Nat) → List (Nat × Nat)
  | [] => if start ≤ greatest then [(start, greatest)] else []
  | range :: rest =>
      if start < range.1 then (start, previous range.1) :: gaps (next range.2) rest
      else gaps (next range.2) rest

/-- The codes that are not in a set. -/
def outside (ranges : Ranges) : Ranges := ⟨gaps 0 ranges.all⟩

/-- The codes that a set leaves out. Of one range that ends right below the surrogates
and another one that starts right above them, the two codes that meet are left out too. -/
def complement (ranges : Ranges) : Ranges :=
  if ranges.all.any (fun range => range.2 = belowSurrogates) &&
      ranges.all.any (fun range => range.1 = aboveSurrogates) then
    ranges.outside.union ⟨[(belowSurrogates, aboveSurrogates)]⟩
  else ranges.outside

/-- What ranges have in common with other ones. -/
def meet : List (Nat × Nat) → List (Nat × Nat) → List (Nat × Nat)
  | a :: as, b :: bs =>
      let others := if a.2 < b.2 then meet as (b :: bs) else meet (a :: as) bs
      if max a.1 b.1 ≤ min a.2 b.2 then (max a.1 b.1, min a.2 b.2) :: others else others
  | _, _ => []
termination_by as bs => as.length + bs.length

/-- The codes of both sets. -/
def intersection (a b : Ranges) : Ranges := ⟨meet a.all b.all⟩

/-- The codes of the first set that are not in the second one. -/
def difference (a b : Ranges) : Ranges := a.intersection b.outside

/-- The codes of one of the sets that are not in the other one. -/
def symmetricDifference (a b : Ranges) : Ranges := (a.difference b).union (b.difference a)

/-- The ranges that numbers describe, from a code on. -/
def ofNumbers (start : Nat) : List Nat → List (Nat × Nat)
  | gap :: more :: rest =>
      (start + gap, start + gap + more) :: ofNumbers (start + gap + more + 1) rest
  | _ => []

/-- The ranges that rows of letters spell. -/
def ofRows (rows : List String) : Ranges := ⟨ofNumbers 0 (numbers 0 (rows.flatMap String.toList))⟩

/-- The set with a given name among some tables. -/
def named? (tables : List Table) (name : String) : Option Ranges :=
  (tables.find? fun table => table.1.contains name).map fun table => ofRows table.2

/-- The union of the sets with given names among some tables. -/
def ofNames (tables : List Table) (names : List String) : Ranges :=
  ofList (names.flatMap fun name => ((named? tables name).map Ranges.all).getD [])

end Ranges

end TypedStore.Unicode
