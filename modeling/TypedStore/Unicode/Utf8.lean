import TypedStore.Unicode.Ranges

/-!
# Bytes of characters

A character is written as one to four bytes of UTF-8: a leading byte, and bytes that
continue it, each with six bits of the code. The characters of a range are written by
a few sequences of byte ranges, the ones with lower codes first.
-/

namespace TypedStore.Unicode

-- Powers are those of the numbers themselves, whatever other powers there are.
attribute [local instance(2000)] instPowNat

/-- All bytes from a first one to a last one. -/
structure ByteRange where
  first : Nat
  last : Nat
deriving DecidableEq, Repr

namespace ByteRange

/-- What is added to the six bits of a byte that continues a character. -/
def continuationMark : Nat := 0x80

/-- All bytes that continue a character. -/
def continuation : ByteRange := ⟨0x80, 0xBF⟩

/-- The sequences for all numbers from a first one to a last one that are written as a
byte with a given mark and a number of bytes that continue it. The numbers that begin
with the same byte as the first one, or as the last one, come on their own unless all
numbers with this byte are there. -/
def sequences (mark : Nat) : Nat → Nat → Nat → List (List ByteRange)
  | 0, first, last => [[⟨mark + first, mark + last⟩]]
  | more + 1, first, last =>
      let block := 64 ^ (more + 1)
      let lead := first / block
      let final := last / block
      let under (byte first last : Nat) : List (List ByteRange) :=
        (sequences continuationMark more first last).map
          (⟨mark + byte, mark + byte⟩ :: ·)
      if lead = final then under lead (first % block) (last % block)
      else
        let front := if first % block = 0 then [] else under lead (first % block) (block - 1)
        let back := if last % block = block - 1 then [] else under final 0 (last % block)
        let start := if first % block = 0 then lead else lead + 1
        let stop := if last % block = block - 1 then final + 1 else final
        let middle :=
          if start < stop then
            [⟨mark + start, mark + stop - 1⟩ :: List.replicate (more + 1) continuation]
          else []
        front ++ middle ++ back

end ByteRange

/-- Codes that are written alike. -/
structure Utf8Window where
  first : Nat
  last : Nat
  /-- What is added to the first bits of the code in the leading byte. -/
  mark : Nat
  /-- How many bytes continue the leading one. -/
  more : Nat

/-- All windows in ascending order; the surrogates are in none of them. -/
def utf8Windows : List Utf8Window := [
  ⟨0, 0x7F, 0, 0⟩,
  ⟨0x80, 0x7FF, 0xC0, 1⟩,
  ⟨0x800, Ranges.belowSurrogates, 0xE0, 2⟩,
  ⟨Ranges.aboveSurrogates, 0xFFFF, 0xE0, 2⟩,
  ⟨0x10000, Ranges.greatest, 0xF0, 3⟩]

/-- The sequences for the characters from a first one to a last one. -/
def utf8OfRange (first last : Nat) : List (List ByteRange) :=
  utf8Windows.flatMap fun window =>
    let first := max first window.first
    let last := min last window.last
    if first ≤ last then ByteRange.sequences window.mark window.more first last else []

/-- The sequences for the characters of a set. -/
def Ranges.utf8 (set : Ranges) : List (List ByteRange) :=
  set.all.flatMap fun range => utf8OfRange range.1 range.2

/-- The bytes of a character. -/
def utf8OfChar (c : Char) : List Nat :=
  (utf8OfRange c.toNat c.toNat).flatMap fun bytes => bytes.map ByteRange.first

end TypedStore.Unicode
