import TypedStore.Json.Number
import TypedStore.Json.ReadError

/-!
# Numerals

The written form of a number: a sign, digits, a fraction and an exponent. An
integer that fits 64 bits stays one; every other numeral is a double. Its digits
count up to 2⁶⁴ − 1, further digits before the point only scale and further
digits after it are dropped; what is counted is then multiplied or divided by a
power of ten, in steps of at most 10³⁰⁸ and with a rounding in each step.
-/

namespace TypedStore

-- Powers are those of the numbers themselves, whatever other powers there are.
attribute [local instance(2000)] instPowNat

/-- The written form of a number, in digit values. -/
structure Numeral where
  negative : Bool
  /-- The digits before the point. -/
  whole : List Nat
  /-- The digits after the point, if there is one. -/
  fraction : Option (List Nat)
  /-- The sign and the digits of the exponent, if there is one. -/
  exponent : Option (Bool × List Nat)
deriving DecidableEq, Repr

namespace Numeral

/-- The digits that a text starts with. -/
def digits (text : List Char) : List Nat := (text.takeWhile Char.isDigit).map fun c => c.toNat - 48

/-- The text after the digits that it starts with. -/
def afterDigits (text : List Char) : List Char := text.dropWhile Char.isDigit

/-- Digits that must be there: their absence is a fault of its own at the end of the text. -/
def required (atEnd : ReadError) (text : List Char) : Except ReadError (List Nat × List Char) :=
  match text with
  | [] => .error atEnd
  | c :: _ => if c.isDigit then .ok (digits text, afterDigits text) else .error .invalidNumber

/-- Read an exponent with its letter, if there is one. -/
def readExponent (atEnd : ReadError) (text : List Char) :
    Except ReadError (Option (Bool × List Nat) × List Char) :=
  match text with
  | c :: rest =>
      if c = 'e' ∨ c = 'E' then do
        let (negative, unsigned) := match rest with
          | '+' :: more => (false, more)
          | '-' :: more => (true, more)
          | _ => (false, rest)
        let (exponent, after) ← required atEnd unsigned
        return (some (negative, exponent), after)
      else .ok (none, text)
  | [] => .ok (none, text)

/-- Read a fraction with its point, if there is one. -/
def readFraction (atEnd : ReadError) (text : List Char) :
    Except ReadError (Option (List Nat) × List Char) :=
  match text with
  | '.' :: rest => do
      let (fraction, after) ← required atEnd rest
      return (some fraction, after)
  | _ => .ok (none, text)

/-- Read a numeral whose sign has been read. A zero is not followed by a digit.
`atEnd` is the fault of a text that ends where a digit is due. -/
def read (atEnd : ReadError) (negative : Bool) (text : List Char) :
    Except ReadError (Numeral × List Char) := do
  let (whole, afterWhole) ← required atEnd text
  if whole.head? = some 0 ∧ whole.length ≠ 1 then throw .invalidNumber
  let (fraction, afterFraction) ← readFraction atEnd afterWhole
  let (exponent, after) ← readExponent atEnd afterFraction
  return (⟨negative, whole, fraction, exponent⟩, after)

/-- Digits counted on from a start while the count stays below 2⁶⁴, and the
number of digits that are left. -/
def count (start : Nat) : List Nat → Nat × Nat
  | [] => (start, 0)
  | digit :: rest =>
      if 10 * start + digit < 2 ^ (64 : Nat) then count (10 * start + digit) rest
      else (start, rest.length + 1)

/-- The number of decimal digits, read as far as it stays below 2³¹. -/
def boundedValue? (start : Nat) : List Nat → Option Nat
  | [] => some start
  | digit :: rest =>
      if 10 * start + digit < 2 ^ (31 : Nat) then boundedValue? (10 * start + digit) rest else none

/-- A double scaled by a power of ten: at most 10³⁰⁸ in one step, negative powers
in as many steps as needed. No double is that large beyond 10³⁰⁸. -/
def scale (significand : Double) (exponent : Int) : Option Double :=
  if 0 ≤ exponent then
    if exponent ≤ 308 then
      let product := significand.times (Double.ofInt (10 ^ exponent.toNat))
      if product.isFinite then some product else none
    else if significand.magnitude = 0 then some significand
    else none
  else if h : -308 ≤ exponent then
    some (significand.dividedBy (Double.ofInt (10 ^ (-exponent).toNat)))
  else if significand.magnitude = 0 then some significand
  else scale (significand.dividedBy (Double.ofInt (10 ^ (308 : Nat)))) (exponent + 308)
termination_by (-exponent).toNat
decreasing_by omega

/-- The value of a numeral with a fraction, an exponent or too many digits. -/
def toDouble? (numeral : Numeral) : Option Double :=
  let (wholeCount, wholeLeft) := count 0 numeral.whole
  let fraction := numeral.fraction.getD []
  let (significand, fractionLeft) := count wholeCount fraction
  let point : Int := wholeLeft - (fraction.length - fractionLeft : Nat)
  let signed (d : Double) : Double := if numeral.negative then d.neg else d
  match numeral.exponent with
  | none => (scale (Double.ofInt significand) point).map signed
  | some (negative, digits) =>
      match boundedValue? 0 digits with
      | none =>
          if significand ≠ 0 ∧ ¬ negative then none else some (signed (Double.ofInt 0))
      | some size =>
          let exponent := if negative then point - size else point + size
          let bounded := max (-2 ^ (31 : Nat)) (min (2 ^ (31 : Nat) - 1) exponent)
          (scale (Double.ofInt significand) bounded).map signed

/-- The number that a numeral writes. Zero with a minus sign is a double. -/
def toNumber? (numeral : Numeral) : Option Number :=
  let (value, left) := count 0 numeral.whole
  let integer : Int := if numeral.negative then -value else value
  if numeral.fraction.isNone ∧ numeral.exponent.isNone ∧ left = 0
      ∧ (numeral.negative → value ≠ 0) ∧ -2 ^ (63 : Nat) ≤ integer then
    Number.ofInt? integer
  else numeral.toDouble?.bind Number.ofDouble?

end Numeral

end TypedStore
