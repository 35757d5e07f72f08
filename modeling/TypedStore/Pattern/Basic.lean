/-!
# Patterns over codes

A pattern describes which stretches of a text it matches; the text is a list of
codes, which are characters or bytes. Matching follows all possibilities at once:
the positions reached so far are the bits of a natural number, and each part of
the pattern carries positions to positions. No part ever moves backwards, so a
repetition reaches nothing new after as many rounds as there are positions.
-/

namespace TypedStore

-- Powers are those of the numbers themselves, whatever other powers there are.
attribute [local instance(2000)] instPowNat

/-- What a stretch of text must look like. -/
inductive Pattern where
  /-- The empty stretch. -/
  | empty
  /-- One code out of a set. -/
  | code (accepts : Nat → Bool)
  /-- The empty stretch, where the codes before and after it are as told. -/
  | boundary (holds : Option Nat → Option Nat → Bool)
  /-- One stretch after another. -/
  | sequence (first second : Pattern)
  /-- One of two. -/
  | choice (first second : Pattern)
  /-- So many stretches in a row; no greatest number means any number. -/
  | rounds (inner : Pattern) (least : Nat) (greatest : Option Nat)

/-- A pattern laid over a text: each test has become the set of the positions
where it succeeds, as the bits of a number. -/
inductive PlacedPattern where
  | stay (positions : Nat)
  | advance (positions : Nat)
  | sequence (first second : PlacedPattern)
  | choice (first second : PlacedPattern)
  | rounds (inner : PlacedPattern) (least : Nat) (greatest : Option Nat)

namespace PlacedPattern

/-- Apply a step a number of times, or until it changes nothing. -/
def repeated (step : Nat → Nat) : Nat → Nat → Nat
  | 0, positions => positions
  | n + 1, positions =>
      let next := step positions
      if next = positions then positions else repeated step n next

/-- The positions reached from given ones by a step applied at most a number of times. -/
def reached (step : Nat → Nat) : Nat → Nat → Nat
  | 0, positions => positions
  | n + 1, positions =>
      let next := positions ||| step positions
      if next = positions then positions else reached step n next

/-- The positions at which stretches end that start at given positions. The limit
is the number of positions in the text. -/
def ends (limit : Nat) : PlacedPattern → Nat → Nat
  | stay allowed, positions => positions &&& allowed
  | advance allowed, positions => (positions &&& allowed) <<< 1
  | sequence first second, positions => second.ends limit (first.ends limit positions)
  | choice first second, positions => first.ends limit positions ||| second.ends limit positions
  | rounds inner least greatest, positions =>
      let start := repeated (inner.ends limit) (min least limit) positions
      match greatest with
      | none => reached (inner.ends limit) limit start
      | some greatest => reached (inner.ends limit) (min (greatest - least) limit) start

end PlacedPattern

namespace Pattern

/-- The positions of the codes that pass a test, as bits. -/
def positionsOf (accepts : Nat → Bool) : List Nat → Nat
  | [] => 0
  | c :: rest => 2 * positionsOf accepts rest + (if accepts c then 1 else 0)

/-- The positions between codes that pass a test, as bits; the code before the
first of them is given. -/
def boundariesOf (holds : Option Nat → Option Nat → Bool) (before : Option Nat) : List Nat → Nat
  | [] => if holds before none then 1 else 0
  | c :: rest =>
      2 * boundariesOf holds (some c) rest + (if holds before (some c) then 1 else 0)

/-- Lay a pattern over a text. -/
def placedOn (text : List Nat) : Pattern → PlacedPattern
  | empty => .stay (2 ^ (text.length + 1) - 1)
  | code accepts => .advance (positionsOf accepts text)
  | boundary holds => .stay (boundariesOf holds none text)
  | sequence first second => .sequence (first.placedOn text) (second.placedOn text)
  | choice first second => .choice (first.placedOn text) (second.placedOn text)
  | rounds inner least greatest => .rounds (inner.placedOn text) least greatest

/-- Some stretch of the text matches. -/
def occursIn (pattern : Pattern) (text : List Nat) : Bool :=
  (pattern.placedOn text).ends (text.length + 1) (2 ^ (text.length + 1) - 1) != 0

/-- The whole text matches. -/
def covers (pattern : Pattern) (text : List Nat) : Bool :=
  ((pattern.placedOn text).ends (text.length + 1) 1).testBit text.length

/-- One stretch after another, for a list of patterns. -/
def sequenceOf : List Pattern → Pattern
  | [] => empty
  | [pattern] => pattern
  | pattern :: rest => sequence pattern (sequenceOf rest)

/-- A pattern that matches nothing. -/
def nothing : Pattern := code fun _ => false

/-- One of a list of patterns. -/
def choiceOf : List Pattern → Pattern
  | [] => nothing
  | [pattern] => pattern
  | pattern :: rest => choice pattern (choiceOf rest)

end Pattern

end TypedStore
