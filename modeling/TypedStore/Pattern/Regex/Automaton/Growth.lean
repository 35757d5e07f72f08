/-!
# Growth of automata

An automaton over bytes is built state by state. Of its states only the number is
kept here, and the bytes that they take: each state takes the same number, and more
for its edges where it can have several of them. Growth fails where the automaton
gets too large.
-/

namespace TypedStore.Regex

-- Powers are those of the numbers themselves, whatever other powers there are.
attribute [local instance(2000)] instPowNat

/-- How large an automaton has grown. -/
structure Automaton where
  states : Nat
  bytes : Nat
deriving DecidableEq, Repr

namespace Automaton

/-- The automaton without states. -/
def blank : Automaton := ⟨0, 0⟩

/-- The bytes of a state by itself. -/
def stateBytes : Nat := 32

/-- The bytes of one of several edges that carry a range of bytes each. -/
def edgeBytes : Nat := 8

/-- The bytes of an edge of a fork, which carries nothing. -/
def forkBytes : Nat := 4

/-- How many bytes an automaton may take. -/
def byteLimit : Nat := 10 * 2 ^ (20 : Nat)

/-- An automaton with more states, which take some bytes beside those of their own. -/
def grown (automaton : Automaton) (count more : Nat) : Automaton :=
  ⟨automaton.states + count, automaton.bytes + count * stateBytes + more⟩

end Automaton

/-- A step of the building. -/
abbrev Growth := StateT Automaton Option

namespace Growth

open Automaton

/-- Add states that take some bytes beside those of their own. The number of the first
one of them is the number of states so far. -/
def add (count more : Nat) : Growth Nat := fun automaton =>
  let next := automaton.grown count more
  if byteLimit < next.bytes then none else some (automaton.states, next)

/-- What the last state of a piece is. -/
inductive Ending where
  | plain
  /-- A fork takes another edge to lead on. -/
  | fork
deriving DecidableEq, Repr

/-- Lead on from the end of a piece. -/
def leadOn (ending : Ending) : Growth Unit :=
  match ending with
  | .plain => pure ()
  | .fork => do let _ ← add 0 forkBytes

/-- A piece of a single state. -/
def single : Growth Ending := do
  let _ ← add 1 0
  return .plain

/-- Some pieces, one behind the other. -/
def chain : List (Growth Ending) → Growth Ending
  | [] => single
  | [piece] => piece
  | piece :: rest => do
      leadOn (← piece)
      chain rest

/-- A piece a number of times. -/
def times (piece : Growth Ending) : Nat → Growth Ending
  | 0 => single
  | 1 => piece
  | count + 2 => do
      leadOn (← piece)
      times piece (count + 1)

/-- A piece up to a number of times behind another one, with a way around each. -/
def upTo (piece : Growth Ending) : Nat → Ending → Growth Ending
  | 0, ending => do
      leadOn ending
      return .plain
  | count + 1, ending => do
      let _ ← add 1 (2 * forkBytes)
      let next ← piece
      leadOn ending
      upTo piece count next

/-- A piece that a fork behind it leads back to. -/
def loop (piece : Growth Ending) : Growth Ending := do
  let ending ← piece
  let _ ← add 1 forkBytes
  leadOn ending
  return .fork

/-- A piece as often as one likes. One fork serves to enter it and to leave it if it
cannot be passed without taking a byte; else a fork in front and one behind are needed. -/
def anyNumber (piece : Growth Ending) (takesBytes : Bool) : Growth Ending := do
  if takesBytes then
    let _ ← add 1 forkBytes
    leadOn (← piece)
    return .fork
  else
    leadOn (← loop piece)
    let _ ← add 2 (2 * forkBytes)
    return .plain

/-- A number of rounds of a piece. -/
def rounds (piece : Growth Ending) (takesBytes : Bool) (least : Nat) (greatest : Option Nat) :
    Growth Ending := do
  match least, greatest with
  | 0, some 1 =>
      let _ ← add 1 (2 * forkBytes)
      let ending ← piece
      let _ ← add 1 0
      leadOn ending
      return .plain
  | 0, none => anyNumber piece takesBytes
  | 1, none => loop piece
  | least + 2, none =>
      leadOn (← times piece (least + 1))
      loop piece
  | least, some greatest =>
      if least = greatest then times piece least
      else
        let ending ← times piece least
        let _ ← add 1 0
        upTo piece (greatest - least) ending

/-- Branches behind the first two, which share their fork. -/
def moreBranches : List (Growth Ending) → Growth Ending
  | [] => return .plain
  | branch :: rest => do
      let ending ← branch
      let _ ← add 0 forkBytes
      leadOn ending
      moreBranches rest

/-- One of some pieces. -/
def branches : List (Growth Ending) → Growth Ending
  | [] => single
  | [piece] => piece
  | first :: second :: others => do
      let one ← first
      let other ← second
      let _ ← add 2 (2 * forkBytes)
      leadOn one
      leadOn other
      moreBranches others

end Growth

end TypedStore.Regex
