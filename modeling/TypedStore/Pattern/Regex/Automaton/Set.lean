import Std.Data.HashMap
import TypedStore.Pattern.Regex.Automaton.Growth
import TypedStore.Unicode.Utf8

/-!
# Automata for sets

A set within ASCII is a single state with an edge for each range. Any other set is
built from the sequences of bytes that write its characters. What is built for it is
remembered in a table of slots and used again; a slot holds one thing only, so that
something may be forgotten and built once more.
-/

namespace TypedStore.Regex

open Unicode (Ranges ByteRange)

/-- The way in which an automaton reads a text. -/
inductive Direction where
  | forward
  | backward
deriving DecidableEq, Repr

/-- What has been built, in slots: a key with the state that was built for it. -/
structure SlotTable where
  slots : Nat
  kept : Std.HashMap Nat (List Nat × Nat)

namespace SlotTable

/-- A table with nothing in it. -/
def empty (slots : Nat) : SlotTable := ⟨slots, ∅⟩

/-- Mix a number into a hash. -/
def mix (hash : UInt64) (number : Nat) : UInt64 := (hash ^^^ number.toUInt64) * 1099511628211

/-- The slot of a key. -/
def slot (table : SlotTable) (key : List Nat) : Nat :=
  (key.foldl mix 14695981039346656037).toNat % table.slots

/-- The state for a key, if it is remembered. -/
def find? (table : SlotTable) (key : List Nat) : Option Nat :=
  match table.kept[table.slot key]? with
  | some (other, state) => if other = key then some state else none
  | none => none

/-- Remember the state for a key in place of what its slot held. -/
def keep (table : SlotTable) (key : List Nat) (state : Nat) : SlotTable :=
  { table with kept := table.kept.insert (table.slot key) (key, state) }

end SlotTable

namespace Growth

open Automaton

/-- A step of the building that remembers what it builds. -/
abbrev Recalling := StateT SlotTable Growth

/-- The state for a key: the one that is remembered, or a new one. -/
def stateFor (key : List Nat) (more : Nat) : Recalling Nat := do
  match (← get).find? key with
  | some state => return state
  | none =>
      let state ← add 1 more
      modify fun table => table.keep key state
      return state

/-- Sequences, those side by side that begin alike together, without what they begin with. -/
def byFirstRange : List (List ByteRange) → List (ByteRange × List (List ByteRange))
  | [] => []
  | [] :: rest => byFirstRange rest
  | (range :: tail) :: rest =>
      match byFirstRange rest with
      | (other, tails) :: groups =>
          if other = range then (range, tail :: tails) :: groups
          else (range, [tail]) :: (other, tails) :: groups
      | [] => [(range, [tail])]

/-- The state from which sequences of at most a number of ranges lead to a target. -/
def tree (target : Nat) : Nat → List (List ByteRange) → Recalling Nat
  | 0, _ => return target
  | depth + 1, sequences => do
      if sequences.all List.isEmpty then return target
      let edges ← (byFirstRange sequences).mapM fun (range, tails) => do
        let next ← tree target depth tails
        return [range.first, range.last, next]
      stateFor edges.flatten (edges.length * edgeBytes)

/-- The state from which a sequence leads to a target against its order. -/
def path (target : Nat) (sequence : List ByteRange) : Recalling Nat :=
  sequence.foldlM (fun state range => stateFor [state, range.first, range.last] 0) target

/-- A set whose characters are written by some sequences. -/
def ofSequences (direction : Direction) (sequences : List (List ByteRange)) : Growth Ending :=
  match direction with
  | .forward => do
      let target ← add 1 0
      let _ ← (tree target 4 sequences).run (SlotTable.empty 10000)
      return .plain
  | .backward => do
      let _ ← add 1 (sequences.length * forkBytes)
      let target ← add 1 0
      let _ ← (sequences.forM fun sequence => do let _ ← path target sequence).run
        (SlotTable.empty 1000)
      return .plain

/-- One byte of a set. -/
def ofBytes (codes : Ranges) : Growth Ending := do
  let _ ← add 2 (codes.all.length * edgeBytes)
  return .plain

/-- One character of a set. -/
def ofSet (direction : Direction) (codes : Ranges) : Growth Ending :=
  if codes.all.all fun range => range.2 < 128 then ofBytes codes
  else ofSequences direction codes.utf8

end Growth

end TypedStore.Regex
