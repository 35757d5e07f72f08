import TypedStore.Pattern.Regex.Automaton.Growth

/-!
# Automata for words

Alternatives that are words alone share what they begin with: they are the branches
of a tree. The first word that matches is preferred, so a word may share only what
comes before the end of all words in front of it: where a word ends, a new bunch of
edges is opened for those that follow.
-/

namespace TypedStore.Regex.Growth

open Automaton

/-- The bytes of a word, or of what is left of it. -/
abbrev Word := List Nat

/-- Words in the bunches that the ends of words leave. An end that comes first is one
end, however often it is repeated. -/
def bunches : List Word → List (List Word)
  | [] => [[]]
  | [] :: rest => [] :: bunches rest
  | word :: rest =>
      match bunches rest with
      | bunch :: others => (word :: bunch) :: others
      | [] => [[word]]

/-- Words without the ends that repeat the first one. -/
def withoutRepeatedEnds : List Word → List Word
  | [] :: rest => [] :: rest.dropWhile List.isEmpty
  | words => words

/-- Put a word in front of those that begin with the same byte. -/
def withWord (byte : Nat) (tail : Word) : List (Nat × List Word) → List (Nat × List Word)
  | [] => [(byte, [tail])]
  | (other, tails) :: rest =>
      if other = byte then (byte, tail :: tails) :: rest
      else (other, tails) :: withWord byte tail rest

/-- The tails of words by their first byte. -/
def byFirstByte : List Word → List (Nat × List Word)
  | [] => []
  | [] :: rest => byFirstByte rest
  | (byte :: tail) :: rest => withWord byte tail (byFirstByte rest)

/-- The state of a bunch; a bunch without edges has none. -/
def bunch (edges : Nat) : Growth Unit :=
  if edges = 0 then pure ()
  else do let _ ← add 1 (if edges = 1 then 0 else edges * edgeBytes)

/-- A tree of words of at most a number of bytes. -/
def wordTree : Nat → List Word → Growth Unit
  | 0, _ => pure ()
  | depth + 1, words => do
      if words.all List.isEmpty then return
      let bunches := (bunches (withoutRepeatedEnds words)).map byFirstByte
      bunches.forM fun edges => bunch edges.length
      let _ ← add 1 ((bunches.countP (!·.isEmpty) + (bunches.length - 1)) * forkBytes)
      bunches.forM fun edges => edges.forM fun edge => wordTree depth edge.2

/-- One of some words. -/
def ofWords (words : List Word) : Growth Ending := do
  let _ ← add 1 0
  wordTree (words.foldl (fun longest word => max longest word.length) 0) words
  return .plain

end TypedStore.Regex.Growth
