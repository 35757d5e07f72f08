import TypedStore.Pattern.Regex.Automaton.Set
import TypedStore.Pattern.Regex.Automaton.Words
import TypedStore.Pattern.Regex.Form

/-!
# Automata for forms

A form is read by an automaton in either direction. The one that reads forward keeps
the places of captures; the one that reads backward does not. An expression is used
only if both automata are small enough.
-/

namespace TypedStore.Regex

-- Sums start at the zero of the numbers themselves, whatever other zeros there are.
attribute [local instance(2000)] Zero.ofOfNat0

/-- Parts in the order in which they are read. -/
def Direction.order {α : Type} (direction : Direction) (parts : List α) : List α :=
  match direction with
  | forward => parts
  | backward => parts.reverse

/-- The boundary of a text at which the reading starts. -/
def Direction.start : Direction → Boundary
  | forward => .textStart
  | backward => .textEnd

namespace Form

mutual

/-- The length of the shortest match; where a set without members is a part or a branch,
there is none. -/
def leastLength? : Form → Option Nat
  | empty => some 0
  | literal text => some text.length
  | set _ codes => if codes.all.isEmpty then none else some 1
  | assertion _ => some 0
  | repetition inner least _ _ => inner.leastLength?.map (· * least)
  | capture inner => inner.leastLength?
  | row parts => (leastLengths? parts).map List.sum
  | choice branches => (leastLengths? branches).bind List.min?

/-- The lengths of the shortest matches of some forms, if there are any for all of them. -/
def leastLengths? : List Form → Option (List Nat)
  | [] => some []
  | form :: rest => do
      let first ← form.leastLength?
      let others ← leastLengths? rest
      return first :: others

end

/-- Some part is bound to a boundary, and those read before it match the empty text only. Of
each part it is told whether it is bound and whether it matches the empty text only. -/
def leadsBound : List (Bool × Bool) → Bool
  | [] => false
  | (isBound, onlyEmpty) :: rest => isBound || (onlyEmpty && leadsBound rest)

mutual

/-- All matches begin at the boundary of the text where the reading starts. -/
def isAnchored (direction : Direction) : Form → Bool
  | assertion place => place.kind = direction.start
  | repetition inner least _ _ => 0 < least && inner.isAnchored direction
  | capture inner => inner.isAnchored direction
  | row parts => leadsBound (direction.order (anchors direction parts))
  | choice branches => (anchors direction branches).all Prod.fst
  | _ => false

/-- For each of some forms whether it is anchored and whether it matches the empty text only. -/
def anchors (direction : Direction) : List Form → List (Bool × Bool)
  | [] => []
  | form :: rest => (form.isAnchored direction, form.onlyEmpty) :: anchors direction rest

end

/-- The bytes of a form that is a literal. -/
def word? (direction : Direction) : Form → Option Growth.Word
  | literal text => some (direction.order (text.flatMap Unicode.utf8OfChar))
  | _ => none

mutual

/-- Build the piece of an automaton that reads a form. -/
def grow (direction : Direction) : Form → Growth Growth.Ending
  | empty => Growth.single
  | literal text => do
      let _ ← Growth.add (text.map Char.utf8Size).sum 0
      return .plain
  | set ofBytes codes => if ofBytes then Growth.ofBytes codes else Growth.ofSet direction codes
  | assertion _ => Growth.single
  | repetition inner least greatest _ =>
      Growth.rounds (inner.grow direction) (inner.leastLength?.any (0 < ·)) least greatest
  | capture inner =>
      match direction with
      | .forward => Growth.chain [Growth.single, inner.grow direction, Growth.single]
      | .backward => inner.grow direction
  | row parts => Growth.chain (direction.order (growAll direction parts))
  | choice branches =>
      match branches.mapM (word? direction) with
      | some words => Growth.ofWords words
      | none => Growth.branches (growAll direction branches)

/-- The pieces of some forms. -/
def growAll (direction : Direction) : List Form → List (Growth Growth.Ending)
  | [] => []
  | form :: rest => form.grow direction :: growAll direction rest

end

/-- The automaton that finds a form: unless it is anchored, any bytes may come first. -/
def automaton? (direction : Direction) (form : Form) : Option Automaton :=
  let start : Growth Growth.Ending :=
    if form.isAnchored direction then Growth.single
    else do
      let _ ← Growth.add 3 (Automaton.edgeBytes + Automaton.forkBytes)
      return .fork
  let whole := Growth.chain [start, (capture form).grow direction, Growth.single]
  (whole.run Automaton.blank).map Prod.snd

/-- The automata of both directions are small enough. -/
def isSmall (form : Form) : Bool :=
  (form.automaton? .forward).isSome && (form.automaton? .backward).isSome

end Form

end TypedStore.Regex
