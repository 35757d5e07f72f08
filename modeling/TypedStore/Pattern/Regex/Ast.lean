import TypedStore.Pattern.Regex.Stretch

/-!
# Structure of regular expressions

A regular expression as it is written: characters, classes, boundaries, groups
with their flags, repetitions and alternatives. Flags that stand alone hold to
the end of the group around them. Each part knows the stretch of text it was read
from.
-/

namespace TypedStore.Regex

/-- A switch of the matching or of the reading of an expression. -/
inductive Flag where
  | ignoreCase
  | multiLine
  | dotAll
  | swapGreed
  | unicode
  | carriageReturn
  | ignoreSpace
deriving DecidableEq, Repr

/-- Flags to be switched on or off. -/
abbrev FlagChanges := List (Flag × Bool)

/-- The new state of a flag, if it is among the changes. -/
def FlagChanges.state? (changes : FlagChanges) (flag : Flag) : Option Bool :=
  (changes.find? fun change => change.1 = flag).map Prod.snd

/-- A place between characters. -/
inductive Boundary where
  | lineStart
  | lineEnd
  | textStart
  | textEnd
  | word
  | notWord
  | wordStart
  | wordEnd
  | wordStartHalf
  | wordEndHalf
deriving DecidableEq, Repr

/-- The classes that have a letter of their own. -/
inductive LetterClass where
  | digit
  | space
  | word
deriving DecidableEq, Repr

/-- A single character; `asByte` says that it is spelled as a byte of two hexadecimal digits. -/
structure Literal where
  char : Char
  asByte : Bool
  stretch : Stretch
deriving DecidableEq, Repr

/-- A set of characters asked for by name. -/
inductive PropertyQuery where
  /-- The name of a category, a script or a property. -/
  | named (name : String)
  /-- A value of a property. -/
  | valued (property value : String)
deriving DecidableEq, Repr

/-- What joins two sets of a class. -/
inductive SetOperation where
  | intersection
  | difference
  | symmetricDifference
deriving DecidableEq, Repr

/-- A set of characters within the brackets of a class. -/
inductive ClassSet where
  | empty (stretch : Stretch)
  | literal (literal : Literal)
  | range (first last : Literal)
  | ascii (stretch : Stretch) (name : String) (negated : Bool)
  | letter (stretch : Stretch) (kind : LetterClass) (negated : Bool)
  | property (stretch : Stretch) (query : PropertyQuery) (negated : Bool)
  | union (stretch : Stretch) (sets : List ClassSet)
  | bracketed (stretch : Stretch) (negated : Bool) (set : ClassSet)
  | operation (stretch : Stretch) (kind : SetOperation) (left right : ClassSet)

/-- A regular expression. -/
inductive Ast where
  | empty (stretch : Stretch)
  | flags (stretch : Stretch) (changes : FlagChanges)
  | literal (literal : Literal)
  | dot (stretch : Stretch)
  | boundary (stretch : Stretch) (kind : Boundary)
  | letter (stretch : Stretch) (kind : LetterClass) (negated : Bool)
  | property (stretch : Stretch) (query : PropertyQuery) (negated : Bool)
  | bracketed (stretch : Stretch) (negated : Bool) (set : ClassSet)
  /-- A lazy repetition prefers few rounds to many. -/
  | repetition (stretch : Stretch) (inner : Ast) (least : Nat) (greatest : Option Nat)
      (isLazy : Bool)
  /-- A group that captures keeps what it matched. -/
  | group (stretch : Stretch) (changes : FlagChanges) (captures : Bool) (inner : Ast)
  | alternation (stretch : Stretch) (branches : List Ast)
  | concatenation (stretch : Stretch) (parts : List Ast)

namespace ClassSet

/-- The text of a set. -/
def stretch : ClassSet → Stretch
  | empty stretch => stretch
  | literal l => l.stretch
  | range first last => first.stretch.spanning last.stretch
  | ascii stretch .. => stretch
  | letter stretch .. => stretch
  | property stretch .. => stretch
  | union stretch _ => stretch
  | bracketed stretch .. => stretch
  | operation stretch .. => stretch

/-- Sets side by side: none is the empty set at a place, a single one stands for itself. -/
def ofItems (start : Stretch) : List ClassSet → ClassSet
  | [] => empty start
  | [set] => set
  | first :: rest => union (first.stretch.spanning ((rest.getLastD first).stretch)) (first :: rest)

end ClassSet

namespace Ast

/-- The text of an expression. -/
def stretch : Ast → Stretch
  | empty stretch => stretch
  | flags stretch _ => stretch
  | literal l => l.stretch
  | dot stretch => stretch
  | boundary stretch _ => stretch
  | letter stretch .. => stretch
  | property stretch .. => stretch
  | bracketed stretch .. => stretch
  | repetition stretch .. => stretch
  | group stretch .. => stretch
  | alternation stretch _ => stretch
  | concatenation stretch _ => stretch

/-- Parts in a row: none is the empty expression, a single one stands for itself. -/
def ofParts (stretch : Stretch) : List Ast → Ast
  | [] => empty stretch
  | [part] => part
  | parts => concatenation stretch parts

/-- Alternatives: a single one stands for itself. -/
def ofBranches (stretch : Stretch) : List Ast → Ast
  | [branch] => branch
  | branches => alternation stretch branches

end Ast

mutual

/-- The text of the first set that is nested deeper than a limit. -/
def ClassSet.tooDeep? (limit : Nat) : ClassSet → Option Stretch
  | union stretch sets =>
      if limit = 0 then some stretch else ClassSet.anyTooDeep? (limit - 1) sets
  | bracketed stretch _ set => if limit = 0 then some stretch else set.tooDeep? (limit - 1)
  | operation stretch _ left right =>
      if limit = 0 then some stretch
      else (left.tooDeep? (limit - 1)).or (right.tooDeep? (limit - 1))
  | _ => none

/-- The text of the first one among some sets that is nested deeper than a limit. -/
def ClassSet.anyTooDeep? (limit : Nat) : List ClassSet → Option Stretch
  | [] => none
  | set :: rest => (set.tooDeep? limit).or (ClassSet.anyTooDeep? limit rest)

end

mutual

/-- The text of the first part that is nested deeper than a limit. -/
def Ast.tooDeep? (limit : Nat) : Ast → Option Stretch
  | bracketed stretch _ set => if limit = 0 then some stretch else set.tooDeep? (limit - 1)
  | repetition stretch inner .. =>
      if limit = 0 then some stretch else inner.tooDeep? (limit - 1)
  | group stretch _ _ inner => if limit = 0 then some stretch else inner.tooDeep? (limit - 1)
  | alternation stretch branches =>
      if limit = 0 then some stretch else Ast.anyTooDeep? (limit - 1) branches
  | concatenation stretch parts =>
      if limit = 0 then some stretch else Ast.anyTooDeep? (limit - 1) parts
  | _ => none

/-- The text of the first one among some expressions that is nested deeper than a limit. -/
def Ast.anyTooDeep? (limit : Nat) : List Ast → Option Stretch
  | [] => none
  | ast :: rest => (ast.tooDeep? limit).or (Ast.anyTooDeep? limit rest)

end

end TypedStore.Regex
