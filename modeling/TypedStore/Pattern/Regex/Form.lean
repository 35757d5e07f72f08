import TypedStore.Pattern.Basic
import TypedStore.Pattern.Regex.Assertion

/-!
# Reduced forms

What an expression means, with the flags worked into it and all that makes no
difference left out: empty parts are dropped, characters in a row are one literal,
sets that are alternatives are one set, and what all alternatives begin with is
stated once. A form is made by the functions `of…`, which keep it reduced.
-/

namespace TypedStore.Regex

open Unicode (Ranges)

/-- A reduced expression. -/
inductive Form where
  | empty
  | literal (text : List Char)
  /-- One character of a set; without Unicode it is a set of bytes. -/
  | set (ofBytes : Bool) (codes : Ranges)
  | assertion (place : Assertion)
  | repetition (inner : Form) (least : Nat) (greatest : Option Nat) (isLazy : Bool)
  | capture (inner : Form)
  | row (parts : List Form)
  | choice (branches : List Form)

namespace Form

/-- The form that matches nothing. -/
def nothing : Form := set true Ranges.empty

mutual

/-- All that a form matches is empty. -/
def onlyEmpty : Form → Bool
  | empty => true
  | literal _ => false
  | set .. => false
  | assertion _ => true
  | repetition inner _ greatest _ => greatest.isSome && inner.onlyEmpty
  | capture inner => inner.onlyEmpty
  | row parts => allOnlyEmpty parts
  | choice branches => allOnlyEmpty branches

/-- All that any of some forms matches is empty. -/
def allOnlyEmpty : List Form → Bool
  | [] => true
  | form :: rest => form.onlyEmpty && allOnlyEmpty rest

end

mutual

/-- Two forms are the same. No two captures are: each one is kept on its own. -/
def same : Form → Form → Bool
  | empty, empty => true
  | literal a, literal b => a = b
  | set ofBytes a, set ofBytes' b => ofBytes = ofBytes' && a = b
  | assertion a, assertion b => a = b
  | repetition a least greatest isLazy, repetition b least' greatest' isLazy' =>
      least = least' && greatest = greatest' && isLazy = isLazy' && a.same b
  | row a, row b => allSame a b
  | choice a, choice b => allSame a b
  | _, _ => false

/-- Two lists hold the same forms. -/
def allSame : List Form → List Form → Bool
  | [], [] => true
  | a :: as, b :: bs => a.same b && allSame as bs
  | _, _ => false

end

/-- One character of a set. -/
def ofCodes (ofBytes : Bool) (codes : Ranges) : Form :=
  match codes.all with
  | [] => nothing
  | [(first, last)] => if first = last then literal [Char.ofNat first] else set ofBytes codes
  | _ => set ofBytes codes

/-- A number of rounds. Of what is empty anyway, one round does as well as many. -/
def ofRounds (inner : Form) (least : Nat) (greatest : Option Nat) (isLazy : Bool) : Form :=
  let (least, greatest) :=
    if inner.onlyEmpty then (min least 1, some (min (greatest.getD 1) 1)) else (least, greatest)
  if greatest = some 0 then empty
  else if least = 1 ∧ greatest = some 1 then inner
  else repetition inner least greatest isLazy

/-- The parts of a row; any other form is its only part. -/
def parts : Form → List Form
  | empty => []
  | row parts => parts
  | form => [form]

/-- Parts with the characters that stand side by side in one literal. -/
def joinLiterals : List Form → List Form
  | [] => []
  | literal text :: rest =>
      match joinLiterals rest with
      | literal more :: others => literal (text ++ more) :: others
      | others => literal text :: others
  | form :: rest => form :: joinLiterals rest

/-- One form after another. -/
def ofParts (forms : List Form) : Form :=
  match joinLiterals (forms.flatMap parts) with
  | [] => empty
  | [form] => form
  | forms => row forms

/-- The branches of a choice; any other form is its only branch. -/
def branches : Form → List Form
  | choice branches => branches
  | form => [form]

/-- The only character of a form, if it is one. -/
def char? : Form → Option Char
  | literal [c] => some c
  | _ => none

/-- The set that a form is. -/
def codes? : Form → Option Ranges
  | set _ codes => some codes
  | _ => none

/-- The parts of a row. -/
def parts? : Form → Option (List Form)
  | row parts => some parts
  | _ => none

/-- One of some forms. Characters, or sets, are one set together. -/
def merged (forms : List Form) : Form :=
  match forms.flatMap branches with
  | [] => nothing
  | [form] => form
  | forms =>
    match forms.mapM char? with
    | some chars => ofCodes false (Ranges.ofList (chars.map fun c => (c.toNat, c.toNat)))
    | none =>
      match forms.mapM codes? with
      | some sets => ofCodes false (Ranges.ofList (sets.flatMap Ranges.all))
      | none => choice forms

/-- What two rows both begin with. -/
def sharedStart : List Form → List Form → List Form
  | a :: as, b :: bs => if a.same b then a :: sharedStart as bs else []
  | _, _ => []

/-- One of some forms. What rows all begin with stands in front of the choice. -/
def ofBranches (forms : List Form) : Form :=
  match merged forms with
  | choice forms =>
    match forms.mapM parts? with
    | some (first :: others) =>
        let shared := others.foldl sharedStart first
        if shared.isEmpty then choice forms
        else
          let ends := (first :: others).map fun parts => ofParts (parts.drop shared.length)
          ofParts (shared ++ [merged ends])
    | _ => choice forms
  | form => form

mutual

/-- The pattern that a form stands for. -/
def pattern : Form → Pattern
  | empty => .empty
  | literal text => .sequenceOf (text.map fun c => .code fun code => code = c.toNat)
  | set _ codes => .code codes.contains
  | assertion place => .boundary place.holds
  | repetition inner least greatest _ => .rounds inner.pattern least greatest
  | capture inner => inner.pattern
  | row parts => .sequenceOf (patterns parts)
  | choice branches => .choiceOf (patterns branches)

/-- The patterns that some forms stand for. -/
def patterns : List Form → List Pattern
  | [] => []
  | form :: rest => form.pattern :: patterns rest

end

end Form

end TypedStore.Regex
