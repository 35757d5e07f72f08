import TypedStore.Pattern.Glob
import TypedStore.Pattern.Regex.Automaton.Basic
import TypedStore.Pattern.Regex.Basic

/-!
# Limits of globs

A glob is matched by a regular expression over bytes that is written for it. The
expression may be nested no deeper and its automata may be no larger than those of any
other expression. A glob that can be read but goes beyond this has no matcher.
-/

namespace TypedStore

-- Sums start at the zero of the numbers themselves, whatever other zeros there are.
attribute [local instance(2000)] Zero.ofOfNat0

namespace GlobToken

/-- How many parts of a row of an expression are written for a part. -/
def partCount : GlobToken → Nat
  | literal c => c.utf8Size
  | trailingComponents => 2
  | alternates branches => if areBlank branches then 0 else 1
  | _ => 1

mutual

/-- How deep the expression is nested that is written for a part. -/
def depth : GlobToken → Nat
  | literal _ => 0
  | any => 1
  | anyRow => 2
  | leadingComponents => 4
  | trailingComponents => 1
  | innerComponents => 4
  | oneOf _ ranges => if ranges.length = 1 then 1 else 2
  | alternates branches =>
      let (written, deepest) := writtenDepths branches
      match written with
      | 0 => 0
      | 1 => 1 + deepest
      | _ => 2 + deepest
  | row tokens => rowDepth tokens + if (tokens.map partCount).sum < 2 then 0 else 1

/-- The greatest depth of parts in a row. -/
def rowDepth : List GlobToken → Nat
  | [] => 0
  | token :: rest => max token.depth (rowDepth rest)

/-- How many branches write something, and the greatest depth of these. -/
def writtenDepths : List GlobToken → Nat × Nat
  | [] => (0, 0)
  | token :: rest =>
      let (written, deepest) := writtenDepths rest
      if token.isBlank then (written, deepest) else (written + 1, max token.depth deepest)

end

open Regex (Form)
open Unicode (Ranges)

/-- One byte out of a set. -/
def formOfBytes (accepts : Nat → Bool) : Form :=
  let bytes := (List.range 256).filter accepts
  .set true (Ranges.ofList (bytes.map fun byte => (byte, byte)))

/-- A slash. -/
def slashForm : Form := .literal ['/']

/-- Any number of bytes out of a set. -/
def formOfRow (accepts : Nat → Bool) : Form := .ofRounds (formOfBytes accepts) 0 none false

mutual

/-- The expression that is written for a part. -/
def form : GlobToken → Form
  | literal c => .literal [c]
  | any => formOfBytes fun code => code ≠ slash
  | anyRow => formOfRow fun code => code ≠ slash
  | leadingComponents =>
      .ofBranches
        [.ofRounds slashForm 0 (some 1) false, .ofParts [formOfRow fun _ => true, slashForm]]
  | trailingComponents => .ofParts [slashForm, formOfRow fun _ => true]
  | innerComponents =>
      .ofBranches [slashForm, .ofParts [slashForm, formOfRow fun _ => true, slashForm]]
  | oneOf negated ranges =>
      formOfBytes fun code => (ranges.any fun range => rangeBytes range code) != negated
  | alternates branches =>
      if areBlank branches then .empty else .ofBranches (writtenForms branches)
  | row tokens => .ofParts (forms tokens)

/-- The expressions that are written for parts in a row. -/
def forms : List GlobToken → List Form
  | [] => []
  | token :: rest => token.form :: forms rest

/-- The expressions that are written for the branches that write something. -/
def writtenForms : List GlobToken → List Form
  | [] => []
  | token :: rest => if isBlank token then writtenForms rest else token.form :: writtenForms rest

end

end GlobToken

namespace Glob

/-- The expression that is written for a glob keeps the limits. -/
def isMatchable (glob : Glob) : Bool :=
  let boundary (kind : Regex.Boundary) : Regex.Form := .assertion (.ofText kind)
  let whole := .ofParts
    [boundary .textStart, (GlobToken.row glob.tokens).form, boundary .textEnd]
  GlobToken.rowDepth glob.tokens < Regex.depthLimit && Regex.Form.isSmall whole

/-- The matcher of a glob, for the bytes of a whole text. -/
def matcher? (glob : Glob) : Option Matcher :=
  let pattern := glob.pattern
  if glob.isMatchable then
    some fun text => pattern.covers (text.toByteArray.toList.map UInt8.toNat)
  else none

end Glob

end TypedStore
