import TypedStore.Pattern.Basic
import TypedStore.Pattern.Error

/-!
# Globs

A glob matches a whole text, byte for byte. Wildcards do not match a slash, except
that two stars which make up a component of a path match any number of
components. Classes and braces may match slashes; a branch of a brace that writes
nothing is left out.
-/

namespace TypedStore

/-- A part of a glob. -/
inductive GlobToken where
  | literal (c : Char)
  /-- One byte other than a slash. -/
  | any
  /-- Bytes other than a slash. -/
  | anyRow
  /-- Any components at the start. -/
  | leadingComponents
  /-- Any components at the end. -/
  | trailingComponents
  /-- Any components between two others. -/
  | innerComponents
  /-- One byte within some ranges of characters, or outside all of them. -/
  | oneOf (negated : Bool) (ranges : List (Char × Char))
  /-- One of several branches. -/
  | alternates (branches : List GlobToken)
  /-- Parts in a row. -/
  | row (tokens : List GlobToken)

namespace GlobToken

mutual

/-- The part writes nothing: it is a row or a choice of parts that write nothing. -/
def isBlank : GlobToken → Bool
  | alternates branches => areBlank branches
  | row tokens => areBlank tokens
  | _ => false

/-- All parts write nothing. -/
def areBlank : List GlobToken → Bool
  | [] => true
  | token :: rest => isBlank token && areBlank rest

end

/-- The byte of a slash. -/
def slash : Nat := 47

/-- The bytes of a character. -/
def bytesOf (c : Char) : List Nat := (String.utf8EncodeChar c).map UInt8.toNat

/-- One byte. -/
def byte (n : Nat) : Pattern := .code fun code => code = n

/-- Any number of any bytes. -/
def anything : Pattern := .rounds (.code fun _ => true) 0 none

/-- The bytes of a range in a class: all bytes of its two characters, and those
between the last byte of the first one and the first byte of the last one. -/
def rangeBytes (range : Char × Char) (code : Nat) : Bool :=
  let first := bytesOf range.1
  let last := bytesOf range.2
  first.contains code || last.contains code ||
    (range.1 ≠ range.2 && first.getLastD 0 ≤ code && code ≤ last.headD 0)

mutual

/-- The bytes that a part matches. -/
def pattern : GlobToken → Pattern
  | literal c => Pattern.sequenceOf ((bytesOf c).map byte)
  | any => .code fun code => code ≠ slash
  | anyRow => .rounds (.code fun code => code ≠ slash) 0 none
  | leadingComponents =>
      .choice (.rounds (byte slash) 0 (some 1)) (.sequence anything (byte slash))
  | trailingComponents => .sequence (byte slash) anything
  | innerComponents =>
      .choice (byte slash) (.sequence (byte slash) (.sequence anything (byte slash)))
  | oneOf negated ranges =>
      .code fun code => (ranges.any fun range => rangeBytes range code) != negated
  | alternates branches =>
      if areBlank branches then .empty else Pattern.choiceOf (writtenPatterns branches)
  | row tokens => Pattern.sequenceOf (patterns tokens)

/-- The patterns of parts in a row. -/
def patterns : List GlobToken → List Pattern
  | [] => []
  | token :: rest => pattern token :: patterns rest

/-- The patterns of the branches that write something. -/
def writtenPatterns : List GlobToken → List Pattern
  | [] => []
  | token :: rest =>
      if isBlank token then writtenPatterns rest else pattern token :: writtenPatterns rest

end

end GlobToken

namespace Glob

/-- A brace that is open: its finished branches and the row it stands in, each with
the last part first. -/
structure OpenBrace where
  branches : List GlobToken
  outer : List GlobToken

/-- What has been read of a glob: the row that is being read, last part first, and
the braces around it, the innermost one first. -/
structure Progress where
  tokens : List GlobToken
  braces : List OpenBrace

namespace Progress

/-- Add a part to the row. -/
def push (progress : Progress) (token : GlobToken) : Progress :=
  { progress with tokens := token :: progress.tokens }

/-- Open a brace. -/
def openBrace (progress : Progress) : Progress :=
  ⟨[], ⟨[], progress.tokens⟩ :: progress.braces⟩

/-- The row as a part. -/
def finished (progress : Progress) : GlobToken := .row progress.tokens.reverse

/-- Finish a branch of a brace; outside of braces a comma stands for itself. -/
def comma (progress : Progress) : Progress :=
  match progress.braces with
  | [] => progress.push (.literal ',')
  | brace :: rest => ⟨[], { brace with branches := progress.finished :: brace.branches } :: rest⟩

/-- Close a brace. -/
def closeBrace (progress : Progress) : Except GlobFault Progress :=
  match progress.braces with
  | [] => .error .unopenedAlternate
  | brace :: rest =>
      .ok ⟨.alternates (progress.finished :: brace.branches).reverse :: brace.outer, rest⟩

/-- Add two stars that are no component of their own. -/
def twoRows (progress : Progress) : Progress := (progress.push .anyRow).push .anyRow

/-- Put a part for any components in place of the slash before it; after another
such part at an end it adds nothing. -/
def components (progress : Progress) (token : GlobToken) : Progress :=
  match progress.tokens with
  | .leadingComponents :: _ => progress
  | .trailingComponents :: _ => progress
  | _ :: rest => { progress with tokens := token :: rest }
  | [] => progress.push token

end Progress

/-- Handle two stars, given the character before them and the text after them.
Gives what has been read and the text that is left, with the character before it. -/
def twoStars (progress : Progress) (before : Option Char) (rest : List Char) :
    Progress × Option Char × List Char :=
  if progress.tokens.isEmpty then
    match rest with
    | [] => (progress.push .leadingComponents, some '*', [])
    | '/' :: after => (progress.push .leadingComponents, some '/', after)
    | _ => (progress.twoRows, some '*', rest)
  else if before ≠ some '/' ∧
      (progress.braces.isEmpty ∨ (before ≠ some ',' ∧ before ≠ some '{')) then
    (progress.twoRows, some '*', rest)
  else
    match rest with
    | [] => (progress.components .trailingComponents, some '*', [])
    | c :: after =>
        if (c = ',' ∨ c = '}') ∧ !progress.braces.isEmpty then
          (progress.components .trailingComponents, some '*', rest)
        else if c = '/' then (progress.components .innerComponents, some '/', after)
        else (progress.twoRows, some '*', rest)

/-- Close a range at a character, which must not lie before its start. -/
def closeRange (ranges : List (Char × Char)) (last : Char) :
    Except GlobFault (List (Char × Char)) :=
  match ranges with
  | [] => .ok []
  | (first, _) :: rest =>
      if last < first then .error (.invalidRange first last) else .ok ((first, last) :: rest)

/-- Read the ranges of a class, last one first, up to its closing bracket. `first`
says that nothing of it has been read, `open` that a hyphen waits for the end of a range. -/
def classRanges (first waiting : Bool) (ranges : List (Char × Char)) :
    List Char → Except GlobFault (List (Char × Char) × List Char)
  | [] => .error .unclosedClass
  | c :: rest =>
      if c = ']' ∧ !first then
        .ok (if waiting then ('-', '-') :: ranges else ranges, rest)
      else if c = '-' ∧ !first ∧ !waiting then classRanges false true ranges rest
      else if waiting then
        match closeRange ranges c with
        | .ok ranges => classRanges false false ranges rest
        | .error fault => .error fault
      else classRanges false false ((c, c) :: ranges) rest

/-- Read a class behind its bracket. -/
def classToken (text : List Char) : Except GlobFault (GlobToken × List Char) :=
  let (negated, rest) := match text with
    | '!' :: rest => (true, rest)
    | '^' :: rest => (true, rest)
    | _ => (false, text)
  (classRanges true false [] rest).map fun (ranges, after) => (.oneOf negated ranges.reverse, after)

/-- Read on, given what has been read and the character before the text. -/
def read : Nat → Progress → Option Char → List Char → Except GlobFault Progress
  | 0, progress, _, _ => .ok progress
  | _ + 1, progress, _, [] => .ok progress
  | fuel + 1, progress, before, c :: rest =>
      if c = '?' then read fuel (progress.push .any) (some c) rest
      else if c = '*' then
        match rest with
        | '*' :: rest =>
            let (progress, before, rest) := twoStars progress before rest
            read fuel progress before rest
        | _ => read fuel (progress.push .anyRow) (some c) rest
      else if c = '[' then
        match classToken rest with
        | .ok (token, after) => read fuel (progress.push token) (some ']') after
        | .error fault => .error fault
      else if c = '{' then read fuel progress.openBrace (some c) rest
      else if c = '}' then
        match progress.closeBrace with
        | .ok progress => read fuel progress (some c) rest
        | .error fault => .error fault
      else if c = ',' then read fuel progress.comma (some c) rest
      else if c = '\\' then
        match rest with
        | [] => .error .danglingEscape
        | escaped :: after => read fuel (progress.push (.literal escaped)) (some escaped) after
      else read fuel (progress.push (.literal c)) (some c) rest

end Glob

/-- A glob that has been read: its parts in a row. -/
structure Glob where
  tokens : List GlobToken

namespace Glob

/-- Read a glob. -/
def ofText (text : String) : Except PatternFault Glob :=
  let chars := text.toList
  match read (chars.length + 1) ⟨[], []⟩ none chars with
  | .error fault => .error (.glob text fault)
  | .ok progress =>
      if progress.braces.isEmpty then .ok ⟨progress.tokens.reverse⟩
      else .error (.glob text .unclosedAlternate)

/-- What a glob matches. Two stars alone match everything. -/
def pattern (glob : Glob) : Pattern :=
  match glob.tokens with
  | [.leadingComponents] => GlobToken.anything
  | tokens => (GlobToken.row tokens).pattern

end Glob

end TypedStore
