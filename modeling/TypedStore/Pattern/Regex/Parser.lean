import TypedStore.Pattern.Regex.Ast
import TypedStore.Pattern.Regex.Fault
import TypedStore.Unicode.Query

/-!
# Reading regular expressions

The text of an expression is read from left to right, and the first fault ends the
reading. Under the flag `x` blanks and comments between the parts are passed over;
the flag holds to the end of the group it is set in.
-/

namespace TypedStore.Regex

-- Powers are those of the numbers themselves, whatever other powers there are.
attribute [local instance(2000)] instPowNat

/-- A place in the text, with what has been found out on the way to it. -/
structure Cursor where
  /-- The number of characters of the whole text. -/
  size : Nat
  rest : List Char
  place : Place
  /-- Blanks and comments are passed over. -/
  ignoreSpace : Bool
  /-- The names of the groups so far. -/
  names : List (String × Stretch)

/-- A reader that fails on faulty text. -/
abbrev Reading := StateT Cursor (Except Fault)

/-- Blanks of all kinds. -/
def isBlank (c : Char) : Bool :=
  let n := c.toNat
  (9 ≤ n && n ≤ 13) || n = 0x20 || n = 0x85 || n = 0xA0 || n = 0x1680 || (0x2000 ≤ n && n ≤ 0x200A)
    || n = 0x2028 || n = 0x2029 || n = 0x202F || n = 0x205F || n = 0x3000

namespace Cursor

/-- The cursor behind the next character. -/
def next (cursor : Cursor) : Cursor :=
  match cursor.rest with
  | [] => cursor
  | c :: rest => { cursor with rest, place := cursor.place.behind c }

/-- The cursor behind blanks. -/
def skipBlanks (cursor : Cursor) : Cursor :=
  let (place, rest) := skip cursor.place cursor.rest
  { cursor with rest, place }
where
  /-- The place behind blanks and what follows. -/
  skip (place : Place) : List Char → Place × List Char
    | [] => (place, [])
    | c :: rest => if isBlank c then skip (place.behind c) rest else (place, c :: rest)

/-- The cursor behind blanks and comments, if they are to be ignored; a comment ends
with its line. -/
def skipSpace (cursor : Cursor) : Cursor :=
  if cursor.ignoreSpace then
    let (place, rest) := skip false cursor.place cursor.rest
    { cursor with rest, place }
  else cursor
where
  /-- The place behind blanks and comments and what follows. -/
  skip (inComment : Bool) (place : Place) : List Char → Place × List Char
    | [] => (place, [])
    | c :: rest =>
        if inComment then skip (c ≠ '\n') (place.behind c) rest
        else if isBlank c then skip false (place.behind c) rest
        else if c = '#' then skip true (place.behind c) rest
        else (place, c :: rest)

end Cursor

namespace Reading

/-- The next character. -/
def peek : Reading (Option Char) := do return (← get).rest.head?

/-- The current place. -/
def here : Reading Place := do return (← get).place

/-- The empty stretch at the current place. -/
def point : Reading Stretch := do return ⟨← here, ← here⟩

/-- From a place to the current one. -/
def since (place : Place) : Reading Stretch := do return ⟨place, ← here⟩

/-- The stretch of the next character. -/
def nextStretch : Reading Stretch := do
  let cursor ← get
  return ⟨cursor.place, cursor.next.place⟩

/-- Fail with a fault. -/
def fail {α : Type} (flaw : Flaw) (stretch : Stretch) : Reading α := throw ⟨flaw, stretch⟩

/-- The next character, which must be there. -/
def current (otherwise : Reading Char) : Reading Char := do
  match ← peek with
  | some c => return c
  | none => otherwise

/-- Pass over a character. -/
def bump : Reading Unit := modify Cursor.next

/-- Pass over blanks and comments, if they are to be ignored. -/
def skipSpace : Reading Unit := modify Cursor.skipSpace

/-- Pass over a character and what is to be ignored after it. -/
def bumpSpace : Reading Unit := do
  bump
  skipSpace

/-- Pass over a character and what is to be ignored; the text must go on after it. -/
def advance (otherwise : Reading Char) : Reading Char := do
  bumpSpace
  current otherwise

/-- Pass over a number of characters. -/
def bumpTimes : Nat → Reading Unit
  | 0 => return ()
  | n + 1 => do
    bump
    bumpTimes n

/-- Pass over the first one of some words that the text starts with, if there is one. -/
def bumpAny : List String → Reading Bool
  | [] => return false
  | word :: others => do
    if word.toList.isPrefixOf (← get).rest then
      bumpTimes word.length
      return true
    else bumpAny others

/-- The characters up to the first one that fails a test, each passed over
together with what is to be ignored after it. -/
def takeWhile (test : Char → Bool) : Nat → Reading (List Char)
  | 0 => return []
  | fuel + 1 => do
    match ← peek with
    | some c =>
        if test c then
          bumpSpace
          return c :: (← takeWhile test fuel)
        else return []
    | none => return []

/-- As many steps as there are characters left, and one more. -/
def fuel : Reading Nat := do
  let cursor ← get
  return cursor.size - cursor.place.offset + 1

end Reading

open Reading

/-- The value of digits to a base. -/
def digitsValue (base : Nat) (value : Char → Nat) (digits : List Char) : Nat :=
  digits.foldl (fun n c => base * n + value c) 0

/-- A decimal digit. -/
def isDecimal (c : Char) : Bool := '0' ≤ c && c ≤ '9'

/-- A hexadecimal digit. -/
def isHex (c : Char) : Bool := isDecimal c || ('a' ≤ c && c ≤ 'f') || ('A' ≤ c && c ≤ 'F')

/-- The value of a hexadecimal digit. -/
def hexValue (c : Char) : Nat :=
  if isDecimal c then c.toNat - 48 else if 'a' ≤ c then c.toNat - 87 else c.toNat - 55

/-- The character with a number, which must not be a surrogate. -/
def charOf? (n : Nat) : Option Char :=
  if n < 0xD800 ∨ (0xDFFF < n ∧ n < 0x110000) then some (Char.ofNat n) else none

/-- Read a decimal number, below 2³², with blanks around it. What is wrong with it
counts only if the text goes on. -/
def decimal : Reading (Except Fault Nat) := do
  modify Cursor.skipBlanks
  let start ← here
  let digits ← takeWhile isDecimal (← fuel)
  let stretch ← since start
  modify fun cursor => cursor.skipBlanks.skipSpace
  let value := digitsValue 10 hexValue digits
  if digits.isEmpty then return .error ⟨.missingCount, stretch⟩
  if 2 ^ (32 : Nat) ≤ value then return .error ⟨.invalidCount, stretch⟩
  return .ok value

/-- Read the mark of a lazy repetition, if it is there. -/
def lazyMark : Reading Bool := bumpAny ["?"]

/-- Read the bounds of a counted repetition whose brace is next, and its mark. -/
def bounds : Reading (Nat × Option Nat × Bool) := do
  let start ← here
  let unclosed : Reading Char := do fail .unclosedCounts (← since start)
  let _ ← advance unclosed
  let least ← decimal
  let comma := (← current unclosed) = ','
  let next ← if comma then advance unclosed else current unclosed
  let least ← liftM least
  let greatest ←
    if !comma then pure (some least)
    else if next = '}' then pure none
    else some <$> liftM (← decimal)
  if (← current unclosed) ≠ '}' then
    let _ ← unclosed
  bumpSpace
  let isLazy ← lazyMark
  if greatest.any (· < least) then fail .reversedCounts (← since start)
  return (least, greatest, isLazy)

/-- Fail where a text ends within an escape. -/
def unfinishedEscape : Reading Char := do fail .unfinishedEscape (← point)

/-- Read a number of hexadecimal digits. -/
def hexDigits : Nat → Reading (List Char)
  | 0 => return []
  | n + 1 => do
    let c ← current unfinishedEscape
    if !isHex c then fail .invalidDigit (← nextStretch)
    if n = 0 then bumpSpace
    else
      let _ ← advance unfinishedEscape
    return c :: (← hexDigits n)

/-- Read the digits of a character escape whose letter is next. The escape starts at a
given place. -/
def hexEscape (start : Place) : Reading Literal := do
  let letter ← current unfinishedEscape
  let c ← advance unfinishedEscape
  let brace ← here
  if c = '{' then
    let digitsStart := (← nextStretch).last
    bumpSpace
    let digits ← takeWhile isHex (← fuel)
    let c ← current (do fail .unfinishedEscape (← since brace))
    if c ≠ '}' then fail .invalidDigit (← nextStretch)
    let digitsEnd ← here
    bumpSpace
    if digits.isEmpty then fail .emptyCode (← since brace)
    match charOf? (digitsValue 16 hexValue digits) with
    | some char => return ⟨char, false, ← since start⟩
    | none => fail .invalidCode ⟨digitsStart, digitsEnd⟩
  else
    let digits ← hexDigits (if letter = 'x' then 2 else if letter = 'u' then 4 else 8)
    match charOf? (digitsValue 16 hexValue digits) with
    | some char => return ⟨char, letter = 'x', ← since start⟩
    | none => fail .invalidCode (← since brace)

/-- The parts of a text before and after the first occurrence of a word. -/
def splitAtWord (word : List Char) : List Char → Option (List Char × List Char)
  | [] => none
  | c :: rest =>
      if word.isPrefixOf (c :: rest) then some ([], (c :: rest).drop word.length)
      else (splitAtWord word rest).map fun (before, after) => (c :: before, after)

/-- The set asked for by the text between braces, and whether the text negates it. -/
def queryOf (text : List Char) : PropertyQuery × Bool :=
  let valued (parts : List Char × List Char) : PropertyQuery :=
    .valued (String.ofList parts.1) (String.ofList parts.2)
  match splitAtWord ['!', '='] text with
  | some parts => (valued parts, true)
  | none =>
    match (splitAtWord [':'] text).or (splitAtWord ['='] text) with
    | some parts => (valued parts, false)
    | none => (.named (String.ofList text), false)

/-- Read a class by name whose letter, `p` or `P`, is next. -/
def propertyEscape : Reading (PropertyQuery × Bool) := do
  let negated := (← peek) = some 'P'
  let c ← advance unfinishedEscape
  if c = '{' then
    bumpSpace
    let text ← takeWhile (· ≠ '}') (← fuel)
    let _ ← current unfinishedEscape
    bump
    let (query, unequal) := queryOf text
    return (query, negated != unequal)
  else if c = '\\' then fail .invalidQuery (← nextStretch)
  else
    bumpSpace
    return (.named (String.singleton c), negated)

/-- Characters that have a meaning of their own in expressions. -/
def isMeta (c : Char) : Bool := "\\.+*?()|[]{}^$#&-~".toList.contains c

/-- Characters that stand for themselves behind a backslash. -/
def isEscapable (c : Char) : Bool :=
  isMeta c || (c.toNat < 128 && !c.isAlphanum && c ≠ '<' && c ≠ '>')

/-- What an escape stands for. -/
inductive Escape where
  | literal (literal : Literal)
  | property (stretch : Stretch) (query : PropertyQuery) (negated : Bool)
  | letter (stretch : Stretch) (kind : LetterClass) (negated : Bool)
  | boundary (stretch : Stretch) (kind : Boundary)

/-- The text of an escape. -/
def Escape.stretch : Escape → Stretch
  | literal l => l.stretch
  | property stretch .. => stretch
  | letter stretch .. => stretch
  | boundary stretch _ => stretch

/-- The control character that a letter stands for behind a backslash. -/
def controlOf? (c : Char) : Option Char :=
  if c = 'a' then some '\x07'
  else if c = 'f' then some '\x0c'
  else if c = 't' then some '\t'
  else if c = 'n' then some '\n'
  else if c = 'r' then some '\r'
  else if c = 'v' then some '\x0b'
  else none

/-- The letters of the names of word boundaries. -/
def isBoundaryLetter (c : Char) : Bool :=
  ('a' ≤ c && c ≤ 'z') || ('A' ≤ c && c ≤ 'Z') || c = '-'

/-- The word boundary with a given name. -/
def boundaryOf? (name : List Char) : Option Boundary :=
  if name = "start".toList then some .wordStart
  else if name = "end".toList then some .wordEnd
  else if name = "start-half".toList then some .wordStartHalf
  else if name = "end-half".toList then some .wordEndHalf
  else none

/-- Read the name in braces behind a word boundary, if there is one. A brace that
does not start with a letter belongs to a repetition. The boundary starts at a given
place. -/
def boundaryName (start : Place) : Reading Boundary := do
  if (← peek) ≠ some '{' then return .word
  let before ← get
  let c ← advance (do fail .unfinishedBoundary (← since start))
  let nameStart ← here
  if !isBoundaryLetter c then
    set before
    return .word
  let name ← takeWhile isBoundaryLetter (← fuel)
  if (← peek) ≠ some '}' then fail .unclosedBoundary (← since before.place)
  let nameStretch ← since nameStart
  bump
  match boundaryOf? name with
  | some boundary => return boundary
  | none => fail .unknownBoundary nameStretch

/-- The class that a letter stands for behind a backslash, and whether it is negated. -/
def letterClassOf? (c : Char) : Option (LetterClass × Bool) :=
  if c = 'd' then some (.digit, false)
  else if c = 'D' then some (.digit, true)
  else if c = 's' then some (.space, false)
  else if c = 'S' then some (.space, true)
  else if c = 'w' then some (.word, false)
  else if c = 'W' then some (.word, true)
  else none

/-- Read an escape whose backslash is next. -/
def escape : Reading Escape := do
  let start ← here
  bump
  let c ← current (do fail .unfinishedEscape (← since start))
  if isDecimal c then fail .backreference ⟨start, (← nextStretch).last⟩
  if c = 'x' ∨ c = 'u' ∨ c = 'U' then return .literal (← hexEscape start)
  if c = 'p' ∨ c = 'P' then
    let (query, negated) ← propertyEscape
    return .property (← since start) query negated
  bump
  let stretch ← since start
  if let some (kind, negated) := letterClassOf? c then return .letter stretch kind negated
  if isEscapable c then return .literal ⟨c, false, stretch⟩
  if let some control := controlOf? c then return .literal ⟨control, false, stretch⟩
  if c = 'A' then return .boundary stretch .textStart
  if c = 'z' then return .boundary stretch .textEnd
  if c = 'b' then
    let kind ← boundaryName start
    return .boundary (← since start) kind
  if c = 'B' then return .boundary stretch .notWord
  if c = '<' then return .boundary stretch .wordStart
  if c = '>' then return .boundary stretch .wordEnd
  fail .unknownEscape stretch

/-- One end of a range or a set on its own within a class, which starts with a given
character. -/
def classItem (c : Char) : Reading Escape := do
  if c = '\\' then escape
  else
    let stretch ← nextStretch
    bump
    return .literal ⟨c, false, stretch⟩

/-- The set of an item of a class; places between characters are none. -/
def Escape.toSet : Escape → Reading ClassSet
  | literal l => return .literal l
  | property stretch query negated => return .property stretch query negated
  | letter stretch kind negated => return .letter stretch kind negated
  | boundary stretch _ => fail .boundaryInClass stretch

/-- The character of an item that is an end of a range. -/
def Escape.toLiteral : Escape → Reading Literal
  | literal l => return l
  | other => fail .classInRange other.stretch

/-- The next character after the current one that is not to be ignored. -/
def peekSpace : Reading (Option Char) := do
  let cursor ← get
  let rest := cursor.rest.drop 1
  if cursor.ignoreSpace then
    match rest.dropWhile isBlank with
    | '#' :: rest => return (rest.dropWhile isBlank).head?
    | rest => return rest.head?
  else return rest.head?

/-- Read a set or a range of a class that starts with a given character. The opening of
the class is given too. -/
def classRange (opened : Stretch) (c : Char) : Reading ClassSet := do
  let unclosed : Reading Char := fail .unclosedClass opened
  let first ← classItem c
  skipSpace
  let c ← current unclosed
  let next ← peekSpace
  if c ≠ '-' ∨ next = some ']' ∨ next = some '-' then first.toSet
  else
    let last ← classItem (← advance unclosed)
    let first ← first.toLiteral
    let last ← last.toLiteral
    if last.char < first.char then fail .reversedRange (first.stretch.spanning last.stretch)
    return .range first last

/-- The names of the classes that are written between colons. -/
def asciiNames : List String :=
  ["alnum", "alpha", "ascii", "blank", "cntrl", "digit", "graph", "lower", "print", "punct",
    "space", "upper", "word", "xdigit"]

/-- The name of the class between colons that a text starts with, whether it is negated,
and how many characters write it. -/
def asciiClass? (text : List Char) : Option (String × Bool × Nat) :=
  match text with
  | '[' :: ':' :: rest =>
      let (negated, rest) := match rest with
        | '^' :: more => (true, more)
        | _ => (false, rest)
      let name := rest.takeWhile (· ≠ ':')
      match rest.dropWhile (· ≠ ':') with
      | ':' :: ']' :: _ =>
          if asciiNames.contains (String.ofList name) then
            some (String.ofList name, negated, name.length + (if negated then 5 else 4))
          else none
      | _ => none
  | _ => none

/-- The operation written by two equal characters at the front of a text. -/
def operation? (text : List Char) : Option SetOperation :=
  match text with
  | '&' :: '&' :: _ => some .intersection
  | '-' :: '-' :: _ => some .difference
  | '~' :: '~' :: _ => some .symmetricDifference
  | _ => none

/-- Finish an operation whose right side has been read. -/
def joinPending (pending : Option (SetOperation × ClassSet)) (right : ClassSet) : ClassSet :=
  match pending with
  | some (kind, left) => .operation (left.stretch.spanning right.stretch) kind left right
  | none => right

/-- Read the hyphens at the front of a class; they stand for themselves. -/
def leadingHyphens (start : Place) : Nat → Reading (List ClassSet)
  | 0 => return []
  | fuel + 1 => do
    if (← peek) = some '-' then
      let stretch ← nextStretch
      let _ ← advance (fail .unclosedClass ⟨start, start⟩)
      return .literal ⟨'-', false, stretch⟩ :: (← leadingHyphens start fuel)
    else return []

/-- The opening of a class. -/
structure ClassOpening where
  stretch : Stretch
  negated : Bool
  /-- The place of the first set. -/
  point : Stretch
  /-- The sets that belong to the opening. -/
  sets : List ClassSet

/-- Read the opening of a class whose bracket is next. A closing bracket that comes
first stands for itself. -/
def classOpening : Reading ClassOpening := do
  let start ← here
  let unclosed : Reading Char := do fail .unclosedClass (← since start)
  let c ← advance unclosed
  let negated := c = '^'
  if negated then
    let _ ← advance unclosed
  let setsStart ← point
  let hyphens ← leadingHyphens start (← Reading.fuel)
  let sets ← if hyphens.isEmpty && (← peek) = some ']' then do
      let stretch ← nextStretch
      let _ ← advance unclosed
      pure [ClassSet.literal ⟨']', false, stretch⟩]
    else pure hyphens
  return ⟨← since start, negated, setsStart, sets⟩

mutual

/-- Read a class whose bracket is next. -/
def bracket : Nat → Reading (Stretch × Bool × ClassSet)
  | 0 => do fail .unclosedClass (← point)
  | fuel + 1 => do
    let opening ← classOpening
    let set ← classSets fuel opening.stretch none opening.point opening.sets.reverse
    return (← since opening.stretch.first, opening.negated, set)

/-- Read the sets of a class up to its closing bracket. The opening of the class, the
operation that waits for its right side, the place where this side starts and the sets
of it that have been read, the last one first, are given. -/
def classSets : Nat → Stretch → Option (SetOperation × ClassSet) → Stretch → List ClassSet →
    Reading ClassSet
  | 0, opened, _, _, _ => fail .unclosedClass opened
  | fuel + 1, opened, pending, start, sets => do
    skipSpace
    let cursor ← get
    let c ← current (fail .unclosedClass opened)
    if c = '[' then
      match asciiClass? cursor.rest with
      | some (name, negated, length) =>
          bumpTimes length
          let set := .ascii (← since cursor.place) name negated
          classSets fuel opened pending start (set :: sets)
      | none =>
          let (stretch, negated, set) ← bracket fuel
          classSets fuel opened pending start (.bracketed stretch negated set :: sets)
    else if c = ']' then
      bump
      return joinPending pending (ClassSet.ofItems start sets.reverse)
    else
      match operation? cursor.rest with
      | some kind =>
          bumpTimes 2
          let left := joinPending pending (ClassSet.ofItems start sets.reverse)
          classSets fuel opened (some (kind, left)) (← point) []
      | none => do
          let set ← classRange opened c
          classSets fuel opened pending start (set :: sets)

end

/-- The flag with a given letter. -/
def flagOf? (c : Char) : Option Flag :=
  if c = 'i' then some .ignoreCase
  else if c = 'm' then some .multiLine
  else if c = 's' then some .dotAll
  else if c = 'U' then some .swapGreed
  else if c = 'u' then some .unicode
  else if c = 'R' then some .carriageReturn
  else if c = 'x' then some .ignoreSpace
  else none

/-- The flags read so far. -/
structure FlagsRead where
  changes : List (Flag × Bool × Stretch)
  /-- The hyphen that has been read. -/
  hyphen : Option Stretch
  /-- No flag has been read since the hyphen. -/
  dangling : Bool

/-- Read flags up to a colon or a closing parenthesis; what follows a hyphen is
switched off. No flag comes twice, and a hyphen is followed by a flag. -/
def flags : Nat → FlagsRead → Reading FlagChanges
  | 0, _ => do fail .missingFlag (← point)
  | fuel + 1, read => do
    let c ← current (do fail .missingFlag (← point))
    let stretch ← nextStretch
    if c = ':' ∨ c = ')' then
      match read.hyphen with
      | some hyphen => if read.dangling then fail .danglingHyphen hyphen
      | none => pure ()
      return read.changes.map fun (flag, state, _) => (flag, state)
    else if c = '-' then
      match read.hyphen with
      | some earlier => fail (.repeatedHyphen earlier) stretch
      | none =>
          bump
          flags fuel { read with hyphen := some stretch, dangling := true }
    else
      match flagOf? c with
      | none => fail .unknownFlag stretch
      | some flag =>
          match read.changes.find? fun change => change.1 = flag with
          | some (_, _, earlier) => fail (.repeatedFlag earlier) stretch
          | none =>
              bump
              let change := (flag, read.hyphen.isNone, stretch)
              flags fuel { read with changes := read.changes ++ [change], dangling := false }

/-- A character may stand in the name of a group. -/
def isNameChar (first : Bool) (c : Char) : Bool :=
  c = '_' || Unicode.letters.contains c.toNat ||
    (!first && (c = '.' || c = '[' || c = ']' || Unicode.numerals.contains c.toNat))

/-- Read the characters of a name up to its closing angle. -/
def nameChars (first : Bool) : Nat → Reading (List Char)
  | 0 => return []
  | fuel + 1 => do
    match ← peek with
    | none => return []
    | some c =>
        if c = '>' then return []
        if !isNameChar first c then fail .invalidName (← nextStretch)
        bump
        return c :: (← nameChars false fuel)

/-- Read the name of a group and its closing angle. No two groups share a name. -/
def groupName : Reading Unit := do
  let start ← here
  let name ← nameChars true (← fuel)
  let stretch ← since start
  let _ ← current (do fail .unclosedName (← point))
  bump
  if name.isEmpty then fail .emptyName stretch
  let name := String.ofList name
  match (← get).names.find? fun entry => entry.1 = name with
  | some (_, earlier) => fail (.repeatedName earlier) stretch
  | none => modify fun cursor => { cursor with names := (name, stretch) :: cursor.names }

/-- The opening of a group, or flags that stand alone. -/
inductive Opening where
  | group (changes : FlagChanges) (captures : Bool)
  | flags (changes : FlagChanges)

/-- Read what stands between an opening parenthesis, which is next, and the inside of
its group. -/
def opening : Reading Opening := do
  let parenthesis ← nextStretch
  bumpSpace
  let inner ← point
  if ← bumpAny ["?=", "?!", "?<=", "?<!"] then fail .lookAround (← since parenthesis.first)
  if ← bumpAny ["?P<", "?<"] then
    groupName
    return .group [] true
  if ← bumpAny ["?"] then
    let _ ← current (fail .unclosedGroup parenthesis)
    let changes ← flags (← fuel) ⟨[], none, false⟩
    let close ← peek
    bump
    if close = some ')' then
      if changes.isEmpty then fail .missingOperand inner
      return .flags changes
    else return .group changes false
  return .group [] true

/-- An expression that can be repeated; flags and the empty expression cannot. -/
def repeatable : List Ast → Reading (Ast × List Ast)
  | .empty _ :: _ => do fail .missingOperand (← point)
  | .flags .. :: _ => do fail .missingOperand (← point)
  | ast :: others => return (ast, others)
  | [] => do fail .missingOperand (← point)

/-- The bounds of the repetition that a character writes. -/
def simpleBounds? (c : Char) : Option (Nat × Option Nat) :=
  if c = '?' then some (0, some 1)
  else if c = '*' then some (0, none)
  else if c = '+' then some (1, none)
  else none

/-- Read a character on its own or an escape. -/
def primitive (c : Char) : Reading Ast := do
  if c = '\\' then
    match ← escape with
    | .literal l => return .literal l
    | .property stretch query negated => return .property stretch query negated
    | .letter stretch kind negated => return .letter stretch kind negated
    | .boundary stretch kind => return .boundary stretch kind
  else
    let stretch ← nextStretch
    bump
    if c = '.' then return .dot stretch
    else if c = '^' then return .boundary stretch .lineStart
    else if c = '$' then return .boundary stretch .lineEnd
    else return .literal ⟨c, false, stretch⟩

/-- Set whether blanks and comments are to be ignored. -/
def setIgnoreSpace (ignoreSpace : Bool) : Reading Unit :=
  modify fun cursor => { cursor with ignoreSpace }

mutual

/-- Read alternatives up to the end of the group or of the text. -/
def alternatives : Nat → Reading Ast
  | 0 => do fail .unclosedGroup (← point)
  | fuel + 1 => do
    let start ← here
    let first ← branch fuel
    let others ← moreAlternatives fuel
    return Ast.ofBranches (← since start) (first :: others)

/-- Read the alternatives after the first one. -/
def moreAlternatives : Nat → Reading (List Ast)
  | 0 => do fail .unclosedGroup (← point)
  | fuel + 1 => do
    if (← peek) = some '|' then
      bump
      let next ← branch fuel
      let others ← moreAlternatives fuel
      return next :: others
    else return []

/-- Read one alternative. -/
def branch : Nat → Reading Ast
  | 0 => do fail .unclosedGroup (← point)
  | fuel + 1 => do
    let start ← here
    let found ← parts fuel []
    return Ast.ofParts (← since start) found.reverse

/-- Read the parts of one alternative. The parts read so far are given, the last one first. -/
def parts : Nat → List Ast → Reading (List Ast)
  | 0, _ => do fail .unclosedGroup (← point)
  | fuel + 1, found => do
    skipSpace
    match ← peek with
    | none => return found
    | some c =>
      if c = ')' ∨ c = '|' then return found
      else if c = '(' then do
        let parenthesis ← nextStretch
        match ← opening with
        | .flags changes =>
            let outer := (← get).ignoreSpace
            setIgnoreSpace ((changes.state? .ignoreSpace).getD outer)
            parts fuel (.flags (← since parenthesis.first) changes :: found)
        | .group changes captures =>
            let outer := (← get).ignoreSpace
            setIgnoreSpace ((changes.state? .ignoreSpace).getD outer)
            let inner ← alternatives fuel
            let _ ← current (fail .unclosedGroup parenthesis)
            setIgnoreSpace outer
            bump
            parts fuel (.group (← since parenthesis.first) changes captures inner :: found)
      else if c = '[' then do
        let (stretch, negated, set) ← bracket (← Reading.fuel)
        parts fuel (.bracketed stretch negated set :: found)
      else if c = '{' then do
        let (inner, others) ← repeatable found
        let (least, greatest, isLazy) ← bounds
        let stretch ← since inner.stretch.first
        parts fuel (.repetition stretch inner least greatest isLazy :: others)
      else
        match simpleBounds? c with
        | some (least, greatest) => do
            let (inner, others) ← repeatable found
            bump
            let isLazy ← lazyMark
            let stretch ← since inner.stretch.first
            parts fuel (.repetition stretch inner least greatest isLazy :: others)
        | none => do
            let part ← primitive c
            parts fuel (part :: found)

end

/-- Read a whole text. -/
def whole (fuel : Nat) : Reading Ast := do
  let ast ← alternatives fuel
  if (← peek).isSome then fail .unopenedGroup (← nextStretch)
  return ast

/-- Read a whole text as an expression that is nested at most to a given depth. -/
def parse (ignoreSpace : Bool) (depthLimit : Nat) (text : List Char) : Except Fault Ast := do
  let ast ← (whole (3 * text.length + 4)).run' ⟨text.length, text, .start, ignoreSpace, []⟩
  match ast.tooDeep? depthLimit with
  | some stretch => .error ⟨.tooDeep depthLimit, stretch⟩
  | none => .ok ast

end TypedStore.Regex
