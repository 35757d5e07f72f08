import TypedStore.Pattern.Regex.Stretch
import TypedStore.Separated

/-!
# Faults of regular expressions

What is wrong with the text of an expression and where. The words for a fault show
the text with carets below the faulty stretch. The lines of a text of several lines
are numbered and stand between rulers.
-/

namespace TypedStore.Regex

/-- What is wrong with the text of an expression. -/
inductive Flaw where
  /-- A place between characters is no member of a class. -/
  | boundaryInClass
  | reversedRange
  /-- A class is no end of a range. -/
  | classInRange
  | unclosedClass
  | invalidCount
  | emptyCode
  | invalidCode
  | invalidDigit
  | unfinishedEscape
  | unknownEscape
  | danglingHyphen
  | repeatedHyphen (earlier : Stretch)
  | repeatedFlag (earlier : Stretch)
  | missingFlag
  | unknownFlag
  | repeatedName (earlier : Stretch)
  | emptyName
  | invalidName
  | unclosedName
  | unclosedGroup
  | unopenedGroup
  | tooDeep (limit : Nat)
  | reversedCounts
  | missingCount
  | unclosedCounts
  /-- There is nothing to repeat. -/
  | missingOperand
  | unclosedBoundary
  | unknownBoundary
  | unfinishedBoundary
  /-- A backslash is no name of a class. -/
  | invalidQuery
  | backreference
  | lookAround
  | noUnicode
  | invalidBytes
  | unknownProperty
  | unknownValue
deriving DecidableEq, Repr

/-- The words for what is wrong. -/
def Flaw.words : Flaw → String
  | boundaryInClass => "invalid escape sequence found in character class"
  | reversedRange => "invalid character class range, the start must be <= the end"
  | classInRange => "invalid range boundary, must be a literal"
  | unclosedClass => "unclosed character class"
  | invalidCount => "decimal literal invalid"
  | emptyCode => "hexadecimal literal empty"
  | invalidCode => "hexadecimal literal is not a Unicode scalar value"
  | invalidDigit => "invalid hexadecimal digit"
  | unfinishedEscape => "incomplete escape sequence, reached end of pattern prematurely"
  | unknownEscape => "unrecognized escape sequence"
  | danglingHyphen => "dangling flag negation operator"
  | repeatedHyphen _ => "flag negation operator repeated"
  | repeatedFlag _ => "duplicate flag"
  | missingFlag => "expected flag but got end of regex"
  | unknownFlag => "unrecognized flag"
  | repeatedName _ => "duplicate capture group name"
  | emptyName => "empty capture group name"
  | invalidName => "invalid capture group character"
  | unclosedName => "unclosed capture group name"
  | unclosedGroup => "unclosed group"
  | unopenedGroup => "unopened group"
  | tooDeep limit =>
      "exceed the maximum number of nested parentheses/brackets (" ++ toString limit ++ ")"
  | reversedCounts => "invalid repetition count range, the start must be <= the end"
  | missingCount => "repetition quantifier expects a valid decimal"
  | unclosedCounts => "unclosed counted repetition"
  | missingOperand => "repetition operator missing expression"
  | unclosedBoundary =>
      "special word boundary assertion is either unclosed or contains an invalid character"
  | unknownBoundary =>
      "unrecognized special word boundary assertion, " ++
        "valid choices are: start, end, start-half or end-half"
  | unfinishedBoundary =>
      "found either the beginning of a special word boundary or a bounded repetition on a " ++
        "\\b with an opening brace, but no closing brace"
  | invalidQuery => "invalid Unicode character class"
  | backreference => "backreferences are not supported"
  | lookAround => "look-around, including look-ahead and look-behind, is not supported"
  | noUnicode => "Unicode not allowed here"
  | invalidBytes => "pattern can match invalid UTF-8"
  | unknownProperty => "Unicode property not found"
  | unknownValue => "Unicode property value not found"

/-- The stretch that what is wrong repeats, if it does. -/
def Flaw.earlier? : Flaw → Option Stretch
  | repeatedHyphen earlier => some earlier
  | repeatedFlag earlier => some earlier
  | repeatedName earlier => some earlier
  | _ => none

/-- What is wrong, and where. -/
structure Fault where
  flaw : Flaw
  stretch : Stretch
deriving DecidableEq, Repr

namespace Fault

/-- The stretches of a fault in the order of the text. -/
def stretches (fault : Fault) : List Stretch :=
  match fault.flaw.earlier? with
  | none => [fault.stretch]
  | some earlier =>
      if earlier.isUpTo fault.stretch then [earlier, fault.stretch] else [fault.stretch, earlier]

/-- Carets below the stretches of one line, from a column on. -/
def carets (column : Nat) : List Stretch → List Char
  | [] => []
  | stretch :: rest =>
      let width := max 1 (stretch.last.column - stretch.first.column)
      List.replicate (stretch.first.column - column) ' ' ++ List.replicate width '^' ++
        carets (max column stretch.first.column + width) rest

/-- The lines of a text, without what ends them. -/
def linesOf (text : List Char) : List (List Char) :=
  let withoutReturn (line : List Char) : List Char :=
    if line.getLast? = some '\r' then line.dropLast else line
  match (Separated.split '\n' text).reverse with
  | [] => []
  | last :: others =>
      others.reverse.map withoutReturn ++ (if last.isEmpty then [] else [last])

/-- A number with blanks in front of it up to a width. -/
def padded (width number : Nat) : List Char :=
  let digits := Nat.toDigits 10 number
  List.replicate (width - digits.length) ' ' ++ digits

/-- Lines from a given number on, each behind its number, with carets below those that
hold stretches. Without a width there are blanks in place of the numbers. -/
def notes (width : Nat) (stretches : List Stretch) (number : Nat) :
    List (List Char) → List Char
  | [] => []
  | line :: rest =>
      let margin := if width = 0 then "    ".toList else padded width number ++ [':', ' ']
      let here := stretches.filter fun stretch => stretch.first.line = number
      let below :=
        if here.isEmpty then []
        else List.replicate margin.length ' ' ++ carets 1 here ++ ['\n']
      margin ++ line ++ ['\n'] ++ below ++ notes width stretches (number + 1) rest

/-- Where a stretch over several lines begins and ends. -/
def extent (stretch : Stretch) : String :=
  "on line " ++ toString stretch.first.line ++ " (column " ++ toString stretch.first.column ++
    ") through line " ++ toString stretch.last.line ++ " (column " ++
    toString (stretch.last.column - 1) ++ ")\n"

/-- The words for a fault of a text. -/
def message (fault : Fault) (text : List Char) : String :=
  let count := (Separated.split '\n' text).length
  let (short, long) := fault.stretches.partition Stretch.isOnOneLine
  let width := if count ≤ 1 then 0 else (Nat.toDigits 10 count).length
  let noted := String.ofList (notes width short 1 (linesOf text))
  let ruler := String.ofList (List.replicate 79 '~') ++ "\n"
  let shown :=
    if count ≤ 1 then noted
    else ruler ++ noted ++ ruler ++ String.join (long.map extent)
  "regex parse error:\n" ++ shown ++ "error: " ++ fault.flaw.words

end Fault

end TypedStore.Regex
