import TypedStore.Pattern.Regex.Fault
import TypedStore.Pattern.Regex.Form

/-!
# Meaning of regular expressions

An expression becomes its reduced form. Flags that stand alone hold from their
place to the end of the group, across alternatives. Where Unicode is switched off
the classes are those of ASCII, and whatever could match half a character is
refused.
-/

namespace TypedStore.Regex

open Unicode (Ranges)

/-- The state of the flags that matter for matching. -/
structure Modes where
  ignoreCase : Bool
  multiLine : Bool
  dotAll : Bool
  swapGreed : Bool
  unicode : Bool
  carriageReturn : Bool
deriving DecidableEq, Repr

namespace Modes

/-- The state after some changes. -/
def change (modes : Modes) (changes : FlagChanges) : Modes where
  ignoreCase := (changes.state? .ignoreCase).getD modes.ignoreCase
  multiLine := (changes.state? .multiLine).getD modes.multiLine
  dotAll := (changes.state? .dotAll).getD modes.dotAll
  swapGreed := (changes.state? .swapGreed).getD modes.swapGreed
  unicode := (changes.state? .unicode).getD modes.unicode
  carriageReturn := (changes.state? .carriageReturn).getD modes.carriageReturn

/-- The letters of ASCII that differ in case only from one of a set. -/
def otherLetters (codes : Ranges) : Ranges :=
  let upper := (codes.intersection (asciiCodes "upper")).all
  let lower := (codes.intersection (asciiCodes "lower")).all
  Ranges.ofList (upper.map (fun range => (range.1 + 32, range.2 + 32)) ++
    lower.map fun range => (range.1 - 32, range.2 - 32))

/-- A set with the characters that differ in case only from one of its members, where
case is ignored. -/
def close (modes : Modes) (codes : Ranges) : Ranges :=
  if !modes.ignoreCase then codes
  else if modes.unicode then codes.closed
  else codes.union (otherLetters codes)

/-- A set or its complement. Without Unicode no complement is within ASCII. The text of
the set is given. -/
def negate (modes : Modes) (stretch : Stretch) (negated : Bool) (codes : Ranges) :
    Except Fault Ranges :=
  if !negated then .ok codes
  else if modes.unicode then .ok codes.complement
  else .error ⟨.invalidBytes, stretch⟩

/-- One character of a set. -/
def formOf (modes : Modes) (codes : Ranges) : Form := Form.ofCodes (!modes.unicode) codes

/-- A boundary under the flags. -/
def assertion (modes : Modes) (kind : Boundary) : Assertion :=
  Assertion.ofBoundary modes.multiLine modes.carriageReturn modes.unicode kind

/-- The characters that a dot leaves out. -/
def lineEnds (modes : Modes) : Ranges :=
  if modes.dotAll then Ranges.empty
  else if modes.carriageReturn then ⟨[(10, 10), (13, 13)]⟩
  else Ranges.span 10 10

end Modes

/-- Two sets joined by an operation. -/
def SetOperation.join (kind : SetOperation) (a b : Ranges) : Ranges :=
  match kind with
  | intersection => a.intersection b
  | difference => a.difference b
  | symmetricDifference => a.symmetricDifference b

/-- The set that is asked for. -/
def PropertyQuery.codes : PropertyQuery → Except Unicode.QueryFault Ranges
  | named name => Unicode.find name
  | valued property value => Unicode.findValue property value

/-- What is wrong with a name that has no set. -/
def flawOf : Unicode.QueryFault → Flaw
  | .unknownProperty => .unknownProperty
  | .unknownValue => .unknownValue

/-- The characters asked for by name in some text. -/
def queryCodes (modes : Modes) (stretch : Stretch) (query : PropertyQuery) (negated : Bool) :
    Except Fault Ranges :=
  if !modes.unicode then .error ⟨.noUnicode, stretch⟩
  else do
    let codes ← query.codes.mapError fun fault => ⟨flawOf fault, stretch⟩
    modes.negate stretch negated (modes.close codes)

/-- A literal is no byte outside ASCII, which would be no character. -/
def checkByte (modes : Modes) (literal : Literal) : Except Fault Unit :=
  if !modes.unicode && literal.asByte && 128 ≤ literal.char.toNat then
    .error ⟨.invalidBytes, literal.stretch⟩
  else .ok ()

/-- The number of a literal that stands in a class: without Unicode it is within ASCII. -/
def classCode (modes : Modes) (literal : Literal) : Except Fault Nat := do
  checkByte modes literal
  let code := literal.char.toNat
  if modes.unicode || code < 128 then return code
  else throw ⟨.noUnicode, literal.stretch⟩

mutual

/-- The characters of a set within a class. -/
def setCodes (modes : Modes) : ClassSet → Except Fault Ranges
  | .empty _ => .ok Ranges.empty
  | .literal l => do
      let code ← classCode modes l
      return Ranges.span code code
  | .range first last => do
      let first ← classCode modes first
      let last ← classCode modes last
      return Ranges.span first last
  | .ascii stretch name negated => modes.negate stretch negated (modes.close (asciiCodes name))
  | .letter stretch kind negated => modes.negate stretch negated (kind.codes modes.unicode)
  | .property stretch query negated => queryCodes modes stretch query negated
  | .union _ sets => do
      let ranges ← rangesOf modes sets
      return Ranges.ofList ranges
  | .bracketed stretch negated set => do
      let inner ← setCodes modes set
      modes.negate stretch negated (modes.close inner)
  | .operation _ kind left right => do
      let left ← setCodes modes left
      let right ← setCodes modes right
      return kind.join (modes.close left) (modes.close right)

/-- The ranges of some sets. -/
def rangesOf (modes : Modes) : List ClassSet → Except Fault (List (Nat × Nat))
  | [] => .ok []
  | set :: rest => do
      let first ← setCodes modes set
      let others ← rangesOf modes rest
      return first.all ++ others

end

/-- The form of a single character. -/
def literalForm (modes : Modes) (literal : Literal) : Except Fault Form := do
  checkByte modes literal
  let code := literal.char.toNat
  if modes.ignoreCase && (modes.unicode || code < 128) then
    return modes.formOf (modes.close (Ranges.span code code))
  else return .literal [literal.char]

mutual

/-- The form of an expression, and the state of the flags behind it. -/
def formOf (modes : Modes) : Ast → Except Fault (Form × Modes)
  | .empty _ => .ok (.empty, modes)
  | .flags _ changes => .ok (.empty, modes.change changes)
  | .literal l => do return (← literalForm modes l, modes)
  | .dot stretch =>
      if modes.unicode then .ok (modes.formOf modes.lineEnds.complement, modes)
      else .error ⟨.invalidBytes, stretch⟩
  | .boundary _ kind => .ok (.assertion (modes.assertion kind), modes)
  | .letter stretch kind negated => do
      let codes ← modes.negate stretch negated (kind.codes modes.unicode)
      return (modes.formOf codes, modes)
  | .property stretch query negated => do
      let codes ← queryCodes modes stretch query negated
      return (modes.formOf codes, modes)
  | .bracketed stretch negated set => do
      let inner ← setCodes modes set
      let codes ← modes.negate stretch negated (modes.close inner)
      return (modes.formOf codes, modes)
  | .repetition _ inner least greatest isLazy => do
      let (form, _) ← formOf modes inner
      return (Form.ofRounds form least greatest (isLazy != modes.swapGreed), modes)
  | .group _ changes captures inner => do
      let (form, _) ← formOf (modes.change changes) inner
      return (if captures then .capture form else form, modes)
  | .alternation _ branches => do
      let (forms, after) ← formsOf modes branches
      return (Form.ofBranches forms, after)
  | .concatenation _ parts => do
      let (forms, after) ← formsOf modes parts
      return (Form.ofParts forms, after)

/-- The forms of some expressions, each read with the flags that the one before it leaves. -/
def formsOf (modes : Modes) : List Ast → Except Fault (List Form × Modes)
  | [] => .ok ([], modes)
  | ast :: rest => do
      let (form, after) ← formOf modes ast
      let (forms, last) ← formsOf after rest
      return (form :: forms, last)

end

end TypedStore.Regex
