import TypedStore.Settings.Basic
import TypedStore.Settings.Error
import TypedStore.Settings.Skip

/-!
# Reading settings

Settings are written as a JSON object, whose members may come in any order and with
unknown ones between them, or as a list of up to three values. A choice is written
as its name, or as an object of one member with the name and the content of the
choice.
-/

namespace TypedStore

/-- A reader of a part of the text of settings. -/
abbrev SettingsReader (α : Type) := List Char → Except SettingsError (α × List Char)

namespace SettingsReader

/-- A fault of the text. -/
def fault {α : Type} (e : ReadError) : Except SettingsError α := .error (.text e)

/-- What a step of the text reader gives, its faults being faults of the text. -/
def lift {α : Type} (result : Except ReadError α) : Except SettingsError α :=
  result.mapError SettingsError.text

/-- The fault of a value of the wrong kind at the front of a text that does not
start with a blank. Scalars are read first, and their own faults count more. -/
def wrongKind {α : Type} (expected : Expectation) (text : List Char) : Except SettingsError α :=
  match text with
  | [] => fault .expectedValue
  | c :: rest =>
      let found (finding : Finding) : Except SettingsError α := .error (.wrongKind finding expected)
      if c = 'n' then (lift (Reader.word "ull".toList rest)).bind fun _ => found .null
      else if c = 't' then (lift (Reader.word "rue".toList rest)).bind fun _ => found (.bool true)
      else if c = 'f' then (lift (Reader.word "alse".toList rest)).bind fun _ => found (.bool false)
      else if c = '-' then (lift (Reader.number true rest)).bind fun r => found (.number r.1)
      else if c.isDigit then
        (lift (Reader.number false (c :: rest))).bind fun r => found (.number r.1)
      else if c = '"' then
        (lift (Quoted.read rest)).bind fun r => found (.string (String.ofList r.1))
      else if c = '[' then found .list
      else if c = '{' then found .object
      else fault .expectedValue

/-- Read the name of a choice whose opening quote has been read, given the choices
that there are. -/
def choiceName {α : Type} (choices : List (String × α)) : SettingsReader α := fun text => do
  let (chars, after) ← lift (Quoted.read text)
  let name := String.ofList chars
  match choices.find? fun choice => choice.1 = name with
  | some (_, choice) => return (choice, after)
  | none => throw (.unknownChoice name (choices.map Prod.fst))

/-- Read the null that is the content of a choice without content. -/
def nothing : SettingsReader Unit := fun text =>
  match Reader.skipBlanks text with
  | [] => fault .endOfValue
  | 'n' :: rest => do
      let after ← lift (Reader.word "ull".toList rest)
      return ((), after)
  | rest => wrongKind .nothing rest

/-- Read a natural number below 2⁶⁴. -/
def count : SettingsReader Nat := fun text =>
  match Reader.skipBlanks text with
  | [] => fault .endOfValue
  | c :: rest =>
      if c = '-' ∨ c.isDigit then do
        let (number, after) ←
          lift (if c = '-' then Reader.number true rest else Reader.number false (c :: rest))
        match number with
        | .int i _ _ =>
            if 0 ≤ i then return (i.toNat, after)
            else throw (.wrongValue (.number number) .count)
        | .double .. => throw (.wrongKind (.number number) .count)
      else wrongKind .count (c :: rest)

/-- Read the only member of the object that is a choice, given the choices that there
are and how the content of a choice is read. Its opening brace has been read. -/
def choiceMember {α β : Type} (choices : List (String × α)) (content : α → SettingsReader β) :
    SettingsReader β := fun text =>
  match Reader.skipBlanks text with
  | [] => fault .endOfObject
  | '"' :: rest => do
      let (name, after) ← choiceName choices rest
      let after ← lift (Reader.colon after)
      let (value, after) ← content name after
      match Reader.skipBlanks after with
      | '}' :: after => return (value, after)
      | [] => fault .endOfObject
      | _ => fault .expectedValue
  | '}' :: _ => fault .expectedValue
  | _ => fault .nameNotString

/-- Read a choice, given the choices that there are, what a bare name stands for and
how the content of a choice is read. -/
def choice {α β : Type} (choices : List (String × α)) (bare : α → Except SettingsError β)
    (content : α → SettingsReader β) : SettingsReader β := fun text =>
  match Reader.skipBlanks text with
  | [] => fault .endOfValue
  | '{' :: rest => choiceMember choices content rest
  | '"' :: rest => do
      let (name, after) ← choiceName choices rest
      return (← bare name, after)
  | _ => fault .expectedValue

/-- Read a choice without contents. -/
def plainChoice {α : Type} (choices : List (String × α)) : SettingsReader α :=
  choice choices Except.ok fun value text => do
    let (_, after) ← nothing text
    return (value, after)

/-- The forms of a scheduling. -/
inductive SchedulingForm where
  | sequential
  | bounded

/-- Read a scheduling. -/
def scheduling : SettingsReader Scheduling :=
  choice [("sequential", SchedulingForm.sequential), ("bounded", .bounded)]
    (fun form => match form with
      | .sequential => .ok .sequential
      | .bounded => .error (.wrongKind .bareName .choiceWithContent))
    (fun form text => match form with
      | .sequential => (nothing text).map fun r => (.sequential, r.2)
      | .bounded => (count text).map fun r => (.bounded r.1, r.2))

/-- Read a policy for indexes. -/
def freshness : SettingsReader Freshness :=
  plainChoice ([Freshness.generation, .never].map fun policy => (policy.word, policy))

/-- Read a severity. -/
def severity : SettingsReader Severity :=
  plainChoice (Severity.all.map fun severity => (severity.word, severity))

/-- The settings found so far. -/
structure Found where
  scheduling : Option Scheduling
  freshness : Option Freshness
  least : Option Severity

/-- The settings, with what was not found as it is where none is given. -/
def Found.settings (found : Found) : Settings where
  scheduling := found.scheduling.getD Settings.standard.scheduling
  freshness := found.freshness.getD Settings.standard.freshness
  least := found.least.getD Settings.standard.least

/-- Read the colon behind a name and the value after it. -/
def afterColon {α : Type} (reader : SettingsReader α) : SettingsReader α := fun text =>
  (lift (Reader.colon text)).bind reader

/-- Read the value behind the name of a member. A name that was there before is a
fault, and a value whose name means nothing is passed over. -/
def member (found : Found) (name : String) : SettingsReader Found := fun text =>
  if name = Settings.schedulingName then
    if found.scheduling.isSome then .error (.repeatedName name)
    else (afterColon scheduling text).map fun (value, after) =>
      ({ found with scheduling := some value }, after)
  else if name = Settings.freshnessName then
    if found.freshness.isSome then .error (.repeatedName name)
    else (afterColon freshness text).map fun (value, after) =>
      ({ found with freshness := some value }, after)
  else if name = Settings.leastName then
    if found.least.isSome then .error (.repeatedName name)
    else (afterColon severity text).map fun (value, after) =>
      ({ found with least := some value }, after)
  else do
    let after ← lift (Reader.colon text)
    let after ← lift (Skip.value (after.length + 1) after)
    return (found, after)

/-- Read the members of an object up to its closing brace; `first` says that none has been read. -/
def members : Nat → Bool → Found → SettingsReader Found
  | 0, _, _ => fun _ => fault .endOfObject
  | fuel + 1, first, found => fun text =>
    let named (text : List Char) : Except SettingsError (Found × List Char) := do
      let (chars, after) ← lift (Quoted.read text)
      let (found, after) ← member found (String.ofList chars) after
      members fuel false found after
    match Reader.skipBlanks text with
    | [] => fault .endOfObject
    | '}' :: after => .ok (found, after)
    | c :: rest =>
        if first then
          if c = '"' then named rest else fault .nameNotString
        else if c = ',' then
          match Reader.skipBlanks rest with
          | '"' :: rest => named rest
          | '}' :: _ => fault .trailingComma
          | [] => fault .endOfValue
          | _ => fault .nameNotString
        else fault .expectedMemberSeparator

/-- Read the next item of a list, if there is one; `first` says that none has been read. -/
def item {α : Type} (first : Bool) (reader : SettingsReader α) : SettingsReader (Option α) :=
  fun text =>
    match Reader.skipBlanks text with
    | [] => fault .endOfList
    | ']' :: rest => .ok (none, ']' :: rest)
    | c :: rest =>
        let read (text : List Char) : Except SettingsError (Option α × List Char) :=
          (reader text).map fun (value, after) => (some value, after)
        if first then read (c :: rest)
        else if c = ',' then
          match Reader.skipBlanks rest with
          | [] => fault .endOfValue
          | ']' :: _ => fault .trailingComma
          | rest => read rest
        else fault .expectedListSeparator

/-- Read the end of a list. -/
def endOfList (text : List Char) : Except SettingsError (List Char) :=
  match Reader.skipBlanks text with
  | [] => fault .endOfList
  | ']' :: after => .ok after
  | ',' :: rest =>
      match Reader.skipBlanks rest with
      | ']' :: _ => fault .trailingComma
      | _ => fault .trailingCharacters
  | _ => fault .trailingCharacters

/-- Read the settings of a list whose bracket has been read. After the end of the
list no item is found any more. -/
def items : SettingsReader Found := fun text => do
  let (scheduling, after) ← item true scheduling text
  let (freshness, after) ← item scheduling.isNone freshness after
  let (least, after) ← item freshness.isNone severity after
  let after ← endOfList after
  return (⟨scheduling, freshness, least⟩, after)

end SettingsReader

/-- Read settings from a text. -/
def Settings.read (text : String) : Except SettingsError Settings := do
  let chars := text.toList
  let (found, after) ← match Reader.skipBlanks chars with
    | [] => SettingsReader.fault .endOfValue
    | '{' :: rest => SettingsReader.members (rest.length + 1) true ⟨none, none, none⟩ rest
    | '[' :: rest => SettingsReader.items rest
    | rest => SettingsReader.wrongKind .settings rest
  SettingsReader.lift (Reader.finish after)
  return found.settings

end TypedStore
