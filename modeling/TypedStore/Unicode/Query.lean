import TypedStore.Unicode.Age
import TypedStore.Unicode.Break
import TypedStore.Unicode.Category
import TypedStore.Unicode.Folding
import TypedStore.Unicode.Property
import TypedStore.Unicode.Script
import TypedStore.Unicode.ScriptExtension

/-!
# Sets of characters by name

Names of categories, scripts, properties and their values are compared in a normal
form, without case, blanks, underscores, hyphens and an `is` in front.
-/

namespace TypedStore.Unicode

/-- The normal form of a name, without what stands in front of it. -/
def squeeze (name : List Char) : List Char :=
  (name.filter fun c => c ≠ ' ' ∧ c ≠ '_' ∧ c ≠ '-' ∧ c.toNat < 128).map Char.toLower

/-- The normal form of a name. `isc` keeps its first two letters, which are no `is` in front. -/
def normalName (name : String) : String :=
  match name.toList with
  | first :: second :: rest =>
      if first.toLower = 'i' ∧ second.toLower = 's' then
        if squeeze rest = ['c'] then "isc" else String.ofList (squeeze rest)
      else String.ofList (squeeze (first :: second :: rest))
  | short => String.ofList (squeeze short)

/-- The categories that are unions of others, with their parts. -/
def categoryUnions : List (List String × List String) := [
  (["c", "other"], ["cc", "cf", "co"]),
  (["l", "letter"], ["lu", "ll", "lt", "lm", "lo"]),
  (["lc", "casedletter"], ["lu", "ll", "lt"]),
  (["m", "mark", "combiningmark"], ["mn", "mc", "me"]),
  (["n", "number"], ["nd", "nl", "no"]),
  (["p", "punctuation", "punct"], ["pc", "pd", "ps", "pe", "pi", "pf", "po"]),
  (["s", "symbol"], ["sm", "sc", "sk", "so"]),
  (["z", "separator"], ["zs", "zl", "zp"])]

/-- The names of all categories with a table. -/
def allCategories : List String := categories.filterMap fun table => table.1.head?

/-- All characters with a category. -/
def assigned : Ranges := Ranges.ofNames categories allCategories

/-- The characters of a category. -/
def category? (name : String) : Option Ranges :=
  if name = "any" then some (Ranges.span 0 Ranges.greatest)
  else if name = "ascii" then some (Ranges.span 0 127)
  else if name = "assigned" then some assigned
  else if name = "unassigned" ∨ name = "cn" then some assigned.outside
  else
    match categoryUnions.find? fun entry => entry.1.contains name with
    | some (_, parts) =>
        let part := Ranges.ofNames categories parts
        some (if name = "c" ∨ name = "other" then
          part.union (assigned.outside.union Ranges.surrogates) else part)
    | none => Ranges.named? categories name

/-- The characters of a script. -/
def script? (name : String) : Option Ranges := Ranges.named? scripts name

/-- The characters that are used with a script. -/
def scriptExtension? (name : String) : Option Ranges :=
  (Ranges.named? scriptExtensions name).or (script? name)

/-- The tables of all ages up to one with a given name. -/
def agesUpTo? (name : String) : List Table → Option (List Table)
  | [] => none
  | table :: rest =>
      if table.1.contains name then some [table]
      else (agesUpTo? name rest).map (table :: ·)

/-- The characters that a version of the standard holds. -/
def age? (name : String) : Option Ranges :=
  (agesUpTo? name ages).map fun tables =>
    Ranges.ofList (tables.flatMap fun table => (Ranges.ofRows table.2).all)

/-- The characters with a property. -/
def property? (name : String) : Option Ranges := Ranges.named? properties name

/-- Why there is no set for a name. -/
inductive QueryFault where
  | unknownProperty
  | unknownValue
deriving DecidableEq, Repr

/-- Names of a category and of scripts that no character has. -/
def emptyNames : List String :=
  ["cs", "surrogate", "hrkt", "katakanaorhiragana", "zzzz", "unknown"]

/-- The characters with a name: a property, a category or a script. -/
def find (name : String) : Except QueryFault Ranges :=
  let name := normalName name
  match ((property? name).or (category? name)).or (script? name) with
  | some ranges => .ok ranges
  | none => .error (if emptyNames.contains name then .unknownValue else .unknownProperty)

/-- The properties that have values, by the normal forms of their names, with the
characters for each value. -/
def valuedProperties : List (List String × (String → Option Ranges)) := [
  (["gc", "generalcategory"], category?),
  (["sc", "script"], script?),
  (["scx", "scriptextensions"], scriptExtension?),
  (["age"], age?),
  (["gcb", "graphemeclusterbreak"], Ranges.named? graphemeRoles),
  (["wb", "wordbreak"], Ranges.named? wordRoles),
  (["sb", "sentencebreak"], Ranges.named? sentenceRoles)]

/-- The normal forms of the names of properties whose values are no sets here. -/
def valuelessProperties : List String := [
  "bc", "bidiclass", "blk", "block", "bmg", "bidimirroringglyph", "bidim", "bidimirrored", "bpb",
  "bidipairedbracket", "bpt", "bidipairedbrackettype", "ccc", "canonicalcombiningclass", "ce",
  "compositionexclusion", "cf", "casefolding", "compex", "fullcompositionexclusion", "dm",
  "decompositionmapping", "dt", "decompositiontype", "ea", "eastasianwidth", "equideo",
  "equivalentunifiedideograph", "fcnfkc", "fcnfkcclosure", "hst", "hangulsyllabletype", "incb",
  "indicconjunctbreak", "inpc", "indicpositionalcategory", "insc", "indicsyllabiccategory", "isc",
  "isocomment", "jg", "joininggroup", "jsn", "jamoshortname", "jt", "joiningtype", "lb",
  "linebreak", "lc", "lowercasemapping", "na", "name", "na1", "unicode1name", "namealias",
  "nfcqc", "nfcquickcheck", "nfdqc", "nfdquickcheck", "nfkccf", "nfkccasefold", "nfkcqc",
  "nfkcquickcheck", "nfkcscf", "nfkcsimplecasefold", "nfkdqc", "nfkdquickcheck", "nt",
  "numerictype", "nv", "numericvalue", "scf", "simplecasefolding", "sfc", "slc",
  "simplelowercasemapping", "stc", "simpletitlecasemapping", "suc", "simpleuppercasemapping", "tc",
  "titlecasemapping", "uc", "uppercasemapping", "vo", "verticalorientation", "xonfc",
  "expandsonnfc", "xonfd", "expandsonnfd", "xonfkc", "expandsonnfkc", "xonfkd", "expandsonnfkd"]

/-- The characters for a value of a property. -/
def findValue (property value : String) : Except QueryFault Ranges :=
  let property := normalName property
  match valuedProperties.find? fun entry => entry.1.contains property with
  | some (_, values) =>
    match values (normalName value) with
    | some ranges => .ok ranges
    | none => .error .unknownValue
  | none =>
    if valuelessProperties.contains property ∨ (property? property).isSome then
      .error .unknownValue
    else .error .unknownProperty

/-- Decimal digits of all scripts. -/
def digits : Ranges := Ranges.ofNames categories ["nd"]

/-- Blanks of all kinds. -/
def blanks : Ranges := Ranges.ofNames properties ["whitespace"]

/-- The characters of words: letters, marks, decimal digits, connectors and joiners. -/
def wordCharacters : Ranges :=
  (Ranges.ofNames properties ["alphabetic", "joinc"]).union
    (Ranges.ofNames categories ["mn", "mc", "me", "nd", "pc"])

/-- Letters of all scripts. Those of scripts that are too young to be asked for by name
belong to them too. -/
def letters : Ranges :=
  (Ranges.ofNames properties ["alphabetic"]).union
    (Ranges.ofRows ["DGhaBLkaExaCGRpbcabaBcaBKWczCBjcBybESahWmBrBEPgycyLaeJCjhBXpvDtEkBHQjBebvibDA",
      "WgfIWglBGFaGJh"])

/-- Numbers of all scripts, also of those that are too young to be asked for by name. -/
def numerals : Ranges :=
  (Ranges.ofNames categories ["nd", "nl", "no"]).union (Ranges.ofRows ["EEGujBFBuc"])

end TypedStore.Unicode
