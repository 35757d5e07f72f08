import TypedStore.Index.Freshness
import TypedStore.Journal.Severity
import TypedStore.Json.Printer
import TypedStore.Store.Scheduling

/-!
# Settings

What can be set of a context: the scheduling of resolvers, the policy for indexes,
and the least severity of the journal. Each setting has a value of its own where
none is given.
-/

namespace TypedStore

/-- The settings of a context. -/
structure Settings where
  scheduling : Scheduling
  freshness : Freshness
  least : Severity
deriving DecidableEq, Repr

namespace Settings

/-- The settings where none is given. -/
def standard : Settings := ⟨.sequential, .generation, .info⟩

instance : Inhabited Settings := ⟨standard⟩

/-- The name of the setting for the scheduling. -/
def schedulingName : String := "resolve_concurrency"

/-- The name of the setting for the policy. -/
def freshnessName : String := "index_invalidation"

/-- The name of the setting for the least severity. -/
def leastName : String := "log_level"

end Settings

/-- A count as a number, if it fits 64 bits. -/
def Json.ofNat (n : Nat) : Json :=
  match Number.ofInt? n with
  | some n => .number n
  | none => .null

/-- The scheduling as a value. -/
def Scheduling.toJson : Scheduling → Json
  | sequential => .string "sequential"
  | bounded limit => .object [("bounded", Json.ofNat limit)]

/-- The settings as a value. -/
def Settings.toJson (settings : Settings) : Json :=
  Json.ofMembers [
    (schedulingName, settings.scheduling.toJson),
    (freshnessName, .string settings.freshness.word),
    (leastName, .string settings.least.word)]

end TypedStore
