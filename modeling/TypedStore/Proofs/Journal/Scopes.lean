import TypedStore.Proofs.Journal.Lines
import TypedStore.Proofs.Journal.Reading

/-!
# Scopes

The entry at the beginning of a piece of work opens a scope in the log, and one at its end closes
it. Scopes do not nest: what is opened is closed before anything else is opened, by an entry that
repeats a field of the opening one. Logs in which this is so follow on one another.
-/

namespace TypedStore

/-- The pieces of work that have a span. -/
inductive Work where
  | indexBuild
  | refresh
deriving DecidableEq, Repr

namespace Work

/-- The name of the span. -/
def name : Work → String
  | indexBuild => "INDEX_BUILD"
  | refresh => "RESOLVER_REFRESH"

/-- The key of the field that is repeated at the end. -/
def key : Work → String
  | indexBuild => "index"
  | refresh => "types"

/-- The events with which the work may end. Building an index cannot fail. -/
def endings : Work → List String
  | indexBuild => ["INDEX_BUILD_COMPLETE"]
  | refresh => ["RESOLVER_REFRESH_COMPLETE", "RESOLVER_REFRESH_FAILED"]

/-- The events that close a scope of the work, that of work that was given up among them. -/
def closings (work : Work) : List String :=
  [work.name ++ "_COMPLETE", work.name ++ "_FAILED", work.name ++ "_INCOMPLETE"]

/-- An event ends in some text. -/
def endsIn (ending event : String) : Bool := ending.toList.isSuffixOf event.toList

/-- An event opens a scope. -/
def opens (event : String) : Bool := endsIn "_BEGIN" event

/-- An event closes a scope. -/
def closes (event : String) : Bool := event ∈ indexBuild.closings ++ refresh.closings

theorem opens_begin (work : Work) :
    opens (work.name ++ "_BEGIN") = true ∧ closes (work.name ++ "_BEGIN") = false ∧
      endsIn "_INCOMPLETE" (work.name ++ "_BEGIN") = false := by
  cases work <;> decide

theorem name_begin_injective {a b : Work} (h : a.name ++ "_BEGIN" = b.name ++ "_BEGIN") :
    a = b := by
  cases a <;> cases b <;> first | rfl | (revert h; decide)

/-- What ends the work closes its scope. -/
theorem closes_of_mem_endings {work : Work} : ∀ event ∈ work.endings,
    opens event = false ∧ closes event = true ∧ endsIn "_INCOMPLETE" event = false := by
  cases work <;> decide

end Work

/-- An event has to do with no scope. -/
structure Quiet (event : String) : Prop where
  opens : Work.opens event = false
  closes : Work.closes event = false
  finished : Work.endsIn "_INCOMPLETE" event = false

/-- The events beside the spans have to do with no scope. -/
theorem Event.quiet_name (event : Event) : Quiet event.name := by
  cases event <;> exact ⟨by decide, by decide, by decide⟩

/-- The lines of two entries have the same text under a key. -/
def Entry.Repeats (key : String) (begun ended : Entry) : Prop :=
  ∃ text, ∀ elapsed,
    begun.lastValue? elapsed key = some text ∧ ended.lastValue? elapsed key = some text

/-- A scope for some work: it is opened and then closed, and what is within has to do with no
scope. -/
structure Scope (work : Work) (begun : Entry) (within : List Entry) (ended : Entry) : Prop where
  begins : begun.event = work.name ++ "_BEGIN"
  quiet : ∀ entry ∈ within, Quiet entry.event
  ends : ended.event ∈ work.endings
  repeats : begun.Repeats work.key ended

/-- A log in which each scope is closed before another one is opened. -/
inductive Scoped : List Entry → Prop
  | nil : Scoped []
  | quiet {entry : Entry} {log : List Entry} (h : Quiet entry.event) (rest : Scoped log) :
      Scoped (entry :: log)
  | scope {work : Work} {begun ended : Entry} {within log : List Entry}
      (h : Scope work begun within ended) (rest : Scoped log) :
      Scoped (begun :: (within ++ ended :: log))

/-- An entry that is not within a scope is the one that ends it or comes behind this. -/
theorem append_cons_cases {x y : Entry} {within rest before after : List Entry}
    (hnot : y ∉ within) (h : within ++ x :: rest = before ++ y :: after) :
    (before = within ∧ y = x ∧ after = rest) ∨
      ∃ more, before = within ++ x :: more ∧ rest = more ++ y :: after := by
  rcases List.append_eq_append_iff.mp h with ⟨more, hbefore, hrest⟩ | ⟨more, hwithin, hafter⟩
  · rcases List.cons_eq_append_iff.mp hrest with ⟨rfl, hcons⟩ | ⟨behind, rfl, hrest⟩
    · obtain ⟨hy, hafter⟩ := List.cons.inj hcons
      exact Or.inl ⟨by rw [hbefore, List.append_nil], hy, hafter⟩
    · exact Or.inr ⟨behind, hbefore, (List.cons.inj hrest).2⟩
  · rcases List.cons_eq_append_iff.mp hafter with ⟨rfl, hcons⟩ | ⟨behind, rfl, hrest⟩
    · obtain ⟨hx, hrest⟩ := List.cons.inj hcons
      exact Or.inl ⟨by rw [hwithin, List.append_nil], hx.symm, hrest.symm⟩
    · exact absurd (hwithin ▸ List.mem_append_right _ (List.mem_cons_self ..)) hnot

namespace Scoped

variable {log later : List Entry}

/-- Logs follow on one another. -/
theorem append (h : Scoped log) (hlater : Scoped later) : Scoped (log ++ later) := by
  induction h with
  | nil => exact hlater
  | quiet h _ ih => exact .quiet h ih
  | scope h _ ih =>
    rw [List.cons_append, List.append_assoc, List.cons_append]
    exact .scope h ih

/-- No work is given up. -/
theorem not_incomplete (h : Scoped log) :
    ∀ entry ∈ log, Work.endsIn "_INCOMPLETE" entry.event = false := by
  induction h with
  | nil => simp
  | quiet h _ ih => simpa [h.finished] using ih
  | @scope work _ _ _ _ h _ ih =>
    have hbegin := (work.opens_begin).2.2
    have hend := (Work.closes_of_mem_endings _ h.ends).2.2
    have hwithin := fun entry hentry => (h.quiet entry hentry).finished
    simp only [List.mem_cons, List.mem_append]
    rintro entry (rfl | hentry | rfl | hentry)
    · rwa [h.begins]
    · exact hwithin entry hentry
    · exact hend
    · exact ih entry hentry

/-- Before a scope is opened none is closed. -/
theorem filter_takeWhile (h : Scoped log) :
    (log.takeWhile fun entry => !Work.opens entry.event).filter
      (fun entry => Work.closes entry.event) = [] := by
  induction h with
  | nil => rfl
  | quiet h _ ih =>
    simpa [h.opens, h.closes] using ih
  | @scope work _ _ _ _ h _ _ =>
    have hopens := work.opens_begin.1
    rw [← h.begins] at hopens
    simp [hopens]

/-- What is opened is closed once before another scope is opened. -/
theorem exists_scope_of_opens (h : Scoped log) {before after : List Entry} {begun : Entry}
    (hlog : log = before ++ begun :: after) (hopens : Work.opens begun.event = true) :
    ∃ work within ended later, Scope work begun within ended ∧
      after = within ++ ended :: later ∧ Scoped later := by
  induction h generalizing before with
  | nil => simp at hlog
  | quiet h rest ih =>
    rcases List.cons_eq_append_iff.mp hlog with ⟨rfl, hcons⟩ | ⟨more, rfl, hrest⟩
    · obtain ⟨rfl, -⟩ := List.cons.inj hcons
      simp [h.opens] at hopens
    · exact ih hrest
  | @scope work first ended within rest h hscoped ih =>
    rcases List.cons_eq_append_iff.mp hlog with ⟨rfl, hcons⟩ | ⟨more, rfl, hrest⟩
    · obtain ⟨rfl, rfl⟩ := List.cons.inj hcons
      exact ⟨work, within, ended, rest, h, rfl, hscoped⟩
    · have hnot : begun ∉ within := fun hmem => by
        simp [(h.quiet begun hmem).opens] at hopens
      rcases append_cons_cases hnot hrest with ⟨-, rfl, -⟩ | ⟨behind, -, hbehind⟩
      · simp [(Work.closes_of_mem_endings _ h.ends).1] at hopens
      · exact ih hbehind

/-- What is closed has been opened, and nothing was opened or closed in between. -/
theorem exists_scope_of_closes (h : Scoped log) {before after : List Entry} {ended : Entry}
    (hlog : log = before ++ ended :: after) (hcloses : Work.closes ended.event = true) :
    ∃ work earlier begun within, before = earlier ++ begun :: within ∧
      Scope work begun within ended := by
  induction h generalizing before with
  | nil => simp at hlog
  | @quiet entry _ h rest ih =>
    rcases List.cons_eq_append_iff.mp hlog with ⟨rfl, hcons⟩ | ⟨more, rfl, hrest⟩
    · obtain ⟨rfl, -⟩ := List.cons.inj hcons
      simp [h.closes] at hcloses
    · obtain ⟨work, earlier, begun, within, rfl, hscope⟩ := ih hrest
      exact ⟨work, entry :: earlier, begun, within, rfl, hscope⟩
  | @scope work first last within rest h hscoped ih =>
    rcases List.cons_eq_append_iff.mp hlog with ⟨rfl, hcons⟩ | ⟨more, rfl, hrest⟩
    · obtain ⟨rfl, -⟩ := List.cons.inj hcons
      simp [h.begins, work.opens_begin.2.1] at hcloses
    · have hnot : ended ∉ within := fun hmem => by
        simp [(h.quiet ended hmem).closes] at hcloses
      rcases append_cons_cases hnot hrest with ⟨rfl, rfl, -⟩ | ⟨behind, rfl, hbehind⟩
      · exact ⟨work, [], first, more, rfl, h⟩
      · obtain ⟨other, earlier, begun, between, rfl, hscope⟩ := ih hbehind
        exact ⟨other, first :: (within ++ last :: earlier), begun, between, by simp, hscope⟩

end Scoped

/-- Of the entries before another scope is opened, the one that ends a scope is the only one that
closes any. -/
theorem Scope.filter_takeWhile {work : Work} {begun ended : Entry} {within later : List Entry}
    (h : Scope work begun within ended) (hlater : Scoped later) :
    ((within ++ ended :: later).takeWhile fun entry => !Work.opens entry.event).filter
      (fun entry => Work.closes entry.event) = [ended] := by
  obtain ⟨hopens, hcloses, -⟩ := Work.closes_of_mem_endings _ h.ends
  have hwithin : within.filter (fun entry => Work.closes entry.event) = [] :=
    List.filter_eq_nil_iff.mpr fun entry hmem => by simp [(h.quiet entry hmem).closes]
  rw [List.takeWhile_append_of_pos, List.takeWhile_cons_of_pos, List.filter_append,
    List.filter_cons_of_pos, hwithin, hlater.filter_takeWhile, List.nil_append]
  · exact hcloses
  · simp [hopens]
  · intro entry hmem
    simp [(h.quiet entry hmem).opens]

end TypedStore
