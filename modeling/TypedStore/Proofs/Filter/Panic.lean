import TypedStore.Proofs.Filter.Leaf

/-!
# Filters that panic

Compiling a filter panics for one reason: it asks for a glob that can be read, but that the engine
has no matcher for. So a filter all of whose globs have matchers, as one without globs, can be
compiled or has a fault.
-/

namespace TypedStore

/-- A filter asks for a glob, at whatever depth. -/
inductive Filter.AsksGlob (text : String) : Json → Prop
  | operand {members : List (String × Json)}
      (mem : (Operator.glob.name, .string text) ∈ members) : AsksGlob text (.object members)
  | inner {members : List (String × Json)} {name : String} {value : Json}
      (mem : (name, value) ∈ members) (asked : AsksGlob text value) :
      AsksGlob text (.object members)

/-- What some members ask for is asked for wherever they all are. -/
theorem Filter.AsksGlob.mono {text : String} {members others : List (String × Json)}
    (h : AsksGlob text (.object members)) (hsub : members ⊆ others) :
    AsksGlob text (.object others) := by
  cases h with
  | operand mem => exact .operand (hsub mem)
  | inner mem asked => exact .inner (hsub mem) asked

variable [PatternEngine]

/-- A glob can be read, but there is no matcher for it. -/
def Glob.Unmatchable (text : String) : Prop := PatternEngine.glob text = .ok none

instance (text : String) : Decidable (Glob.Unmatchable text) :=
  match h : PatternEngine.glob text with
  | .ok none => isTrue h
  | .ok (some _) => isFalse (by simp [Glob.Unmatchable, h])
  | .error _ => isFalse (by simp [Glob.Unmatchable, h])

/-- Making a condition panics at a glob without a matcher only. -/
theorem Condition.unmatchable_of_panic {operator : Operator} {operand : Json}
    (h : ofOperator operator operand = .error .panic) :
    ∃ text, operator = .glob ∧ operand = .string text ∧ Glob.Unmatchable text := by
  cases operator with
  | equal | unequal | bound side => simp [ofOperator] at h
  | oneOf | noneOf => cases operand <;> simp [ofOperator] at h
  | regex =>
    cases operand with
    | string text =>
      cases hread : Regex.ofOperand text <;> simp [ofOperator, hread, Except.map] at h
    | null | bool | number | array | object => simp [ofOperator] at h
  | glob =>
    cases operand with
    | string text =>
      refine ⟨text, rfl, rfl, ?_⟩
      simp only [ofOperator, Glob.ofOperand] at h
      cases hread : PatternEngine.glob text with
      | error reason => simp [hread, Except.map] at h
      | ok made =>
        cases made with
        | none => exact hread
        | some matcher => simp [hread, Except.map] at h
    | null | bool | number | array | object => simp [ofOperator] at h

namespace Filter

/-- The engine has a matcher for every glob that a filter asks for and that can be read. -/
def Matchable (filter : Json) : Prop := ∀ text, AsksGlob text filter → ¬Glob.Unmatchable text

omit [PatternEngine] in
/-- Putting a condition at its place does not panic. -/
theorem map_clauseAt_ne_panic (redirects : Option Redirects) (path : Path) (operator : String)
    (condition : Condition) :
    ((clauseAt redirects path operator condition).map fun clause => [clause]) ≠ .error .panic := by
  rcases clauseAt_cases redirects path operator condition with ⟨-, h⟩ | ⟨-, h⟩ <;>
    simp [h, Except.map]

/-- An operator panics at its own operand only. -/
theorem asksGlob_of_operand {operand : Json} (hoperand : ∀ members, operand ≠ .object members)
    {redirects : Option Redirects} {path : Path} {name : String}
    (h : compileMember redirects path name operand = .error .panic) :
    ∃ text, AsksGlob text (.object [(name, operand)]) ∧ Glob.Unmatchable text := by
  by_cases hname : name = elementOperator
  · cases operand with
    | object members => exact absurd rfl (hoperand members)
    | null | bool | number | string | array => simp [compileMember, hname] at h
  · rw [compileMember_operand hoperand hname] at h
    cases hparse : Operator.parse? name with
    | none => simp [hparse] at h
    | some operator =>
      rw [hparse, Option.elim_some] at h
      cases hcondition : Condition.ofOperator operator operand with
      | ok condition =>
        rw [hcondition] at h
        exact absurd h (map_clauseAt_ne_panic redirects path operator.name condition)
      | error stop =>
        have hstop : stop = .panic := by simpa [hcondition, Except.bind] using h
        obtain ⟨text, rfl, rfl, hnone⟩ := Condition.unmatchable_of_panic (hstop ▸ hcondition)
        obtain rfl := Operator.parse?_eq_some_iff.mp hparse
        exact ⟨text, .operand (List.mem_singleton_self _), hnone⟩

mutual

/-- Some members panic at a glob that one of them asks for. -/
theorem asksGlob_of_compileMembers : ∀ (members : List (String × Json))
    (redirects : Option Redirects) (path : Path),
    compileMembers redirects path members = .error .panic →
    ∃ text, AsksGlob text (.object members) ∧ Glob.Unmatchable text
  | [], _, _, h => by simp [compileMembers] at h
  | (name, value) :: rest, redirects, path, h => by
    rw [compileMembers] at h
    cases hfirst : compileMember redirects path name value with
    | error stop =>
      have hstop : stop = .panic := by simpa [hfirst] using h
      obtain ⟨text, asked, hnone⟩ :=
        asksGlob_of_compileMember value redirects path name (hstop ▸ hfirst)
      exact ⟨text, asked.mono (by simp), hnone⟩
    | ok clauses =>
      cases hrest : compileMembers redirects path rest with
      | error stop =>
        have hstop : stop = .panic := by simpa [hfirst, hrest] using h
        obtain ⟨text, asked, hnone⟩ :=
          asksGlob_of_compileMembers rest redirects path (hstop ▸ hrest)
        exact ⟨text, asked.mono (by simp), hnone⟩
      | ok others => simp [hfirst, hrest] at h

/-- A member panics at a glob that it asks for. -/
theorem asksGlob_of_compileMember : ∀ (value : Json) (redirects : Option Redirects) (path : Path)
    (name : String), compileMember redirects path name value = .error .panic →
    ∃ text, AsksGlob text (.object [(name, value)]) ∧ Glob.Unmatchable text
  | value, redirects, path, name, h => by
    cases value with
    | object members =>
      rw [compileMember] at h
      by_cases hname : name = elementOperator
      · cases hinner : compileMembers none [] members with
        | error stop =>
          have hstop : stop = .panic := by simpa [hname, hinner] using h
          obtain ⟨text, asked, hnone⟩ :=
            asksGlob_of_compileMembers members none [] (hstop ▸ hinner)
          exact ⟨text, .inner (List.mem_singleton_self _) asked, hnone⟩
        | ok inner =>
          simp only [hname, hinner, if_true] at h
          exact absurd h (map_clauseAt_ne_panic redirects path elementOperator _)
      · rw [if_neg hname] at h
        obtain ⟨text, asked, hnone⟩ :=
          asksGlob_of_compileMembers members redirects (path ++ Path.split name) h
        exact ⟨text, .inner (List.mem_singleton_self _) asked, hnone⟩
    | null | bool | number | string | array => exact asksGlob_of_operand (by simp) h

end

/-- Compiling a filter panics only at a glob without a matcher that the filter asks for. -/
theorem asksGlob_of_compile {redirects : Redirects} {filter : Json}
    (h : compile redirects filter = .error .panic) :
    ∃ text, AsksGlob text filter ∧ Glob.Unmatchable text := by
  cases filter with
  | object members =>
    rw [compile] at h
    cases hmembers : compileMembers (some redirects) [] members with
    | ok clauses => simp [hmembers, Except.map] at h
    | error stop =>
      have hstop : stop = .panic := by simpa [hmembers, Except.map] using h
      exact asksGlob_of_compileMembers members (some redirects) [] (hstop ▸ hmembers)
  | null | bool | number | string | array => simp [compile] at h

/-- A filter whose globs have matchers does not panic. -/
theorem Matchable.compile_ne_panic {filter : Json} (h : Matchable filter) (redirects : Redirects) :
    compile redirects filter ≠ .error .panic := by
  intro hpanic
  obtain ⟨text, asked, hnone⟩ := asksGlob_of_compile hpanic
  exact h text asked hnone

end Filter

end TypedStore
