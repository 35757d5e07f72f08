import TypedStore.Proofs.Filter.Leaf

/-!
# Operators below names

A filter may be a single operator that is nested under names. It is compiled to one clause, on the
path that the names spell out, and so it lets pass what meets the operator there.
-/

namespace TypedStore

variable [PatternEngine]

/-- A value that is found meets an operator with an operand. -/
def Json.meets (found : Json) (operator : Operator) (operand : Json) : Bool :=
  match Condition.ofOperator operator operand with
  | .ok condition => condition.holds (some found)
  | .error _ => false

/-- A value that is found meets an operator exactly if the condition of the operator holds of it. -/
theorem Json.meets_eq {operator : Operator} {operand : Json} {condition : Condition}
    (h : Condition.ofOperator operator operand = .ok condition) (found : Json) :
    found.meets operator operand = condition.holds (some found) := by
  rw [meets, h]

namespace Filter

variable {redirects : Redirects}

/-- The members of the object in which some members are nested under names. -/
def nest (names : List String) (members : List (String × Json)) : List (String × Json) :=
  names.foldr (fun name inner => [(name, .object inner)]) members

theorem compileMembers_singleton (redirects : Option Redirects) (path : Path) (name : String)
    (value : Json) : compileMembers redirects path [(name, value)] =
      compileMember redirects path name value := by
  simp only [compileMembers]
  cases compileMember redirects path name value with
  | error fault => rfl
  | ok clauses => simp

/-- Members that are nested under names are compiled below the path that the names lead along. -/
theorem compileMembers_nest {names : List String} (hnames : elementOperator ∉ names)
    (redirects : Option Redirects) (path : Path) (members : List (String × Json)) :
    compileMembers redirects path (nest names members) =
      compileMembers redirects (path ++ names.flatMap Path.split) members := by
  induction names generalizing path with
  | nil => simp [nest]
  | cons name names ih =>
    rw [List.mem_cons, not_or] at hnames
    have hnest : nest (name :: names) members = [(name, .object (nest names members))] := rfl
    rw [hnest, compileMembers_singleton, compileMember, if_neg (Ne.symm hnames.1), ih hnames.2,
      List.flatMap_cons, List.append_assoc]

/-- An operator that is nested under names is compiled to a clause on the path they spell out. -/
theorem compile_nest_operator {names : List String} (hne : names ≠ [])
    (hnames : elementOperator ∉ names) {operator : Operator} {operand : Json}
    (hoperand : ∀ members, operand ≠ .object members) {condition : Condition}
    (hcondition : Condition.ofOperator operator operand = .ok condition) :
    compile redirects (.object (nest names [(operator.name, operand)])) =
      .ok ⟨[(redirects.target (Path.join names), condition)]⟩ := by
  have hsplit : [] ++ names.flatMap Path.split = Path.split (Path.join names) := by
    rw [List.nil_append, Path.split_join_eq_flatMap hne]
  have hclause : clauseAt (some redirects) (Path.split (Path.join names)) operator.name condition =
      .ok (redirects.target (Path.join names), condition) := by
    rcases clauseAt_cases (some redirects) (Path.split (Path.join names)) operator.name
      condition with ⟨-, hclause⟩ | ⟨hempty, -⟩
    · rw [hclause, placeOf, Path.join_split]
    · exact absurd (fun _ => Path.split_ne_nil _) hempty
  rw [compile, compileMembers_nest hnames, hsplit, compileMembers_singleton,
    compileMember_operand hoperand operator.name_ne_elementOperator, Operator.parse?_name,
    Option.elim_some, hcondition]
  simp only [Except.bind, hclause, Except.map]

/-- A filter that nests an operator under names asks of the value at their path to meet it. -/
theorem exists_compile_meets (redirects : Redirects) {names : List String} (hne : names ≠ [])
    (hnames : elementOperator ∉ names) {operator : Operator} {operand : Json}
    (hoperand : ∀ members, operand ≠ .object members) {condition : Condition}
    (hcondition : Condition.ofOperator operator operand = .ok condition) :
    ∃ filter, compile redirects (.object (nest names [(operator.name, operand)])) = .ok filter ∧
      ∀ (view : Path → Option Json) (found : Json),
        view (redirects.target (Path.join names)) = some found →
          filter.matchesView view = found.meets operator operand := by
  refine ⟨_, compile_nest_operator hne hnames hoperand hcondition, fun view found hfound => ?_⟩
  rw [Json.meets_eq hcondition, matchesView, clausesHold_eq_all, List.all_cons, List.all_nil,
    Bool.and_true, hfound]

end Filter

end TypedStore
