import TypedStore.Filter.Compile
import TypedStore.Proofs.Path

/-!
# The leaves of a filter

A filter is a tree whose leaves are operators with their operands and filters for the
elements of arrays. A leaf stands at the path that the names above it spell out. This file
says what a leaf asks of a value without compiling it, and proves that compiling a filter
gives one clause for each leaf, which asks for the same.
-/

namespace TypedStore

/-- No operator has the name that tests the elements of an array. -/
theorem Operator.name_ne_elementOperator (operator : Operator) :
    operator.name ≠ elementOperator := by
  cases operator with
  | bound side => cases side <;> decide
  | _ => decide

variable [PatternEngine]

/-- What an operator with its operand asks of the value at a path, or of the absence of one. -/
def Operator.Holds : Operator → Json → Option Json → Prop
  | .equal, expected, actual => Json.equals actual expected = true
  | .unequal, expected, actual => ¬Json.equals actual expected = true
  | .oneOf, .array options, actual => ∃ option ∈ options, Json.equals actual option = true
  | .noneOf, .array options, actual => ¬∃ option ∈ options, Json.equals actual option = true
  | .bound side, limit, actual => Json.anyValue (Json.inBound side · limit) actual = true
  | .regex, .string text, actual => ∃ matcher, Regex.ofOperand text = .ok matcher ∧
      Json.anyValue (Json.isText matcher) actual = true
  | .glob, .string text, actual => ∃ matcher, Glob.ofOperand text = .ok matcher ∧
      Json.anyValue (Json.isText matcher) actual = true
  | _, _, _ => False

namespace Condition

variable {text : String} {condition : Condition}

/-- A text makes a condition with the operator for regular expressions if it can be read as one. -/
theorem ofOperator_regex_eq_ok_iff : ofOperator .regex (.string text) = .ok condition ↔
    ∃ matcher, Regex.ofOperand text = .ok matcher ∧ regex matcher = condition := by
  cases h : Regex.ofOperand text <;> simp [ofOperator, h, Except.map]

/-- A text makes a condition with the operator for globs if a matcher is made of it. -/
theorem ofOperator_glob_eq_ok_iff : ofOperator .glob (.string text) = .ok condition ↔
    ∃ matcher, Glob.ofOperand text = .ok matcher ∧ glob matcher = condition := by
  cases h : Glob.ofOperand text <;> simp [ofOperator, h, Except.map]

end Condition

/-- A leaf of a filter: an operator with its operand at a path, or the leaves of a filter for
the elements of the array at a path. -/
inductive Leaf where
  | test (path : Path) (operator : String) (operand : Json)
  | elements (path : Path) (body : List Leaf)

namespace Leaf

/-- The path at which a leaf stands. -/
def path : Leaf → Path
  | test path .. => path
  | elements path _ => path

mutual

/-- A leaf holds of the values that are read at paths. The leaves for the elements of an array
hold of one of its elements, at paths that start there. -/
def Holds : Leaf → (Path → Option Json) → Prop
  | test path name operand, read => ∃ operator, Operator.parse? name = some operator ∧
      operator.Holds operand (read path)
  | elements path body, read => ∃ items, read path = some (.array items) ∧
      ∃ item ∈ items, AllHold body item.at?

/-- All of some leaves hold. -/
def AllHold : List Leaf → (Path → Option Json) → Prop
  | [], _ => True
  | leaf :: rest, read => leaf.Holds read ∧ AllHold rest read

end

mutual

/-- A leaf names an operator and gives it an operand that it takes. -/
def Valid : Leaf → Prop
  | test _ name operand => ∃ operator condition, Operator.parse? name = some operator ∧
      Condition.ofOperator operator operand = .ok condition
  | elements _ body => AllValid body

/-- All of some leaves are valid. -/
def AllValid : List Leaf → Prop
  | [] => True
  | leaf :: rest => leaf.Valid ∧ AllValid rest

end

theorem allHold_iff {leaves : List Leaf} {read : Path → Option Json} :
    AllHold leaves read ↔ ∀ leaf ∈ leaves, leaf.Holds read := by
  induction leaves with
  | nil => simp [AllHold]
  | cons leaf rest ih => simp [AllHold, ih]

theorem allValid_iff {leaves : List Leaf} : AllValid leaves ↔ ∀ leaf ∈ leaves, leaf.Valid := by
  induction leaves with
  | nil => simp [AllValid]
  | cons leaf rest ih => simp [AllValid, ih]

/-- A leaf reads nothing but the value at its path. -/
theorem holds_congr {leaf : Leaf} {read other : Path → Option Json}
    (h : read leaf.path = other leaf.path) : leaf.Holds read ↔ leaf.Holds other := by
  cases leaf with
  | test path name operand =>
    have hpath : read path = other path := h
    simp only [Holds, hpath]
  | elements path body =>
    have hpath : read path = other path := h
    simp only [Holds, hpath]

end Leaf

namespace Filter

mutual

/-- The leaves of the members of an object below a path. -/
def leavesBelow (path : Path) : List (String × Json) → List Leaf
  | [] => []
  | (name, value) :: rest => memberLeaves path name value ++ leavesBelow path rest

/-- The leaves of one member below a path: a name over an object leads further down. -/
def memberLeaves (path : Path) (name : String) : Json → List Leaf
  | .object members =>
      if name = elementOperator then [.elements path (leavesBelow [] members)]
      else leavesBelow (path ++ Path.split name) members
  | operand => [.test path name operand]

end

/-- The leaves of a filter. -/
def leaves : Json → List Leaf
  | .object members => leavesBelow [] members
  | _ => []

/-- The path of the clause for a leaf. It is that of the leaf, redirected outside of array
elements. -/
def placeOf : Option Redirects → Path → Path
  | none, path => path
  | some redirects, path => redirects.target (Path.join path)

/-- What comes of compiling some leaves: one clause for each of them, which together ask for
what the leaves ask, or a stop at one of them. A leaf outside of array elements needs a
path. -/
inductive Compilation (redirects : Option Redirects) (leaves : List Leaf) :
    Except (Stop FilterError) (List Clause) → Prop
  | ok {clauses : List Clause}
      (valid : ∀ leaf ∈ leaves, leaf.Valid ∧ (redirects.isSome → leaf.path ≠ []))
      (places : clauses.map Prod.fst = leaves.map fun leaf => placeOf redirects leaf.path)
      (holds : ∀ view, clausesHold clauses view = true ↔
        Leaf.AllHold leaves fun path => view (placeOf redirects path)) :
      Compilation redirects leaves (.ok clauses)
  | error {stop : Stop FilterError} {leaf : Leaf} (mem : leaf ∈ leaves)
      (faulty : ¬(leaf.Valid ∧ (redirects.isSome → leaf.path ≠ []))) :
      Compilation redirects leaves (.error stop)

variable {redirects : Option Redirects} {path : Path} {name : String}

/-- The condition of an operator with its operand asks for what the operator does. -/
theorem holds_ofOperator {operator : Operator} {operand : Json} {condition : Condition}
    (h : Condition.ofOperator operator operand = .ok condition) (actual : Option Json) :
    condition.holds actual = true ↔ operator.Holds operand actual := by
  cases operator with
  | equal | unequal | bound side =>
    obtain rfl := Except.ok.inj h
    simp [Condition.holds, Operator.Holds]
  | oneOf | noneOf =>
    cases operand with
    | array options =>
      obtain rfl := Except.ok.inj h
      simp [Condition.holds, Operator.Holds, List.any_eq_true]
    | null | bool | number | string | object => simp [Condition.ofOperator] at h
  | regex =>
    cases operand with
    | string text =>
      obtain ⟨matcher, hmatcher, rfl⟩ := Condition.ofOperator_regex_eq_ok_iff.mp h
      simp [Condition.holds, Operator.Holds, hmatcher]
    | null | bool | number | array | object => simp [Condition.ofOperator] at h
  | glob =>
    cases operand with
    | string text =>
      obtain ⟨matcher, hmatcher, rfl⟩ := Condition.ofOperator_glob_eq_ok_iff.mp h
      simp [Condition.holds, Operator.Holds, hmatcher]
    | null | bool | number | array | object => simp [Condition.ofOperator] at h

omit [PatternEngine] in
/-- A condition is put at the place of its path, which must not be empty outside of array
elements. -/
theorem clauseAt_cases (redirects : Option Redirects) (path : Path) (operator : String)
    (condition : Condition) :
    (redirects.isSome → path ≠ []) ∧
        clauseAt redirects path operator condition = .ok (placeOf redirects path, condition) ∨
      ¬(redirects.isSome → path ≠ []) ∧
        clauseAt redirects path operator condition = .error (.fault (.missingPath operator)) := by
  cases redirects with
  | none => exact Or.inl ⟨by simp, rfl⟩
  | some redirects =>
    cases path with
    | nil => exact Or.inr ⟨by simp, rfl⟩
    | cons segment rest => exact Or.inl ⟨by simp, rfl⟩

/-- Compiling one leaf into a condition that asks for the same puts the condition at the place
of the leaf. -/
theorem compilation_singleton {leaf : Leaf} {condition : Condition} (hpath : leaf.path = path)
    (hvalid : leaf.Valid)
    (hholds : ∀ read : Path → Option Json, condition.holds (read path) = true ↔ leaf.Holds read)
    (redirects : Option Redirects) (operator : String) :
    Compilation redirects [leaf]
      ((clauseAt redirects path operator condition).map fun clause => [clause]) := by
  subst hpath
  rcases clauseAt_cases redirects leaf.path operator condition with
    ⟨hplaced, hclause⟩ | ⟨hunplaced, hclause⟩
  · rw [hclause]
    refine .ok (by simpa using ⟨hvalid, hplaced⟩) (by simp) fun view => ?_
    simp only [clausesHold, Bool.and_true, Leaf.AllHold, and_true]
    exact hholds fun path => view (placeOf redirects path)
  · rw [hclause]
    exact .error (List.mem_singleton_self leaf) fun h => hunplaced h.2

/-- What comes of compiling leaves comes of compiling the first ones and then the others. -/
theorem Compilation.append {leaves others : List Leaf} {clauses : List Clause}
    {result : Except (Stop FilterError) (List Clause)}
    (first : Compilation redirects leaves (.ok clauses))
    (rest : Compilation redirects others result) :
    Compilation redirects (leaves ++ others) (result.map (clauses ++ ·)) := by
  cases first with
  | ok valid places holds =>
    cases rest with
    | ok valid' places' holds' =>
      refine .ok ?_ (by simp [places, places']) fun view => ?_
      · intro leaf hmem
        rcases List.mem_append.mp hmem with hmem | hmem
        · exact valid leaf hmem
        · exact valid' leaf hmem
      · rw [clausesHold_eq_all, List.all_append, Bool.and_eq_true, ← clausesHold_eq_all,
          ← clausesHold_eq_all, holds, holds']
        simp only [Leaf.allHold_iff, List.mem_append, or_imp, forall_and]
    | error mem faulty => exact .error (List.mem_append_right _ mem) faulty

/-- A name over a value that is no object is read as an operator. -/
theorem compileMember_operand {operand : Json} (hoperand : ∀ members, operand ≠ .object members)
    (hname : name ≠ elementOperator) (redirects : Option Redirects) (path : Path) :
    compileMember redirects path name operand =
      (Operator.parse? name).elim (.error (.fault (.unknownOperator name))) fun operator =>
        (Condition.ofOperator operator operand).bind fun condition =>
          (clauseAt redirects path operator.name condition).map fun clause => [clause] := by
  unfold compileMember
  split
  · exact absurd rfl (hoperand _)
  · simp only [if_neg hname]
    cases Operator.parse? name with
    | none => rfl
    | some operator =>
      simp only [Option.elim_some]
      cases Condition.ofOperator operator operand <;> rfl

/-- An operator on the path compiles to one clause, unless it is unknown or does not take its
operand. -/
theorem compilation_test (redirects : Option Redirects) (path : Path) (name : String)
    (operand : Json) (hoperand : ∀ members, operand ≠ .object members) :
    Compilation redirects [.test path name operand]
      (compileMember redirects path name operand) := by
  by_cases hname : name = elementOperator
  · -- The word for elements names no operator.
    have hnone : Operator.parse? elementOperator = none := by decide
    have hcompile : compileMember redirects path name operand =
        .error (.fault (.invalidOperand name .object)) := by
      unfold compileMember
      split
      · exact absurd rfl (hoperand _)
      · rw [if_pos hname]
    rw [hcompile]
    exact .error (List.mem_singleton_self _) fun h => by simp [Leaf.Valid, hname, hnone] at h
  · rw [compileMember_operand hoperand hname]
    cases hparse : Operator.parse? name with
    | none =>
      exact .error (List.mem_singleton_self _) fun h => by simp [Leaf.Valid, hparse] at h
    | some operator =>
      cases hcondition : Condition.ofOperator operator operand with
      | error fault =>
        simp only [Option.elim_some, hcondition]
        exact .error (List.mem_singleton_self _) fun h => by
          simp [Leaf.Valid, hparse, hcondition] at h
      | ok condition =>
        simp only [Option.elim_some, hcondition]
        have hvalid : (Leaf.test path name operand).Valid :=
          ⟨operator, condition, hparse, hcondition⟩
        refine compilation_singleton rfl hvalid (fun read => ?_) redirects _
        simp [Leaf.Holds, hparse, holds_ofOperator hcondition, Leaf.path]

/-- Where the members of a filter for elements compile to their leaves, the filter compiles to one
clause, which asks for an element of which the leaves hold. -/
theorem compilation_elements {body : List Leaf} {members : List (String × Json)}
    (hbody : Compilation none body (compileMembers none [] members))
    (redirects : Option Redirects) (path : Path) :
    Compilation redirects [.elements path body]
      (compileMember redirects path elementOperator (.object members)) := by
  simp only [compileMember, if_true]
  cases hinner : compileMembers none [] members with
  | error fault =>
    rw [hinner] at hbody
    cases hbody with
    | error mem faulty =>
      refine .error (List.mem_singleton_self _) fun h => ?_
      exact faulty ⟨Leaf.allValid_iff.mp h.1 _ mem, by simp⟩
  | ok inner =>
    rw [hinner] at hbody
    cases hbody with
    | ok valid places holds =>
      have hvalid : (Leaf.elements path body).Valid :=
        Leaf.allValid_iff.mpr fun leaf hmem => (valid leaf hmem).1
      refine compilation_singleton rfl hvalid (fun read => ?_) redirects elementOperator
      simp only [Leaf.Holds, Leaf.path]
      cases hread : read path with
      | none => simp [Condition.holds]
      | some value =>
        cases value with
        | array items => simp [Condition.holds, List.any_eq_true, holds, placeOf]
        | null | bool | number | string | object => simp [Condition.holds]

mutual

/-- Compiling the members of an object compiles their leaves. -/
theorem compilation_compileMembers : ∀ (members : List (String × Json))
    (redirects : Option Redirects) (path : Path),
    Compilation redirects (leavesBelow path members) (compileMembers redirects path members)
  | [], redirects, path => by
    simp only [leavesBelow, compileMembers]
    exact .ok (by simp) rfl (by simp [clausesHold, Leaf.AllHold])
  | (name, value) :: rest, redirects, path => by
    have hfirst := compilation_compileMember value redirects path name
    have hrest := compilation_compileMembers rest redirects path
    simp only [leavesBelow, compileMembers]
    cases hclauses : compileMember redirects path name value with
    | error fault =>
      rw [hclauses] at hfirst
      cases hfirst with
      | error mem faulty => exact .error (List.mem_append_left _ mem) faulty
    | ok clauses =>
      rw [hclauses] at hfirst
      have happend := hfirst.append hrest
      cases hothers : compileMembers redirects path rest with
      | error fault => simpa [hothers, Except.map] using happend
      | ok others => simpa [hothers, Except.map] using happend

/-- Compiling a member compiles its leaves. -/
theorem compilation_compileMember : ∀ (value : Json) (redirects : Option Redirects)
    (path : Path) (name : String),
    Compilation redirects (memberLeaves path name value)
      (compileMember redirects path name value)
  | value, redirects, path, name => by
    cases value with
    | object members =>
      by_cases hname : name = elementOperator
      · subst hname
        simp only [memberLeaves, if_true]
        exact compilation_elements (compilation_compileMembers members none []) redirects path
      · simp only [memberLeaves, compileMember, if_neg hname]
        exact compilation_compileMembers members redirects (path ++ Path.split name)
    | null | bool | number | string | array =>
      exact compilation_test redirects path name _ (by simp)

end

end Filter

end TypedStore
