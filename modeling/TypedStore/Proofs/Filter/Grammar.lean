import TypedStore.Pattern.Dialect
import TypedStore.Proofs.Filter.Leaf

/-!
# The grammar of filters

A name in a filter is read by what it stands over and by where it stands. Over a value that is no
object it must be an operator, over an object it leads further down or asks for an element of an
array. This file says so without compiling, and proves that exactly the filters of this grammar
can be compiled, and to how many clauses.
-/

namespace TypedStore

namespace Filter

mutual

/-- The number of operators and of filters for elements in the members of an object, those within
filters for elements not counted. -/
def testCount : List (String × Json) → Nat
  | [] => 0
  | (name, value) :: rest => memberTestCount name value + testCount rest

/-- The number of operators and of filters for elements in one member. -/
def memberTestCount (name : String) : Json → Nat
  | .object members => if name = elementOperator then 1 else testCount members
  | _ => 1

end

/-- The number of operators and of filters for elements in a filter. -/
def testsIn : Json → Nat
  | .object members => testCount members
  | _ => 0

mutual

/-- There are as many leaves below some members as operators and filters for elements. -/
theorem length_leavesBelow : ∀ (members : List (String × Json)) (path : Path),
    (leavesBelow path members).length = testCount members
  | [], _ => rfl
  | (name, value) :: rest, path => by
    rw [leavesBelow, List.length_append, length_memberLeaves value path name,
      length_leavesBelow rest path, testCount]

theorem length_memberLeaves : ∀ (value : Json) (path : Path) (name : String),
    (memberLeaves path name value).length = memberTestCount name value
  | value, path, name => by
    cases value with
    | object members =>
      rw [memberLeaves, memberTestCount]
      split
      · rfl
      · exact length_leavesBelow members (path ++ Path.split name)
    | null | bool | number | string | array => rfl

end

end Filter

section Grammar

variable [PatternEngine]

/-- An operator takes an operand: a list of options, a text that is a pattern, or any value. -/
def Operator.Takes : Operator → Json → Prop
  | .equal, _ | .unequal, _ | .bound _, _ => True
  | .oneOf, operand | .noneOf, operand => ∃ options, operand = .array options
  | .regex, operand =>
      ∃ text matcher, operand = .string text ∧ Regex.ofOperand text = .ok matcher
  | .glob, operand => ∃ text matcher, operand = .string text ∧ Glob.ofOperand text = .ok matcher

/-- Exactly the operands that an operator takes make a condition with it. -/
theorem Operator.takes_iff {operator : Operator} {operand : Json} : operator.Takes operand ↔
    ∃ condition, Condition.ofOperator operator operand = .ok condition := by
  cases operator with
  | equal | unequal | bound side => simp [Takes, Condition.ofOperator]
  | oneOf | noneOf => cases operand <;> simp [Takes, Condition.ofOperator]
  | regex | glob =>
    cases operand with
    | string text =>
      simp only [Takes, Condition.ofOperator_regex_eq_ok_iff, Condition.ofOperator_glob_eq_ok_iff,
        Json.string.injEq, exists_and_left, exists_eq_left']
      rw [exists_comm]
      simp only [exists_and_left, exists_eq', and_true]
    | null | bool | number | array | object => simp [Takes, Condition.ofOperator]

namespace Filter

/-- A member of a filter is well written. Whether it is placed says that a name leads to it or that
it belongs to a filter for elements, as operators and filters for elements must. -/
inductive Written : Bool → String → Json → Prop
  | test {operator : Operator} {operand : Json} (plain : ∀ members, operand ≠ .object members)
      (takes : operator.Takes operand) : Written true operator.name operand
  | elements {members : List (String × Json)}
      (body : ∀ member ∈ members, Written true member.1 member.2) :
      Written true elementOperator (.object members)
  | field {placed : Bool} {name : String} {members : List (String × Json)}
      (plain : name ≠ elementOperator)
      (inner : ∀ member ∈ members, Written true member.1 member.2) :
      Written placed name (.object members)

/-- A filter is well written: it is null, or an object whose members are. -/
def Grammatical : Json → Prop
  | .null => True
  | .object members => ∀ member ∈ members, Written false member.1 member.2
  | _ => False

variable {placed : Bool} {name : String} {members : List (String × Json)}

/-- An operator is well written exactly if it is placed and takes its operand. -/
theorem written_operand_iff {operand : Json} (hoperand : ∀ members, operand ≠ .object members) :
    Written placed name operand ↔ placed = true ∧ ∃ operator condition,
      Operator.parse? name = some operator ∧
        Condition.ofOperator operator operand = .ok condition := by
  constructor
  · intro h
    cases h with
    | @test operator _ plain takes =>
      obtain ⟨condition, hcondition⟩ := Operator.takes_iff.mp takes
      exact ⟨rfl, operator, condition, Operator.parse?_name operator, hcondition⟩
    | elements | field => exact absurd rfl (hoperand _)
  · rintro ⟨rfl, operator, condition, hname, hcondition⟩
    obtain rfl := Operator.parse?_eq_some_iff.mp hname
    exact .test hoperand (Operator.takes_iff.mpr ⟨condition, hcondition⟩)

/-- A name over an object is well written exactly if the members of the object are, where a filter
for elements must be placed. -/
theorem written_object_iff : Written placed name (.object members) ↔
    (name = elementOperator → placed = true) ∧
      ∀ member ∈ members, Written true member.1 member.2 := by
  constructor
  · generalize hvalue : Json.object members = value
    intro h
    cases h with
    | test plain takes => exact absurd hvalue.symm (plain members)
    | elements body =>
      obtain rfl := Json.object.inj hvalue
      exact ⟨fun _ => rfl, body⟩
    | field plain inner =>
      obtain rfl := Json.object.inj hvalue
      exact ⟨fun hname => absurd hname plain, inner⟩
  · rintro ⟨hplaced, hmembers⟩
    by_cases hname : name = elementOperator
    · rw [hname, hplaced hname]
      exact .elements hmembers
    · exact .field hname hmembers

mutual

/-- The leaves below some members are without fault exactly if the members are well written. -/
theorem valid_leavesBelow_iff : ∀ (members : List (String × Json)) (outside placed : Bool)
    (path : Path), (placed = true ↔ (outside = true → path ≠ [])) →
    ((∀ leaf ∈ leavesBelow path members, leaf.Valid ∧ (outside = true → leaf.path ≠ [])) ↔
      ∀ member ∈ members, Written placed member.1 member.2)
  | [], _, _, _, _ => by simp [leavesBelow]
  | (name, value) :: rest, outside, placed, path, hplaced => by
    have hfirst := valid_memberLeaves_iff value outside placed path name hplaced
    have hrest := valid_leavesBelow_iff rest outside placed path hplaced
    rw [leavesBelow, List.forall_mem_append, hfirst, hrest, List.forall_mem_cons]

/-- The leaves of a member are without fault exactly if the member is well written. -/
theorem valid_memberLeaves_iff : ∀ (value : Json) (outside placed : Bool) (path : Path)
    (name : String), (placed = true ↔ (outside = true → path ≠ [])) →
    ((∀ leaf ∈ memberLeaves path name value, leaf.Valid ∧ (outside = true → leaf.path ≠ [])) ↔
      Written placed name value)
  | value, outside, placed, path, name, hplaced => by
    cases value with
    | object members =>
      by_cases hname : name = elementOperator
      · subst hname
        have hbody := valid_leavesBelow_iff members false true [] (by simp)
        simp only [Bool.false_eq_true, false_implies, and_true] at hbody
        have hwritten : Written placed elementOperator (.object members) ↔
            placed = true ∧ ∀ member ∈ members, Written true member.1 member.2 := by
          simp only [written_object_iff, true_implies]
        rw [memberLeaves, if_pos rfl, List.forall_mem_singleton, Leaf.Valid, Leaf.allValid_iff,
          hbody, Leaf.path, ← hplaced, hwritten, and_comm]
      · have hpath : path ++ Path.split name ≠ [] := by simp [Path.split_ne_nil]
        have hinner := valid_leavesBelow_iff members outside true (path ++ Path.split name)
          (by simp [hpath])
        rw [memberLeaves, if_neg hname, hinner, written_object_iff]
        exact (and_iff_right fun helement => absurd helement hname).symm
    | null | bool | number | string | array =>
      simp only [memberLeaves, List.forall_mem_singleton, Leaf.Valid, Leaf.path]
      rw [← hplaced, written_operand_iff (by simp), and_comm]

end

/-- Members can be compiled exactly if their leaves are without fault, and then to one clause for
each leaf. -/
theorem compileMembers_ok_iff (redirects : Redirects) (members : List (String × Json)) :
    ((∃ clauses, compileMembers (some redirects) [] members = .ok clauses) ↔
      ∀ leaf ∈ leavesBelow [] members, leaf.Valid ∧ leaf.path ≠ []) ∧
    ∀ clauses, compileMembers (some redirects) [] members = .ok clauses →
      clauses.length = (leavesBelow [] members).length := by
  have hcompiled := compilation_compileMembers members (some redirects) []
  cases hclauses : compileMembers (some redirects) [] members with
  | error fault =>
    rw [hclauses] at hcompiled
    cases hcompiled with
    | error mem faulty =>
      have hfaulty : ¬∀ leaf ∈ leavesBelow [] members, leaf.Valid ∧ leaf.path ≠ [] := by
        intro valid
        exact faulty ⟨(valid _ mem).1, fun _ => (valid _ mem).2⟩
      exact ⟨⟨by simp, fun valid => absurd valid hfaulty⟩, by simp⟩
  | ok clauses =>
    rw [hclauses] at hcompiled
    cases hcompiled with
    | ok valid places holds =>
      have hvalid : ∀ leaf ∈ leavesBelow [] members, leaf.Valid ∧ leaf.path ≠ [] :=
        fun leaf hmem => ⟨(valid leaf hmem).1, (valid leaf hmem).2 rfl⟩
      refine ⟨⟨fun _ => hvalid, fun _ => ⟨clauses, rfl⟩⟩, ?_⟩
      rintro _ ⟨⟩
      have hlength := congrArg List.length places
      rwa [List.length_map, List.length_map] at hlength

/-- Exactly the filters of the grammar can be compiled, and a compiled filter has one clause for
each operator and filter for elements, those within filters for elements not counted. -/
theorem compile_grammar (redirects : Redirects) (filter : Json) :
    ((∃ compiled, compile redirects filter = .ok compiled) ↔ Grammatical filter) ∧
    ∀ compiled, compile redirects filter = .ok compiled →
      compiled.clauses.length = testsIn filter := by
  cases filter with
  | null =>
    refine ⟨⟨fun _ => trivial, fun _ => ⟨empty, rfl⟩⟩, ?_⟩
    rintro _ ⟨⟩
    rfl
  | object members =>
    obtain ⟨haccepted, hlength⟩ := compileMembers_ok_iff redirects members
    have hwritten : (∀ leaf ∈ leavesBelow [] members, leaf.Valid ∧ leaf.path ≠ []) ↔
        ∀ member ∈ members, Written false member.1 member.2 := by
      simpa using valid_leavesBelow_iff members true false [] (by simp)
    rw [compile, Grammatical, ← hwritten, ← haccepted, testsIn, ← length_leavesBelow members []]
    cases hclauses : compileMembers (some redirects) [] members with
    | error fault => simp [Except.map]
    | ok clauses =>
      refine ⟨by simp [Except.map], ?_⟩
      rintro _ ⟨⟩
      exact hlength clauses hclauses
  | bool | number | string | array => simp [compile, Grammatical]

end Filter

end Grammar

namespace Filter

open scoped PatternEngine

/-- A filter with an operator below two names, and one directly in a filter for elements. -/
def taggedFilter : Json :=
  .object [("author", .object [("name", .object [("eq", .string "x")])]),
    ("tags", .object [("elemMatch", .object [("ne", .string "y")])])]

/-- The filter is of the grammar, and the operator in the filter for elements makes no clause of
its own. -/
theorem compile_grammar_tagged :
    ∃ compiled, compile Redirects.none taggedFilter = .ok compiled ∧ Grammatical taggedFilter ∧
      compiled.clauses.length = 2 := by
  obtain ⟨haccepted, hlength⟩ := compile_grammar Redirects.none taggedFilter
  have hcompile : compile Redirects.none taggedFilter =
      .ok ⟨[(["author", "name"], .equal (.string "x")),
        (["tags"], .someElement [([], .unequal (.string "y"))])]⟩ := rfl
  exact ⟨_, hcompile, haccepted.mp ⟨_, hcompile⟩, hlength _ hcompile⟩

end Filter

end TypedStore
