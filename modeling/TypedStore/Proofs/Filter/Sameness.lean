import TypedStore.Pattern.Dialect
import TypedStore.Filter.Compile
import TypedStore.Proofs.Filter.Range
import TypedStore.Proofs.Index.Key
import TypedStore.Proofs.Json.Correspondence

/-!
# Sameness of values

A filter finds two numbers the same if they have one key, but numbers within arrays and objects
only if they are also written alike, both as integers or both as doubles. So sameness is an
equivalence of values, and it goes by the parts of a value except for how their numbers are
written. Equality with an array or an object is the one condition that notices this.
-/

namespace TypedStore

namespace Number

variable {m n k : Number}

theorem same_trans (h : m.same n = true) (h' : n.same k = true) : m.same k = true := by
  cases m <;> cases n <;> cases k <;> simp_all [same, Double.same]

/-- Numbers of one representation and value have one key. -/
theorem ofNumber_eq_of_same (h : m.same n = true) : IndexKey.ofNumber m = IndexKey.ofNumber n := by
  have hquantity : m.quantity = n.quantity := by
    cases m <;> cases n <;> simp_all [same, Double.same, quantity]
  rw [IndexKey.ofNumber_eq_ofNumber_iff, keyed_eq_keyed_iff]
  exact ⟨scaled_toDouble_of_quantity_eq hquantity, Or.inl hquantity⟩

/-- All numbers with the key of a number are the same number in the same representation. -/
def OneSpelling (m : Number) : Prop :=
  ∀ n, IndexKey.ofNumber n = IndexKey.ofNumber m → n.same m = true

/-- Numbers with one key lie on the same side of every limit. -/
theorem compare_eq_of_ofNumber_eq (h : IndexKey.ofNumber m = IndexKey.ofNumber n)
    (limit : Number) : m.compare limit = n.compare limit := by
  rw [IndexKey.ofNumber_eq_ofNumber_iff, keyed_eq_keyed_iff] at h
  simp only [compare, Double.compare, h.1]

end Number

namespace Json

variable {a b c : Json}

/-- Two values that are both numbers are the same number in the same representation. -/
def SpelledAlike (a b : Json) : Prop :=
  ∀ m n, a = number m → b = number n → m.same n = true

/-- The numbers within a value, other than itself. -/
def innerNumbers : Json → List Number
  | number _ => []
  | value => value.numbersIn

theorem innerNumbers_eq (h : ∀ n, a ≠ number n) : a.innerNumbers = a.numbersIn := by
  cases a with
  | number n => exact absurd rfl (h n)
  | null | bool | string | array | object => rfl

/-- Values other than two numbers agree exactly if they are the same. -/
theorem agrees_eq_same (h : ∀ m n, a = number m → b ≠ number n) : a.agrees b = a.same b := by
  unfold agrees
  split
  · exact absurd rfl (h _ _ rfl)
  · rfl

/-- Values are the same exactly if they agree and are not two spellings of one number. -/
theorem same_iff_agrees : a.same b = true ↔ a.agrees b = true ∧ SpelledAlike a b := by
  by_cases h : ∀ m n, a = number m → b ≠ number n
  · have hspelled : SpelledAlike a b := fun m n ha hb => absurd hb (h m n ha)
    rw [agrees_eq_same h, and_iff_left hspelled]
  · push Not at h
    obtain ⟨m, n, rfl, rfl⟩ := h
    rw [same, agrees, decide_eq_true_iff]
    constructor
    · intro hsame
      refine ⟨Number.ofNumber_eq_of_same hsame, ?_⟩
      rintro _ _ ⟨⟩ ⟨⟩
      exact hsame
    · exact fun h => h.2 m n rfl rfl

/-- Values that agree correspond, with numbers that have one key. -/
theorem corresponding_of_agrees (h : a.agrees b = true) :
    Corresponding (fun m n => IndexKey.ofNumber m = IndexKey.ofNumber n) a b := by
  by_cases hnumbers : ∀ m n, a = number m → b ≠ number n
  · rw [agrees_eq_same hnumbers, same_iff] at h
    exact h.imp fun _ _ => Number.ofNumber_eq_of_same
  · push Not at hnumbers
    obtain ⟨m, n, rfl, rfl⟩ := hnumbers
    exact .number (by simpa [agrees] using h)

theorem same_refl (a : Json) : a.same a = true := same_iff.mpr (.refl Number.same_refl a)

theorem same_symm (h : a.same b = true) : b.same a = true := by
  rw [same_iff] at h ⊢
  exact h.symm fun m n hsame => by rwa [Number.same_comm]

theorem same_trans (h : a.same b = true) (h' : b.same c = true) : a.same c = true := by
  rw [same_iff] at h h' ⊢
  refine h.trans ?_ h'
  exact fun _ _ _ => Number.same_trans

theorem agrees_refl (a : Json) : a.agrees a = true := (same_iff_agrees.mp (same_refl a)).1

theorem agrees_symm (h : a.agrees b = true) : b.agrees a = true := by
  cases hkey : IndexKey.ofJson? b with
  | some key =>
    have ha : IndexKey.ofJson? a = some key := (IndexKey.agrees_iff hkey).mp h
    exact (IndexKey.agrees_iff ha).mpr hkey
  | none =>
    have hb (n : Number) : b ≠ number n := by
      rintro rfl
      contradiction
    rw [agrees_eq_same fun _ n _ => hb n] at h
    rw [agrees_eq_same fun m _ hm => absurd hm (hb m)]
    exact same_symm h

theorem agrees_trans (h : a.agrees b = true) (h' : b.agrees c = true) : a.agrees c = true := by
  cases hkey : IndexKey.ofJson? c with
  | some key =>
    have hb : IndexKey.ofJson? b = some key := (IndexKey.agrees_iff hkey).mp h'
    have ha : IndexKey.ofJson? a = some key := (IndexKey.agrees_iff hb).mp h
    exact (IndexKey.agrees_iff hkey).mpr ha
  | none =>
    have hc (n : Number) : c ≠ number n := by
      rintro rfl
      contradiction
    rw [agrees_eq_same fun _ n _ => hc n] at h' ⊢
    have hb (n : Number) : b ≠ number n := by
      rintro rfl
      cases c <;> simp_all [same]
    rw [agrees_eq_same fun _ n _ => hb n] at h
    exact same_trans h h'

/-- Corresponding with the same numbers is agreeing without two spellings of one number. -/
theorem corresponding_eq_agrees : Corresponding (fun m n => m.same n = true) =
    fun a b : Json => a.agrees b = true ∧ SpelledAlike a b :=
  funext₂ fun _ _ => propext (same_iff.symm.trans same_iff_agrees)

/-- Arrays agree exactly if they agree item by item and no two items are spellings of one
number. -/
theorem agrees_array_iff {as bs : List Json} : (array as).agrees (array bs) = true ↔
    List.Forall₂ (fun a b => a.agrees b = true ∧ SpelledAlike a b) as bs := by
  rw [agrees_eq_same (by simp), same_iff, Corresponding.array_iff, corresponding_eq_agrees]

/-- Objects agree exactly if they have the same names, their values agree name by name, and no two
values of one name are spellings of one number. -/
theorem agrees_object_iff {as bs : Dict Json} :
    (object as.entries).agrees (object bs.entries) = true ↔
      ∀ name, Option.Rel (fun a b => a.agrees b = true ∧ SpelledAlike a b)
        (as.get? name) (bs.get? name) := by
  rw [agrees_eq_same (by simp), same_iff, Corresponding.object_iff, corresponding_eq_agrees]
  exact Entries.forall₂_iff_get? (R := fun a b : Json => a.agrees b = true ∧ SpelledAlike a b)
    as.sorted bs.sorted

/-- Tests that agree on related items agree on related lists of them. -/
theorem any_eq_any {R : Json → Json → Prop} {as bs : List Json} (items : List.Forall₂ R as bs)
    {test other : Json → Bool} (h : ∀ a b, R a b → test a = other b) :
    as.any test = bs.any other := by
  induction items with
  | nil => rfl
  | cons hhead _ ih => rw [List.any_cons, List.any_cons, h _ _ hhead, ih]

/-- Values that agree are both equal to an expected value or neither is. -/
theorem equals_congr {expected other : Json} (h : a.agrees b = true)
    (hexpected : expected.agrees other = true) :
    equals (some a) expected = equals (some b) other := by
  have hagrees {a b : Json} (h : a.agrees b = true) : a.agrees expected = b.agrees other := by
    rw [Bool.eq_iff_iff]
    constructor
    · exact fun hequal => agrees_trans (agrees_symm h) (agrees_trans hequal hexpected)
    · exact fun hequal => agrees_trans h (agrees_trans hequal (agrees_symm hexpected))
  have hcorresponding := corresponding_of_agrees h
  cases hcorresponding with
  | array length items =>
    rw [agrees_array_iff] at h
    simp only [equals, hagrees (agrees_array_iff.mpr h)]
    rw [any_eq_any h fun a b h => hagrees h.1]
  | null | bool | number | string | object => exact hagrees h

end Json

mutual

/-- The values that a condition compares with for equality. -/
def Condition.operands : Condition → List Json
  | .equal expected | .unequal expected => [expected]
  | .oneOf options | .noneOf options => options
  | .someElement clauses => clauseOperands clauses
  | .bound _ _ | .regex _ | .glob _ => []

/-- The values that some clauses compare with for equality. -/
def clauseOperands : List (Path × Condition) → List Json
  | [] => []
  | (_, condition) :: rest => condition.operands ++ clauseOperands rest

end

/-- The bodies and the overlays of two stamped nodes differ at most in their numbers, which are
related. -/
structure StampedNode.Corresponding (numbers : Number → Number → Prop) (a b : StampedNode) :
    Prop where
  body : Json.Corresponding numbers (.object a.node.body.entries) (.object b.node.body.entries)
  overlay : Option.Rel (Json.Corresponding numbers) a.overlay b.overlay

namespace Filter

open Json

variable {numbers : Number → Number → Prop}

/-- The values that a filter compares with for equality. -/
def operands (filter : Filter) : List Json := clauseOperands filter.clauses

/-- Comparing with an expected value does not tell corresponding values apart. -/
def Indifferent (numbers : Number → Number → Prop) (expected : Json) : Prop :=
  ∀ a b, Corresponding numbers a b → a.agrees expected = b.agrees expected

theorem equals_of_indifferent {expected : Json} (h : Indifferent numbers expected)
    {found other : Option Json} (hfound : Option.Rel (Corresponding numbers) found other) :
    equals found expected = equals other expected := by
  cases hfound with
  | none => rfl
  | some hvalues =>
    have hagrees := h _ _ hvalues
    cases hvalues with
    | array length items =>
      have hitems := Corresponding.array_iff.mp (.array length items)
      simp only [equals, hagrees]
      rw [any_eq_any hitems h]
    | null | bool | number | string | object => exact hagrees

/-- Comparing with one of some indifferent values does not tell corresponding values apart. -/
theorem any_equals_congr {options : List Json} (h : ∀ option ∈ options, Indifferent numbers option)
    {found other : Option Json} (hfound : Option.Rel (Corresponding numbers) found other) :
    (options.any fun option => equals found option) =
      options.any fun option => equals other option := by
  have hoption (option : Json) (hmem : option ∈ options) :
      equals found option = equals other option := equals_of_indifferent (h option hmem) hfound
  rw [Bool.eq_iff_iff, List.any_eq_true, List.any_eq_true]
  exact exists_congr fun option => and_congr_right fun hmem => by rw [hoption option hmem]

/-- A test that does not tell corresponding values apart does not tell them apart on one element of
an array either. -/
theorem anyValue_congr {test : Json → Bool}
    (h : ∀ a b, Corresponding numbers a b → test a = test b) {found other : Option Json}
    (hfound : Option.Rel (Corresponding numbers) found other) :
    anyValue test found = anyValue test other := by
  cases hfound with
  | none => rfl
  | some hvalues =>
    have htest := h _ _ hvalues
    cases hvalues with
    | array length items =>
      have hitems := Corresponding.array_iff.mp (.array length items)
      exact any_eq_any hitems h
    | null | bool | number | string | object => exact htest

/-- Numbers with one key lie on the same side of a limit. -/
theorem inBound_congr (hkeys : ∀ m n, numbers m n → IndexKey.ofNumber m = IndexKey.ofNumber n)
    (side : Bound) (limit : Json) {a b : Json} (h : Corresponding numbers a b) :
    inBound side a limit = inBound side b limit := by
  cases h with
  | number related =>
    cases limit with
    | number limit =>
      rw [inBound_number, inBound_number, Number.compare_eq_of_ofNumber_eq (hkeys _ _ related)]
    | null | bool | string | array | object => rfl
  | null | bool | string => rfl
  | array | object => cases limit <;> rfl

/-- A test of texts does not tell corresponding values apart. -/
theorem isText_congr (test : String → Bool) {a b : Json} (h : Corresponding numbers a b) :
    isText test a = isText test b := by
  cases h <;> rfl

mutual

/-- A condition that compares with indifferent values alone does not tell corresponding values
apart. -/
theorem holds_congr (hkeys : ∀ m n, numbers m n → IndexKey.ofNumber m = IndexKey.ofNumber n) :
    ∀ condition : Condition, (∀ expected ∈ condition.operands, Indifferent numbers expected) →
      ∀ found other, Option.Rel (Corresponding numbers) found other →
        condition.holds found = condition.holds other
  | .equal expected, hoperands, found, other, h => by
    have hexpected := hoperands expected (List.mem_singleton_self _)
    rw [Condition.holds, Condition.holds, equals_of_indifferent hexpected h]
  | .unequal expected, hoperands, found, other, h => by
    have hexpected := hoperands expected (List.mem_singleton_self _)
    rw [Condition.holds, Condition.holds, equals_of_indifferent hexpected h]
  | .oneOf options, hoperands, found, other, h => by
    have hoptions : ∀ option ∈ options, Indifferent numbers option := hoperands
    rw [Condition.holds, Condition.holds, any_equals_congr hoptions h]
  | .noneOf options, hoperands, found, other, h => by
    have hoptions : ∀ option ∈ options, Indifferent numbers option := hoperands
    rw [Condition.holds, Condition.holds, any_equals_congr hoptions h]
  | .bound side limit, _, found, other, h => by
    rw [Condition.holds, Condition.holds]
    exact anyValue_congr (fun _ _ h => inBound_congr hkeys side limit h) h
  | .regex matcher, _, found, other, h => by
    rw [Condition.holds, Condition.holds]
    exact anyValue_congr (fun _ _ h => isText_congr matcher h) h
  | .glob matcher, _, found, other, h => by
    rw [Condition.holds, Condition.holds]
    exact anyValue_congr (fun _ _ h => isText_congr matcher h) h
  | .someElement clauses, hoperands, found, other, h => by
    have hitem {a b : Json} (h : Corresponding numbers a b) :
        clausesHold clauses a.at? = clausesHold clauses b.at? :=
      clausesHold_congr hkeys clauses hoperands _ _ fun path => h.at? path
    cases h with
    | none => rfl
    | some hvalues =>
      cases hvalues with
      | array length items =>
        have hitems := Corresponding.array_iff.mp (.array length items)
        simp only [Condition.holds]
        exact any_eq_any hitems fun _ _ h => hitem h
      | null | bool | number | string | object => rfl

/-- Clauses that compare with indifferent values alone do not tell apart views that find
corresponding values at every path. -/
theorem clausesHold_congr
    (hkeys : ∀ m n, numbers m n → IndexKey.ofNumber m = IndexKey.ofNumber n) :
    ∀ clauses : List (Path × Condition),
      (∀ expected ∈ clauseOperands clauses, Indifferent numbers expected) →
      ∀ view other : Path → Option Json,
        (∀ path, Option.Rel (Corresponding numbers) (view path) (other path)) →
        clausesHold clauses view = clausesHold clauses other
  | [], _, _, _, _ => rfl
  | (path, condition) :: rest, hoperands, view, other, h => by
    have hcondition : condition.holds (view path) = condition.holds (other path) :=
      holds_congr hkeys condition
        (fun expected hmem => hoperands expected (List.mem_append_left _ hmem)) _ _ (h path)
    have hrest : clausesHold rest view = clausesHold rest other :=
      clausesHold_congr hkeys rest
        (fun expected hmem => hoperands expected (List.mem_append_right _ hmem)) _ _ h
    rw [clausesHold, clausesHold, hcondition, hrest]

end

end Filter

namespace StampedNode.Corresponding

variable {numbers : Number → Number → Prop} {a b : StampedNode}

/-- A path leads to corresponding places of corresponding stamped nodes. -/
theorem at? (h : StampedNode.Corresponding numbers a b) (path : Path) :
    Option.Rel (Json.Corresponding numbers) (a.at? path) (b.at? path) := by
  cases path with
  | nil => exact .none
  | cons name rest =>
    rw [StampedNode.at?, StampedNode.at?]
    split
    · exact Json.Corresponding.rel_bind h.overlay fun _ _ hvalues => hvalues.at? rest
    · have hmembers := Json.Corresponding.object_iff.mp h.body
      have hmember := Entries.rel_get? hmembers name
      exact Json.Corresponding.rel_bind hmember fun _ _ hvalues => hvalues.at? rest

end StampedNode.Corresponding

namespace Filter

open Json

variable {numbers : Number → Number → Prop} {filter : Filter} {a b : StampedNode}

/-- A filter that compares with indifferent values alone does not tell corresponding nodes
apart. -/
theorem matchesNode_congr
    (hkeys : ∀ m n, numbers m n → IndexKey.ofNumber m = IndexKey.ofNumber n)
    (hoperands : ∀ expected ∈ filter.operands, Indifferent numbers expected)
    (h : StampedNode.Corresponding numbers a b) : filter.matchesNode a = filter.matchesNode b :=
  clausesHold_congr hkeys filter.clauses hoperands a.at? b.at? h.at?

/-- Comparing with any value does not tell apart values with the same numbers. -/
theorem indifferent_same (expected : Json) :
    Indifferent (fun m n => m.same n = true) expected := by
  intro a b h
  have hagrees : a.agrees b = true := (same_iff_agrees.mp (same_iff.mpr h)).1
  rw [Bool.eq_iff_iff]
  constructor
  · exact agrees_trans (agrees_symm hagrees)
  · exact agrees_trans hagrees

/-- A value whose numbers have the keys of those in an expected value, which within arrays and
objects have one spelling, agrees with the expected value. -/
theorem agrees_of_corresponding {expected : Json}
    (hspelling : ∀ m ∈ expected.innerNumbers, m.OneSpelling)
    (h : Corresponding (fun m n => IndexKey.ofNumber m = IndexKey.ofNumber n) value expected) :
    value.agrees expected = true := by
  by_cases hnumber : ∃ n, expected = number n
  · obtain ⟨n, rfl⟩ := hnumber
    cases h with
    | number related => simpa [agrees] using related
  · rw [not_exists] at hnumber
    rw [innerNumbers_eq hnumber] at hspelling
    rw [agrees_eq_same fun _ n _ => hnumber n, same_iff]
    exact h.imp_right fun n hn m hkey => hspelling n hn m hkey

/-- Comparing with a value does not notice how numbers are written exactly if all numbers within
it, other than itself, have one spelling. -/
theorem indifferent_key_iff {expected : Json} :
    Indifferent (fun m n => IndexKey.ofNumber m = IndexKey.ofNumber n) expected ↔
      ∀ m ∈ expected.innerNumbers, m.OneSpelling := by
  constructor
  · intro h m hm n hkey
    have hnumber (k : Number) : expected ≠ number k := by
      rintro rfl
      simp [innerNumbers] at hm
    rw [innerNumbers_eq hnumber] at hm
    -- The number is replaced in all places by another one with its key.
    obtain ⟨value, hreplaced⟩ := Corresponding.exists_replaced (Function.update id m n) expected
    have hkeys : Corresponding (fun m n => IndexKey.ofNumber m = IndexKey.ofNumber n)
        expected value := by
      refine hreplaced.imp ?_
      rintro k _ rfl
      by_cases hk : k = m
      · simp [hk, hkey]
      · simp [hk]
    have hagrees : value.agrees expected = true := by rw [← h _ _ hkeys, agrees_refl]
    rw [agrees_eq_same fun _ n _ => hnumber n, same_iff] at hagrees
    have hsame : Corresponding (fun k l => (Function.update id m n k).same l = true)
        expected expected := by
      refine hreplaced.trans ?_ hagrees
      rintro k _ l rfl hsame
      exact hsame
    have hm := List.forall₂_same.mp hsame.forall₂_numbersIn m hm
    simpa using hm
  · intro hspelling a b h
    have hsymm := h.symm fun _ _ => Eq.symm
    have hright {a b : Json}
        (h : Corresponding (fun m n => IndexKey.ofNumber m = IndexKey.ofNumber n) b a)
        (ha : a.agrees expected = true) : b.agrees expected = true := by
      apply agrees_of_corresponding hspelling
      refine h.trans ?_ (corresponding_of_agrees ha)
      exact fun _ _ _ => Eq.trans
    rw [Bool.eq_iff_iff]
    exact ⟨hright hsymm, hright h⟩

/-- No filter tells apart nodes with the same numbers in the same representation. -/
theorem matchesNode_eq_of_same (filter : Filter)
    (h : StampedNode.Corresponding (fun m n => m.same n = true) a b) :
    filter.matchesNode a = filter.matchesNode b :=
  matchesNode_congr (fun _ _ => Number.ofNumber_eq_of_same)
    (fun expected _ => indifferent_same expected) h

/-- Values agree with a value by what their numbers are, not by how these are written: agreement is
an equivalence that equality respects, goes by the parts of arrays and objects, and stays when
numbers within a value are written otherwise. -/
structure ComparedByValue (value : Json) : Prop where
  refl : value.agrees value = true
  symm : ∀ a : Json, a.agrees value = true → value.agrees a = true
  trans : ∀ a b : Json, a.agrees b = true → b.agrees value = true → a.agrees value = true
  equal : ∀ a b : Json, a.agrees b = true → equals (some a) value = equals (some b) value
  array : ∀ items others, value = array items → ((array others).agrees value = true ↔
    List.Forall₂ (fun a b => a.agrees b = true) others items)
  object : ∀ members others : Dict Json, value = object members.entries →
    ((object others.entries).agrees value = true ↔
      ∀ name, Option.Rel (fun a b => a.agrees b = true) (others.get? name) (members.get? name))
  respelled : ∀ a b, Corresponding (fun m n => IndexKey.ofNumber m = IndexKey.ofNumber n) a b →
    a.agrees value = b.agrees value

/-- A filter compares by value: with each of its operands, and so it does not tell apart nodes in
which numbers are written otherwise. -/
structure ComparesByValue (filter : Filter) : Prop where
  operands : ∀ expected ∈ filter.operands, ComparedByValue expected
  nodes : ∀ a b : StampedNode,
    StampedNode.Corresponding (fun m n => IndexKey.ofNumber m = IndexKey.ofNumber n) a b →
    filter.matchesNode a = filter.matchesNode b

/-- Agreement goes by the parts of a value if the numbers within it have one spelling. -/
theorem comparedByValue_of_oneSpelling {value : Json}
    (hspelling : ∀ m ∈ value.innerNumbers, m.OneSpelling) : ComparedByValue value where
  refl := agrees_refl value
  symm := fun _ => agrees_symm
  trans := fun _ _ => agrees_trans
  equal := fun _ _ h => equals_congr h (agrees_refl value)
  array := by
    rintro items others rfl
    constructor
    · intro h
      exact (agrees_array_iff.mp h).imp fun _ _ hitem => hitem.1
    · intro h
      apply agrees_of_corresponding hspelling
      exact Corresponding.array_iff.mpr (h.imp fun _ _ => corresponding_of_agrees)
  object := by
    rintro members others rfl
    constructor
    · intro h name
      have hname := agrees_object_iff.mp h name
      generalize others.get? name = found at hname ⊢
      generalize members.get? name = expected at hname ⊢
      cases hname with
      | none => exact .none
      | some hvalues => exact .some hvalues.1
    · intro h
      have hmembers := (Entries.forall₂_iff_get? (R := fun a b : Json => a.agrees b = true)
        others.sorted members.sorted).mpr h
      apply agrees_of_corresponding hspelling
      exact Corresponding.object_iff.mpr (hmembers.imp fun _ _ hmember =>
        ⟨hmember.1, corresponding_of_agrees hmember.2⟩)
  respelled := indifferent_key_iff.mpr hspelling

/-- A filter compares by value exactly if all numbers within its operands, other than the operands
themselves, have one spelling. -/
theorem comparesByValue_iff (filter : Filter) : ComparesByValue filter ↔
    ∀ expected ∈ filter.operands, ∀ m ∈ expected.innerNumbers, m.OneSpelling := by
  constructor
  · intro h expected hmem
    exact indifferent_key_iff.mp (h.operands expected hmem).respelled
  · intro hspelling
    refine ⟨fun expected hmem => comparedByValue_of_oneSpelling (hspelling expected hmem), ?_⟩
    intro a b h
    have hindifferent : ∀ expected ∈ filter.operands,
        Indifferent (fun m n => IndexKey.ofNumber m = IndexKey.ofNumber n) expected :=
      fun expected hmem => indifferent_key_iff.mpr (hspelling expected hmem)
    exact matchesNode_congr (fun _ _ => id) hindifferent h

/-- The integer two. -/
def twoInt : Json := number (.int 2 (by decide) (by decide))

/-- The double two. -/
def twoDouble : Json := number (.double ⟨0x4000000000000000⟩ (by decide +kernel))

/-- The filter that compares a member with the list of the integer two. -/
def isListedTwo : Filter := ⟨[(["v"], .equal (array [twoInt]))]⟩

open scoped PatternEngine

/-- Within arrays both spellings of two differ: the lists of them agree item by item, but do not
agree, and the filter lets one of them pass alone. -/
theorem not_comparesByValue_isListedTwo : ¬ComparesByValue isListedTwo ∧
    compile Redirects.none (object [("v", object [("eq", array [twoInt])])]) = .ok isListedTwo ∧
    isListedTwo.matchesValue (object [("v", array [twoInt])]) = true ∧
    isListedTwo.matchesValue (object [("v", array [twoDouble])]) = false := by
  refine ⟨fun h => ?_, rfl, by decide +kernel, by decide +kernel⟩
  have hoperand := h.operands (array [twoInt]) (List.mem_singleton_self _)
  have hitems : List.Forall₂ (fun a b : Json => a.agrees b = true) [twoDouble] [twoInt] :=
    .cons (by decide +kernel) .nil
  have hagrees := (hoperand.array [twoInt] [twoDouble] rfl).mpr hitems
  exact absurd hagrees (by decide +kernel)

end Filter

end TypedStore
