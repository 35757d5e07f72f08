import TypedStore.Proofs.Index.Key

/-!
# What a path reaches

A path goes on into every element of an array unless it names a position there, so it can
reach several values. This file lists them in the order of the document. The value that is
found at the path is the one value that is reached, or, once the path has fanned out, the
array of all of them, where arrays give their own items. A test of single values is put to
what is found at a path; it comes to the same to ask whether a value that is reached, or an
item of one, passes.
-/

namespace TypedStore

namespace Json

mutual

/-- All values that a path reaches, in the order of the document. -/
def reached : Json → Path → List Json
  | value, [] => [value]
  | object members, name :: rest => reachedInMember members name rest
  | array items, segment :: rest =>
      match Path.position? segment with
      | some position => reachedInItem items position rest
      | none => reachedInItems items (segment :: rest)
  | _, _ :: _ => []

/-- The values that a path reaches below the member with a given name. -/
def reachedInMember : List (String × Json) → String → Path → List Json
  | [], _, _ => []
  | (key, value) :: more, name, rest =>
      if key = name then reached value rest else reachedInMember more name rest

/-- The values that a path reaches below the item at a position. -/
def reachedInItem : List Json → Nat → Path → List Json
  | [], _, _ => []
  | item :: _, 0, rest => reached item rest
  | _ :: items, position + 1, rest => reachedInItem items position rest

/-- The values that a path reaches from all items, one item after the other. -/
def reachedInItems : List Json → Path → List Json
  | [], _ => []
  | item :: items, path => reached item path ++ reachedInItems items path

end

/-- On its way down a value a path meets an array without naming a position there. -/
inductive FansOut : Json → Path → Prop
  | here {items : List Json} {segment : String} {rest : Path}
      (unnamed : Path.position? segment = none) : FansOut (array items) (segment :: rest)
  | member {members : List (String × Json)} {name : String} {rest : Path} {value : Json}
      (found : Entries.get? name members = some value) (below : FansOut value rest) :
      FansOut (object members) (name :: rest)
  | item {items : List Json} {segment : String} {position : Nat} {rest : Path} {item : Json}
      (named : Path.position? segment = some position) (found : items[position]? = some item)
      (below : FansOut item rest) : FansOut (array items) (segment :: rest)

/-- The items of an array; any other value stands for itself. -/
def spread : Json → List Json
  | array items => items
  | leaf => [leaf]

variable {value : Json} {path : Path}

@[simp] theorem reached_nil (value : Json) : value.reached [] = [value] := by
  cases value <;> simp [reached]

theorem reachedInMember_eq (members : List (String × Json)) (name : String) (rest : Path) :
    reachedInMember members name rest =
      (Entries.get? name members).toList.flatMap fun value => reached value rest := by
  induction members with
  | nil => simp [reachedInMember, Entries.get?]
  | cons entry more ih =>
    obtain ⟨key, value⟩ := entry
    by_cases h : key = name <;> simp [reachedInMember, Entries.get?, h, ih]

theorem reachedInItem_eq (items : List Json) (position : Nat) (rest : Path) :
    reachedInItem items position rest =
      items[position]?.toList.flatMap fun item => reached item rest := by
  induction items generalizing position with
  | nil => simp [reachedInItem]
  | cons item items ih => cases position <;> simp [reachedInItem, ih]

/-- What was found gives its items, if it is an array, or else itself. -/
theorem gathered_eq (found : Option Json) : gathered found = found.toList.flatMap spread := by
  cases found with
  | none => rfl
  | some value => cases value <;> simp [gathered, spread]

/-- What was gathered is an array of just that. -/
@[simp] theorem gathered_ofGathered (items : List Json) : gathered (ofGathered items) = items := by
  cases items <;> rfl

mutual

/-- What is found at a path gives the items of all values that the path reaches. -/
theorem gathered_at? : ∀ (value : Json) (path : Path),
    gathered (value.at? path) = (value.reached path).flatMap spread
  | value, [] => by simp [gathered_eq]
  | object members, name :: rest => by
    rw [at?, reached, gathered_memberAt?]
  | array items, segment :: rest => by
    rw [at?, reached]
    cases Path.position? segment with
    | some position => exact gathered_itemAt? items position rest
    | none => simp only [gathered_ofGathered, gather_eq_flatMap items]
  | null, _ :: _ | bool _, _ :: _ | number _, _ :: _ | string _, _ :: _ => by
    simp [at?, reached, gathered]

theorem gathered_memberAt? : ∀ (members : List (String × Json)) (name : String) (rest : Path),
    gathered (memberAt? members name rest) =
      (reachedInMember members name rest).flatMap spread
  | [], _, _ => by simp [memberAt?, reachedInMember, gathered]
  | (key, value) :: more, name, rest => by
    by_cases h : key = name
    · simp only [memberAt?, reachedInMember, if_pos h, gathered_at? value]
    · simp only [memberAt?, reachedInMember, if_neg h, gathered_memberAt? more]

theorem gathered_itemAt? : ∀ (items : List Json) (position : Nat) (rest : Path),
    gathered (itemAt? items position rest) =
      (reachedInItem items position rest).flatMap spread
  | [], _, _ => by simp [itemAt?, reachedInItem, gathered]
  | item :: _, 0, rest => by simp only [itemAt?, reachedInItem, gathered_at? item]
  | _ :: items, position + 1, rest => by
    simp only [itemAt?, reachedInItem, gathered_itemAt? items]

/-- What is gathered from the items of an array are the items of what is reached from them. An
array that comes of a fan-out further down is opened like any other, and that loses nothing. -/
theorem gather_eq_flatMap : ∀ (items : List Json) (path : Path),
    gather items path = (reachedInItems items path).flatMap spread
  | [], _ => by simp [gather, reachedInItems]
  | item :: items, path => by
    simp only [gather, reachedInItems, List.flatMap_append, gathered_at? item,
      gather_eq_flatMap items]

end

/-- A path that fans out finds the array of the items of all that it reaches. -/
theorem FansOut.at?_eq (h : FansOut value path) :
    value.at? path = ofGathered ((value.reached path).flatMap spread) := by
  induction h with
  | here unnamed => simp only [at?, reached, unnamed, gather_eq_flatMap]
  | member found _ ih => simpa [at?, reached, memberAt?_eq, reachedInMember_eq, found] using ih
  | item named found _ ih =>
    simpa [at?, reached, named, itemAt?_eq, reachedInItem_eq, found] using ih

/-- A path that does not fan out reaches what it finds and nothing else. -/
theorem reached_eq_of_not_fansOut (h : ¬FansOut value path) :
    value.reached path = (value.at? path).toList := by
  induction path generalizing value with
  | nil => simp
  | cons segment rest ih =>
    cases value with
    | null | bool | number | string => simp [at?, reached]
    | object members =>
      rw [at?, reached, memberAt?_eq, reachedInMember_eq]
      cases hfound : Entries.get? segment members with
      | none => rfl
      | some value => simpa using ih fun below => h (.member hfound below)
    | array items =>
      cases hposition : Path.position? segment with
      | none => exact absurd (.here hposition) h
      | some position =>
        simp only [at?, reached, hposition, itemAt?_eq, reachedInItem_eq]
        cases hfound : items[position]? with
        | none => rfl
        | some item => simpa using ih fun below => h (.item hposition hfound below)

/-- Nothing is found at a path exactly if it reaches nothing, or if it fans out and reaches empty
arrays only. -/
theorem at?_eq_none_iff :
    value.at? path = none ↔ value.reached path = [] ∨
      FansOut value path ∧ ∀ leaf ∈ value.reached path, leaf = array [] := by
  by_cases h : FansOut value path
  · have hspread (leaf : Json) : leaf.spread = [] ↔ leaf = array [] := by
      cases leaf <;> simp [spread]
    have hnone (items : List Json) : ofGathered items = none ↔ items = [] := by
      cases items <;> simp [ofGathered]
    simp only [h.at?_eq, hnone, List.flatMap_eq_nil_iff, hspread, h, true_and]
    constructor
    · exact Or.inr
    · rintro (hnil | hempty)
      · simp [hnil]
      · exact hempty
  · simp [reached_eq_of_not_fansOut h, h]

/-- A test of an array passes if it passes for an item. -/
theorem anyValue_eq (test : Json → Bool) (found : Option Json) :
    anyValue test found = (gathered found).any test := by
  cases found with
  | none => rfl
  | some value => cases value <;> simp [anyValue, gathered]

end Json

namespace Condition

open Json

/-- The test of single values that a condition makes, if it asks for a value equal to a scalar,
on a side of a limit or of a pattern. -/
def test? : Condition → Option (Json → Bool)
  | .equal expected => if expected.isScalar then some (agrees · expected) else none
  | .bound side limit => some (inBound side · limit)
  | .regex matcher => some (isText matcher)
  | .glob matcher => some (isText matcher)
  | _ => none

variable {condition : Condition} {test : Json → Bool}

/-- Arrays pass no test of single values. -/
theorem test_array (h : condition.test? = some test) (items : List Json) :
    test (array items) = false := by
  cases condition with
  | equal expected =>
    obtain ⟨hscalar, htest⟩ := Option.ite_none_right_eq_some.mp h
    obtain rfl := Option.some.inj htest
    obtain ⟨key, hkey⟩ := IndexKey.exists_ofJson?_of_isScalar hscalar
    rw [← Bool.not_eq_true, IndexKey.agrees_iff hkey]
    simp [IndexKey.ofJson?]
  | bound | regex | glob =>
    obtain rfl := Option.some.inj h
    rfl
  | unequal | oneOf | noneOf | someElement => simp [test?] at h

/-- A condition that makes a test of single values puts it to a value or to the items of an
array. -/
theorem holds_eq_anyValue (h : condition.test? = some test) (found : Option Json) :
    condition.holds found = anyValue test found := by
  cases condition with
  | equal expected =>
    have harray := test_array h
    obtain ⟨hscalar, htest⟩ := Option.ite_none_right_eq_some.mp h
    obtain rfl := Option.some.inj htest
    obtain ⟨key, hkey⟩ := IndexKey.exists_ofJson?_of_isScalar hscalar
    cases found with
    | none => exact IndexKey.equals_none hkey
    | some value =>
      cases value with
      | array items => simp [holds, equals, anyValue, harray]
      | null | bool | number | string | object => simp [holds, equals, anyValue]
  | bound | regex | glob =>
    obtain rfl := Option.some.inj h
    simp [holds]
  | unequal | oneOf | noneOf | someElement => simp [test?] at h

end Condition

namespace Json

/-- Paths through arrays ask whether there is a value. A condition that makes a test of single
values holds of what is found at a path exactly if a value that is reached, or an item of an
array that is reached, passes the test. Nothing is found exactly if nothing is reached, or if the
path fans out and reaches empty arrays only. Without a fan-out, what is found is the one value
that is reached; after one, it is the array of all values that are reached, in order, where each
array gives its items instead of itself. -/
theorem at?_reached (value : Json) (path : Path) :
    (∀ condition test, Condition.test? condition = some test →
      (condition.holds (value.at? path) = true ↔
        ∃ leaf ∈ value.reached path,
          test leaf = true ∨ ∃ items, leaf = array items ∧ ∃ item ∈ items, test item = true)) ∧
    (value.at? path = none ↔ value.reached path = [] ∨
      FansOut value path ∧ ∀ leaf ∈ value.reached path, leaf = array []) ∧
    (∀ found, value.at? path = some found →
      (¬FansOut value path → value.reached path = [found]) ∧
      (FansOut value path → found = array ((value.reached path).flatMap spread))) := by
  refine ⟨fun condition test htest => ?_, at?_eq_none_iff, fun found hfound => ⟨?_, ?_⟩⟩
  · -- An array that is reached fails the test itself, so only its items can pass.
    have hleaf (leaf : Json) : (∃ item ∈ leaf.spread, test item = true) ↔
        test leaf = true ∨ ∃ items, leaf = array items ∧ ∃ item ∈ items, test item = true := by
      cases leaf <;> simp [spread, Condition.test_array htest]
    simp only [Condition.holds_eq_anyValue htest, anyValue_eq, gathered_at?, List.any_eq_true,
      List.mem_flatMap, ← hleaf]
    constructor
    · rintro ⟨item, ⟨leaf, hreached, hitem⟩, hpasses⟩
      exact ⟨leaf, hreached, item, hitem, hpasses⟩
    · rintro ⟨leaf, hreached, item, hitem, hpasses⟩
      exact ⟨item, ⟨leaf, hreached, hitem⟩, hpasses⟩
  · intro h
    simp [reached_eq_of_not_fansOut h, hfound]
  · intro h
    rw [h.at?_eq] at hfound
    cases hitems : (value.reached path).flatMap spread with
    | nil => simp [hitems, ofGathered] at hfound
    | cons first rest => simpa [hitems, ofGathered] using hfound.symm

/-- An array in an array is opened once, however deep the fan-out that leads to it. -/
example :
    (array [object [("tags", array [array [bool true], array []])],
      object [("tags", bool false)]]).at? ["tags"] =
      some (array [array [bool true], array [], bool false]) := by
  rfl

end Json

end TypedStore
