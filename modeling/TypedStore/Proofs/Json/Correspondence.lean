import Mathlib.Data.List.Forall2
import TypedStore.Path

/-!
# Values that correspond

Two values correspond if they differ at most in their numbers, and these are related pair by
pair. An equivalence of numbers makes one of values, and a path leads to corresponding places of
corresponding values. Sameness is the correspondence of values with the same numbers.
-/

namespace TypedStore

/-- Looking up one name in entries with the same names and related values gives related answers. -/
theorem Entries.rel_get? {α : Type} {R : α → α → Prop} {as bs : List (String × α)}
    (h : List.Forall₂ (fun a b => a.1 = b.1 ∧ R a.2 b.2) as bs) (name : String) :
    Option.Rel R (get? name as) (get? name bs) := by
  induction h with
  | nil => exact .none
  | @cons a b as bs hhead _ ih =>
    obtain ⟨key, value⟩ := a
    obtain ⟨other, value'⟩ := b
    obtain ⟨rfl, hvalues⟩ : key = other ∧ R value value' := hhead
    by_cases hname : key = name
    · simpa [get?, hname] using hvalues
    · simpa [get?, hname] using ih

/-- Sorted entries have the same names and related values exactly if every lookup in them gives
related answers. -/
theorem Entries.forall₂_iff_get? {α : Type} {R : α → α → Prop} {as bs : List (String × α)}
    (ha : Sorted as) (hb : Sorted bs) :
    List.Forall₂ (fun a b => a.1 = b.1 ∧ R a.2 b.2) as bs ↔
      ∀ name, Option.Rel R (get? name as) (get? name bs) := by
  constructor
  · exact rel_get?
  · intro h
    induction as generalizing bs with
    | nil =>
      cases bs with
      | nil => exact .nil
      | cons b bs =>
        have hhead := h b.1
        simp [get?] at hhead
    | cons a as ih =>
      obtain ⟨key, value⟩ := a
      obtain ⟨halt, hrest⟩ := List.pairwise_cons.mp ha
      have hmem {name : String} {cs : List (String × α)} (hfound : get? name cs ≠ none) :
          ∃ c ∈ cs, c.1 = name := by
        by_contra hnot
        exact hfound (get?_eq_none_of_forall_ne fun c hc hname => hnot ⟨c, hc, hname⟩)
      cases bs with
      | nil =>
        have hhead := h key
        simp [get?] at hhead
      | cons b bs =>
        obtain ⟨other, value'⟩ := b
        obtain ⟨hblt, hrest'⟩ := List.pairwise_cons.mp hb
        -- Each of the two first names occurs in the other list, where the first name is least.
        have hnames : key = other := by
          by_contra hne
          have hkey := h key
          have hother := h other
          simp only [get?, if_true, if_neg hne, if_neg (Ne.symm hne)] at hkey hother
          obtain ⟨c, hc, hckey⟩ : ∃ c ∈ bs, c.1 = key := hmem fun hnone => by simp [hnone] at hkey
          obtain ⟨d, hd, hdother⟩ : ∃ d ∈ as, d.1 = other :=
            hmem fun hnone => by simp [hnone] at hother
          have hlt : other < key := hckey ▸ hblt c hc
          have hgt : key < other := hdother ▸ halt d hd
          exact absurd (String.lt_trans hlt hgt) (String.lt_irrefl _)
        subst hnames
        have hhead : R value value' := by simpa [get?] using h key
        refine .cons ⟨rfl, hhead⟩ (ih hrest hrest' fun name => ?_)
        by_cases hname : key = name
        · subst hname
          have hnone {cs : List (String × α)} (hlt : ∀ c ∈ cs, key < c.1) : get? key cs = none :=
            get?_eq_none_of_forall_ne fun c hc hckey =>
              absurd (hckey ▸ hlt c hc) (String.lt_irrefl _)
          rw [hnone halt, hnone hblt]
          exact .none
        · simpa [get?, hname] using h name

/-- Where two relations make a third one, lists that are related by the first to lists that are
related by the second are related by the third. -/
theorem forall₂_trans {α β γ : Type} {P : α → β → Prop} {Q : β → γ → Prop} {R : α → γ → Prop}
    (h : ∀ a b c, P a b → Q b c → R a c) {as : List α} {bs : List β} {cs : List γ}
    (first : List.Forall₂ P as bs) (second : List.Forall₂ Q bs cs) : List.Forall₂ R as cs := by
  induction first generalizing cs with
  | nil =>
    cases second
    exact .nil
  | cons hhead _ ih =>
    cases second with
    | cons hhead' htail' => exact .cons (h _ _ _ hhead hhead') (ih htail')

namespace Json

/-- Two values differ at most in their numbers, and these are related where the values have them
at the same place. -/
inductive Corresponding (numbers : Number → Number → Prop) : Json → Json → Prop
  | null : Corresponding numbers null null
  | bool (value : Bool) : Corresponding numbers (bool value) (bool value)
  | number {m n : Number} (related : numbers m n) : Corresponding numbers (number m) (number n)
  | string (value : String) : Corresponding numbers (string value) (string value)
  | array {as bs : List Json} (length : as.length = bs.length)
      (items : ∀ pair ∈ as.zip bs, Corresponding numbers pair.1 pair.2) :
      Corresponding numbers (array as) (array bs)
  | object {as bs : List (String × Json)} (length : as.length = bs.length)
      (names : ∀ pair ∈ as.zip bs, pair.1.1 = pair.2.1)
      (values : ∀ pair ∈ as.zip bs, Corresponding numbers pair.1.2 pair.2.2) :
      Corresponding numbers (object as) (object bs)

mutual

/-- The numbers in a value, in their order. -/
def numbersIn : Json → List Number
  | number n => [n]
  | array items => numbersInItems items
  | object members => numbersInMembers members
  | _ => []

/-- The numbers in some items. -/
def numbersInItems : List Json → List Number
  | [] => []
  | item :: items => item.numbersIn ++ numbersInItems items

/-- The numbers in the values of some members. -/
def numbersInMembers : List (String × Json) → List Number
  | [] => []
  | (_, value) :: members => value.numbersIn ++ numbersInMembers members

end

theorem numbersInItems_eq (items : List Json) :
    numbersInItems items = items.flatMap numbersIn := by
  induction items with
  | nil => rfl
  | cons item items ih => rw [numbersInItems, ih, List.flatMap_cons]

theorem numbersInMembers_eq (members : List (String × Json)) :
    numbersInMembers members = members.flatMap fun member => member.2.numbersIn := by
  induction members with
  | nil => rfl
  | cons member members ih => rw [numbersInMembers, ih, List.flatMap_cons]

variable {numbers : Number → Number → Prop} {R R' : Json → Json → Prop} {a b c : Json}
  {as bs : List Json} {ms ns : List (String × Json)}

namespace Corresponding

/-- Arrays correspond item by item. -/
theorem array_iff : Corresponding numbers (.array as) (.array bs) ↔
    List.Forall₂ (Corresponding numbers) as bs := by
  rw [List.forall₂_iff_zip]
  constructor
  · rintro ⟨⟩
    rename_i length items
    exact ⟨length, fun hmem => items _ hmem⟩
  · rintro ⟨length, items⟩
    exact .array length fun pair hmem => items hmem

/-- Objects correspond member by member, and corresponding members have one name. -/
theorem object_iff : Corresponding numbers (.object ms) (.object ns) ↔
    List.Forall₂ (fun m n => m.1 = n.1 ∧ Corresponding numbers m.2 n.2) ms ns := by
  rw [List.forall₂_iff_zip]
  constructor
  · rintro ⟨⟩
    rename_i length names values
    exact ⟨length, fun hmem => ⟨names _ hmem, values _ hmem⟩⟩
  · rintro ⟨length, members⟩
    exact .object length (fun pair hmem => (members hmem).1) fun pair hmem => (members hmem).2

/-- What holds of corresponding scalars, and of arrays and objects whose parts correspond and of
whose parts it holds, holds of all corresponding values. -/
@[elab_as_elim]
theorem byParts {motive : Json → Json → Prop} (h : Corresponding numbers a b)
    (null : motive .null .null) (bool : ∀ value, motive (.bool value) (.bool value))
    (number : ∀ m n, numbers m n → motive (.number m) (.number n))
    (string : ∀ value, motive (.string value) (.string value))
    (array : ∀ as bs, List.Forall₂ (fun a b => Corresponding numbers a b ∧ motive a b) as bs →
      motive (.array as) (.array bs))
    (object : ∀ ms ns, List.Forall₂ (fun m n => m.1 = n.1 ∧ Corresponding numbers m.2 n.2 ∧
      motive m.2 n.2) ms ns → motive (.object ms) (.object ns)) : motive a b := by
  induction h with
  | null => exact null
  | bool value => exact bool value
  | number related => exact number _ _ related
  | string value => exact string value
  | array length items ih =>
    exact array _ _ (List.forall₂_iff_zip.mpr ⟨length, fun hmem => ⟨items _ hmem, ih _ hmem⟩⟩)
  | object length names values ih =>
    exact object _ _ (List.forall₂_iff_zip.mpr
      ⟨length, fun hmem => ⟨names _ hmem, values _ hmem, ih _ hmem⟩⟩)

mutual

theorem refl (hrefl : ∀ n, numbers n n) : ∀ a : Json, Corresponding numbers a a
  | .null => .null
  | .bool value => .bool value
  | .number n => .number (hrefl n)
  | .string value => .string value
  | .array items => array_iff.mpr (items_refl hrefl items)
  | .object members => object_iff.mpr (members_refl hrefl members)

theorem items_refl (hrefl : ∀ n, numbers n n) : ∀ items : List Json,
    List.Forall₂ (Corresponding numbers) items items
  | [] => .nil
  | item :: items => .cons (refl hrefl item) (items_refl hrefl items)

theorem members_refl (hrefl : ∀ n, numbers n n) : ∀ members : List (String × Json),
    List.Forall₂ (fun m n => m.1 = n.1 ∧ Corresponding numbers m.2 n.2) members members
  | [] => .nil
  | (_, value) :: members => .cons ⟨rfl, refl hrefl value⟩ (members_refl hrefl members)

end

/-- Relating more numbers, more values correspond. -/
theorem imp {others : Number → Number → Prop} (himp : ∀ m n, numbers m n → others m n)
    (h : Corresponding numbers a b) : Corresponding others a b := by
  refine h.byParts .null .bool (fun m n related => ?number) .string (fun as bs items => ?array)
    fun ms ns members => ?object
  case number => exact .number (himp m n related)
  case array => exact array_iff.mpr (items.imp fun _ _ h => h.2)
  case object => exact object_iff.mpr (members.imp fun _ _ h => ⟨h.1, h.2.2⟩)

theorem symm (hsymm : ∀ m n, numbers m n → numbers n m) (h : Corresponding numbers a b) :
    Corresponding numbers b a := by
  refine h.byParts .null .bool (fun m n related => ?number) .string (fun as bs items => ?array)
    fun ms ns members => ?object
  case number => exact .number (hsymm m n related)
  case array =>
    have hflipped : List.Forall₂ (Corresponding numbers) bs as := (items.imp fun _ _ h => h.2).flip
    exact array_iff.mpr hflipped
  case object =>
    apply object_iff.mpr
    apply List.Forall₂.flip
    exact members.imp fun _ _ h => ⟨h.1.symm, h.2.2⟩

/-- Where two relations of numbers make a third one, they do so for values. -/
theorem trans {P Q : Number → Number → Prop}
    (htrans : ∀ m n k, P m n → Q n k → numbers m k) (h : Corresponding P a b)
    (h' : Corresponding Q b c) : Corresponding numbers a c := by
  suffices hall : ∀ c, Corresponding Q b c → Corresponding numbers a c from hall c h'
  refine h.byParts ?null (fun value => ?bool) (fun m n related => ?number) (fun value => ?string)
    (fun as bs items => ?array) fun ms ns members => ?object
  case null =>
    rintro c ⟨⟩
    exact .null
  case bool =>
    rintro c ⟨⟩
    exact .bool value
  case number =>
    rintro c ⟨⟩
    rename_i related'
    exact .number (htrans _ _ _ related related')
  case string =>
    rintro c ⟨⟩
    exact .string value
  case array =>
    intro c h'
    cases h' with
    | array length items' =>
      have hitems' := array_iff.mp (.array length items')
      exact array_iff.mpr (forall₂_trans (fun _ _ _ h h' => h.2 _ h') items hitems')
  case object =>
    intro c h'
    cases h' with
    | object length names values =>
      have hmembers' := object_iff.mp (.object length names values)
      exact object_iff.mpr (forall₂_trans (fun _ _ _ h h' => ⟨h.1.trans h'.1, h.2.2 _ h'.2⟩)
        members hmembers')

mutual

/-- Every value corresponds to the one in which its numbers are replaced. -/
theorem exists_replaced (f : Number → Number) :
    ∀ a : Json, ∃ b, Corresponding (fun m n => n = f m) a b
  | .null => ⟨.null, .null⟩
  | .bool value => ⟨.bool value, .bool value⟩
  | .number m => ⟨.number (f m), .number rfl⟩
  | .string value => ⟨.string value, .string value⟩
  | .array items =>
    have ⟨others, hitems⟩ := exists_replaced_items f items
    ⟨.array others, array_iff.mpr hitems⟩
  | .object members =>
    have ⟨others, hmembers⟩ := exists_replaced_members f members
    ⟨.object others, object_iff.mpr hmembers⟩

theorem exists_replaced_items (f : Number → Number) :
    ∀ items : List Json, ∃ others, List.Forall₂ (Corresponding fun m n => n = f m) items others
  | [] => ⟨[], .nil⟩
  | item :: items =>
    have ⟨other, hitem⟩ := exists_replaced f item
    have ⟨others, hitems⟩ := exists_replaced_items f items
    ⟨other :: others, .cons hitem hitems⟩

theorem exists_replaced_members (f : Number → Number) :
    ∀ members : List (String × Json), ∃ others : List (String × Json),
      List.Forall₂ (fun m n => m.1 = n.1 ∧ Corresponding (fun m n => n = f m) m.2 n.2)
        members others
  | [] => ⟨[], .nil⟩
  | (name, value) :: members =>
    have ⟨other, hvalue⟩ := exists_replaced f value
    have ⟨others, hmembers⟩ := exists_replaced_members f members
    ⟨(name, other) :: others, .cons ⟨rfl, hvalue⟩ hmembers⟩

end

/-- The numbers in corresponding values are related in their order. -/
theorem forall₂_numbersIn (h : Corresponding numbers a b) :
    List.Forall₂ numbers a.numbersIn b.numbersIn := by
  refine h.byParts .nil (fun _ => .nil) (fun m n related => .cons related .nil) (fun _ => .nil)
    (fun as bs items => ?array) fun ms ns members => ?object
  case array =>
    rw [numbersIn, numbersIn, numbersInItems_eq, numbersInItems_eq]
    exact List.rel_flatMap items fun _ _ h => h.2
  case object =>
    rw [numbersIn, numbersIn, numbersInMembers_eq, numbersInMembers_eq]
    exact List.rel_flatMap members fun _ _ h => h.2.2

/-- Relating more pairs with numbers of the second value, the values correspond. -/
theorem imp_right {others : Number → Number → Prop} (h : Corresponding numbers a b)
    (himp : ∀ n ∈ b.numbersIn, ∀ m, numbers m n → others m n) : Corresponding others a b := by
  induction h with
  | null => exact .null
  | bool value => exact .bool value
  | number related => exact .number (himp _ (by simp [numbersIn]) _ related)
  | string value => exact .string value
  | @array as bs length items ih =>
    refine .array length fun pair hmem => ih pair hmem fun n hn => himp n ?_
    rw [numbersIn, numbersInItems_eq]
    exact List.mem_flatMap_of_mem (List.of_mem_zip hmem).2 hn
  | @object ms ns length names values ih =>
    refine .object length names fun pair hmem => ih pair hmem fun n hn => himp n ?_
    rw [numbersIn, numbersInMembers_eq]
    exact List.mem_flatMap_of_mem (List.of_mem_zip hmem).2 hn

/-- Related positions of lists that are related item by item. -/
theorem rel_getElem? (items : List.Forall₂ R as bs) (position : Nat) :
    Option.Rel R as[position]? bs[position]? := by
  induction items generalizing position with
  | nil => exact .none
  | cons hhead _ ih =>
    cases position with
    | zero => exact .some hhead
    | succ position => simpa using ih position

theorem rel_bind {found other : Option Json} {f g : Json → Option Json}
    (h : Option.Rel R found other) (hfg : ∀ a b, R a b → Option.Rel R' (f a) (g b)) :
    Option.Rel R' (found.bind f) (other.bind g) := by
  cases h with
  | none => exact .none
  | some hvalues => exact hfg _ _ hvalues

/-- What is gathered from corresponding values corresponds. -/
theorem gathered {found other : Option Json} (h : Option.Rel (Corresponding numbers) found other) :
    List.Forall₂ (Corresponding numbers) (Json.gathered found) (Json.gathered other) := by
  cases h with
  | none => exact .nil
  | some hvalues =>
    cases hvalues with
    | array length items => exact array_iff.mp (.array length items)
    | null => exact .cons .null .nil
    | bool value => exact .cons (.bool value) .nil
    | number related => exact .cons (.number related) .nil
    | string value => exact .cons (.string value) .nil
    | object length names values => exact .cons (.object length names values) .nil

theorem ofGathered (items : List.Forall₂ (Corresponding numbers) as bs) :
    Option.Rel (Corresponding numbers) (Json.ofGathered as) (Json.ofGathered bs) := by
  cases items with
  | nil => exact .none
  | cons hhead htail => exact .some (array_iff.mpr (.cons hhead htail))

/-- A path leads to corresponding places of corresponding values. -/
theorem at? (h : Corresponding numbers a b) (path : Path) :
    Option.Rel (Corresponding numbers) (a.at? path) (b.at? path) := by
  suffices hall : ∀ path, Option.Rel (Corresponding numbers) (a.at? path) (b.at? path) from
    hall path
  have hpath {a b : Json} (h : Corresponding numbers a b)
      (below : ∀ segment rest, Option.Rel (Corresponding numbers) (a.at? (segment :: rest))
        (b.at? (segment :: rest))) :
      ∀ path, Option.Rel (Corresponding numbers) (a.at? path) (b.at? path)
    | [] => by simpa using h
    | segment :: rest => below segment rest
  refine h.byParts (hpath .null fun _ _ => .none)
    (fun value => hpath (.bool value) fun _ _ => .none)
    (fun m n related => hpath (.number related) fun _ _ => .none)
    (fun value => hpath (.string value) fun _ _ => .none) (fun as bs items => ?array)
    fun ms ns members => ?object
  case array =>
    refine hpath (array_iff.mpr (items.imp fun _ _ h => h.1)) fun segment rest => ?_
    rw [Json.at?, Json.at?]
    cases Path.position? segment with
    | some position =>
      simp only [itemAt?_eq]
      exact rel_bind (rel_getElem? items position) fun _ _ h => h.2 rest
    | none =>
      simp only [gather_eq]
      apply ofGathered
      exact List.rel_flatMap items fun _ _ h => gathered (h.2 (segment :: rest))
  case object =>
    refine hpath (object_iff.mpr (members.imp fun _ _ h => ⟨h.1, h.2.1⟩)) fun name rest => ?_
    have hfound : Option.Rel (fun a b => Corresponding numbers a b ∧
        ∀ path, Option.Rel (Corresponding numbers) (a.at? path) (b.at? path))
        (Entries.get? name ms) (Entries.get? name ns) := Entries.rel_get? members name
    rw [Json.at?, Json.at?, memberAt?_eq, memberAt?_eq]
    exact rel_bind hfound fun _ _ h => h.2 rest

end Corresponding

mutual

/-- Values that are the same correspond with the same numbers. -/
theorem corresponding_of_same : ∀ a b : Json, a.same b = true →
    Corresponding (fun m n => m.same n = true) a b
  | .null, b, h => by
    cases b with
    | null => exact .null
    | _ => simp [same] at h
  | .bool value, b, h => by
    cases b with
    | bool other =>
      obtain rfl : value = other := by simpa [same] using h
      exact .bool value
    | _ => simp [same] at h
  | .number m, b, h => by
    cases b with
    | number n => exact .number (by simpa [same] using h)
    | _ => simp [same] at h
  | .string value, b, h => by
    cases b with
    | string other =>
      obtain rfl : value = other := by simpa [same] using h
      exact .string value
    | _ => simp [same] at h
  | .array as, b, h => by
    cases b with
    | array bs =>
      rw [same] at h
      exact Corresponding.array_iff.mpr (forall₂_of_sameItems as bs h)
    | _ => simp [same] at h
  | .object ms, b, h => by
    cases b with
    | object ns =>
      rw [same] at h
      exact Corresponding.object_iff.mpr (forall₂_of_sameMembers ms ns h)
    | _ => simp [same] at h

theorem forall₂_of_sameItems : ∀ as bs : List Json, sameItems as bs = true →
    List.Forall₂ (Corresponding fun m n => m.same n = true) as bs
  | [], [], _ => .nil
  | [], _ :: _, h | _ :: _, [], h => by simp [sameItems] at h
  | a :: as, b :: bs, h => by
    rw [sameItems, Bool.and_eq_true] at h
    exact .cons (corresponding_of_same a b h.1) (forall₂_of_sameItems as bs h.2)

theorem forall₂_of_sameMembers : ∀ ms ns : List (String × Json), sameMembers ms ns = true →
    List.Forall₂ (fun m n => m.1 = n.1 ∧ Corresponding (fun m n => m.same n = true) m.2 n.2) ms ns
  | [], [], _ => .nil
  | [], _ :: _, h | _ :: _, [], h => by simp [sameMembers] at h
  | (name, a) :: ms, (other, b) :: ns, h => by
    simp only [sameMembers, Bool.and_eq_true, beq_iff_eq] at h
    exact .cons ⟨h.1.1, corresponding_of_same a b h.1.2⟩ (forall₂_of_sameMembers ms ns h.2)

end

/-- Values are the same exactly if they correspond with the same numbers. -/
theorem same_iff : a.same b = true ↔ Corresponding (fun m n => m.same n = true) a b := by
  refine ⟨corresponding_of_same a b, fun h => ?_⟩
  refine h.byParts rfl (fun value => by simp [same]) (fun m n related => by rwa [same])
    (fun value => by simp [same]) (fun as bs items => ?array) fun ms ns members => ?object
  case array =>
    rw [same]
    induction items with
    | nil => rfl
    | cons hhead _ ih => simp [sameItems, hhead.2, ih]
  case object =>
    rw [same]
    induction members with
    | nil => rfl
    | cons hhead _ ih => simp [sameMembers, hhead.1, hhead.2.2, ih]

end Json

end TypedStore
