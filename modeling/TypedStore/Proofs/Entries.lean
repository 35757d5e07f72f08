import TypedStore.Entries

/-!
# Names and values of a map

The names of a map are listed in increasing order, and its values in the order of their
names. If every value carries its name, the list of values strictly increases in what
they carry.
-/

namespace TypedStore

namespace Entries

variable {α : Type}

/-- An entry of a second list is found if none of the first one has its name. -/
theorem get?_append (name : String) (entries more : List (String × α)) :
    get? name (entries ++ more) = (get? name entries).or (get? name more) := by
  induction entries with
  | nil => simp [get?]
  | cons entry rest ih =>
    obtain ⟨key, value⟩ := entry
    by_cases hkey : key = name <;> simp [get?, hkey, ih]

/-- Of several entries with one name the last one counts. -/
theorem get?_ofList (name : String) (entries : List (String × α)) :
    get? name (ofList entries) = get? name entries.reverse := by
  -- The entries that were inserted before count for names that do not occur any more.
  have hstart (start : List (String × α)) :
      get? name (entries.foldl (fun sorted entry => insert entry.1 entry.2 sorted) start) =
        (get? name entries.reverse).or (get? name start) := by
    induction entries generalizing start with
    | nil => simp [get?]
    | cons entry rest ih =>
      obtain ⟨key, value⟩ := entry
      rw [List.foldl_cons, ih, List.reverse_cons, get?_append, Option.or_assoc, get?_insert]
      by_cases hkey : key = name <;> simp [get?, hkey]
  simpa [ofList, get?] using hstart []

/-- Entries that are put in their places do not vanish. -/
theorem ofList_eq_nil_iff {entries : List (String × α)} : ofList entries = [] ↔ entries = [] := by
  constructor
  · intro h
    cases hreverse : entries.reverse with
    | nil => exact List.reverse_eq_nil_iff.mp hreverse
    | cons entry rest =>
      have hlast := get?_ofList entry.1 entries
      simp [h, hreverse, get?] at hlast
  · rintro rfl
    rfl

/-- What is found is the first entry of its name. -/
theorem get?_eq_head?_filter (name : String) (entries : List (String × α)) :
    get? name entries = (entries.filter fun entry => entry.1 = name).head?.map Prod.snd := by
  induction entries with
  | nil => rfl
  | cons entry rest ih =>
    obtain ⟨key, value⟩ := entry
    by_cases hkey : key = name <;> simp [get?, hkey, ih]

/-- Sorting by names keeps the entries of one name in their order. -/
theorem filter_mergeSort (name : String) (entries : List (String × α)) :
    ((entries.mergeSort fun a b => a.1 ≤ b.1).filter fun entry => entry.1 = name) =
      entries.filter fun entry => entry.1 = name := by
  have hsub : (entries.filter fun entry => entry.1 = name).Sublist
      (entries.mergeSort fun a b => a.1 ≤ b.1) := by
    refine List.sublist_mergeSort ?_ ?_ ?_ List.filter_sublist
    · intro a b c hab hbc
      simp only [decide_eq_true_eq] at *
      exact String.le_trans hab hbc
    · intro a b
      simpa using String.le_total a.1 b.1
    · refine List.pairwise_iff_forall_sublist.mpr fun {a b} hab => ?_
      have hmem := hab.subset
      simp_all
  have hfilter := hsub.filter fun entry => entry.1 = name
  rw [List.filter_filter] at hfilter
  simp only [Bool.and_self] at hfilter
  refine (hfilter.eq_of_length ?_).symm
  exact ((List.mergeSort_perm entries _).filter _).length_eq.symm

/-- So entries may be sorted before they are put in their places. -/
theorem ofList_mergeSort (entries : List (String × α)) :
    ofList (entries.mergeSort fun a b => a.1 ≤ b.1) = ofList entries := by
  refine eq_of_get?_eq (sorted_ofList _) (sorted_ofList _) fun name => ?_
  rw [get?_ofList, get?_ofList, get?_eq_head?_filter, get?_eq_head?_filter, List.filter_reverse,
    List.filter_reverse, filter_mergeSort]

/-- A changed value is put in the place of the value. -/
theorem insert_map {β : Type} (change : α → β) (name : String) (value : α)
    (entries : List (String × α)) :
    insert name (change value) (entries.map fun entry => (entry.1, change entry.2)) =
      (insert name value entries).map fun entry => (entry.1, change entry.2) := by
  induction entries with
  | nil => rfl
  | cons entry rest ih =>
    simp only [insert, List.map_cons, ih]
    split
    · rfl
    · split <;> rfl

/-- A change of the values keeps their places. -/
theorem ofList_map {β : Type} (change : α → β) (entries : List (String × α)) :
    ofList (entries.map fun entry => (entry.1, change entry.2)) =
      (ofList entries).map fun entry => (entry.1, change entry.2) := by
  have hstart (start : List (String × α)) :
      (entries.map fun entry => (entry.1, change entry.2)).foldl
          (fun sorted entry => insert entry.1 entry.2 sorted)
          (start.map fun entry => (entry.1, change entry.2)) =
        (entries.foldl (fun sorted entry => insert entry.1 entry.2 sorted) start).map
          fun entry => (entry.1, change entry.2) := by
    induction entries generalizing start with
    | nil => rfl
    | cons entry rest ih => simp only [List.map_cons, List.foldl_cons, insert_map, ih]
  exact hstart []

/-- What is found is an entry of the list. -/
theorem mem_of_get? {name : String} {value : α} {entries : List (String × α)}
    (h : get? name entries = some value) : (name, value) ∈ entries := by
  induction entries with
  | nil => simp [get?] at h
  | cons entry rest ih =>
    obtain ⟨key, other⟩ := entry
    by_cases hkey : key = name
    · simp_all [get?]
    · exact List.mem_cons_of_mem _ (ih (by simpa [get?, hkey] using h))

/-- Among entries with different names a lookup finds exactly the entries of the list. -/
theorem get?_eq_some_iff_of_nodup {entries : List (String × α)}
    (hnodup : (entries.map Prod.fst).Nodup) {name : String} {value : α} :
    get? name entries = some value ↔ (name, value) ∈ entries := by
  induction entries with
  | nil => simp [get?]
  | cons entry rest ih =>
    obtain ⟨key, other⟩ := entry
    obtain ⟨hfresh, hrest⟩ := List.nodup_cons.mp hnodup
    by_cases hkey : key = name
    · subst hkey
      have hnot : (key, value) ∉ rest := fun hmem =>
        hfresh (List.mem_map.mpr ⟨_, hmem, rfl⟩)
      simp [get?, hnot, eq_comm]
    · simp [get?, hkey, ih hrest, Ne.symm hkey]

end Entries

namespace Dict

variable {α : Type} {map : Dict α}

/-- Exactly the names under which a value stands are listed. -/
theorem mem_keys_iff {name : String} : name ∈ map.keys ↔ ∃ value, map.get? name = some value := by
  simp [keys, get?_eq_some_iff]

/-- Names are listed in increasing order. -/
theorem pairwise_keys (map : Dict α) : map.keys.Pairwise fun a b => a < b :=
  List.pairwise_map.mpr map.sorted

/-- Exactly the values that stand under some name are listed. -/
theorem mem_values_iff {value : α} : value ∈ map.values ↔ ∃ name, map.get? name = some value := by
  simp only [values, List.mem_map, get?_eq_some_iff]
  constructor
  · rintro ⟨⟨name, _⟩, hentry, rfl⟩
    exact ⟨name, hentry⟩
  · rintro ⟨name, hentry⟩
    exact ⟨(name, value), hentry, rfl⟩

/-- Values that carry their names are listed in increasing order of these. -/
theorem pairwise_values {nameOf : α → String}
    (h : ∀ name value, map.get? name = some value → nameOf value = name) :
    map.values.Pairwise fun a b => nameOf a < nameOf b := by
  refine List.pairwise_map.mpr (map.sorted.imp_of_mem fun {a b} ha hb hlt => ?_)
  rw [h a.1 a.2 (get?_eq_some_iff.mpr ha), h b.1 b.2 (get?_eq_some_iff.mpr hb)]
  exact hlt

/-- In the map of a list of entries with different names, exactly these entries are found. -/
theorem get?_ofList_eq_some_iff {entries : List (String × α)}
    (hnodup : (entries.map Prod.fst).Nodup) {name : String} {value : α} :
    (ofList entries).get? name = some value ↔ (name, value) ∈ entries := by
  have hreverse : (entries.reverse.map Prod.fst).Nodup :=
    (entries.reverse_perm.map Prod.fst).nodup_iff.mpr hnodup
  rw [get?, ofList, Entries.get?_ofList, Entries.get?_eq_some_iff_of_nodup hreverse,
    List.mem_reverse]

/-- An entry that is there already is put in no other place. -/
theorem insert_eq_self {name : String} {value : α} (h : map.get? name = some value) :
    map.insert name value = map := by
  refine ext_get? fun key => ?_
  rw [get?_insert]
  split
  · rename_i hname
    rw [← hname, h]
  · rfl

/-- Of two entries with one name the later one counts. -/
theorem insert_insert (map : Dict α) (name : String) (old new : α) :
    (map.insert name old).insert name new = map.insert name new := by
  refine ext_get? fun key => ?_
  simp only [get?_insert]
  split <;> rfl

/-- A map without entries is one in which nothing is found. -/
theorem isEmpty_iff : map.isEmpty = true ↔ ∀ name, map.get? name = none := by
  rw [isEmpty, List.isEmpty_iff]
  constructor
  · intro h name
    simp [get?, h, Entries.get?]
  · intro h
    rw [List.eq_nil_iff_forall_not_mem]
    rintro ⟨name, value⟩ hentry
    rw [← get?_eq_some_iff, h] at hentry
    contradiction

end Dict

end TypedStore
