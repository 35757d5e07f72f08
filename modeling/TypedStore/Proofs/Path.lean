import TypedStore.Path

/-!
# Dotted paths

A path is written with dots between its segments. Reading what was written gives the
segments back, split further where they hold dots themselves.
-/

namespace TypedStore

/-- A separator between two texts ends a part of the first one and starts one of the second. -/
theorem Separated.split_append_cons (separator : Char) (text rest : List Char) :
    split separator (text ++ separator :: rest) = split separator text ++ split separator rest := by
  induction text with
  | nil => simp [split]
  | cons c more ih =>
    by_cases hc : c = separator
    · subst hc
      simp [split, ih]
    · cases hmore : split separator more with
      | nil => exact absurd hmore (split_ne_nil separator more)
      | cons part parts =>
        rw [hmore] at ih
        simp [split, hc, ih, hmore]

namespace Path

/-- Writing the segments of a text gives the text. -/
theorem join_split (text : String) : join (split text) = text := by
  have htexts : (split text).map String.toList = Separated.split '.' text.toList := by
    simp [split, Function.comp_def]
  rw [join, Separated.joinTexts, htexts, Separated.join_split, String.ofList_toList]

/-- A text has at least one segment. -/
theorem split_ne_nil (text : String) : split text ≠ [] := by
  simp [split, Separated.split_ne_nil]

/-- Writing a segment before a path that is not empty puts a dot between them. -/
theorem join_cons (segment : String) {path : Path} (hne : path ≠ []) :
    join (segment :: path) = segment ++ "." ++ join path := by
  cases path with
  | nil => contradiction
  | cons next rest =>
    apply String.toList_injective
    simp [join, Separated.joinTexts, Separated.join]

/-- A segment without dots is read off the front of a text. -/
theorem split_append {segment : String} (h : '.' ∉ segment.toList) (text : String) :
    split (segment ++ "." ++ text) = segment :: split text := by
  simp [split, Separated.split_append h]

/-- The segments of a dotted text hold no dots. -/
theorem dot_not_mem_of_mem_split {segment text : String} (h : segment ∈ split text) :
    '.' ∉ segment.toList := by
  obtain ⟨part, hpart, rfl⟩ := List.mem_map.mp h
  rw [String.toList_ofList]
  exact Separated.not_mem_of_mem_split hpart

/-- A dot between two texts separates their segments. -/
theorem split_dotted (text rest : String) :
    split (text ++ "." ++ rest) = split text ++ split rest := by
  have htexts : (text ++ "." ++ rest).toList = text.toList ++ '.' :: rest.toList := by simp
  simp [split, htexts, Separated.split_append_cons]

/-- One name is written as it is. -/
theorem join_singleton (name : String) : join [name] = name := by
  simp [join, Separated.joinTexts, Separated.join]

/-- A name is written in the same way behind a dot in the first segment and as a segment of its
own. -/
theorem join_dotted (above name : String) (rest : Path) :
    join ((above ++ "." ++ name) :: rest) = join (above :: name :: rest) := by
  cases rest with
  | nil => rw [join_cons above (by simp), join_singleton, join_singleton]
  | cons next rest =>
    rw [join_cons _ (by simp), join_cons above (by simp), join_cons name (by simp)]
    simp only [String.append_assoc]

/-- A dot separates two paths that are written one behind the other. -/
theorem join_append {path rest : Path} (hpath : path ≠ []) (hrest : rest ≠ []) :
    join (path ++ rest) = join path ++ "." ++ join rest := by
  induction path with
  | nil => contradiction
  | cons segment path ih =>
    rw [List.cons_append, join_cons segment (by simp [hrest])]
    cases path with
    | nil => rw [List.nil_append, join_singleton]
    | cons next path =>
      rw [ih (by simp), join_cons segment (by simp)]
      simp only [String.append_assoc]

/-- The segments of a written path are those of its names. -/
theorem split_join_eq_flatMap {path : Path} (hne : path ≠ []) :
    split (join path) = path.flatMap split := by
  induction path with
  | nil => contradiction
  | cons name path ih =>
    cases path with
    | nil => rw [join_singleton, List.flatMap_singleton]
    | cons next path =>
      rw [join_cons name (by simp), split_dotted, ih (by simp), ← List.flatMap_cons]

end Path

end TypedStore
