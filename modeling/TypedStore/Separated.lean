/-!
# Separated text

A text with a separator is a list of parts without it. Joining the parts gives the
text back, and splitting a joined text gives the parts back unless there are none.
-/

namespace TypedStore.Separated

/-- The parts of a text between its separators. The empty text has one part. -/
def split (separator : Char) : List Char → List (List Char)
  | [] => [[]]
  | c :: rest =>
      if c = separator then [] :: split separator rest
      else match split separator rest with
        | [] => [[c]]
        | part :: parts => (c :: part) :: parts

/-- The text with separators between its parts. -/
def join (separator : Char) : List (List Char) → List Char
  | [] => []
  | [part] => part
  | part :: next :: parts => part ++ separator :: join separator (next :: parts)

theorem split_ne_nil (separator : Char) (text : List Char) : split separator text ≠ [] := by
  cases text with
  | nil => simp [split]
  | cons c rest =>
    simp only [split]
    split
    · simp
    · split <;> simp

/-- Splitting loses nothing. -/
theorem join_split (separator : Char) (text : List Char) :
    join separator (split separator text) = text := by
  induction text with
  | nil => rfl
  | cons c rest ih =>
    simp only [split]
    cases hs : split separator rest with
    | nil => exact absurd hs (split_ne_nil separator rest)
    | cons part parts =>
      rw [hs] at ih
      by_cases hc : c = separator
      · subst hc
        simp [join, ih]
      · cases parts with
        | nil => simpa [hc, join] using ih
        | cons next parts => simpa [hc, join] using ih

/-- No part holds a separator. -/
theorem not_mem_of_mem_split {separator : Char} {text part : List Char}
    (h : part ∈ split separator text) : separator ∉ part := by
  induction text generalizing part with
  | nil =>
    simp only [split, List.mem_singleton] at h
    simp [h]
  | cons c rest ih =>
    simp only [split] at h
    cases hs : split separator rest with
    | nil => exact absurd hs (split_ne_nil separator rest)
    | cons first parts =>
      rw [hs] at h ih
      by_cases hc : c = separator
      · simp only [hc, if_true] at h
        rcases List.mem_cons.mp h with rfl | h
        · simp
        · exact ih h
      · simp only [hc, if_false] at h
        rcases List.mem_cons.mp h with rfl | h
        · simp only [List.mem_cons, not_or]
          exact ⟨fun he => hc he.symm, ih (List.mem_cons_self ..)⟩
        · exact ih (List.mem_cons_of_mem _ h)

theorem split_of_not_mem {separator : Char} {part : List Char} (h : separator ∉ part) :
    split separator part = [part] := by
  induction part with
  | nil => rfl
  | cons c rest ih =>
    simp only [List.mem_cons, not_or] at h
    simp [split, Ne.symm h.1, ih h.2]

theorem split_append {separator : Char} {part rest : List Char} (h : separator ∉ part) :
    split separator (part ++ separator :: rest) = part :: split separator rest := by
  induction part with
  | nil => simp [split]
  | cons c more ih =>
    simp only [List.mem_cons, not_or] at h
    simp [split, Ne.symm h.1, ih h.2]

/-- Parts without separators are found again. -/
theorem split_join {separator : Char} {parts : List (List Char)} (hne : parts ≠ [])
    (h : ∀ part ∈ parts, separator ∉ part) : split separator (join separator parts) = parts := by
  induction parts with
  | nil => exact absurd rfl hne
  | cons part rest ih =>
    cases rest with
    | nil => exact split_of_not_mem (h part (List.mem_cons_self ..))
    | cons next rest =>
      rw [join, split_append (h part (List.mem_cons_self ..)),
        ih (by simp) fun p hp => h p (List.mem_cons_of_mem _ hp)]

/-- Texts joined by a separator. -/
def joinTexts (separator : Char) (texts : List String) : String :=
  String.ofList (join separator (texts.map String.toList))

end TypedStore.Separated
