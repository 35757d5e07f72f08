import Mathlib.Data.List.Induction
import TypedStore.Proofs.Store.History

/-!
# What has been done last

Many facts about a store go back to the last change of one kind that no change of another
kind has undone. What a change does can depend on the store that it meets. Such facts are
followed along a history one change at a time.
-/

namespace TypedStore.Store

/-- The store after a history of changes that starts from the store without nodes. -/
def ofHistory (history : List Change) : Store := history.foldl change empty

/-- Some change of a history did one thing, and no change after it undid that. -/
def Since (does undoes : Store → Change → Prop) (history : List Change) : Prop :=
  ∃ before c later, history = before ++ c :: later ∧ does (ofHistory before) c ∧
    ∀ between next rest, later = between ++ next :: rest →
      ¬undoes (ofHistory (before ++ c :: between)) next

variable {does undoes : Store → Change → Prop} {history : List Change} {c : Change}

@[simp] theorem ofHistory_append_singleton (history : List Change) (c : Change) :
    ofHistory (history ++ [c]) = (ofHistory history).change c := by
  simp [ofHistory, List.foldl_append]

/-- The store after a history has a history. -/
theorem reachable_ofHistory (history : List Change) : (ofHistory history).Reachable := by
  induction history using List.reverseRecOn with
  | nil => exact .empty
  | append_singleton history c ih =>
    rw [ofHistory_append_singleton]
    exact ih.change c

/-- The store after a history is consistent. -/
theorem consistent_ofHistory (history : List Change) : (ofHistory history).Consistent :=
  (reachable_ofHistory history).consistent

/-- Nothing has been done in a history without changes. -/
theorem not_since_nil : ¬Since does undoes [] := by
  rintro ⟨before, c, later, h, -⟩
  simp at h

/-- The last change did it, or it had been done and the last change did not undo it. -/
theorem since_append_singleton_iff :
    Since does undoes (history ++ [c]) ↔
      does (ofHistory history) c ∨
        Since does undoes history ∧ ¬undoes (ofHistory history) c := by
  constructor
  · rintro ⟨before, first, later, hsplit, hdoes, hkept⟩
    -- Either nothing came after the change that did it, or the last change came after it.
    cases later using List.reverseRecOn with
    | nil =>
      obtain ⟨rfl, hc⟩ := List.append_inj' hsplit rfl
      obtain rfl := List.singleton_inj.mp hc
      exact Or.inl hdoes
    | append_singleton later last =>
      have hsplit' : history ++ [c] = (before ++ first :: later) ++ [last] := by simpa using hsplit
      obtain ⟨rfl, hc⟩ := List.append_inj' hsplit' rfl
      obtain rfl := List.singleton_inj.mp hc
      refine Or.inr ⟨⟨before, first, later, rfl, hdoes, ?_⟩, hkept later c [] rfl⟩
      rintro between next rest rfl
      exact hkept between next (rest ++ [c]) (by simp)
  · rintro (hdoes | ⟨⟨before, first, later, rfl, hdoes, hkept⟩, hlast⟩)
    · exact ⟨history, c, [], rfl, hdoes, by simp⟩
    · refine ⟨before, first, later ++ [c], by simp, hdoes, ?_⟩
      intro between next rest hsplit
      cases rest using List.reverseRecOn with
      | nil =>
        obtain ⟨rfl, hnext⟩ := List.append_inj' hsplit rfl
        obtain rfl := List.singleton_inj.mp hnext
        exact hlast
      | append_singleton rest last =>
        have hsplit' : later ++ [c] = (between ++ next :: rest) ++ [last] := by simpa using hsplit
        exact hkept between next rest (List.append_inj' hsplit' rfl).1

/-- What holds after a change that undid it and did not do it was done later. -/
theorem Since.later {before later : List Change}
    (h : Since does undoes (before ++ c :: later)) (hundoes : undoes (ofHistory before) c)
    (hdoes : ¬does (ofHistory before) c) :
    ∃ between next rest, later = between ++ next :: rest ∧
      does (ofHistory (before ++ c :: between)) next := by
  induction later using List.reverseRecOn with
  | nil =>
    rcases since_append_singleton_iff.mp h with hdone | ⟨-, hkept⟩
    · exact absurd hdone hdoes
    · exact absurd hundoes hkept
  | append_singleton later last ih =>
    have h' : Since does undoes ((before ++ c :: later) ++ [last]) := by simpa using h
    rcases since_append_singleton_iff.mp h' with hdone | ⟨hbefore, -⟩
    · exact ⟨later, last, [], rfl, hdone⟩
    · obtain ⟨between, next, rest, rfl, hdone⟩ := ih hbefore
      exact ⟨between, next, rest ++ [last], by simp, hdone⟩

end TypedStore.Store
