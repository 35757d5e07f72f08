import TypedStore.Proofs.Ascending
import TypedStore.Proofs.Path
import TypedStore.Query.Redirects

/-!
# Redirection goes by segments

Whether a path is redirected is found out by comparing texts: one text continues the other behind a
dot. This comes to the same as comparing the lists of their segments, whatever dots a text starts
with, ends with or repeats, because a text is cut into segments in exactly one way.
-/

namespace TypedStore

/-- The segments of a text are the only texts without dots, at least one of them, that make the text
when they are written with dots between them. -/
theorem Path.split_eq_iff {text : String} {segments : Path} : split text = segments ↔
    segments ≠ [] ∧ (∀ segment ∈ segments, '.' ∉ segment.toList) ∧ join segments = text := by
  constructor
  · rintro rfl
    exact ⟨split_ne_nil text, fun _ => dot_not_mem_of_mem_split, join_split text⟩
  · rintro ⟨hne, hdots, rfl⟩
    exact split_join hne hdots

/-- A text continues another one behind a dot exactly if it appends a text to it. -/
theorem isBelow_iff {text above : String} :
    isBelow text above = true ↔ ∃ rest, text = above ++ "." ++ rest := by
  rw [isBelow, List.isPrefixOf_iff_prefix]
  constructor
  · rintro ⟨rest, hrest⟩
    refine ⟨String.ofList rest, String.toList_injective ?_⟩
    simpa using hrest.symm
  · rintro ⟨rest, rfl⟩
    exact ⟨rest.toList, by simp⟩

/-- A text is another one or continues it behind a dot exactly if the segments of the other one are
its first segments. -/
theorem split_prefix_split_iff {text above : String} :
    Path.split above <+: Path.split text ↔ above = text ∨ isBelow text above = true := by
  rw [isBelow_iff]
  constructor
  · rintro ⟨rest, hrest⟩
    by_cases hnil : rest = []
    · rw [hnil, List.append_nil] at hrest
      exact Or.inl (by rw [← Path.join_split above, hrest, Path.join_split])
    · refine Or.inr ⟨Path.join rest, ?_⟩
      rw [← Path.join_split text, ← hrest, Path.join_append (Path.split_ne_nil above) hnil,
        Path.join_split]
  · rintro (rfl | ⟨rest, rfl⟩)
    · exact List.prefix_refl _
    · exact ⟨Path.split rest, (Path.split_dotted above rest).symm⟩

namespace Redirects

variable {redirects : Redirects} {path : String}

/-- A path meets a declared one: the segments of one of the two are the first segments of the
other. -/
def Meets (redirects : Redirects) (path : String) : Prop :=
  ∃ declared ∈ redirects.paths,
    Path.split declared <+: Path.split path ∨ Path.split path <+: Path.split declared

/-- A path is redirected exactly if it meets a declared one. -/
theorem covers_iff : redirects.covers path = true ↔ redirects.Meets path := by
  simp only [Meets, covers, List.any_eq_true, Bool.or_eq_true, decide_eq_true_iff,
    split_prefix_split_iff]
  refine exists_congr fun declared => and_congr_right fun _ => ?_
  constructor
  · rintro ((rfl | habove) | hbelow)
    · exact Or.inl (Or.inl rfl)
    · exact Or.inr (Or.inr habove)
    · exact Or.inl (Or.inr hbelow)
  · rintro ((rfl | hbelow) | (rfl | habove))
    · exact Or.inl (Or.inl rfl)
    · exact Or.inr hbelow
    · exact Or.inl (Or.inl rfl)
    · exact Or.inl (Or.inr habove)

/-- A path is looked up behind the overlay segment exactly if it meets a declared one. -/
theorem target_eq_cons_iff :
    redirects.target path = overlaySegment :: Path.split path ↔ redirects.Meets path := by
  rw [← covers_iff, target]
  by_cases hcovers : redirects.covers path = true
  · rw [if_pos hcovers]
    exact iff_of_true rfl hcovers
  · rw [if_neg hcovers]
    exact iff_of_false List.ne_cons_self hcovers

/-- A path is looked up at its own segments exactly if it meets no declared one. -/
theorem target_eq_split_iff : redirects.target path = Path.split path ↔ ¬redirects.Meets path := by
  rw [← covers_iff, target]
  by_cases hcovers : redirects.covers path = true
  · rw [if_pos hcovers]
    exact iff_of_false (List.cons_ne_self _ _) (not_not_intro hcovers)
  · rw [if_neg hcovers]
    exact iff_of_true rfl hcovers

/-- Redirection goes by segments. A path is redirected exactly if, of its segments and those of some
declared path, the ones are the first of the others; in this case it is looked up at its segments
behind the overlay segment, and in no other case, where it is looked up at its segments alone. The
segments are those of the one way to cut the path at its dots, with empty segments in front of,
behind and between dots. All paths are declared that were given, and no others. -/
theorem redirected_bySegments (redirects : Redirects) (path : String) :
    (redirects.covers path = true ↔ redirects.Meets path) ∧
      (redirects.target path = "__resolved" :: Path.split path ↔ redirects.Meets path) ∧
      (redirects.target path = Path.split path ↔ ¬redirects.Meets path) ∧
      (∀ segments, Path.split path = segments ↔ segments ≠ [] ∧
        (∀ segment ∈ segments, '.' ∉ segment.toList) ∧ Path.join segments = path) ∧
      ∀ declared text, text ∈ (ofPaths declared).paths ↔ text ∈ declared := by
  refine ⟨covers_iff, target_eq_cons_iff, target_eq_split_iff, fun _ => Path.split_eq_iff, ?_⟩
  intro declared text
  exact Ascending.mem_ofTexts

end Redirects

end TypedStore
