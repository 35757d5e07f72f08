import TypedStore.Pattern.Dialect
import TypedStore.Proofs.Filter.Nesting
import TypedStore.Proofs.Query.Redirection

/-!
# Descriptors and filters

The resolved fields of a query are declared by a nested object, and a filter is written as one. Both
are flattened to dotted paths. A filter keeps every name, but a descriptor takes an empty path for
its root and so loses the empty names that a path starts with. This file says which descriptors
are flattened like filters all the same.
-/

namespace TypedStore

/-- A leaf of a descriptor: no object, or an object without members. -/
def Json.IsLeaf (value : Json) : Prop := ∀ member members, value ≠ .object (member :: members)

/-- A leaf stands in a value below the names that lead to it. -/
inductive Json.LeafAt : Json → List String → Prop
  | here {value : Json} (leaf : value.IsLeaf) : LeafAt value []
  | within {members : List (String × Json)} {name : String} {value : Json} {names : List String}
      (mem : (name, value) ∈ members) (rest : LeafAt value names) :
      LeafAt (.object members) (name :: names)

namespace Redirects

variable {members : List (String × Json)}

/-- Names below a path that is not empty are written behind it. -/
theorem foldl_extend {above : String} (habove : above.isEmpty = false) (names : List String) :
    names.foldl extend above = Path.join (above :: names) := by
  induction names generalizing above with
  | nil => rw [List.foldl_nil, Path.join_singleton]
  | cons name names ih =>
    have hextend : extend above name = above ++ "." ++ name := by simp [extend, habove]
    have hnonempty : (above ++ "." ++ name).isEmpty = false := by
      rw [Bool.eq_false_iff, ne_eq, String.isEmpty_iff]
      simp
    rw [List.foldl_cons, hextend, ih hnonempty, Path.join_dotted]

/-- Names below the root are written without the empty ones that they start with. -/
theorem foldl_extend_root (names : List String) :
    names.foldl extend "" = Path.join (names.dropWhile String.isEmpty) := by
  induction names with
  | nil => rfl
  | cons name names ih =>
    have hextend : extend "" name = name := by simp [extend]
    rw [List.foldl_cons, hextend]
    cases hname : name.isEmpty with
    | true =>
      rw [String.isEmpty_iff.mp hname, ih]
      rfl
    | false =>
      rw [foldl_extend hname, List.dropWhile_cons_of_neg (by simp [hname])]

/-- A leaf has its own path alone. -/
theorem mem_valuePaths_of_isLeaf {value : Json} (leaf : value.IsLeaf) (path text : String) :
    text ∈ valuePaths path value ↔
      ∃ names, value.LeafAt names ∧ names.foldl extend path = text := by
  have hpaths : valuePaths path value = [path] := by
    unfold valuePaths
    split
    · exact absurd rfl (leaf _ _)
    · rfl
  rw [hpaths, List.mem_singleton]
  constructor
  · rintro rfl
    exact ⟨[], .here leaf, rfl⟩
  · rintro ⟨names, hleaf, rfl⟩
    cases hleaf with
    | here leaf => rfl
    | @within members _ _ _ mem rest =>
      obtain ⟨first, others, rfl⟩ := List.exists_cons_of_ne_nil (List.ne_nil_of_mem mem)
      exact absurd rfl (leaf _ _)

mutual

/-- The paths of leaves are those of the names that lead to them. -/
theorem mem_leafPaths : ∀ (members : List (String × Json)) (above text : String),
    text ∈ leafPaths above members ↔ ∃ name value names, (name, value) ∈ members ∧
      value.LeafAt names ∧ (name :: names).foldl extend above = text
  | [], above, text => by simp [leafPaths]
  | (name, value) :: rest, above, text => by
    rw [leafPaths, List.mem_append, mem_valuePaths value, mem_leafPaths rest]
    constructor
    · rintro (⟨names, hleaf, htext⟩ | ⟨other, value', names, hmem, hleaf, htext⟩)
      · exact ⟨name, value, names, List.mem_cons_self, hleaf, htext⟩
      · exact ⟨other, value', names, List.mem_cons_of_mem _ hmem, hleaf, htext⟩
    · rintro ⟨other, value', names, hmem, hleaf, htext⟩
      rcases List.mem_cons.mp hmem with heq | hmem
      · obtain ⟨rfl, rfl⟩ := Prod.mk.inj heq
        exact Or.inl ⟨names, hleaf, htext⟩
      · exact Or.inr ⟨other, value', names, hmem, hleaf, htext⟩

/-- The paths of the leaves of one value are those of the names that lead on to them. -/
theorem mem_valuePaths : ∀ (value : Json) (path text : String),
    text ∈ valuePaths path value ↔ ∃ names, value.LeafAt names ∧ names.foldl extend path = text
  | .object (member :: members), path, text => by
    rw [valuePaths, mem_leafPaths]
    constructor
    · rintro ⟨name, value, names, hmem, hleaf, htext⟩
      exact ⟨name :: names, .within hmem hleaf, htext⟩
    · rintro ⟨names, hleaf, htext⟩
      cases hleaf with
      | here leaf => exact absurd rfl (leaf _ _)
      | within mem rest => exact ⟨_, _, _, mem, rest, htext⟩
  | .object [], path, text | .null, path, text | .bool _, path, text | .number _, path, text
  | .string _, path, text | .array _, path, text =>
    mem_valuePaths_of_isLeaf (by simp [Json.IsLeaf]) path text

end

/-- A leaf of a descriptor stands in it below at least one name. -/
def Leads (members : List (String × Json)) (names : List String) : Prop :=
  names ≠ [] ∧ (Json.object members).LeafAt names

/-- A descriptor declares the paths of its leaves without the empty names that they start with. -/
theorem mem_paths_ofJson {text : String} : text ∈ (ofJson (.object members)).paths ↔
    ∃ names, Leads members names ∧ Path.join (names.dropWhile String.isEmpty) = text := by
  rw [ofJson, ofPaths, Ascending.mem_ofTexts, mem_leafPaths]
  constructor
  · rintro ⟨name, value, names, hmem, hleaf, htext⟩
    exact ⟨name :: names, ⟨by simp, .within hmem hleaf⟩, by rw [← foldl_extend_root, htext]⟩
  · rintro ⟨names, ⟨hne, hleaf⟩, htext⟩
    cases hleaf with
    | here leaf => contradiction
    | within mem rest => exact ⟨_, _, _, mem, rest, by rw [foldl_extend_root, htext]⟩

/-- Names are written with all the empty ones among them, unless they start with one and go on. -/
theorem join_dropWhile {names : List String}
    (h : ¬∃ name rest, names = "" :: name :: rest) :
    Path.join (names.dropWhile String.isEmpty) = Path.join names := by
  cases names with
  | nil => rfl
  | cons name rest =>
    cases hname : name.isEmpty with
    | false => rw [List.dropWhile_cons_of_neg (by simp [hname])]
    | true =>
      obtain rfl := String.isEmpty_iff.mp hname
      cases rest with
      | nil => rfl
      | cons next rest => exact absurd ⟨next, rest, rfl⟩ h

section Filters

variable [PatternEngine]

/-- A descriptor is flattened like a filter: it declares the paths that lead to its leaves. So a
filter that nests an operator under the names of a leaf reads the overlay, and a path that neither
starts the path of a leaf nor starts with one does not. -/
structure FlattensAlike (members : List (String × Json)) : Prop where
  paths : ∀ text, text ∈ (ofJson (.object members)).paths ↔
    ∃ names, Leads members names ∧ Path.join names = text
  redirected : ∀ names, Leads members names → elementOperator ∉ names →
    ∀ (operator : Operator) (operand : Json) (condition : Condition),
      (∀ inner, operand ≠ .object inner) → Condition.ofOperator operator operand = .ok condition →
      Filter.compile (ofJson (.object members))
          (.object (Filter.nest names [(operator.name, operand)])) =
        .ok ⟨[(overlaySegment :: Path.split (Path.join names), condition)]⟩
  unredirected : ∀ path,
    (∀ names, Leads members names → ¬Path.split (Path.join names) <+: Path.split path ∧
      ¬Path.split path <+: Path.split (Path.join names)) →
    (ofJson (.object members)).covers path = false

/-- A descriptor that declares the paths that lead to its leaves is flattened like a filter. -/
theorem flattensAlike_of_paths (paths : ∀ text, text ∈ (ofJson (.object members)).paths ↔
    ∃ names, Leads members names ∧ Path.join names = text) : FlattensAlike members where
  paths := paths
  redirected := by
    intro names hleads hnames operator operand condition hoperand hcondition
    have hdeclared : Path.join names ∈ (ofJson (.object members)).paths :=
      (paths _).mpr ⟨names, hleads, rfl⟩
    have hcovers : (ofJson (.object members)).covers (Path.join names) = true :=
      covers_iff.mpr ⟨_, hdeclared, Or.inl (List.prefix_refl _)⟩
    rw [Filter.compile_nest_operator hleads.1 hnames hoperand hcondition, target, if_pos hcovers]
  unredirected := by
    intro path hunrelated
    rw [Bool.eq_false_iff, ne_eq, covers_iff]
    rintro ⟨declared, hdeclared, hrelated⟩
    obtain ⟨names, hleads, rfl⟩ := (paths declared).mp hdeclared
    exact not_or.mpr (hunrelated names hleads) hrelated

/-- A descriptor is flattened like a filter exactly if every leaf below an empty outermost name has
two others in its place: one that the descriptor declares with the path of the leaf, and one whose
path is what the descriptor declares for the leaf. -/
theorem flattensAlike_iff (members : List (String × Json)) : FlattensAlike members ↔
    ∀ name rest, Leads members ("" :: name :: rest) →
      (∃ names, Leads members names ∧
        Path.join (names.dropWhile String.isEmpty) = Path.join ("" :: name :: rest)) ∧
      ∃ names, Leads members names ∧
        Path.join names = Path.join ((name :: rest).dropWhile String.isEmpty) := by
  constructor
  · intro h name rest hleads
    have hwhole : Path.join ("" :: name :: rest) ∈ (ofJson (.object members)).paths :=
      (h.paths _).mpr ⟨_, hleads, rfl⟩
    have hstripped : Path.join ((name :: rest).dropWhile String.isEmpty) ∈
        (ofJson (.object members)).paths := mem_paths_ofJson.mpr ⟨_, hleads, rfl⟩
    exact ⟨mem_paths_ofJson.mp hwhole, (h.paths _).mp hstripped⟩
  · intro h
    apply flattensAlike_of_paths
    intro text
    rw [mem_paths_ofJson]
    constructor
    · rintro ⟨names, hleads, rfl⟩
      by_cases hempty : ∃ name rest, names = "" :: name :: rest
      · obtain ⟨name, rest, rfl⟩ := hempty
        exact (h name rest hleads).2
      · exact ⟨names, hleads, (join_dropWhile hempty).symm⟩
    · rintro ⟨names, hleads, rfl⟩
      by_cases hempty : ∃ name rest, names = "" :: name :: rest
      · obtain ⟨name, rest, rfl⟩ := hempty
        exact (h name rest hleads).1
      · exact ⟨names, hleads, join_dropWhile hempty⟩

end Filters

open scoped PatternEngine

/-- Below an empty outermost name a leaf is declared without this name, and its own path is not. -/
theorem not_flattensAlike_emptyName :
    ¬FlattensAlike [("", .object [("a", .number (.int 1 (by decide) (by decide)))])] := by
  intro h
  have hleads : Leads [("", .object [("a", .number (.int 1 (by decide) (by decide)))])]
      ["", "a"] := by
    refine ⟨by simp, .within List.mem_cons_self (.within List.mem_cons_self (.here ?_))⟩
    simp [Json.IsLeaf]
  have hdeclared := (h.paths ".a").mpr ⟨_, hleads, by decide⟩
  exact absurd hdeclared (by decide)

end Redirects

end TypedStore
