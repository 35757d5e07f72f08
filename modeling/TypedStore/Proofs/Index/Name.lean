import TypedStore.Index.FieldPath
import TypedStore.Proofs.Ascending

/-!
# What the name of an index tells

The name of an index tells its path. It tells the set of its types where no type has a
comma in it; otherwise different sets of types may share a name.
-/

namespace TypedStore

/-- A field path keeps its text. -/
theorem FieldPath.text_of_parse {text : String} {path : FieldPath}
    (parsed : parse text = .ok path) : path.text = text := by
  unfold parse at parsed
  split at parsed
  · contradiction
  · split at parsed
    · contradiction
    · obtain rfl := Except.ok.inj parsed
      rfl

/-- A field path is read from its own text. -/
theorem FieldPath.parse_text_of_parse {text : String} {path : FieldPath}
    (parsed : parse text = .ok path) : parse path.text = .ok path := by
  rwa [text_of_parse parsed]

namespace IndexName

/-- Lists of types that are told apart by the names of their indexes: a name is shared only
for the same set of types and the same field path. -/
def Separates (allowed : List String → Prop) : Prop :=
  ∀ as bs, allowed as → allowed bs → ∀ path other : FieldPath,
    FieldPath.parse path.text = .ok path → FieldPath.parse other.text = .ok other →
    of as path = of bs other → (∀ type, type ∈ as ↔ type ∈ bs) ∧ path = other

/-- A list of types with some type in it and no comma in any of them. -/
def Plain (types : List String) : Prop := types ≠ [] ∧ ∀ type ∈ types, ',' ∉ type.toList

/-- The name of an index tells its path. -/
theorem path_eq_of_name_eq {as bs : List String} {path other : FieldPath}
    (hpath : FieldPath.parse path.text = .ok path) (hother : FieldPath.parse other.text = .ok other)
    (hname : of as path = of bs other) : path = other := by
  have htext : path.text = other.text := congrArg IndexName.path hname
  exact Except.ok.inj (hpath.symm.trans (htext ▸ hother))

/-- The spelling of plain types is read back by splitting it at its commas. -/
theorem split_types_of_plain {types : List String} (plain : Plain types) (path : FieldPath) :
    Separated.split ',' (of types path).types.toList =
      (Ascending.ofTexts types).map String.toList := by
  rw [of, Separated.joinTexts, String.toList_ofList]
  apply Separated.split_join
  · obtain ⟨type, htype⟩ := List.exists_mem_of_ne_nil types plain.1
    have hlisted := Ascending.mem_ofTexts.mpr htype
    simpa using List.ne_nil_of_mem hlisted
  · intro part hpart
    obtain ⟨type, htype, rfl⟩ := List.mem_map.mp hpart
    exact plain.2 type (Ascending.mem_ofTexts.mp htype)

/-- The names of indexes tell plain lists of types apart. -/
theorem separates_plain : Separates Plain := by
  intro as bs has hbs path other hpath hother hname
  refine ⟨?_, path_eq_of_name_eq hpath hother hname⟩
  rw [← Ascending.ofTexts_eq_iff]
  have hlisted : (Ascending.ofTexts as).map String.toList =
      (Ascending.ofTexts bs).map String.toList := by
    rw [← split_types_of_plain has path, ← split_types_of_plain hbs other, hname]
  exact (List.map_inj_right fun _ _ => String.toList_injective).mp hlisted

end IndexName

end TypedStore
