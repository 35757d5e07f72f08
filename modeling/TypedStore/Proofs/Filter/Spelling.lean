import TypedStore.Pattern.Dialect
import TypedStore.Proofs.Filter.Leaf

/-!
# Spellings of a filter

A path in a filter can be written as one dotted name or as objects within objects, at any
depth and inside the filters for elements too. The leaves of the filter are the same either
way, and a compiled filter lets a node pass exactly if every leaf holds of it. A leaf is
read from the overlay of the node if its path is redirected or addresses the overlay itself,
and from the node otherwise.
-/

namespace TypedStore

/-- The value that a stamped node has at the path of a leaf. -/
def StampedNode.valueAt (redirects : Redirects) (stamped : StampedNode) (path : Path) :
    Option Json :=
  if redirects.covers (Path.join path) then stamped.overlay.bind fun value => value.at? path
  else if path.head? = some overlaySegment then
    stamped.overlay.bind fun value => value.at? path.tail
  else stamped.node.at? path

/-- Two objects are spellings of each other: members are put in another order, a dotted name
is written as an object within an object, or objects under one name are written as one, at any
depth. The word for elements is no name of a path. -/
inductive Respelled : List (String × Json) → List (String × Json) → Prop
  | perm {members others : List (String × Json)} (h : members.Perm others) :
      Respelled members others
  | nest {outer inner : String} (houter : outer ≠ elementOperator)
      (hinner : inner ≠ elementOperator) (members rest : List (String × Json)) :
      Respelled ((outer ++ "." ++ inner, .object members) :: rest)
        ((outer, .object [(inner, .object members)]) :: rest)
  | merge {name : String} (hname : name ≠ elementOperator)
      (members others rest : List (String × Json)) :
      Respelled ((name, .object members) :: (name, .object others) :: rest)
        ((name, .object (members ++ others)) :: rest)
  | inside {members others : List (String × Json)} (h : Respelled members others) (name : String)
      (rest : List (String × Json)) :
      Respelled ((name, .object members) :: rest) ((name, .object others) :: rest)
  | symm {members others : List (String × Json)} (h : Respelled members others) :
      Respelled others members
  | trans {members middle others : List (String × Json)} (first : Respelled members middle)
      (second : Respelled middle others) : Respelled members others

namespace Filter

variable {redirects : Redirects} {path : Path}

theorem leavesBelow_eq_flatMap (path : Path) (members : List (String × Json)) :
    leavesBelow path members =
      members.flatMap fun member => memberLeaves path member.1 member.2 := by
  induction members with
  | nil => rfl
  | cons member rest ih =>
    obtain ⟨name, value⟩ := member
    simp [leavesBelow, ih]

/-- The members of an object lead further down, unless they are a filter for elements. -/
theorem memberLeaves_object {name : String} (hname : name ≠ elementOperator) (path : Path)
    (members : List (String × Json)) :
    memberLeaves path name (.object members) = leavesBelow (path ++ Path.split name) members := by
  simp [memberLeaves, hname]

mutual

/-- The paths of leaves are made of segments without dots. -/
theorem dot_not_mem_of_mem_leavesBelow : ∀ (members : List (String × Json)) (path : Path),
    (∀ segment ∈ path, '.' ∉ segment.toList) →
    ∀ leaf ∈ leavesBelow path members, ∀ segment ∈ leaf.path, '.' ∉ segment.toList
  | [], path, hpath, leaf, hmem => by simp [leavesBelow] at hmem
  | (name, value) :: rest, path, hpath, leaf, hmem => by
    rcases List.mem_append.mp hmem with hmem | hmem
    · exact dot_not_mem_of_mem_memberLeaves value path name hpath leaf hmem
    · exact dot_not_mem_of_mem_leavesBelow rest path hpath leaf hmem

/-- The paths of the leaves of a member are made of segments without dots. -/
theorem dot_not_mem_of_mem_memberLeaves : ∀ (value : Json) (path : Path) (name : String),
    (∀ segment ∈ path, '.' ∉ segment.toList) →
    ∀ leaf ∈ memberLeaves path name value, ∀ segment ∈ leaf.path, '.' ∉ segment.toList
  | value, path, name, hpath, leaf, hmem => by
    cases value with
    | object members =>
      simp only [memberLeaves] at hmem
      split at hmem
      · obtain rfl := List.mem_singleton.mp hmem
        exact hpath
      · refine dot_not_mem_of_mem_leavesBelow members _ (fun segment hsegment => ?_) leaf hmem
        rcases List.mem_append.mp hsegment with hsegment | hsegment
        · exact hpath segment hsegment
        · exact Path.dot_not_mem_of_mem_split hsegment
    | null | bool | number | string | array =>
      obtain rfl := List.mem_singleton.mp hmem
      exact hpath

end

/-- Segments without dots are found again in their dotted text, redirected or not. -/
theorem placeOf_some (hne : path ≠ []) (hdots : ∀ segment ∈ path, '.' ∉ segment.toList) :
    placeOf (some redirects) path =
      if redirects.covers (Path.join path) then overlaySegment :: path else path := by
  simp only [placeOf, Redirects.target, Path.split_join hne hdots]

/-- What a stamped node has at the place of a leaf is its value at the path of the leaf. -/
theorem at?_placeOf (hne : path ≠ []) (hdots : ∀ segment ∈ path, '.' ∉ segment.toList)
    (stamped : StampedNode) :
    stamped.at? (placeOf (some redirects) path) = stamped.valueAt redirects path := by
  rw [placeOf_some hne hdots, StampedNode.valueAt]
  by_cases hcovers : redirects.covers (Path.join path) = true
  · simp [hcovers, StampedNode.at?]
  · cases path with
    | nil => contradiction
    | cons name rest =>
      by_cases hname : name = overlaySegment
      · subst hname
        simp [hcovers, StampedNode.at?]
      · simp [hcovers, StampedNode.at?, hname]

section Compiled

variable [PatternEngine]

/-- Leaves of two filters are alike: both are without fault or neither is, and they hold of
the same values. -/
structure Alike (asked others : List Leaf) : Prop where
  valid_iff : ∀ outside : Bool,
    (∀ leaf ∈ asked, leaf.Valid ∧ (outside → leaf.path ≠ [])) ↔
      ∀ leaf ∈ others, leaf.Valid ∧ (outside → leaf.path ≠ [])
  holds_iff : ∀ read, (∀ leaf ∈ asked, leaf.Holds read) ↔ ∀ leaf ∈ others, leaf.Holds read

variable {filter : Json} {compiled : Filter} {asked others : List Leaf}
  {members : List (String × Json)}

theorem Alike.append_right (h : Alike asked others) (rest : List Leaf) :
    Alike (asked ++ rest) (others ++ rest) where
  valid_iff := by
    intro outside
    simp only [List.forall_mem_append, h.valid_iff outside]
  holds_iff := by
    intro read
    simp only [List.forall_mem_append, h.holds_iff read]

/-- The order of leaves does not matter. -/
theorem alike_of_perm (h : asked.Perm others) : Alike asked others where
  valid_iff := fun _ => ⟨fun hall leaf hmem => hall leaf (h.mem_iff.mpr hmem),
    fun hall leaf hmem => hall leaf (h.mem_iff.mp hmem)⟩
  holds_iff := fun _ => ⟨fun hall leaf hmem => hall leaf (h.mem_iff.mpr hmem),
    fun hall leaf hmem => hall leaf (h.mem_iff.mp hmem)⟩

/-- Filters for elements are alike if their leaves are. -/
theorem Alike.elements (h : Alike asked others) (path : Path) :
    Alike [.elements path asked] [.elements path others] where
  valid_iff := by
    intro outside
    have hbody := h.valid_iff false
    simp only [Bool.false_eq_true, false_implies, and_true] at hbody
    simp only [List.forall_mem_singleton, Leaf.Valid, Leaf.allValid_iff, hbody, Leaf.path]
  holds_iff := by
    intro read
    simp only [List.forall_mem_singleton, Leaf.Holds, Leaf.allHold_iff, h.holds_iff]

/-- Spellings of one object have leaves that are alike. -/
theorem Respelled.alike {members others : List (String × Json)} (h : Respelled members others)
    (path : Path) : Alike (leavesBelow path members) (leavesBelow path others) := by
  induction h generalizing path with
  | perm h =>
    rw [leavesBelow_eq_flatMap, leavesBelow_eq_flatMap]
    exact alike_of_perm (h.flatMap_right _)
  | @nest outer inner houter hinner members rest =>
    have hdotted : outer ++ "." ++ inner ≠ elementOperator := by
      intro hname
      have hdot : '.' ∉ elementOperator.toList := by decide
      exact hdot (hname ▸ by simp)
    have hsame : leavesBelow path ((outer ++ "." ++ inner, .object members) :: rest) =
        leavesBelow path ((outer, .object [(inner, .object members)]) :: rest) := by
      simp [leavesBelow, memberLeaves_object hdotted, memberLeaves_object houter,
        memberLeaves_object hinner, Path.split_dotted]
    rw [hsame]
    exact alike_of_perm (.refl _)
  | @merge name hname members others rest =>
    have hsame : leavesBelow path ((name, .object members) :: (name, .object others) :: rest) =
        leavesBelow path ((name, .object (members ++ others)) :: rest) := by
      simp [leavesBelow, memberLeaves_object hname, leavesBelow_eq_flatMap]
    rw [hsame]
    exact alike_of_perm (.refl _)
  | @inside members others h name rest ih =>
    simp only [leavesBelow]
    refine Alike.append_right ?_ _
    by_cases hname : name = elementOperator
    · simp only [memberLeaves, if_pos hname]
      exact (ih []).elements path
    · rw [memberLeaves_object hname, memberLeaves_object hname]
      exact ih (path ++ Path.split name)
  | symm h ih => exact ⟨fun outside => ((ih path).valid_iff outside).symm,
      fun read => ((ih path).holds_iff read).symm⟩
  | trans first second ih ih' => exact
      ⟨fun outside => ((ih path).valid_iff outside).trans ((ih' path).valid_iff outside),
        fun read => ((ih path).holds_iff read).trans ((ih' path).holds_iff read)⟩

/-- Compiling a filter compiles its leaves; null has none. -/
theorem compilation_compile (h : compile redirects filter = .ok compiled) :
    Compilation (some redirects) (leaves filter) (.ok compiled.clauses) := by
  cases filter with
  | null =>
    obtain rfl := Except.ok.inj h
    exact .ok (by simp [leaves]) rfl (by simp [leaves, empty, clausesHold, Leaf.AllHold])
  | object members =>
    have hmembers := compilation_compileMembers members (some redirects) []
    simp only [compile] at h
    cases hclauses : compileMembers (some redirects) [] members with
    | error fault => simp [hclauses, Except.map] at h
    | ok clauses =>
      rw [hclauses] at h hmembers
      obtain rfl := Except.ok.inj h
      exact hmembers
  | bool | number | string | array => simp [compile] at h

/-- The leaves of a filter that can be compiled stand at paths, of segments without dots. -/
theorem path_of_mem_leaves (h : compile redirects filter = .ok compiled) {leaf : Leaf}
    (hmem : leaf ∈ leaves filter) :
    leaf.path ≠ [] ∧ ∀ segment ∈ leaf.path, '.' ∉ segment.toList := by
  cases compilation_compile h with
  | ok valid =>
    refine ⟨(valid leaf hmem).2 rfl, ?_⟩
    cases filter with
    | object members => exact dot_not_mem_of_mem_leavesBelow members [] (by simp) leaf hmem
    | null | bool | number | string | array => simp [leaves] at hmem

/-- A compiled filter lets a node pass exactly if every leaf holds of it. -/
theorem matchesNode_iff (h : compile redirects filter = .ok compiled) (stamped : StampedNode) :
    compiled.matchesNode stamped = true ↔
      ∀ leaf ∈ leaves filter, leaf.Holds (stamped.valueAt redirects) := by
  have hcompiled := compilation_compile h
  cases hcompiled with
  | ok valid places holds =>
    rw [matchesNode, matchesView, holds, Leaf.allHold_iff]
    refine forall₂_congr fun leaf hmem => ?_
    obtain ⟨hne, hdots⟩ := path_of_mem_leaves h hmem
    exact Leaf.holds_congr (at?_placeOf hne hdots stamped)

/-- The clauses of a compiled filter stand at the paths of its leaves, in order, with those that
are redirected below the segment of overlays. -/
theorem clauses_map_fst (h : compile redirects filter = .ok compiled) :
    compiled.clauses.map Prod.fst = (leaves filter).map fun leaf =>
      if redirects.covers (Path.join leaf.path) then overlaySegment :: leaf.path
      else leaf.path := by
  have hcompiled := compilation_compile h
  cases hcompiled with
  | ok valid places holds =>
    rw [places]
    refine List.map_congr_left fun leaf hmem => ?_
    obtain ⟨hne, hdots⟩ := path_of_mem_leaves h hmem
    exact placeOf_some hne hdots

/-- A spelling of a filter that can be compiled can be compiled, and lets the same nodes pass. -/
theorem compile_respelled {others : List (String × Json)}
    (h : compile redirects (.object members) = .ok compiled) (hspelled : Respelled members others) :
    ∃ respelled, compile redirects (.object others) = .ok respelled ∧
      ∀ stamped, respelled.matchesNode stamped = compiled.matchesNode stamped := by
  have halike := Respelled.alike hspelled []
  have hothers := compilation_compileMembers others (some redirects) []
  cases hclauses : compileMembers (some redirects) [] others with
  | error fault =>
    rw [hclauses] at hothers
    cases compilation_compile h with
    | ok valid =>
      cases hothers with
      | error mem faulty => exact absurd ((halike.valid_iff true).mp valid _ mem) faulty
  | ok clauses =>
    have hcompile : compile redirects (.object others) = .ok ⟨clauses⟩ := by
      simp [compile, hclauses, Except.map]
    refine ⟨⟨clauses⟩, hcompile, fun stamped => ?_⟩
    rw [Bool.eq_iff_iff, matchesNode_iff hcompile, matchesNode_iff h]
    exact (halike.holds_iff _).symm

/-- A filter that can be compiled has one clause for each leaf, at the path of the leaf. It lets
a node pass exactly if every leaf holds of it, and every spelling of it can be compiled too and
lets the same nodes pass. -/
theorem compile_meaning (h : compile redirects filter = .ok compiled) :
    (compiled.clauses.map Prod.fst = (leaves filter).map fun leaf =>
      if redirects.covers (Path.join leaf.path) then overlaySegment :: leaf.path
      else leaf.path) ∧
    (∀ stamped : StampedNode, compiled.matchesNode stamped = true ↔
      ∀ leaf ∈ leaves filter, leaf.Holds (stamped.valueAt redirects)) ∧
    ∀ members others, filter = .object members → Respelled members others →
      ∃ respelled, compile redirects (.object others) = .ok respelled ∧
        ∀ stamped, respelled.matchesNode stamped = compiled.matchesNode stamped := by
  refine ⟨clauses_map_fst h, matchesNode_iff h, ?_⟩
  rintro members others rfl hspelled
  exact compile_respelled h hspelled

end Compiled

open scoped PatternEngine

/-- A filter with a path and a filter for elements, both written as objects within objects. -/
def nestedSpelling : List (String × Json) :=
  [("a", .object [("b", .object [("eq", .string "x")])]),
    ("tags", .object [("elemMatch",
      .object [("t", .object [("u", .object [("ne", .string "y")])])])])]

/-- The same filter written with dotted names. -/
def dottedSpelling : List (String × Json) :=
  [("a.b", .object [("eq", .string "x")]),
    ("tags", .object [("elemMatch", .object [("t.u", .object [("ne", .string "y")])])])]

/-- What both are compiled to where the first path is redirected. -/
def bothCompiled : Filter :=
  ⟨[([overlaySegment, "a", "b"], .equal (.string "x")),
    (["tags"], .someElement [(["t", "u"], .unequal (.string "y"))])]⟩

private theorem respelled_nestedSpelling : Respelled nestedSpelling dottedSpelling := by
  have houter : Respelled (("a" ++ "." ++ "b", .object [("eq", .string "x")]) ::
      nestedSpelling.tail) nestedSpelling := .nest (by decide) (by decide) _ _
  have hinner : Respelled [("t" ++ "." ++ "u", .object [("ne", .string "y")])]
      [("t", .object [("u", .object [("ne", .string "y")])])] := .nest (by decide) (by decide) _ _
  rw [show "a" ++ "." ++ "b" = "a.b" by decide] at houter
  rw [show "t" ++ "." ++ "u" = "t.u" by decide] at hinner
  have htags := Respelled.inside (.inside hinner.symm "elemMatch" []) "tags"
    [("a.b", .object [("eq", .string "x")])]
  have hfirst := houter.symm.trans (.perm (.swap ..))
  exact (hfirst.trans htags).trans (.perm (.swap ..))

/-- Nested and dotted, the filter lets the same nodes pass. -/
theorem compile_meaning_nestedSpelling :
    compile (.ofPaths ["a"]) (.object nestedSpelling) = .ok bothCompiled ∧
      Respelled nestedSpelling dottedSpelling ∧
      (∀ stamped : StampedNode, bothCompiled.matchesNode stamped = true ↔
        ∀ leaf ∈ leaves (.object nestedSpelling),
          leaf.Holds (stamped.valueAt (.ofPaths ["a"]))) ∧
      ∃ respelled, compile (.ofPaths ["a"]) (.object dottedSpelling) = .ok respelled ∧
        ∀ stamped, respelled.matchesNode stamped = bothCompiled.matchesNode stamped := by
  have hcompile : compile (.ofPaths ["a"]) (.object nestedSpelling) = .ok bothCompiled := by rfl
  obtain ⟨-, hmatches, hspelled⟩ := compile_meaning hcompile
  exact ⟨hcompile, respelled_nestedSpelling, hmatches,
    hspelled _ _ rfl respelled_nestedSpelling⟩

/-- A filter that addresses the overlay itself. -/
def addressedFilter : Json :=
  .object [(overlaySegment, .object [("x", .object [("eq", .string "1")])])]

/-- A node that has the value in its overlay, and nothing but its identity in its body. -/
def overlaidNode : StampedNode := ⟨Node.bare "a" "Post" "d", some (.object [("x", .string "1")])⟩

/-- A path that starts with the segment of overlays is read from the overlay though it is not
redirected: the node passes, but would not if paths that are not redirected were read from the
node itself. -/
theorem addressedFilter_reads_overlay :
    ∃ compiled, compile Redirects.none addressedFilter = .ok compiled ∧
      (leaves addressedFilter).map Leaf.path = [[overlaySegment, "x"]] ∧
      Redirects.none.covers (Path.join [overlaySegment, "x"]) = false ∧
      compiled.matchesNode overlaidNode = true ∧
      ¬∀ leaf ∈ leaves addressedFilter, leaf.Holds fun path =>
        if Redirects.none.covers (Path.join path) then
          overlaidNode.overlay.bind fun value => value.at? path
        else overlaidNode.node.at? path := by
  have hleaves : leaves addressedFilter = [.test [overlaySegment, "x"] "eq" (.string "1")] := rfl
  have hcovers (path : String) : Redirects.none.covers path = false := rfl
  have habsent : overlaidNode.node.at? [overlaySegment, "x"] = none := by rfl
  have hequal : Operator.parse? "eq" = some .equal := by decide
  refine ⟨⟨[([overlaySegment, "x"], .equal (.string "1"))]⟩, rfl, by rw [hleaves]; rfl,
    hcovers _, by decide, ?_⟩
  simp [hleaves, Leaf.Holds, hcovers, habsent, hequal, Operator.Holds, Json.equals, Json.isNull]

end Filter

end TypedStore
