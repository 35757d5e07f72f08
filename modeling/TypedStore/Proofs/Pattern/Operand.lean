import TypedStore.Filter.Pattern
import TypedStore.Pattern.Dialect

/-!
# Operands of regular expressions

An operand between slashes is parted at its first and its last slash, any other operand is an
expression without letters. The parts are determined by the operand. The letters set the switches
under which the expression is read: the first one without a meaning is refused before the
expression is handed to the engine, and otherwise it only counts which letters occur. To tell this
refusal from those of the engine it is used that the engine has words of its own for them.
-/

namespace TypedStore.Regex

/-- The letters that an operand may have behind its last slash. -/
def knownLetters : List Char := ['i', 'm', 's', 'x', 'g', 'u']

/-- The switches that are set where some letters occur. -/
def Switches.ofLetters (letters : List Char) : Switches where
  ignoreCase := 'i' ∈ letters
  multiLine := 'm' ∈ letters
  dotAll := 's' ∈ letters
  ignoreSpace := 'x' ∈ letters

/-- A letter is the first one without a meaning. -/
def FirstUnknown (letters : List Char) (letter : Char) : Prop :=
  ∃ before after, letters = before ++ letter :: after ∧ letter ∉ knownLetters ∧
    ∀ earlier ∈ before, earlier ∈ knownLetters

/-- The expression and the letters of an operand: what stands between its first and its last slash
and what stands behind this one, or the whole operand and nothing if there are no such slashes. -/
def Parts (operand pattern letters : String) : Prop :=
  (operand = "/" ++ pattern ++ "/" ++ letters ∧ '/' ∉ letters.toList) ∨
    (pattern = operand ∧ letters = "" ∧
      ∀ other more : String, '/' ∉ more.toList → operand ≠ "/" ++ other ++ "/" ++ more)

/-- A text without separators is not parted. -/
theorem splitAtLast_eq_none {separator : Char} {text : List Char} (h : separator ∉ text) :
    splitAtLast separator text = none := by
  induction text with
  | nil => rfl
  | cons c rest ih =>
    rw [List.mem_cons, not_or] at h
    simp [splitAtLast, ih h.2, Ne.symm h.1]

/-- A text is parted at the separator behind which there is no other one. -/
theorem splitAtLast_append {separator : Char} (before : List Char) {after : List Char}
    (h : separator ∉ after) :
    splitAtLast separator (before ++ separator :: after) = some (before, after) := by
  induction before with
  | nil => simp [splitAtLast, splitAtLast_eq_none h]
  | cons c before ih => simp [splitAtLast, ih]

/-- Every other text has a separator behind which there is no other one. -/
theorem exists_append_of_mem {separator : Char} {text : List Char} (h : separator ∈ text) :
    ∃ before after, text = before ++ separator :: after ∧ separator ∉ after := by
  induction text with
  | nil => contradiction
  | cons c rest ih =>
    by_cases hrest : separator ∈ rest
    · obtain ⟨before, after, rfl, hafter⟩ := ih hrest
      exact ⟨c :: before, after, rfl, hafter⟩
    · obtain rfl : separator = c := (List.mem_cons.mp h).resolve_right hrest
      exact ⟨[], rest, rfl, hrest⟩

theorem toList_operand (pattern letters : String) :
    ("/" ++ pattern ++ "/" ++ letters).toList =
      '/' :: (pattern.toList ++ '/' :: letters.toList) := by
  simp

/-- What stands between slashes is parted from what stands behind the last one. -/
theorem splitOperand_slashes {pattern letters : String} (h : '/' ∉ letters.toList) :
    splitOperand ("/" ++ pattern ++ "/" ++ letters).toList =
      (pattern.toList, letters.toList) := by
  rw [toList_operand, splitOperand, splitAtLast_append _ h]
  rfl

/-- An operand that is not of this form is an expression without letters. -/
theorem splitOperand_bare {operand : String}
    (h : ∀ other more : String, '/' ∉ more.toList → operand ≠ "/" ++ other ++ "/" ++ more) :
    splitOperand operand.toList = (operand.toList, []) := by
  unfold splitOperand
  split
  · rename_i rest hrest
    have hnone : '/' ∉ rest := by
      intro hmem
      obtain ⟨before, after, hparts, hafter⟩ := exists_append_of_mem hmem
      refine h (String.ofList before) (String.ofList after) (by simpa using hafter) ?_
      apply String.toList_injective
      rw [toList_operand, hrest, hparts, String.toList_ofList, String.toList_ofList]
    rw [splitAtLast_eq_none hnone]
    rfl
  · rfl

/-- The parts of an operand are those that it is split in. -/
theorem parts_iff {operand pattern letters : String} : Parts operand pattern letters ↔
    splitOperand operand.toList = (pattern.toList, letters.toList) := by
  constructor
  · rintro (⟨rfl, hletters⟩ | ⟨rfl, rfl, hbare⟩)
    · exact splitOperand_slashes hletters
    · exact splitOperand_bare hbare
  · intro hsplit
    by_cases hbare : ∀ other more : String, '/' ∉ more.toList →
        operand ≠ "/" ++ other ++ "/" ++ more
    · rw [splitOperand_bare hbare] at hsplit
      obtain ⟨hpattern, hletters⟩ := Prod.mk.inj hsplit
      exact Or.inr ⟨(String.toList_injective hpattern).symm, by simpa using hletters.symm, hbare⟩
    · obtain ⟨other, more, hmore, rfl⟩ : ∃ other more : String, '/' ∉ more.toList ∧
          operand = "/" ++ other ++ "/" ++ more := by
        simpa [Classical.not_forall] using hbare
      rw [splitOperand_slashes hmore] at hsplit
      obtain ⟨hpattern, hletters⟩ := Prod.mk.inj hsplit
      obtain rfl := String.toList_injective hpattern
      obtain rfl := String.toList_injective hletters
      exact Or.inl ⟨rfl, hmore⟩

example : Parts "/a//b/gi" "a//b" "gi" := parts_iff.mpr (by decide)

example : Parts "/" "/" "" := parts_iff.mpr (by decide)

namespace Switches

variable {letters : List Char} {letter : Char}

/-- A letter without a meaning sets nothing. -/
theorem set?_eq_none (switches : Switches) (h : letter ∉ knownLetters) :
    switches.set? letter = none := by
  simp only [knownLetters, List.mem_cons, List.not_mem_nil, or_false, not_or] at h
  simp [set?, h]

/-- The switches that are set, or are set by some letters. -/
def adding (switches : Switches) (letters : List Char) : Switches where
  ignoreCase := switches.ignoreCase || 'i' ∈ letters
  multiLine := switches.multiLine || 'm' ∈ letters
  dotAll := switches.dotAll || 's' ∈ letters
  ignoreSpace := switches.ignoreSpace || 'x' ∈ letters

/-- A letter with a meaning is added to those before it. -/
theorem set?_eq_some (switches : Switches) (h : letter ∈ knownLetters) :
    ∃ changed, switches.set? letter = some changed ∧
      ∀ rest, changed.adding rest = switches.adding (letter :: rest) := by
  simp only [knownLetters, List.mem_cons, List.not_mem_nil, or_false] at h
  rcases h with rfl | rfl | rfl | rfl | rfl | rfl <;>
    exact ⟨_, rfl, fun rest => by simp [adding]⟩

/-- Where all letters have a meaning, they set switches by their occurrence. -/
theorem setAll_eq_ok (switches : Switches) (h : ∀ letter ∈ letters, letter ∈ knownLetters) :
    switches.setAll letters = .ok (switches.adding letters) := by
  induction letters generalizing switches with
  | nil => simp [setAll, adding]
  | cons letter rest ih =>
    obtain ⟨changed, hset, hadding⟩ := switches.set?_eq_some (h letter List.mem_cons_self)
    simp only [setAll, hset]
    rw [ih changed fun other hother => h other (List.mem_cons_of_mem _ hother), hadding]

/-- The first letter without a meaning is refused. -/
theorem setAll_eq_error (switches : Switches) (h : FirstUnknown letters letter) :
    switches.setAll letters = .error letter := by
  obtain ⟨before, after, rfl, hunknown, hbefore⟩ := h
  induction before generalizing switches with
  | nil => simp [setAll, switches.set?_eq_none hunknown]
  | cons earlier before ih =>
    obtain ⟨changed, hset, -⟩ := switches.set?_eq_some (hbefore earlier List.mem_cons_self)
    simp only [List.cons_append, setAll, hset]
    exact ih changed fun other hother => hbefore other (List.mem_cons_of_mem _ hother)

end Switches

/-- Letters that do not all have a meaning have a first one without. -/
theorem exists_firstUnknown {letters : List Char}
    (h : ¬∀ letter ∈ letters, letter ∈ knownLetters) : ∃ letter, FirstUnknown letters letter := by
  induction letters with
  | nil => simp at h
  | cons letter rest ih =>
    by_cases hletter : letter ∈ knownLetters
    · obtain ⟨unknown, before, after, rfl, hunknown, hbefore⟩ :=
        ih fun hrest => h (List.forall_mem_cons.mpr ⟨hletter, hrest⟩)
      exact ⟨unknown, letter :: before, after, rfl, hunknown,
        List.forall_mem_cons.mpr ⟨hletter, hbefore⟩⟩
    · exact ⟨letter, [], rest, rfl, hletter, by simp⟩

/-- The words tell which letter has no meaning. -/
theorem unknownFlag_inj {first letter : Char} (h : unknownFlag first = unknownFlag letter) :
    first = letter := by
  have hwords : "unknown regex flag '" ++ first.toString ++ "'" =
      "unknown regex flag '" ++ letter.toString ++ "'" := h
  have htexts : first.toString.toList = letter.toString.toList := by
    simpa only [← String.toList_inj, String.toList_append, List.append_left_inj,
      List.append_right_inj] using hwords
  simpa [Char.toString] using htexts

section Engine

variable [PatternEngine]

/-- The engine refuses no expression in the words for a letter without a meaning. -/
def HasOwnWords : Prop :=
  ∀ switches pattern reason, PatternEngine.regex switches pattern = .error reason →
    ∀ letter, reason ≠ unknownFlag letter

/-- An operand is refused because of a letter. -/
def RefusesLetter (operand : String) (letter : Char) : Prop :=
  ofOperand operand = .error (.invalidPattern operand (unknownFlag letter))

variable {operand pattern letters : String}

/-- Where all letters have a meaning, the expression is handed to the engine. -/
theorem ofOperand_of_known (hparts : Parts operand pattern letters)
    (h : ∀ letter ∈ letters.toList, letter ∈ knownLetters) :
    ofOperand operand =
      (PatternEngine.regex (Switches.ofLetters letters.toList) pattern).mapError
        (FilterError.invalidPattern operand) := by
  have hoff : Switches.off.adding letters.toList = Switches.ofLetters letters.toList := by
    simp [Switches.adding, Switches.off, Switches.ofLetters]
  simp only [ofOperand, parts_iff.mp hparts, Switches.setAll_eq_ok _ h, hoff, String.ofList_toList]

/-- The first letter without a meaning is refused, whatever the expression is. -/
theorem refusesLetter_of_firstUnknown (hparts : Parts operand pattern letters) {letter : Char}
    (h : FirstUnknown letters.toList letter) : RefusesLetter operand letter := by
  simp only [RefusesLetter, ofOperand, parts_iff.mp hparts, Switches.setAll_eq_error _ h]

/-- No other letter is refused, for an engine with words of its own. -/
theorem firstUnknown_of_refusesLetter (own : HasOwnWords)
    (hparts : Parts operand pattern letters) {letter : Char} (h : RefusesLetter operand letter) :
    FirstUnknown letters.toList letter := by
  by_cases hknown : ∀ letter ∈ letters.toList, letter ∈ knownLetters
  · have hread := (ofOperand_of_known hparts hknown).symm.trans h
    cases hregex : PatternEngine.regex (Switches.ofLetters letters.toList) pattern with
    | ok matcher =>
      rw [hregex] at hread
      contradiction
    | error reason =>
      rw [hregex] at hread
      obtain ⟨-, hreason⟩ := FilterError.invalidPattern.inj (Except.error.inj hread)
      exact absurd hreason (own _ _ _ hregex letter)
  · obtain ⟨first, hfirst⟩ := exists_firstUnknown hknown
    have hfault := Except.error.inj ((refusesLetter_of_firstUnknown hparts hfirst).symm.trans h)
    obtain ⟨-, hwords⟩ := FilterError.invalidPattern.inj hfault
    exact unknownFlag_inj hwords ▸ hfirst

/-- The parts of an operand are determined by it. It is refused because of a letter exactly if this
is the first one without a meaning, whatever the expression is. If all letters have a meaning, the
operand is what the engine makes of the expression under the switches whose letters occur, whatever
their order and number, and whatever letters without a switch occur. -/
theorem ofOperand_parted (own : HasOwnWords) (operand : String) :
    ∃ pattern letters, Parts operand pattern letters ∧
      (∀ other more, Parts operand other more → other = pattern ∧ more = letters) ∧
      (∀ letter, RefusesLetter operand letter ↔ FirstUnknown letters.toList letter) ∧
      ((∀ letter ∈ letters.toList, letter ∈ knownLetters) →
        ofOperand operand =
          (PatternEngine.regex (Switches.ofLetters letters.toList) pattern).mapError
            (FilterError.invalidPattern operand)) := by
  obtain ⟨pattern, letters, hparts⟩ : ∃ pattern letters, Parts operand pattern letters :=
    ⟨String.ofList (splitOperand operand.toList).1, String.ofList (splitOperand operand.toList).2,
      parts_iff.mpr (by simp)⟩
  refine ⟨pattern, letters, hparts, fun other more hother => ?_, fun letter => ⟨?_, ?_⟩, ?_⟩
  · obtain ⟨hpattern, hletters⟩ :=
      Prod.mk.inj ((parts_iff.mp hother).symm.trans (parts_iff.mp hparts))
    exact ⟨String.toList_injective hpattern, String.toList_injective hletters⟩
  · exact firstUnknown_of_refusesLetter own hparts
  · exact refusesLetter_of_firstUnknown hparts
  · exact ofOperand_of_known hparts

end Engine

open scoped PatternEngine

/-- An expression is refused for what is wrong with it or for its size. -/
theorem compile_eq_error {switches : Switches} {text : List Char} {fault : PatternFault}
    (h : compile switches text = .error fault) :
    (∃ cause, fault = .regex text cause) ∨ ∃ limit, fault = .tooLarge limit := by
  unfold compile at h
  cases hread : read switches text with
  | error cause =>
    rw [hread] at h
    exact Or.inl ⟨cause, (Except.error.inj h).symm⟩
  | ok form =>
    rw [hread] at h
    dsimp only at h
    split at h
    · exact absurd h (by simp only [reduceCtorEq, not_false_eq_true])
    · exact Or.inr ⟨_, (Except.error.inj h).symm⟩

theorem head?_append {first : String} {c : Char} (h : first.toList.head? = some c)
    (second : String) : (first ++ second).toList.head? = some c := by
  rw [String.toList_append, List.head?_append, h, Option.some_or]

/-- The dialect has words of its own: they begin with another letter. -/
theorem hasOwnWords_dialect : HasOwnWords := by
  intro switches pattern reason h letter
  have hletter : (unknownFlag letter).toList.head? = some 'u' :=
    head?_append (head?_append (by decide) _) _
  obtain ⟨fault, hfault, rfl⟩ : ∃ fault, compile switches pattern.toList = .error fault ∧
      fault.message = reason := by
    simp only [PatternEngine.regex, matcher] at h
    cases hcompile : compile switches pattern.toList with
    | ok regex => simp [hcompile, Except.map] at h
    | error fault => exact ⟨fault, rfl, by simpa [hcompile, Except.map] using h⟩
  have hreason : fault.message.toList.head? = some 'r' ∨ fault.message.toList.head? = some 'C' := by
    rcases compile_eq_error hfault with ⟨cause, rfl⟩ | ⟨limit, rfl⟩
    · exact Or.inl (head?_append (head?_append (head?_append (by decide) _) _) _)
    · exact Or.inr (head?_append (head?_append (by decide) _) _)
  intro hwords
  rw [hwords, hletter] at hreason
  exact absurd hreason (by decide)

/-- A letter is refused behind an expression that cannot be read either. -/
theorem ofOperand_parted_unclosed :
    HasOwnWords ∧ Parts "/(/gk" "(" "gk" ∧ RefusesLetter "/(/gk" 'k' := by
  have hparts : Parts "/(/gk" "(" "gk" := parts_iff.mpr (by decide)
  obtain ⟨_, _, -, hunique, hrefuses, -⟩ := ofOperand_parted hasOwnWords_dialect "/(/gk"
  obtain ⟨rfl, rfl⟩ := hunique "(" "gk" hparts
  have hfirst : FirstUnknown "gk".toList 'k' :=
    ⟨['g'], [], rfl, by decide, by simp [knownLetters]⟩
  exact ⟨hasOwnWords_dialect, hparts, (hrefuses 'k').mpr hfirst⟩

end TypedStore.Regex
