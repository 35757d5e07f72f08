import TypedStore.Json.Printer
import TypedStore.Json.Reader

/-!
# Reading back what was written

A quoted text is read back character by character: each one is spelled in a way that stands for it
alone. So an object whose members are texts is read back with its members in their order. What is
written is one line: a line feed has a spelling of its own.
-/

namespace TypedStore

namespace Quoted

variable (rest : List Char)

/-- A letter after a backslash is read as what it stands for. -/
theorem read_short {letter c : Char} (hletter : letter ≠ 'u') (h : shortEscape? letter = some c) :
    read ('\\' :: letter :: rest) =
      (read rest).map fun (text, after) => (c :: text, after) := by
  rw [read]
  all_goals simp_all

/-- The two hexadecimal digits of a control character give its number. -/
theorem hexValue4?_hexDigit : ∀ n < 32,
    hexValue4? '0' '0' (hexDigit (n / 16)) (hexDigit (n % 16)) = some n := by
  decide

/-- A control character is read from the digits of its number. -/
theorem read_control {c : Char} (h : c.toNat < 32) :
    read ('\\' :: 'u' :: '0' :: '0' :: hexDigit (c.toNat / 16) :: hexDigit (c.toNat % 16) :: rest) =
      (read rest).map fun (text, after) => (c :: text, after) := by
  have hlow : ¬(0xDC00 ≤ c.toNat ∧ c.toNat ≤ 0xDFFF) := by omega
  have hchar : c.toNat < 0xD800 ∨ 0xDBFF < c.toNat := by omega
  simp only [read, hexValue4?_hexDigit _ h, if_neg hlow, if_pos hchar, Char.ofNat_toNat]

/-- Any other character stands for itself. -/
theorem read_plain {c : Char} (hquote : c ≠ '"') (hslash : c ≠ '\\') (h : ¬c.toNat < 32) :
    read (c :: rest) = (read rest).map fun (text, after) => (c :: text, after) := by
  rw [read, if_neg h]
  all_goals simp_all

/-- The spelling of a character is read as this character. -/
theorem read_escape (c : Char) :
    read (escape c ++ rest) = (read rest).map fun (text, after) => (c :: text, after) := by
  unfold escape
  -- The cases are the spellings: seven letters, the digits, and the character itself.
  iterate 7
    split
    · subst c
      exact read_short rest (by decide) rfl
  split
  · next hcontrol => exact read_control rest hcontrol
  · next hquote hslash _ _ _ _ _ hplain => exact read_plain rest hquote hslash hplain

/-- A text is read back up to its closing quote. -/
theorem read_encode (text : List Char) :
    read (encode text ++ '"' :: rest) = .ok (text, rest) := by
  induction text with
  | nil => rfl
  | cons c text ih =>
    rw [encode, List.flatMap_cons, List.append_assoc, read_escape, ← encode, ih]
    rfl

end Quoted

/-- The members of an object whose values are texts. -/
def Json.textMembers (texts : List (String × String)) : List (String × Json) :=
  texts.map fun entry => (entry.1, .string entry.2)

theorem Json.textMembers_injective {a b : List (String × String)}
    (h : Json.textMembers a = Json.textMembers b) : a = b := by
  refine (List.map_inj_right ?_).mp h
  rintro ⟨key, text⟩ ⟨key', text'⟩ heq
  simpa using heq

namespace Reader

open Json (textMembers)

/-- A quoted name is read up to its colon. -/
theorem name_quoted (key : String) (rest : List Char) :
    name (Quoted.encode key.toList ++ '"' :: ':' :: rest) = .ok (key, rest) := by
  rw [name, Quoted.read_encode]
  simp [colon, skipBlanks, isBlank, bind, Except.bind, pure, Except.pure]

/-- A quoted text is read as a value. -/
theorem value_quoted (fuel : Nat) (text : String) (rest : List Char) :
    value (fuel + 1) ('"' :: (Quoted.encode text.toList ++ '"' :: rest)) =
      .ok (.string text, rest) := by
  simp [value, skipBlanks, isBlank, Quoted.read_encode, bind, Except.bind, pure, Except.pure]

/-- A member is read from its name and its text; the reading goes on behind them. -/
theorem members_cons (fuel : Nat) (entry : String × String) (texts : List (String × String))
    (rest : List Char) :
    members (fuel + 2) (Json.memberChars (textMembers (entry :: texts)) ++ rest) =
      (moreMembers (fuel + 1) (Json.moreMemberChars (textMembers texts) ++ rest)).map
        fun (others, after) => ((entry.1, .string entry.2) :: others, after) := by
  have hchars : Json.memberChars (textMembers (entry :: texts)) ++ rest =
      '"' :: (Quoted.encode entry.1.toList ++ '"' :: ':' :: '"' ::
        (Quoted.encode entry.2.toList ++ '"' ::
          (Json.moreMemberChars (textMembers texts) ++ rest))) := by
    simp [textMembers, Json.memberChars, Json.chars, Quoted.quote]
  rw [hchars, members]
  simp [skipBlanks, isBlank, name_quoted, value_quoted, bind, Except.bind, pure, Except.pure,
    Except.map]

/-- After a comma the reading goes on as from the start. -/
theorem moreMembers_comma (fuel : Nat) (text : List Char) :
    moreMembers (fuel + 1) (',' :: '"' :: text) = members (fuel + 1) ('"' :: text) := by
  simp [moreMembers, members, skipBlanks, isBlank]

/-- Members after the first one are read back in their order, with a step into the object for each
of them. -/
theorem moreMembers_chars {fuel : Nat} {texts : List (String × String)}
    (h : texts.length < fuel) (rest : List Char) :
    moreMembers fuel (Json.moreMemberChars (textMembers texts) ++ rest) =
      .ok (textMembers texts, rest) := by
  induction texts generalizing fuel with
  | nil =>
    obtain ⟨fuel, rfl⟩ : ∃ k, fuel = k + 1 := ⟨fuel - 1, by grind⟩
    simp [textMembers, Json.moreMemberChars, moreMembers, skipBlanks, isBlank]
  | cons entry texts ih =>
    obtain ⟨fuel, rfl⟩ : ∃ k, fuel = k + 2 := ⟨fuel - 2, by grind⟩
    have hlength : texts.length < fuel + 1 := Nat.lt_of_succ_lt_succ h
    have hrest := ih hlength
    have hcomma : Json.moreMemberChars (textMembers (entry :: texts)) =
        ',' :: Json.memberChars (textMembers (entry :: texts)) := rfl
    have hstep := members_cons fuel entry texts rest
    rw [hrest] at hstep
    rw [hcomma]
    exact (moreMembers_comma (fuel + 1) _).trans hstep

/-- The members of an object are read back in their order. -/
theorem members_chars {fuel : Nat} {texts : List (String × String)}
    (h : texts.length < fuel) (rest : List Char) :
    members fuel (Json.memberChars (textMembers texts) ++ rest) =
      .ok (textMembers texts, rest) := by
  cases texts with
  | nil =>
    obtain ⟨fuel, rfl⟩ : ∃ k, fuel = k + 1 := ⟨fuel - 1, by grind⟩
    simp [textMembers, Json.memberChars, members, skipBlanks, isBlank]
  | cons entry texts =>
    obtain ⟨fuel, rfl⟩ : ∃ k, fuel = k + 2 := ⟨fuel - 2, by grind⟩
    rw [members_cons, moreMembers_chars (by grind)]
    rfl

/-- The spelling of members after the first one is longer than their list. -/
theorem length_lt_moreMemberChars (members : List (String × Json)) :
    members.length < (Json.moreMemberChars members).length := by
  induction members with
  | nil => simp [Json.moreMemberChars]
  | cons member members ih =>
    simp only [Json.moreMemberChars, List.length_cons, List.length_append]
    omega

/-- The spelling of members is longer than their list. -/
theorem length_lt_memberChars (members : List (String × Json)) :
    members.length < (Json.memberChars members).length := by
  cases members with
  | nil => simp [Json.memberChars]
  | cons member members =>
    have hmore := length_lt_moreMemberChars members
    simp only [Json.memberChars, Quoted.quote, List.length_cons, List.length_append]
    omega

end Reader

namespace Json

/-- An object whose members are texts is read back with its members in their order. -/
theorem readMembers_object (texts : List (String × String)) :
    readMembers (object (textMembers texts)).text =
      .ok (textMembers texts) := by
  have hlength : texts.length < (memberChars (textMembers texts)).length + 2 := by
    have hcount : (textMembers texts).length = texts.length := List.length_map _
    have hmembers := Reader.length_lt_memberChars (textMembers texts)
    omega
  have hmembers := Reader.members_chars hlength []
  rw [List.append_nil] at hmembers
  simp [readMembers, text, chars, Reader.skipBlanks, Reader.isBlank, hmembers,
    Reader.finish, bind, Except.bind, pure, Except.pure]

end Json

namespace Quoted

/-- A line feed is no hexadecimal digit. -/
theorem hexDigit_ne_newline : ∀ n < 16, hexDigit n ≠ '\n' := by
  decide

/-- A line feed has a spelling of its own, without a line feed. -/
theorem newline_not_mem_escape (c : Char) : '\n' ∉ escape c := by
  unfold escape
  iterate 7
    split
    · simp
  split
  · have hhigh := hexDigit_ne_newline (c.toNat / 16) (by omega)
    have hlow := hexDigit_ne_newline (c.toNat % 16) (by omega)
    simp [hhigh.symm, hlow.symm]
  · simp_all [eq_comm]

theorem newline_not_mem_quote (text : List Char) : '\n' ∉ quote text := by
  simp [quote, encode, newline_not_mem_escape]

end Quoted

namespace Json

theorem newline_not_mem_moreMemberChars (texts : List (String × String)) :
    '\n' ∉ moreMemberChars (textMembers texts) := by
  induction texts with
  | nil => simp [textMembers, moreMemberChars]
  | cons entry texts ih =>
    simpa [textMembers, moreMemberChars, chars, Quoted.newline_not_mem_quote] using ih

/-- An object whose members are texts is written on one line. -/
theorem newline_not_mem_object (texts : List (String × String)) :
    '\n' ∉ (object (textMembers texts)).chars := by
  cases texts with
  | nil => simp [textMembers, chars, memberChars]
  | cons entry texts =>
    simpa [textMembers, chars, memberChars, Quoted.newline_not_mem_quote] using
      newline_not_mem_moreMemberChars texts

theorem getLast?_moreMemberChars (members : List (String × Json)) :
    (moreMemberChars members).getLast? = some '}' := by
  induction members with
  | nil => rfl
  | cons member members ih =>
    simp [moreMemberChars, List.getLast?_cons, List.getLast?_append, ih]

/-- More members of an object are spelled as an object of their own, but for its braces. -/
theorem moreMemberChars_eq (members : List (String × Json)) :
    moreMemberChars members =
      (if members = [] then [] else ',' :: (object members).chars.tail.dropLast) ++ ['}'] := by
  cases members with
  | nil => rfl
  | cons member members =>
    have hlast : (memberChars (member :: members)).getLast? = some '}' := by
      simp [memberChars, List.getLast?_cons, List.getLast?_append, getLast?_moreMemberChars]
    obtain ⟨inner, hinner⟩ := List.getLast?_eq_some_iff.mp hlast
    have hcomma : moreMemberChars (member :: members) = ',' :: memberChars (member :: members) :=
      rfl
    rw [hcomma, chars, List.tail_cons, hinner, List.dropLast_concat, if_neg (List.cons_ne_nil _ _)]
    rfl

end Json

end TypedStore
