/-!
# The order of bytes

Texts are in order by the codes of their characters. This is the order of their bytes in UTF-8:
of two characters the one with the lower code has the lower byte where their bytes first differ,
and they differ before either of them ends.
-/

namespace TypedStore.Unicode

/-- The bytes of a text in UTF-8. -/
def textBytes (text : String) : List UInt8 := text.toUTF8.data.toList

theorem textBytes_eq_flatMap (text : String) :
    textBytes text = text.toList.flatMap String.utf8EncodeChar := by
  rw [textBytes, String.toUTF8_eq_toByteArray, ← String.utf8Encode_toList, List.utf8Encode,
    List.toList_data_toByteArray]

/-- A byte that is made from a number tells the number. -/
theorem toNat_byte {n : Nat} (h : n < 256) : (UInt8.ofNat n).toNat = n := by
  rw [UInt8.toNat_ofNat', Nat.mod_eq_of_lt h]

/-- The code of a character is less than 17 times 2¹⁶. -/
theorem code_lt (c : Char) : c.val.toNat < 0x110000 := by
  have hvalid := c.valid
  simp only [UInt32.isValidChar, Nat.isValidChar] at hvalid
  omega

/-- The bytes of a character with a lower code come first, whatever follows them. -/
theorem encoded_append_lt {c d : Char} (h : c < d) (rest more : List UInt8) :
    String.utf8EncodeChar c ++ rest < String.utf8EncodeChar d ++ more := by
  have hcode : c.val.toNat < d.val.toNat := h
  have hlast := code_lt d
  generalize hm : c.val.toNat = m at hcode
  generalize hn : d.val.toNat = n at hcode hlast
  have hcons {x y : Nat} {s t : List UInt8} (hx : x < 256) (hy : y < 256) :
      UInt8.ofNat x :: s < UInt8.ofNat y :: t ↔ x < y ∨ x = y ∧ s < t := by
    rw [List.cons_lt_cons_iff, UInt8.lt_iff_toNat_lt, ← UInt8.toNat_inj, toNat_byte hx,
      toNat_byte hy]
  have hsixes (k : Nat) : k / 4096 = k / 64 / 64 ∧ k / 262144 = k / 64 / 64 / 64 := by omega
  simp only [String.utf8EncodeChar, hm, hn, hsixes]
  -- One case for each pair of lengths; a length that is lower has lower first bytes.
  repeat' split
  all_goals
    simp (disch := omega) only [List.cons_append, List.nil_append, hcons]
    omega

/-- Lists of characters that are in order have their bytes in order. -/
theorem flatMap_encoded_lt {as bs : List Char} (h : as < bs) :
    as.flatMap String.utf8EncodeChar < bs.flatMap String.utf8EncodeChar := by
  induction h with
  | nil =>
    rename_i d bs
    obtain ⟨byte, rest, hbytes⟩ :=
      List.exists_cons_of_ne_nil (String.utf8EncodeChar_ne_nil (c := d))
    rw [List.flatMap_nil, List.flatMap_cons, hbytes]
    exact List.nil_lt_cons _ _
  | rel hlt => exact encoded_append_lt hlt _ _
  | cons _ ih => exact List.append_left_lt ih

/-- The order of texts is that of their bytes. -/
theorem lt_iff_textBytes_lt {a b : String} : a < b ↔ textBytes a < textBytes b := by
  have hforward {a b : String} (h : a < b) : textBytes a < textBytes b := by
    rw [textBytes_eq_flatMap, textBytes_eq_flatMap]
    exact flatMap_encoded_lt h
  refine ⟨hforward, fun h => Classical.byContradiction fun hnot => ?_⟩
  by_cases hgt : b < a
  · exact List.lt_asymm (hforward hgt) h
  · obtain rfl := String.le_antisymm (String.not_lt.mp hgt) (String.not_lt.mp hnot)
    exact List.lt_irrefl _ h

end TypedStore.Unicode
