import KernelLink.Bytes

namespace KernelLink

theorem toNat_octet {c : Char} (ascii : c.toNat < 128) : (octet c).toNat = c.toNat := by
  rw [octet, UInt32.toNat_toUInt8]
  exact Nat.mod_eq_of_lt (show c.toNat < 256 by omega)

theorem utf8EncodeChar_of_ascii {c : Char} (ascii : c.toNat < 128) : String.utf8EncodeChar c = [octet c] := by
  have small : c.val.toNat ≤ 127 := Nat.le_of_lt_succ ascii
  unfold String.utf8EncodeChar
  simp only [small, if_true]
  rfl

/-- Every octet of a character beyond ASCII is beyond ASCII too. -/
theorem le_of_mem_utf8EncodeChar {c : Char} (wide : 128 ≤ c.toNat) {b : UInt8}
    (member : b ∈ String.utf8EncodeChar c) : 128 ≤ b.toNat := by
  have large : ¬c.val.toNat ≤ 127 := Nat.not_le.mpr wide
  unfold String.utf8EncodeChar at member
  simp only [large, if_false] at member
  split at member
  · simp only [List.mem_cons, List.not_mem_nil, or_false] at member
    rcases member with rfl | rfl <;> (rw [UInt8.toNat_ofNat']; omega)
  split at member
  · simp only [List.mem_cons, List.not_mem_nil, or_false] at member
    rcases member with rfl | rfl | rfl <;> (rw [UInt8.toNat_ofNat']; omega)
  · simp only [List.mem_cons, List.not_mem_nil, or_false] at member
    rcases member with rfl | rfl | rfl | rfl <;> (rw [UInt8.toNat_ofNat']; omega)

namespace Bytes

theorem ofString_eq (s : String) : ofString s = s.toList.flatMap String.utf8EncodeChar := by
  rw [ofString, String.toUTF8_eq_toByteArray, ← String.utf8Encode_toList, List.utf8Encode,
    List.toList_data_toByteArray]

theorem ofString_append (s t : String) : ofString (s ++ t) = ofString s ++ ofString t := by
  simp [ofString_eq]

/-- A text of ASCII characters has one octet for each. -/
theorem ofString_of_ascii {s : String} (ascii : ∀ c ∈ s.toList, c.toNat < 128) :
    ofString s = s.toList.map octet := by
  rw [ofString_eq]
  generalize s.toList = cs at ascii
  induction cs with
  | nil => rfl
  | cons c cs ih =>
    rw [List.flatMap_cons, List.map_cons, utf8EncodeChar_of_ascii (ascii c (List.mem_cons_self ..)),
      ih fun other member => ascii other (List.mem_cons_of_mem _ member)]
    rfl

theorem toString?_ofString (s : String) : toString? (ofString s) = some s := by
  have valid : s.toByteArray.IsValidUTF8 := s.isValidUTF8
  unfold toString? ofString String.fromUTF8?
  rw [Array.toArray_toList, String.toUTF8_eq_toByteArray, dif_pos valid]
  rfl

theorem toString?_flatMap (s : String) : toString? (s.toList.flatMap String.utf8EncodeChar) = some s := by
  rw [← ofString_eq, toString?_ofString]

theorem hexValue_hexDigit {n : Nat} (small : n < 16) : hexValue (hexDigit n) = some n := by
  revert n
  decide

theorem unhex?_hex (b : Bytes) : unhex? b.hex = some b := by
  induction b with
  | nil => rfl
  | cons octet rest ih =>
    have bound := octet.toNat_lt
    have whole : 16 * (octet.toNat / 16) + octet.toNat % 16 = octet.toNat := Nat.div_add_mod octet.toNat 16
    rw [hex, unhex?, hexValue_hexDigit (by omega), hexValue_hexDigit (by omega), ih]
    simp only [whole, Option.map_some, UInt8.ofNat_toNat]

end Bytes
end KernelLink
