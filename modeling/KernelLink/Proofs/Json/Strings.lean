import KernelLink.Json.Reader
import KernelLink.Proofs.Bytes

namespace KernelLink
namespace Reader

/-- An octet that stands for itself in a string. -/
def Plain (b : UInt8) : Prop := 32 ≤ b.toNat ∧ b ≠ octet '"' ∧ b ≠ octet '\\'

theorem stringBody_plain {octets : Bytes} (plain : ∀ b ∈ octets, Plain b) {fuel : Nat}
    {rest body after : Bytes} (read : stringBody fuel rest = .ok (body, after)) :
    stringBody (fuel + octets.length) (octets ++ rest) = .ok (octets ++ body, after) := by
  induction octets with
  | nil => exact read
  | cons b octets ih =>
    obtain ⟨visible, quote, slash⟩ := plain b (List.mem_cons_self ..)
    have notControl : ¬b < 32 := by
      rw [UInt8.lt_iff_toNat_lt]
      exact Nat.not_lt.mpr visible
    have later := ih fun other member => plain other (List.mem_cons_of_mem _ member)
    rw [List.length_cons, ← Nat.add_assoc, List.cons_append, stringBody, if_neg quote, if_neg slash,
      if_neg notControl, later]
    rfl

theorem stringBody_escape {escaped octets rest body after : Bytes} {fuel : Nat}
    (stands : escape (escaped ++ rest) = .ok (octets, rest))
    (read : stringBody fuel rest = .ok (body, after)) :
    stringBody (fuel + 1) (octet '\\' :: escaped ++ rest) = .ok (octets ++ body, after) := by
  rw [List.cons_append, stringBody, if_neg (by decide), if_pos rfl]
  simp only [stands, read, bind, Except.bind]

theorem hexFour_control {c : Char} (control : c.toNat < 32) (rest : Bytes) :
    hexFour (octet '0' :: octet '0' :: Bytes.hex [c.val.toUInt8] ++ rest) = .ok (c.toNat, rest) := by
  have value : c.val.toUInt8.toNat = c.toNat := toNat_octet (show c.toNat < 128 by omega)
  have high := Bytes.hexValue_hexDigit (show c.toNat / 16 < 16 by omega)
  have low := Bytes.hexValue_hexDigit (show c.toNat % 16 < 16 by omega)
  have zero : Bytes.hexValue (octet '0') = some 0 := by decide
  simp only [Bytes.hex, List.cons_append, List.nil_append, hexFour, value, high, low, zero]
  rw [show ((0 * 16 + 0) * 16 + c.toNat / 16) * 16 + c.toNat % 16 = c.toNat by omega]

theorem escape_control {c : Char} (control : c.toNat < 32) (rest : Bytes) :
    escape (octet 'u' :: octet '0' :: octet '0' :: Bytes.hex [c.val.toUInt8] ++ rest) =
      .ok (String.utf8EncodeChar c, rest) := by
  rw [List.cons_append, escape]
  iterate 6 rw [if_neg (by decide)]
  rw [if_pos rfl]
  simp only [hexFour_control control rest, bind, Except.bind]
  rw [if_neg (by omega), if_neg (by omega), Char.ofNat_toNat]

theorem plain_of_visible {c : Char} (visible : 32 ≤ c.toNat) (quote : c ≠ '"') (slash : c ≠ '\\') :
    ∀ b ∈ String.utf8EncodeChar c, Plain b := by
  intro b member
  rcases Nat.lt_or_ge c.toNat 128 with ascii | wide
  · rw [utf8EncodeChar_of_ascii ascii, List.mem_singleton] at member
    have value : b.toNat = c.toNat := by rw [member, toNat_octet ascii]
    have other {d : Char} (small : (octet d).toNat = d.toNat) (ne : c ≠ d) : b ≠ octet d := fun same =>
      ne (Char.toNat_inj.mp (value.symm.trans ((congrArg UInt8.toNat same).trans small)))
    exact ⟨value ▸ visible, other rfl quote, other rfl slash⟩
  · have high := le_of_mem_utf8EncodeChar wide member
    have other {d : Char} (small : (octet d).toNat < 128) : b ≠ octet d := fun same =>
      absurd high (Nat.not_le.mpr (same ▸ small))
    exact ⟨by omega, other (by decide), other (by decide)⟩

/-- A written character is read back, with as much fuel as it has octets at most. -/
theorem stringBody_escapedChar (c : Char) : ∃ spent ≤ (escapedChar c).length,
    ∀ {fuel : Nat} {rest body after : Bytes}, stringBody fuel rest = .ok (body, after) →
      stringBody (fuel + spent) (escapedChar c ++ rest) = .ok (String.utf8EncodeChar c ++ body, after) := by
  have short {escaped : Bytes}
      (stands : ∀ rest, escape (escaped ++ rest) = .ok (String.utf8EncodeChar c, rest)) :
      ∃ spent ≤ (octet '\\' :: escaped).length,
        ∀ {fuel : Nat} {rest body after : Bytes}, stringBody fuel rest = .ok (body, after) →
          stringBody (fuel + spent) (octet '\\' :: escaped ++ rest) = .ok
            (String.utf8EncodeChar c ++ body, after) :=
    ⟨1, Nat.succ_le_of_lt (Nat.zero_lt_succ _), fun read => stringBody_escape (stands _) read⟩
  unfold escapedChar
  iterate 7
    split
    · subst_vars
      exact short fun _ => rfl
  split
  · rename_i control
    exact short (escape_control control)
  · rename_i quote slash _ _ _ _ _ visible
    have plain := plain_of_visible (Nat.not_lt.mp visible) quote slash
    exact ⟨_, Nat.le_refl _, stringBody_plain plain⟩

/-- The octets of a text that is written are read back up to the closing quote. -/
theorem stringBody_text (cs : List Char) (rest : Bytes) {fuel : Nat}
    (enough : (cs.flatMap escapedChar).length < fuel) :
    stringBody fuel (cs.flatMap escapedChar ++ octet '"' :: rest) = .ok
      (cs.flatMap String.utf8EncodeChar, rest) := by
  induction cs generalizing fuel with
  | nil =>
    obtain ⟨fuel, rfl⟩ := Nat.exists_eq_succ_of_ne_zero (Nat.ne_of_gt (Nat.zero_lt_of_lt enough))
    rfl
  | cons c cs ih =>
    rw [List.flatMap_cons, List.length_append] at enough
    obtain ⟨spent, bound, onward⟩ := stringBody_escapedChar c
    obtain ⟨left, rfl⟩ := Nat.exists_eq_add_of_le' (show spent ≤ fuel by omega)
    rw [List.flatMap_cons, List.append_assoc, onward (ih (by omega)), List.flatMap_cons]

theorem string_quoted (s : String) (rest : Bytes) :
    string (s.toList.flatMap escapedChar ++ octet '"' :: rest) = .ok (s, rest) := by
  have enough : (s.toList.flatMap escapedChar).length <
      (s.toList.flatMap escapedChar ++ octet '"' :: rest).length + 1 := by
    rw [List.length_append]
    omega
  unfold string
  simp only [stringBody_text s.toList rest enough, Bytes.toString?_flatMap, bind, Except.bind]

end Reader
end KernelLink
