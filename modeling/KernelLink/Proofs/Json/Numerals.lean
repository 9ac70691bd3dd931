import KernelLink.Json.Reader
import KernelLink.Proofs.Bytes

namespace KernelLink

namespace Reader

/-- No numeral goes on in such a text. -/
def Stops (rest : Bytes) : Prop :=
  ∀ b ∈ rest.head?, isDigit b = false ∧ b ≠ octet '.' ∧ b ≠ octet 'e' ∧ b ≠ octet 'E'

theorem digit_bounds {c : Char} (digit : c.isDigit = true) : 48 ≤ c.toNat ∧ c.toNat ≤ 57 :=
  Char.isDigit_iff_toNat.mp digit

theorem isDigit_octet {c : Char} (digit : c.isDigit = true) : isDigit (octet c) = true := by
  have bounds := digit_bounds digit
  have value := toNat_octet (show c.toNat < 128 by omega)
  simp only [isDigit, Bool.and_eq_true, decide_eq_true_eq, UInt8.le_iff_toNat_le, value]
  exact bounds

theorem digits_text {cs : List Char} (all : ∀ c ∈ cs, c.isDigit = true) {rest : Bytes} (stops : Stops rest) :
    digits (cs.map octet ++ rest) = (cs.map (·.toNat - 48), rest) := by
  have every : ∀ b ∈ cs.map octet, isDigit b = true := by
    intro b member
    obtain ⟨c, here, rfl⟩ := List.mem_map.mp member
    exact isDigit_octet (all c here)
  have values : (cs.map octet).map (fun b => b.toNat - 48) = cs.map (·.toNat - 48) := by
    rw [List.map_map]
    refine List.map_congr_left fun c member => ?_
    have bounds := digit_bounds (all c member)
    exact congrArg (· - 48) (toNat_octet (show c.toNat < 128 by omega))
  have taken : rest.takeWhile isDigit = [] := by
    cases rest with
    | nil => rfl
    | cons b rest => simp [(stops b rfl).1]
  have dropped : rest.dropWhile isDigit = rest := by
    cases rest with
    | nil => rfl
    | cons b rest => simp [(stops b rfl).1]
  rw [digits, List.takeWhile_append_of_pos every, List.dropWhile_append_of_pos every, taken, dropped,
    List.append_nil, values]

/-- Only zero itself begins with a zero. -/
theorem head?_toDigits {n : Nat} (positive : 0 < n) : (Nat.toDigits 10 n).head? ≠ some '0' := by
  induction n using Nat.strongRecOn with
  | ind n ih =>
    rcases Nat.lt_or_ge n 10 with small | large
    · rw [Nat.toDigits_of_lt_base small, List.head?_cons, Ne, Option.some.injEq, Nat.digitChar_eq_zero]
      exact Nat.ne_of_gt positive
    · rw [Nat.toDigits_of_base_le (by decide) large, List.head?_append]
      have first := ih (n / 10) (by omega) (by omega)
      cases here : (Nat.toDigits 10 (n / 10)).head? with
      | none => exact absurd (List.head?_eq_none_iff.mp here) Nat.toDigits_ne_nil
      | some c => rwa [here] at first

theorem isDigit_of_mem_toDigits {n : Nat} : ∀ c ∈ Nat.toDigits 10 n, c.isDigit = true := fun _ member =>
  Nat.isDigit_of_mem_toDigits (by decide) (by decide) member

/-- The digits that a natural number is written with. -/
def decimalDigits (n : Nat) : List Nat := (Nat.toDigits 10 n).map (·.toNat - 48)

theorem someDigits_toDigits (short : Fault) (n : Nat) {rest : Bytes} (stops : Stops rest) :
    someDigits short ((Nat.toDigits 10 n).map octet ++ rest) = .ok (decimalDigits n, rest) := by
  have read := digits_text (isDigit_of_mem_toDigits (n := n)) stops
  have some_ : decimalDigits n ≠ [] := by simp [decimalDigits]
  unfold someDigits
  rw [read]
  split
  · rename_i none
    exact absurd (congrArg Prod.fst none) some_
  · rename_i none
    exact absurd (congrArg Prod.fst none) some_
  · rename_i same
    rw [← same]
    rfl

theorem wholeDigits_toDigits (short : Fault) (n : Nat) {rest : Bytes} (stops : Stops rest) :
    wholeDigits short ((Nat.toDigits 10 n).map octet ++ rest) = .ok (decimalDigits n, rest) := by
  unfold wholeDigits
  simp only [someDigits_toDigits short n stops, bind, Except.bind]
  split
  · rename_i second others leading
    rcases Nat.eq_zero_or_pos n with rfl | positive
    · cases leading
    · obtain ⟨c, others, spelled⟩ := List.exists_cons_of_ne_nil (Nat.toDigits_ne_nil (n := n) (b := 10))
      have bounds := digit_bounds (isDigit_of_mem_toDigits c (spelled ▸ List.mem_cons_self ..))
      rw [decimalDigits, spelled, List.map_cons] at leading
      have zero : c.toNat = '0'.toNat := by
        have none := (List.cons.inj leading).1
        show c.toNat = 48
        omega
      exact absurd (by rw [spelled, Char.toNat_inj.mp zero]; rfl) (head?_toDigits positive)
  · rfl

theorem numeral_toDigits (short : Fault) (negative : Bool) (n : Nat) {rest : Bytes} (stops : Stops rest) :
    numeral short negative ((Nat.toDigits 10 n).map octet ++ rest) =
      .ok (⟨negative, decimalDigits n, none, none⟩, rest) := by
  have noFraction : fraction short rest = .ok (none, rest) := by
    cases rest with
    | nil => rfl
    | cons b rest => rw [fraction, if_neg (stops b rfl).2.1]
  have noExponent : exponent short rest = .ok (none, rest) := by
    cases rest with
    | nil => rfl
    | cons b rest => exact if_neg (not_or.mpr (stops b rfl).2.2)
  unfold numeral
  simp only [wholeDigits_toDigits short n stops, noFraction, noExponent, bind, Except.bind]

end Reader

namespace Numeral

theorem le_natural (digits : List Nat) (n : Nat) : n ≤ digits.foldl (fun n d => n * 10 + d) n := by
  induction digits generalizing n with
  | nil => exact Nat.le_refl n
  | cons d rest ih => exact Nat.le_trans (by omega) (ih (n * 10 + d))

/-- Digits that spell a number of 64 bits are all taken. -/
theorem absorb_eq {digits : List Nat} {n : Nat}
    (fits : digits.foldl (fun n d => n * 10 + d) n < Nat.pow 2 64) :
    absorb n digits = (digits.foldl (fun n d => n * 10 + d) n, []) := by
  induction digits generalizing n with
  | nil => rfl
  | cons d rest ih =>
    rw [List.foldl_cons] at fits
    rw [absorb, if_pos (Nat.lt_of_le_of_lt (le_natural rest _) fits), ih fits, List.foldl_cons]

theorem natural_decimalDigits (n : Nat) : (Reader.decimalDigits n).foldl (fun n d => n * 10 + d) 0 = n := by
  have spelled := Nat.ofDigitChars_ten_toDigits (n := n)
  rw [Nat.ofDigitChars_eq_foldl] at spelled
  rw [Reader.decimalDigits, List.foldl_map]
  conv => rhs; rw [← spelled]
  simp only [Nat.mul_comm]
  rfl

theorem significand_decimalDigits (negative : Bool) {n : Nat} (fits : n < Nat.pow 2 64) :
    significand ⟨negative, Reader.decimalDigits n, none, none⟩ = (n, 0) := by
  have spelled : (Reader.decimalDigits n).foldl (fun n d => n * 10 + d) 0 < Nat.pow 2 64 := by
    rwa [natural_decimalDigits]
  have taken := absorb_eq spelled
  rw [natural_decimalDigits] at taken
  simp only [significand, taken]
  rfl

theorem value_natural {n : Nat} (fits : n < Nat.pow 2 64) :
    value ⟨false, Reader.decimalDigits n, none, none⟩ = some (.integer n) := by
  simp [value, significand_decimalDigits false fits]

theorem value_negative {n : Nat} (positive : 0 < n) (fits : n ≤ Nat.pow 2 63) :
    value ⟨true, Reader.decimalDigits n, none, none⟩ = some (.integer (-n)) := by
  have wide : n < Nat.pow 2 64 := Nat.lt_of_le_of_lt fits (by decide)
  simp only [value, significand_decimalDigits true wide]
  rw [if_neg (by decide), if_neg (by decide), if_neg]
  omega

end Numeral

namespace Reader

theorem ofString_natural (n : Nat) : Bytes.ofString n.repr = (Nat.toDigits 10 n).map octet := by
  have ascii : ∀ c ∈ n.repr.toList, c.toNat < 128 := by
    intro c member
    rw [Nat.toList_repr] at member
    have bounds := digit_bounds (isDigit_of_mem_toDigits c member)
    omega
  rw [Bytes.ofString_of_ascii ascii, Nat.toList_repr]

theorem number_natural {n : Nat} (fits : n < Nat.pow 2 64) {rest : Bytes} (stops : Stops rest) :
    number ((Nat.toDigits 10 n).map octet ++ rest) = .ok (.integer n, rest) := by
  have read := numeral_toDigits .incomplete false n stops
  obtain ⟨c, others, spelled⟩ := List.exists_cons_of_ne_nil (Nat.toDigits_ne_nil (n := n) (b := 10))
  have bounds := digit_bounds (isDigit_of_mem_toDigits c (spelled ▸ List.mem_cons_self ..))
  have unsigned : octet c ≠ octet '-' := by
    intro same
    have value := congrArg UInt8.toNat same
    rw [toNat_octet (show c.toNat < 128 by omega), show (octet '-').toNat = 45 from rfl] at value
    omega
  rw [spelled, List.map_cons, List.cons_append] at read ⊢
  unfold number
  simp only [if_neg unsigned, read, bind, Except.bind, Numeral.value_natural fits]

theorem number_negative {n : Nat} (positive : 0 < n) (fits : n ≤ Nat.pow 2 63) {rest : Bytes}
    (stops : Stops rest) :
    number (octet '-' :: (Nat.toDigits 10 n).map octet ++ rest) = .ok (.integer (-n), rest) := by
  rw [List.cons_append]
  unfold number
  simp only [if_true, numeral_toDigits .incomplete true n stops, bind, Except.bind,
    Numeral.value_negative positive fits]

/-- How an integer is written. -/
theorem ofString_integer (i : Int) : Bytes.ofString (Number.integer i).text =
    if 0 ≤ i then (Nat.toDigits 10 i.natAbs).map octet
    else octet '-' :: (Nat.toDigits 10 i.natAbs).map octet := by
  show Bytes.ofString (toString i) = _
  rw [Int.toString_eq_repr, Int.repr_eq_if]
  split
  · rw [ofString_natural, show i.toNat = i.natAbs by omega]
  · rw [Bytes.ofString_append, ofString_natural, show (-i).toNat = i.natAbs by omega]
    rfl

/-- An integer begins with its sign or a digit. -/
theorem exists_ofString_integer (i : Int) : ∃ b tail, Bytes.ofString (Number.integer i).text = b :: tail ∧
    (b = octet '-' ∨ isDigit b = true) := by
  rw [ofString_integer]
  split
  · obtain ⟨c, others, spelled⟩ := List.exists_cons_of_ne_nil (Nat.toDigits_ne_nil (n := i.natAbs) (b := 10))
    rw [spelled]
    exact ⟨_, _, rfl, Or.inr (isDigit_octet (isDigit_of_mem_toDigits c (spelled ▸ List.mem_cons_self ..)))⟩
  · exact ⟨_, _, rfl, Or.inl rfl⟩

/-- An integer that is written is read back. -/
theorem number_integer {i : Int} (low : -(Nat.pow 2 63 : Nat) ≤ i) (high : i < (Nat.pow 2 64 : Nat))
    {rest : Bytes} (stops : Stops rest) :
    number (Bytes.ofString (Number.integer i).text ++ rest) = .ok (.integer i, rest) := by
  rw [ofString_integer]
  split
  · rename_i nonneg
    rw [number_natural (by omega) stops, Int.natAbs_of_nonneg nonneg]
  · rename_i negative
    rw [number_negative (by omega) (by omega) stops]
    rw [show -(i.natAbs : Int) = i by omega]

end Reader
end KernelLink
