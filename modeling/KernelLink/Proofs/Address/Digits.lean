import Mathlib.Data.List.Forall2
import Mathlib.Data.Nat.Digits.Defs
import KernelLink.Connection.Address
import KernelLink.Proofs.Json.Numerals

namespace KernelLink
namespace Address

/-- A character is this letter, or its capital. -/
def EitherCase (c letter : Char) : Prop := c = letter ∨ c = letter.toUpper

/-- A character stands for a digit to a base. -/
def Digit (base : Nat) (c : Char) (d : Nat) : Prop := d < base ∧ EitherCase c (Nat.digitChar d)

/-- A text spells digits one by one. -/
def Spelled (base : Nat) (text : List Char) (digits : List Nat) : Prop := List.Forall₂ (Digit base) text digits

/-- Such a text does not begin with a digit. -/
def Ended (base : Nat) (rest : List Char) : Prop := ∀ c ∈ rest.head?, ∀ d, ¬Digit base c d

theorem Digit.mono {base larger : Nat} (le : base ≤ larger) {c : Char} {d : Nat} (digit : Digit base c d) :
    Digit larger c d :=
  ⟨Nat.lt_of_lt_of_le digit.1 le, digit.2⟩

/-- Facts about the first 128 characters can be tried number by number. -/
theorem exists_ofNat {c : Char} (ascii : c.toNat < 128) : ∃ k < 128, c = Char.ofNat k :=
  ⟨c.toNat, ascii, (Char.ofNat_toNat c).symm⟩

theorem digitValue_digitChar : ∀ d < 16,
    digitValue 16 (Nat.digitChar d) = some d ∧ digitValue 16 (Nat.digitChar d).toUpper = some d := by
  decide

theorem digit_ofNat : ∀ k < 128, ∀ d < 16, digitValue 16 (Char.ofNat k) = some d →
    Char.ofNat k = Nat.digitChar d ∨ Char.ofNat k = (Nat.digitChar d).toUpper := by
  decide +kernel

/-- Only characters of the first 128 are digits. -/
theorem ascii_of_digitValue {base : Nat} {c : Char} {d : Nat} (value : digitValue base c = some d) :
    c.toNat < 128 := by
  by_contra large
  have notDigit : c.isDigit = false := by
    by_contra digit
    have bounds := Reader.digit_bounds (Bool.eq_true_of_not_eq_false digit)
    omega
  have notSmall : ¬('a' ≤ c ∧ c ≤ 'f') := by
    rintro ⟨_, above⟩
    have : c.toNat ≤ 102 := above
    omega
  have notCapital : ¬('A' ≤ c ∧ c ≤ 'F') := by
    rintro ⟨_, above⟩
    have : c.toNat ≤ 70 := above
    omega
  rw [digitValue, if_neg notSmall, if_neg notCapital, notDigit] at value
  cases value

theorem digitValue_eq_some_iff {base : Nat} (small : base ≤ 16) {c : Char} {d : Nat} :
    digitValue base c = some d ↔ Digit base c d := by
  have bounded : digitValue base c = some d ↔ digitValue 16 c = some d ∧ d < base := by
    simp only [digitValue, Option.filter_eq_some_iff, decide_eq_true_eq]
    constructor
    · rintro ⟨value, below⟩
      exact ⟨⟨value, Nat.lt_of_lt_of_le below small⟩, below⟩
    · rintro ⟨⟨value, _⟩, below⟩
      exact ⟨value, below⟩
  rw [bounded]
  constructor
  · rintro ⟨value, below⟩
    obtain ⟨k, ascii, rfl⟩ := exists_ofNat (ascii_of_digitValue value)
    exact ⟨below, digit_ofNat k ascii d (Nat.lt_of_lt_of_le below small) value⟩
  · rintro ⟨below, rfl | rfl⟩
    · exact ⟨(digitValue_digitChar d (Nat.lt_of_lt_of_le below small)).1, below⟩
    · exact ⟨(digitValue_digitChar d (Nat.lt_of_lt_of_le below small)).2, below⟩

theorem Ended.digitValue_eq_none {base : Nat} {rest : List Char} (ended : Ended base rest) (small : base ≤ 16) :
    ∀ c ∈ rest.head?, digitValue base c = none := by
  intro c first
  rw [Option.eq_none_iff_forall_ne_some]
  exact fun d value => ended c first d ((digitValue_eq_some_iff small).mp value)

namespace Spelled

variable {base : Nat} {text rest : List Char} {digits : List Nat}

theorem mono {larger : Nat} (le : base ≤ larger) (spelled : Spelled base text digits) : Spelled larger text digits :=
  List.Forall₂.imp (fun _ _ digit => digit.mono le) spelled

theorem digit_of_mem (spelled : Spelled base text digits) : ∀ c ∈ text, ∃ d, Digit base c d := by
  induction spelled with
  | nil => intro c member; cases member
  | cons digit _ ih => exact List.forall_mem_cons.mpr ⟨⟨_, digit⟩, ih⟩

theorem lt (spelled : Spelled base text digits) : ∀ d ∈ digits, d < base := by
  induction spelled with
  | nil => intro d member; cases member
  | cons digit _ ih => exact List.forall_mem_cons.mpr ⟨digit.1, ih⟩

theorem isSome (spelled : Spelled base text digits) (small : base ≤ 16) :
    ∀ c ∈ text, (digitValue base c).isSome = true := by
  intro c member
  obtain ⟨d, digit⟩ := spelled.digit_of_mem c member
  exact Option.isSome_iff_exists.mpr ⟨d, (digitValue_eq_some_iff small).mpr digit⟩

theorem filterMap (spelled : Spelled base text digits) (small : base ≤ 16) :
    text.filterMap (digitValue base) = digits := by
  induction spelled with
  | nil => rfl
  | cons digit _ ih => rw [List.filterMap_cons_some ((digitValue_eq_some_iff small).mpr digit), ih]

theorem takeWhile (spelled : Spelled base text digits) (ended : Ended base rest) (small : base ≤ 16) :
    (text ++ rest).takeWhile (fun c => (digitValue base c).isSome) = text := by
  rw [List.takeWhile_append_of_pos (spelled.isSome small)]
  cases rest with
  | nil => exact List.append_nil text
  | cons c rest => simp [ended.digitValue_eq_none small c rfl]

theorem dropWhile (spelled : Spelled base text digits) (ended : Ended base rest) (small : base ≤ 16) :
    (text ++ rest).dropWhile (fun c => (digitValue base c).isSome) = rest := by
  rw [List.dropWhile_append_of_pos (spelled.isSome small)]
  cases rest with
  | nil => rfl
  | cons c rest => simp [ended.digitValue_eq_none small c rfl]

end Spelled

/-- Every text is digits and a rest that does not begin with one. -/
theorem exists_spelled (base : Nat) (cs : List Char) :
    ∃ text digits rest, cs = text ++ rest ∧ Spelled base text digits ∧ Ended base rest := by
  induction cs with
  | nil => exact ⟨[], [], [], rfl, .nil, fun c here => by cases here⟩
  | cons c cs ih =>
    by_cases digit : ∃ d, Digit base c d
    · obtain ⟨d, digit⟩ := digit
      obtain ⟨text, digits, rest, rfl, spelled, ended⟩ := ih
      exact ⟨c :: text, d :: digits, rest, rfl, .cons digit spelled, ended⟩
    · refine ⟨[], [], c :: cs, rfl, .nil, fun e here d is => digit ⟨d, ?_⟩⟩
      cases here
      exact is

/-- A number is all the digits at the head of a text: one of them at least and no more than are allowed. -/
theorem number_eq_some_iff {base count : Nat} (small : base ≤ 16) {leadingZeros : Bool} {cs rest : List Char}
    {n : Nat} : number base count leadingZeros cs = some (n, rest) ↔ ∃ text digits, cs = text ++ rest ∧
      Spelled base text digits ∧ Ended base rest ∧ digits ≠ [] ∧ digits.length ≤ count ∧
      (leadingZeros = true ∨ digits.head? ≠ some 0 ∨ digits.length ≤ 1) ∧
      n = digits.foldl (fun n d => n * base + d) 0 := by
  constructor
  · intro read
    obtain ⟨text, digits, after, rfl, spelled, ended⟩ := exists_spelled base cs
    simp only [number, spelled.takeWhile ended small, spelled.dropWhile ended small, spelled.filterMap small] at read
    split at read
    · cases read
    rename_i counted
    split at read
    · cases read
    rename_i zeros
    cases read
    refine ⟨text, digits, rfl, spelled, ended, fun none => counted (Or.inl none), by omega, ?_, rfl⟩
    by_contra wrong
    simp only [not_or, not_not, Nat.not_le] at wrong
    exact zeros ⟨by simpa using wrong.1, wrong.2⟩
  · rintro ⟨text, digits, rfl, spelled, ended, nonempty, counted, zeros, rfl⟩
    simp only [number, spelled.takeWhile ended small, spelled.dropWhile ended small, spelled.filterMap small]
    rw [if_neg (by rintro (none | many); exacts [nonempty none, by omega]), if_neg]
    rintro ⟨strict, zero, several⟩
    rcases zeros with allowed | positive | single
    · simp [allowed] at strict
    · exact positive zero
    · omega

/-- The first digit of a number is the most significant one. -/
theorem foldl_eq_ofDigits (base : Nat) (digits : List Nat) :
    digits.foldl (fun n d => n * base + d) 0 = Nat.ofDigits base digits.reverse := by
  rw [Nat.ofDigits_eq_foldr, List.foldr_reverse]
  simp only [Nat.cast_id, Nat.mul_comm, Nat.add_comm]

/-- Digits of ten have no capitals. -/
theorem Digit.eq_digitChar {c : Char} {d : Nat} (digit : Digit 10 c d) : c = Nat.digitChar d := by
  have same : ∀ d < 10, (Nat.digitChar d).toUpper = Nat.digitChar d := by decide
  rcases digit.2 with rfl | rfl
  · rfl
  · exact same d digit.1

/-- Digits behind a number that is not zero go on with what it is written with. -/
theorem Spelled.toDigits_append {text : List Char} {digits : List Nat} (spelled : Spelled 10 text digits)
    {n : Nat} (positive : 0 < n) :
    Nat.toDigits 10 n ++ text = Nat.toDigits 10 (digits.foldl (fun n d => n * 10 + d) n) := by
  induction spelled generalizing n with
  | nil => exact List.append_nil _
  | @cons c d text digits digit _ ih =>
    have one : Nat.toDigits 10 n ++ [c] = Nat.toDigits 10 (n * 10 + d) := by
      rw [digit.eq_digitChar, ← Nat.toDigits_of_lt_base digit.1,
        Nat.toDigits_append_toDigits (by decide) positive digit.1, Nat.mul_comm]
    rw [List.foldl_cons, ← ih (by omega), ← one, List.append_assoc, List.singleton_append]

/-- Digits without a leading zero are what their number is written with. -/
theorem Spelled.eq_toDigits {text : List Char} {digits : List Nat} (spelled : Spelled 10 text digits)
    (nonempty : digits ≠ []) (zeros : digits.head? ≠ some 0 ∨ digits.length ≤ 1) :
    text = Nat.toDigits 10 (digits.foldl (fun n d => n * 10 + d) 0) := by
  cases spelled with
  | nil => exact absurd rfl nonempty
  | @cons c d text digits digit others =>
    have first : [c] = Nat.toDigits 10 d := by rw [digit.eq_digitChar, Nat.toDigits_of_lt_base digit.1]
    rw [List.foldl_cons, Nat.zero_mul, Nat.zero_add]
    rcases Nat.eq_zero_or_pos d with rfl | positive
    · have none : digits = [] := by simpa using zeros
      subst none
      cases others
      exact first
    · rw [← Spelled.toDigits_append others positive, ← first, List.singleton_append]

theorem spelled_toDigits (n : Nat) : Spelled 10 (Nat.toDigits 10 n) (Reader.decimalDigits n) := by
  refine List.forall₂_map_right_iff.mpr (List.forall₂_same.mpr fun c member => ?_)
  have all : ∀ k < 128, (Char.ofNat k).isDigit = true →
      Digit 10 (Char.ofNat k) ((Char.ofNat k).toNat - 48) := by
    unfold Digit EitherCase
    decide
  have digit := Reader.isDigit_of_mem_toDigits c member
  have bounds := Reader.digit_bounds digit
  obtain ⟨k, ascii, rfl⟩ := exists_ofNat (show c.toNat < 128 by omega)
  exact all k ascii digit

theorem head?_decimalDigits {n : Nat} :
    (Reader.decimalDigits n).head? ≠ some 0 ∨ (Reader.decimalDigits n).length ≤ 1 := by
  rcases Nat.eq_zero_or_pos n with rfl | positive
  · exact Or.inr (by decide)
  · refine Or.inl fun zero => Reader.head?_toDigits positive ?_
    rw [Reader.decimalDigits, List.head?_map, Option.map_eq_some_iff] at zero
    obtain ⟨c, first, value⟩ := zero
    have bounds := Reader.digit_bounds (Reader.isDigit_of_mem_toDigits c (List.mem_of_mem_head? first))
    rw [first, Char.toNat_inj.mp (show c.toNat = '0'.toNat by show c.toNat = 48; omega)]

/-- An octet is read from the digits it is written with. -/
theorem octet_eq_some_iff {cs rest : List Char} {n : Nat} :
    octet cs = some (n, rest) ↔ n ≤ 255 ∧ cs = Nat.toDigits 10 n ++ rest ∧ Ended 10 rest := by
  have reading : octet cs = some (n, rest) ↔ number 10 3 false cs = some (n, rest) ∧ n ≤ 255 := by
    simp only [octet, Option.bind_eq_bind, Option.bind_eq_some_iff, Prod.exists]
    constructor
    · rintro ⟨m, after, read, kept⟩
      split at kept
      · cases kept
        exact ⟨read, by assumption⟩
      · cases kept
    · rintro ⟨read, small⟩
      exact ⟨n, rest, read, if_pos small⟩
  rw [reading, number_eq_some_iff (by decide)]
  constructor
  · rintro ⟨⟨text, digits, rfl, spelled, ended, nonempty, counted, zeros, rfl⟩, small⟩
    have plain := zeros.resolve_left Bool.false_ne_true
    exact ⟨small, by rw [← spelled.eq_toDigits nonempty plain], ended⟩
  · rintro ⟨small, rfl, ended⟩
    have short : (Nat.toDigits 10 n).length ≤ 3 :=
      (Nat.length_toDigits_le_iff (by decide) (by decide)).mpr (Nat.lt_of_le_of_lt small (by decide))
    refine ⟨⟨_, _, rfl, spelled_toDigits n, ended, ?_, ?_, Or.inr head?_decimalDigits, ?_⟩, small⟩
    · simp [Reader.decimalDigits]
    · simpa [Reader.decimalDigits] using short
    · exact (Numeral.natural_decimalDigits n).symm

end Address
end KernelLink
