import Mathlib.Data.List.Forall2
import Mathlib.Data.Nat.Digits.Defs
import KernelLink.Proofs.Address.Grammar

namespace KernelLink
namespace Address

/-- The number of 128 bits that a text of a long address stands for. -/
def LongAddress (text : List Char) (value : Nat) : Prop :=
  ∃ ns, LongText text ns ∧ value = Nat.ofDigits 65536 ns.reverse

/-- A text is the name of this machine in any case. -/
def Localhost (text : List Char) : Prop := List.Forall₂ EitherCase text "localhost".toList

/-- Numeric addresses are written with such characters. -/
def Written (c : Char) : Prop := c = ':' ∨ c = '.' ∨ ∃ d, Digit 16 c d

theorem written_iff {c : Char} : Written c ↔ c = ':' ∨ c = '.' ∨ (digitValue 16 c).isSome = true := by
  simp only [Written, Option.isSome_iff_exists, digitValue_eq_some_iff (Nat.le_refl 16)]

instance : DecidablePred Written := fun _ => decidable_of_iff' _ written_iff

/-- A group is a number of 16 bits. -/
theorem Group.lt {text : List Char} {n : Nat} (group : Group text n) : n < 65536 := by
  obtain ⟨digits, spelled, _, counted, rfl⟩ := group
  have small : ∀ d ∈ digits.reverse, d < 16 := fun d member => spelled.lt d (List.mem_reverse.mp member)
  have below := Nat.ofDigits_lt_base_pow_length (by decide) small
  rw [List.length_reverse] at below
  exact Nat.lt_of_lt_of_le below (Nat.pow_le_pow_right (by decide) counted)

theorem Series.lt {text : List Char} {ns : List Nat} {quadded : Bool} (series : Series text ns quadded) :
    ∀ n ∈ ns, n < 65536 := by
  induction series with
  | group group => simpa using group.lt
  | quad written =>
    obtain ⟨⟨a, b, c, d⟩, _⟩ := written
    simp only [List.forall_mem_cons]
    exact ⟨by omega, by omega, by simp⟩
  | cons group _ ih => exact List.forall_mem_cons.mpr ⟨group.lt, ih⟩

theorem Side.lt {text : List Char} {ns : List Nat} {quadded : Bool} (side : Side text ns quadded) :
    ∀ n ∈ ns, n < 65536 := by
  cases side with
  | nothing => simp
  | series series => exact series.lt

theorem LongText.lt {text : List Char} {ns : List Nat} (address : LongText text ns) : ∀ n ∈ ns, n < 65536 := by
  cases address with
  | whole series => exact series.lt
  | compressed first second =>
    intro n member
    simp only [List.mem_append, List.mem_replicate] at member
    rcases member with (member | ⟨_, rfl⟩) | member
    · exact first.lt n member
    · decide
    · exact second.lt n member

theorem LongText.length_eq {text : List Char} {ns : List Nat} (address : LongText text ns) : ns.length = 8 := by
  cases address with
  | whole _ count => exact count
  | compressed _ _ fewer =>
    simp only [List.length_append, List.length_replicate]
    omega

/-- Only one list of groups has the value one. -/
theorem LongText.value_eq_one_iff {text : List Char} {ns : List Nat} (address : LongText text ns) :
    1 = Nat.ofDigits 65536 ns.reverse ↔ ns = [0, 0, 0, 0, 0, 0, 0, 1] := by
  have one : 1 = Nat.ofDigits 65536 [1, 0, 0, 0, 0, 0, 0, 0] := by decide
  constructor
  · intro value
    rw [one] at value
    have small : ∀ n ∈ ns.reverse, n < 65536 := fun n member => address.lt n (List.mem_reverse.mp member)
    have length : [1, 0, 0, 0, 0, 0, 0, 0].length = ns.reverse.length := by
      rw [List.length_reverse, address.length_eq]
      rfl
    have same := Nat.ofDigits_inj_of_len_eq (by decide) length (by decide) small value
    rw [← List.reverse_reverse ns, ← same]
    rfl
  · rintro rfl
    exact one

theorem longAddress_one_iff {text : List Char} :
    LongAddress text 1 ↔ LongText text [0, 0, 0, 0, 0, 0, 0, 1] := by
  constructor
  · rintro ⟨ns, address, value⟩
    rwa [← address.value_eq_one_iff.mp value]
  · intro address
    exact ⟨_, address, address.value_eq_one_iff.mpr rfl⟩

theorem LongAddress.unique {text : List Char} {one other : Nat} (first : LongAddress text one)
    (second : LongAddress text other) : one = other := by
  obtain ⟨ns, address, rfl⟩ := first
  obtain ⟨ms, again, rfl⟩ := second
  have same := address.long_eq
  rw [again.long_eq] at same
  cases same
  rfl

/-- A series does not begin with a quad, unless it is one. -/
theorem Series.quad_eq_none {text rest : List Char} {ns : List Nat} {quadded : Bool}
    (series : Series text ns quadded) (other : quadded = false ∨ 2 < ns.length) (colon : Colon rest) :
    Address.quad (text ++ rest) = none := by
  cases series with
  | group group => exact group.quad_eq_none colon
  | quad => simp at other
  | cons group =>
    rw [List.append_assoc, List.cons_append]
    exact group.quad_eq_none (.cons _)

theorem LongText.quad_eq_none {text : List Char} {ns : List Nat} (address : LongText text ns) :
    quad text = none := by
  cases address with
  | whole series count =>
    rw [← List.append_nil text]
    exact series.quad_eq_none (Or.inr (by omega)) .nil
  | compressed first =>
    cases first with
    | nothing => exact Spelled.quad_eq_none .nil (.cons _)
    | series series => exact series.quad_eq_none (Or.inl rfl) (.cons _)

theorem Quad.quad_eq {text : List Char} {a b c d : Nat} (written : Quad text a b c d) :
    quad text = some ((a, b, c, d), []) :=
  quad_eq_some_iff.mpr ⟨text, written, (List.append_nil text).symm, fun c first => by cases first⟩

/-- The numeric addresses of this machine. -/
theorem isLoopback_iff {text : List Char} :
    isLoopback text = true ↔ (∃ b c d, Quad text 127 b c d) ∨ LongAddress text 1 := by
  constructor
  · intro loopback
    unfold isLoopback at loopback
    split at loopback
    · rename_i a others rest read
      obtain ⟨b, c, d⟩ := others
      simp only [Bool.and_eq_true, decide_eq_true_eq, List.isEmpty_iff] at loopback
      obtain ⟨rfl, rfl⟩ := loopback
      obtain ⟨_, written, rfl, _⟩ := quad_eq_some_iff.mp read
      rw [List.append_nil]
      exact Or.inl ⟨b, c, d, written⟩
    · split at loopback
      · rename_i ns rest read
        simp only [Bool.and_eq_true, decide_eq_true_eq, List.isEmpty_iff] at loopback
        obtain ⟨rfl, rfl⟩ := loopback
        exact Or.inr (longAddress_one_iff.mpr (long_eq_some_iff.mp read))
      · cases loopback
  · rintro (⟨b, c, d, written⟩ | address)
    · simp [isLoopback, written.quad_eq]
    · have long := longAddress_one_iff.mp address
      simp [isLoopback, long.quad_eq_none, long.long_eq]

theorem toLower_ofNat : ∀ k < 128, ∀ l < 26, (Char.ofNat k).toLower = Char.ofNat (97 + l) ↔
    Char.ofNat k = Char.ofNat (97 + l) ∨ Char.ofNat k = (Char.ofNat (97 + l)).toUpper := by
  decide +kernel

theorem toLower_eq_iff {c letter : Char} (least : 97 ≤ letter.toNat) (most : letter.toNat ≤ 122) :
    c.toLower = letter ↔ EitherCase c letter := by
  obtain ⟨l, small, rfl⟩ : ∃ l < 26, letter = Char.ofNat (97 + l) :=
    ⟨letter.toNat - 97, by omega, by rw [Nat.add_sub_cancel' least, Char.ofNat_toNat]⟩
  by_cases ascii : c.toNat < 128
  · obtain ⟨k, bound, rfl⟩ := exists_ofNat ascii
    exact toLower_ofNat k bound l small
  · have noCapital : ¬(c.val ≥ 'A'.val ∧ c.val ≤ 'Z'.val) := by
      rintro ⟨_, above⟩
      have : c.toNat ≤ 90 := above
      omega
    have unchanged : c.toLower = c := dif_neg noCapital
    have upper : ∀ l < 26, (Char.ofNat (97 + l)).toUpper.toNat < 128 := by decide
    rw [unchanged]
    refine ⟨Or.inl, fun either => either.resolve_right ?_⟩
    rintro rfl
    exact ascii (upper l small)

theorem localhost_iff {text : List Char} : Localhost text ↔ text.map Char.toLower = "localhost".toList := by
  have letters : ∀ letter ∈ "localhost".toList, 97 ≤ letter.toNat ∧ letter.toNat ≤ 122 := by simp
  unfold Localhost
  generalize "localhost".toList = word at letters
  induction word generalizing text with
  | nil => simp
  | cons letter word ih =>
    obtain ⟨⟨least, most⟩, others⟩ := List.forall_mem_cons.mp letters
    cases text with
    | nil => simp
    | cons c text =>
      have rest : List.Forall₂ EitherCase text word ↔ text.map Char.toLower = word := ih others
      rw [List.forall₂_cons, List.map_cons, List.cons.injEq, toLower_eq_iff least most, rest]

theorem isLocalAddress_iff {s : String} : isLocalAddress s = true ↔
    Localhost s.toList ∨ (∃ b c d, Quad s.toList 127 b c d) ∨ LongAddress s.toList 1 := by
  have lower : s.toLower = s.map Char.toLower := rfl
  rw [isLocalAddress, Bool.or_eq_true, decide_eq_true_eq, isLoopback_iff, localhost_iff, ← String.toList_inj, lower,
    String.toList_map]

theorem Spelled.written {base : Nat} {text : List Char} {digits : List Nat} (spelled : Spelled base text digits)
    (small : base ≤ 16) : ∀ c ∈ text, Written c := by
  intro c member
  obtain ⟨d, digit⟩ := spelled.digit_of_mem c member
  exact Or.inr (Or.inr ⟨d, digit.mono small⟩)

theorem Quad.written {text : List Char} {a b c d : Nat} (quad : Quad text a b c d) : ∀ c ∈ text, Written c := by
  have octet : ∀ n, ∀ c ∈ Nat.toDigits 10 n, Written c := fun n => (spelled_toDigits n).written (by decide)
  obtain ⟨_, rfl⟩ := quad
  intro c member
  simp only [dotted, List.mem_append, List.mem_cons] at member
  rcases member with digit | point | digit | point | digit | point | digit
  · exact octet _ c digit
  · exact Or.inr (Or.inl point)
  · exact octet _ c digit
  · exact Or.inr (Or.inl point)
  · exact octet _ c digit
  · exact Or.inr (Or.inl point)
  · exact octet _ c digit

theorem Series.written {text : List Char} {ns : List Nat} {quadded : Bool} (series : Series text ns quadded) :
    ∀ c ∈ text, Written c := by
  induction series with
  | group group =>
    obtain ⟨digits, spelled, _⟩ := group
    exact spelled.written (Nat.le_refl 16)
  | quad quad => exact quad.written
  | cons group _ ih =>
    obtain ⟨digits, spelled, _⟩ := group
    simp only [List.forall_mem_append, List.forall_mem_cons]
    exact ⟨spelled.written (Nat.le_refl 16), Or.inl rfl, ih⟩

theorem Side.written {text : List Char} {ns : List Nat} {quadded : Bool} (side : Side text ns quadded) :
    ∀ c ∈ text, Written c := by
  cases side with
  | nothing => simp
  | series series => exact series.written

theorem LongText.written {text : List Char} {ns : List Nat} (address : LongText text ns) : ∀ c ∈ text, Written c := by
  cases address with
  | whole series => exact series.written
  | compressed first second =>
    simp only [List.forall_mem_append, List.forall_mem_cons]
    exact ⟨first.written, Or.inl rfl, Or.inl rfl, second.written⟩

/-- A long address is known by a colon. -/
theorem LongText.colon_mem {text : List Char} {ns : List Nat} (address : LongText text ns) : ':' ∈ text := by
  cases address with
  | whole series count =>
    cases series with
    | group => cases count
    | quad => cases count
    | cons => simp
  | compressed => simp

theorem Quad.point_mem {text : List Char} {a b c d : Nat} (quad : Quad text a b c d) : '.' ∈ text := by
  rw [quad.2]
  simp [dotted]

theorem Localhost.letter_of_mem {text : List Char} (name : Localhost text) :
    ∀ c ∈ text, c.toLower ∈ "localhost".toList := by
  intro c member
  rw [← localhost_iff.mp name]
  exact List.mem_map_of_mem member

/-- A local address is the name, or it has a point or a colon, which the name has not. -/
theorem localhost_or_mark {s : String} (isLocal : isLocalAddress s = true) :
    Localhost s.toList ∨ '.' ∈ s.toList ∨ ':' ∈ s.toList := by
  rcases isLocalAddress_iff.mp isLocal with name | ⟨b, c, d, quad⟩ | ⟨ns, address, _⟩
  · exact Or.inl name
  · exact Or.inr (Or.inl quad.point_mem)
  · exact Or.inr (Or.inr address.colon_mem)

/-- A local address is the name, or written with the characters of numeric addresses. -/
theorem localhost_or_written {s : String} (isLocal : isLocalAddress s = true) :
    Localhost s.toList ∨ ∀ c ∈ s.toList, Written c := by
  rcases isLocalAddress_iff.mp isLocal with name | ⟨b, c, d, quad⟩ | ⟨ns, address, _⟩
  · exact Or.inl name
  · exact Or.inr quad.written
  · exact Or.inr address.written

/-- A local address that stands in the name in any case is the whole of it. -/
theorem surroundings_empty {s : String} {before after : List Char} (isLocal : isLocalAddress s = true)
    (name : Localhost (before ++ s.toList ++ after)) : before ++ after = [] := by
  have letters := name.letter_of_mem
  have absent : ∀ c, c.toLower ∉ "localhost".toList → c ∉ s.toList := fun c foreign member =>
    foreign (letters c (List.mem_append_left _ (List.mem_append_right _ member)))
  rcases localhost_or_mark isLocal with same | point | colon
  · have whole := name.length_eq
    have inner := same.length_eq
    rw [← inner] at whole
    simp only [List.length_append] at whole
    rw [← List.length_eq_zero_iff, List.length_append]
    omega
  · exact absurd point (absent '.' (by decide))
  · exact absurd colon (absent ':' (by decide))

/-- A character of no numeric address, put before or behind a local address, makes it none. -/
theorem refused_of_surrounded {s before after : String} (isLocal : isLocalAddress s = true)
    (foreign : ∃ c ∈ before.toList ++ after.toList, ¬Written c) : isLocalAddress (before ++ s ++ after) = false := by
  rw [← Bool.not_eq_true]
  intro still
  obtain ⟨c, member, strange⟩ := foreign
  rcases localhost_or_written still with name | written
  · rw [String.toList_append, String.toList_append] at name
    rw [surroundings_empty isLocal name] at member
    cases member
  · refine strange (written c ?_)
    simp only [String.toList_append, List.mem_append] at member ⊢
    tauto

/-- A quad is no text of a long address. -/
theorem Quad.not_longText {text : List Char} {a b c d : Nat} (quad : Quad text a b c d) {ns : List Nat} :
    ¬LongText text ns := by
  intro address
  have read := quad.quad_eq
  rw [address.quad_eq_none] at read
  cases read

theorem Quad.not_localhost {text : List Char} {a b c d : Nat} (quad : Quad text a b c d) : ¬Localhost text := by
  intro name
  exact absurd (name.letter_of_mem '.' quad.point_mem) (by decide)

theorem LongText.not_localhost {text : List Char} {ns : List Nat} (address : LongText text ns) :
    ¬Localhost text := by
  intro name
  exact absurd (name.letter_of_mem ':' address.colon_mem) (by decide)

/-- The first octet decides on a quad. -/
theorem Quad.isLocalAddress_iff {s : String} {a b c d : Nat} (quad : Quad s.toList a b c d) :
    isLocalAddress s = true ↔ a = 127 := by
  rw [Address.isLocalAddress_iff]
  constructor
  · rintro (name | ⟨_, _, _, again⟩ | ⟨ns, address, _⟩)
    · exact absurd name quad.not_localhost
    · have read := quad.quad_eq
      rw [again.quad_eq] at read
      cases read
      rfl
    · exact absurd address quad.not_longText
  · rintro rfl
    exact Or.inr (Or.inl ⟨b, c, d, quad⟩)

/-- The value decides on a long address. -/
theorem LongAddress.isLocalAddress_iff {s : String} {value : Nat} (address : LongAddress s.toList value) :
    isLocalAddress s = true ↔ value = 1 := by
  obtain ⟨ns, text, _⟩ := id address
  rw [Address.isLocalAddress_iff]
  constructor
  · rintro (name | ⟨_, _, _, quad⟩ | one)
    · exact absurd name text.not_localhost
    · exact absurd text quad.not_longText
    · exact address.unique one
  · rintro rfl
    exact Or.inr (Or.inr address)

end Address

open Address

/-- A text is local exactly if it is the name of this machine, a quad that begins with 127, or a long address
of the value one. All other quads and long addresses are refused, among them those that map a quad and the
unspecified ones, and so is a local address with a character before or behind it that no address has. -/
theorem isLocalAddress_iff_loopback (s : String) :
    (isLocalAddress s = true ↔
      Localhost s.toList ∨ (∃ b c d, Quad s.toList 127 b c d) ∨ LongAddress s.toList 1) ∧
    (∀ a b c d, Quad s.toList a b c d → a ≠ 127 → isLocalAddress s = false) ∧
    (∀ value, LongAddress s.toList value → value ≠ 1 → isLocalAddress s = false) ∧
    (isLocalAddress s = true → ∀ before after : String, (∃ c ∈ before.toList ++ after.toList, ¬Written c) →
      isLocalAddress (before ++ s ++ after) = false) := by
  refine ⟨Address.isLocalAddress_iff, ?_, ?_, ?_⟩
  · intro a b c d quad other
    rw [← Bool.not_eq_true, quad.isLocalAddress_iff]
    exact other
  · intro value address other
    rw [← Bool.not_eq_true, address.isLocalAddress_iff]
    exact other
  · intro isLocal before after foreign
    exact refused_of_surrounded isLocal foreign

/-- One of many ways to write the long address one is local, as the name is; the address that maps 127.0.0.1,
the unspecified address and an address in brackets are not. -/
theorem spelling_of_one_local :
    isLocalAddress "0::0:0.0.0.1" = true ∧ isLocalAddress "LocalHost" = true ∧
      isLocalAddress "::FFFF:127.0.0.1" = false ∧ isLocalAddress "0.0.0.0" = false ∧
      isLocalAddress "[0::0:0.0.0.1]" = false := by
  have zero : Group ['0'] 0 := ⟨[0], .cons ⟨by decide, Or.inl rfl⟩ .nil, by decide, by decide, rfl⟩
  have ones : Group ['F', 'F', 'F', 'F'] 65535 := by
    have capital : Digit 16 'F' 15 := ⟨by decide, Or.inr rfl⟩
    exact ⟨[15, 15, 15, 15], .cons capital (.cons capital (.cons capital (.cons capital .nil))), by decide,
      by decide, by decide⟩
  have low : Quad (dotted 0 0 0 1) 0 0 0 1 := ⟨by decide, rfl⟩
  have loopback : Quad (dotted 127 0 0 1) 127 0 0 1 := ⟨by decide, rfl⟩
  have one : LongText "0::0:0.0.0.1".toList [0, 0, 0, 0, 0, 0, 0, 1] :=
    .compressed (.series (.group zero)) (.series (.cons zero (.quad low))) (by decide)
  have mapped : LongText "::FFFF:127.0.0.1".toList [0, 0, 0, 0, 0, 65535, 32512, 1] :=
    .compressed .nothing (.series (.cons ones (.quad loopback))) (by decide)
  have isLocal := (isLocalAddress_iff_loopback "0::0:0.0.0.1").1.mpr (Or.inr (Or.inr (longAddress_one_iff.mpr one)))
  have name : Localhost "LocalHost".toList := localhost_iff.mpr (by decide)
  refine ⟨isLocal, (isLocalAddress_iff_loopback _).1.mpr (Or.inl name), ?_, ?_, ?_⟩
  · exact (isLocalAddress_iff_loopback _).2.2.1 _ ⟨_, mapped, rfl⟩ (by decide)
  · exact (isLocalAddress_iff_loopback _).2.1 0 0 0 0 ⟨by decide, by decide⟩ (by decide)
  · exact (isLocalAddress_iff_loopback _).2.2.2 isLocal "[" "]" ⟨'[', by decide, by decide⟩

end KernelLink
