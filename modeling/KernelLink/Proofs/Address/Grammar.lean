import Mathlib.Data.List.Forall2
import Mathlib.Data.Nat.Digits.Defs
import KernelLink.Proofs.Address.Digits

namespace KernelLink
namespace Address

/-- Four numbers in decimal digits with points between them. -/
def dotted (a b c d : Nat) : List Char :=
  Nat.toDigits 10 a ++ '.' :: (Nat.toDigits 10 b ++ '.' :: (Nat.toDigits 10 c ++ '.' :: Nat.toDigits 10 d))

/-- A text is a quad of octets. -/
def Quad (text : List Char) (a b c d : Nat) : Prop :=
  (a ≤ 255 ∧ b ≤ 255 ∧ c ≤ 255 ∧ d ≤ 255) ∧ text = dotted a b c d

/-- A text is a group: one to four hexadecimal digits in either case. -/
def Group (text : List Char) (n : Nat) : Prop :=
  ∃ digits, Spelled 16 text digits ∧ digits ≠ [] ∧ digits.length ≤ 4 ∧ n = Nat.ofDigits 16 digits.reverse

/-- Groups with colons between them. A quad may stand for the last two; the last index says whether one does. -/
inductive Series : List Char → List Nat → Bool → Prop
  | group {text n} : Group text n → Series text [n] false
  | quad {text a b c d} : Quad text a b c d → Series text [a * 256 + b, c * 256 + d] true
  | cons {text n others ns quadded} : Group text n → Series others ns quadded →
      Series (text ++ ':' :: others) (n :: ns) quadded

/-- What may stand on one side of a double colon. -/
inductive Side : List Char → List Nat → Bool → Prop
  | nothing : Side [] [] false
  | series {text ns quadded} : Series text ns quadded → Side text ns quadded

/-- A text is a long address: eight groups, or fewer of them around one double colon that stands for the
zeros that are missing. A quad may only stand at the very end. -/
inductive LongText : List Char → List Nat → Prop
  | whole {text ns quadded} : Series text ns quadded → ns.length = 8 → LongText text ns
  | compressed {before head after tail quadded} : Side before head false → Side after tail quadded →
      head.length + tail.length < 8 →
      LongText (before ++ ':' :: ':' :: after)
        (head ++ List.replicate (8 - head.length - tail.length) 0 ++ tail)

theorem char_eq_some_iff {c : Char} {cs rest : List Char} : char c cs = some rest ↔ cs = c :: rest := by
  cases cs with
  | nil => simp [char]
  | cons d cs => simp [char]

/-- A point is no digit. -/
theorem ended_point {base : Nat} (small : base ≤ 16) (rest : List Char) : Ended base ('.' :: rest) := by
  intro c first d digit
  cases first
  have value := (digitValue_eq_some_iff (Nat.le_refl 16)).mpr (digit.mono small)
  cases value

/-- A quad is read from what it is written with. -/
theorem quad_eq_some_iff {cs rest : List Char} {a b c d : Nat} : quad cs = some ((a, b, c, d), rest) ↔
    ∃ text, Quad text a b c d ∧ cs = text ++ rest ∧ Ended 10 rest := by
  have point := ended_point (show 10 ≤ 16 by decide)
  simp only [quad, Option.bind_eq_bind, Option.bind_eq_some_iff, Prod.exists, octet_eq_some_iff, char_eq_some_iff]
  constructor
  · rintro ⟨_, _, ⟨a', rfl, _⟩, _, rfl, _, _, ⟨b', rfl, _⟩, _, rfl, _, _, ⟨c', rfl, _⟩, _, rfl, _, _,
      ⟨d', rfl, ended⟩, same⟩
    cases same
    exact ⟨_, ⟨⟨a', b', c', d'⟩, rfl⟩, by simp [dotted], ended⟩
  · rintro ⟨_, ⟨⟨a', b', c', d'⟩, rfl⟩, rfl, ended⟩
    exact ⟨a, _, ⟨a', by simp [dotted], point _⟩, _, rfl, b, _, ⟨b', rfl, point _⟩, _, rfl, c, _,
      ⟨c', rfl, point _⟩, _, rfl, d, rest, ⟨d', rfl, ended⟩, rfl⟩

/-- Nothing follows, or a colon does. -/
def Colon (rest : List Char) : Prop := ∀ c ∈ rest.head?, c = ':'

theorem Colon.nil : Colon [] := by
  intro c first
  cases first

theorem Colon.cons (rest : List Char) : Colon (':' :: rest) := by
  intro c first
  cases first
  rfl

theorem Colon.ended {rest : List Char} (colon : Colon rest) {base : Nat} (small : base ≤ 16) : Ended base rest := by
  intro c first d digit
  have value := (digitValue_eq_some_iff (Nat.le_refl 16)).mpr (digit.mono small)
  rw [colon c first] at value
  cases value

/-- Hexadecimal digits before a colon or the end are no quad, for a point follows the first octet of one. -/
theorem Spelled.quad_eq_none {text rest : List Char} {digits : List Nat} (spelled : Spelled 16 text digits)
    (colon : Colon rest) : quad (text ++ rest) = none := by
  rw [Option.eq_none_iff_forall_ne_some]
  rintro ⟨⟨a, b, c, d⟩, after⟩ read
  obtain ⟨_, ⟨_, rfl⟩, same, _⟩ := quad_eq_some_iff.mp read
  have decimal : Spelled 16 (Nat.toDigits 10 a) (Reader.decimalDigits a) := (spelled_toDigits a).mono (by decide)
  -- behind the digits that begin the text comes the point of the quad, where the colon should be
  have behind := congrArg (List.dropWhile fun c => (digitValue 16 c).isSome) same
  rw [spelled.dropWhile (colon.ended (Nat.le_refl 16)) (Nat.le_refl 16), dotted, List.append_assoc, List.cons_append,
    decimal.dropWhile (ended_point (Nat.le_refl 16) _) (Nat.le_refl 16)] at behind
  cases colon '.' (by rw [behind]; rfl)

theorem Group.quad_eq_none {text rest : List Char} {n : Nat} (group : Group text n) (colon : Colon rest) :
    quad (text ++ rest) = none := by
  obtain ⟨digits, spelled, _⟩ := group
  exact spelled.quad_eq_none colon

theorem number_group {cs rest : List Char} {n : Nat} : number 16 4 true cs = some (n, rest) ↔
    ∃ text, Group text n ∧ cs = text ++ rest ∧ Ended 16 rest := by
  rw [number_eq_some_iff (Nat.le_refl 16)]
  constructor
  · rintro ⟨text, digits, rfl, spelled, ended, nonempty, counted, _, rfl⟩
    exact ⟨text, ⟨digits, spelled, nonempty, counted, foldl_eq_ofDigits 16 digits⟩, rfl, ended⟩
  · rintro ⟨text, ⟨digits, spelled, nonempty, counted, rfl⟩, rfl, ended⟩
    exact ⟨text, digits, rfl, spelled, ended, nonempty, counted, Or.inl rfl, (foldl_eq_ofDigits 16 digits).symm⟩

/-- No group begins with a colon. -/
theorem Colon.number_eq_none {cs : List Char} (colon : Colon cs) : number 16 4 true cs = none := by
  rw [Option.eq_none_iff_forall_ne_some]
  rintro ⟨n, rest⟩ read
  obtain ⟨text, ⟨digits, spelled, nonempty, _⟩, rfl, _⟩ := number_group.mp read
  cases spelled with
  | nil => exact nonempty rfl
  | cons digit others => exact colon.ended (Nat.le_refl 16) _ rfl _ digit

/-- A text at which a series of groups stops: its end, or a double colon. -/
def Stops (rest : List Char) : Prop := rest = [] ∨ ∃ more, rest = ':' :: ':' :: more

theorem Stops.colon {rest : List Char} (stops : Stops rest) : Colon rest := by
  rcases stops with rfl | ⟨more, rfl⟩
  · exact .nil
  · exact .cons _

/-- Behind the separator there is nothing to read either. -/
theorem Stops.separated {rest next : List Char} (stops : Stops rest) {first : Bool}
    (separated : separator ':' first rest = some next) : Colon next := by
  cases first with
  | true =>
    cases separated
    exact stops.colon
  | false =>
    rcases stops with rfl | ⟨more, rfl⟩
    · cases separated
    · cases separated
      exact .cons _

theorem Stops.groups_eq {rest : List Char} (stops : Stops rest) (room : Nat) (first : Bool) :
    groups room first rest = ([], false, rest) := by
  cases room with
  | zero => rfl
  | succ room =>
    have noQuad : (separator ':' first rest).bind quad = none := by
      rw [Option.bind_eq_none_iff]
      exact fun next separated => Spelled.quad_eq_none .nil (stops.separated separated)
    have noGroup : (separator ':' first rest).bind (number 16 4 true) = none := by
      rw [Option.bind_eq_none_iff]
      exact fun next separated => (stops.separated separated).number_eq_none
    simp only [groups, noQuad, noGroup, ite_self]

/-- A group is read with what is read behind it. -/
theorem Group.groups_eq {text rest cs : List Char} {n room : Nat} {first : Bool} (group : Group text n)
    (colon : Colon rest) (separated : separator ':' first cs = some (text ++ rest)) :
    groups (room + 1) first cs =
      (n :: (groups room false rest).1, (groups room false rest).2.1, (groups room false rest).2.2) := by
  have read : number 16 4 true (text ++ rest) = some (n, rest) :=
    number_group.mpr ⟨text, group, rfl, colon.ended (Nat.le_refl 16)⟩
  simp only [groups, separated, Option.bind_some, group.quad_eq_none colon, read, ite_self]

theorem Quad.groups_eq {text rest cs : List Char} {a b c d room : Nat} {first : Bool} (written : Quad text a b c d)
    (colon : Colon rest) (separated : separator ':' first cs = some (text ++ rest)) :
    groups (room + 2) first cs = ([a * 256 + b, c * 256 + d], true, rest) := by
  have read : quad (text ++ rest) = some ((a, b, c, d), rest) :=
    quad_eq_some_iff.mpr ⟨text, written, rfl, colon.ended (by decide)⟩
  rw [groups, separated, Option.bind_some, read, if_neg (Nat.succ_ne_zero room)]

/-- A series is read as a whole when there is room for it. -/
theorem Series.groups_eq {text rest cs : List Char} {ns : List Nat} {quadded first : Bool} {room : Nat}
    (series : Series text ns quadded) (fits : ns.length ≤ room) (stops : Stops rest)
    (separated : separator ':' first cs = some (text ++ rest)) : groups room first cs = (ns, quadded, rest) := by
  -- what follows a group begins with a separator, so the induction is for texts with and without one
  induction series generalizing room first cs with
  | group group =>
    obtain ⟨room, rfl⟩ : ∃ less, room = less + 1 := ⟨room - 1, by simp at fits; omega⟩
    rw [group.groups_eq stops.colon separated, stops.groups_eq]
  | quad written =>
    obtain ⟨room, rfl⟩ : ∃ less, room = less + 2 := ⟨room - 2, by simp at fits; omega⟩
    exact written.groups_eq stops.colon separated
  | @cons text n others ns quadded group series ih =>
    obtain ⟨room, rfl⟩ : ∃ less, room = less + 1 := ⟨room - 1, by simp at fits; omega⟩
    rw [List.append_assoc, List.cons_append] at separated
    have next : separator ':' false (':' :: (others ++ rest)) = some (others ++ rest) := by
      simp [separator, char]
    rw [group.groups_eq (.cons _) separated, ih (Nat.le_of_succ_le_succ fits) next]

/-- What is read stands in the text as a series, if anything is read at all. -/
theorem series_of_groups {room : Nat} {first quadded : Bool} {cs rest : List Char} {ns : List Nat}
    (read : groups room first cs = (ns, quadded, rest)) :
    (ns = [] ∧ quadded = false ∧ rest = cs) ∨ ns.length ≤ room ∧
      ∃ text, Series text ns quadded ∧ separator ':' first cs = some (text ++ rest) := by
  induction room generalizing first cs ns with
  | zero =>
    cases read
    exact Or.inl ⟨rfl, rfl, rfl⟩
  | succ room ih =>
    simp only [groups] at read
    split at read
    · -- a quad is only looked for where there is room for two groups
      rename_i a b c d after asQuad
      cases read
      split at asQuad
      · cases asQuad
      rename_i several
      obtain ⟨next, separated, quadRead⟩ := Option.bind_eq_some_iff.mp asQuad
      obtain ⟨text, written, rfl, _⟩ := quad_eq_some_iff.mp quadRead
      exact Or.inr ⟨by simp; omega, text, .quad written, separated⟩
    · split at read
      · rename_i n after asGroup
        cases read
        obtain ⟨next, separated, groupRead⟩ := Option.bind_eq_some_iff.mp asGroup
        obtain ⟨text, group, rfl, _⟩ := number_group.mp groupRead
        rcases ih (Prod.ext rfl (Prod.ext rfl rfl)) with ⟨none, plain, same⟩ | ⟨fits, others, series, follows⟩
        · rw [none, plain, same]
          exact Or.inr ⟨by simp, text, .group group, separated⟩
        · rw [char_eq_some_iff.mp follows] at separated
          refine Or.inr ⟨Nat.succ_le_succ fits, _, .cons group series, ?_⟩
          rw [separated, List.append_assoc, List.cons_append]
      · cases read
        exact Or.inl ⟨rfl, rfl, rfl⟩

/-- One side of a double colon is read when there is room for it. -/
theorem Side.groups_eq {text rest : List Char} {ns : List Nat} {quadded : Bool} {room : Nat}
    (side : Side text ns quadded) (fits : ns.length ≤ room) (stops : Stops rest) :
    groups room true (text ++ rest) = (ns, quadded, rest) := by
  cases side with
  | nothing => exact stops.groups_eq room true
  | series series => exact series.groups_eq fits stops rfl

theorem side_of_groups {room : Nat} {quadded : Bool} {cs rest : List Char} {ns : List Nat}
    (read : groups room true cs = (ns, quadded, rest)) :
    ∃ text, Side text ns quadded ∧ cs = text ++ rest ∧ ns.length ≤ room := by
  rcases series_of_groups read with ⟨rfl, rfl, rfl⟩ | ⟨fits, text, series, separated⟩
  · exact ⟨[], .nothing, rfl, Nat.zero_le room⟩
  · cases separated
    exact ⟨text, .series series, rfl, fits⟩

theorem LongText.long_eq {text : List Char} {ns : List Nat} (address : LongText text ns) :
    long text = some (ns, []) := by
  cases address with
  | whole series count =>
    have read := (Side.series series).groups_eq (Nat.le_of_eq count) (Or.inl rfl)
    rw [List.append_nil] at read
    simp only [long, read, count, if_true]
  | @compressed before head after tail quadded first second fewer =>
    have headRead : groups 8 true (before ++ ':' :: ':' :: after) = (head, false, ':' :: ':' :: after) :=
      first.groups_eq (by omega) (Or.inr ⟨after, rfl⟩)
    have tailRead : groups (7 - head.length) true (after ++ []) = (tail, quadded, []) :=
      second.groups_eq (by omega) (Or.inl rfl)
    rw [List.append_nil] at tailRead
    have short : head.length ≠ 8 := by omega
    simp [long, headRead, tailRead, short, char]

theorem longText_of_long {text : List Char} {ns : List Nat} (read : long text = some (ns, [])) : LongText text ns := by
  rcases headRead : groups 8 true text with ⟨head, quadded, rest⟩
  obtain ⟨before, first, rfl, atMost⟩ := side_of_groups headRead
  simp only [long, headRead] at read
  split at read
  · rename_i count
    cases read
    rw [List.append_nil]
    cases first with
    | nothing => cases count
    | series series => exact .whole series count
  split at read
  · cases read
  rename_i notAll plain
  simp only [Option.bind_eq_bind, Option.bind_eq_some_iff, char_eq_some_iff] at read
  obtain ⟨_, rfl, after, rfl, read⟩ := read
  rcases tailRead : groups (7 - head.length) true after with ⟨tail, tailQuadded, rest⟩
  obtain ⟨after, second, rfl, fits⟩ := side_of_groups tailRead
  rw [tailRead] at read
  cases read
  rw [List.append_nil]
  rw [Bool.not_eq_true] at plain
  subst plain
  have fewer : head.length + tail.length < 8 := by
    have room : tail.length ≤ 7 - head.length := fits
    omega
  exact .compressed first second fewer

/-- A long address is read exactly from the texts of it. -/
theorem long_eq_some_iff {text : List Char} {ns : List Nat} : long text = some (ns, []) ↔ LongText text ns :=
  ⟨longText_of_long, LongText.long_eq⟩

end Address
end KernelLink
