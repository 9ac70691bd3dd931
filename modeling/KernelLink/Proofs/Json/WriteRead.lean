import KernelLink.Proofs.Json.Numerals
import KernelLink.Proofs.Json.Strings
import Mathlib.Logic.Basic

namespace KernelLink
namespace Json

mutual

/-- How many arrays and objects stand around one another. -/
def depth : Json → Nat
  | .array items => depthItems items + 1
  | .object members => depthMembers members + 1
  | .null => 0
  | .bool _ => 0
  | .number _ => 0
  | .text _ => 0

def depthItems : List Json → Nat
  | [] => 0
  | j :: rest => max (depth j) (depthItems rest)

def depthMembers : List (String × Json) → Nat
  | [] => 0
  | (_, j) :: rest => max (depth j) (depthMembers rest)

end

mutual

/-- The value holds no numbers but integers that are kept as they are. -/
def Integral : Json → Prop
  | .array items => IntegralItems items
  | .object members => IntegralMembers members
  | .number (.integer i) => -(Nat.pow 2 63 : Nat) ≤ i ∧ i < (Nat.pow 2 64 : Nat)
  | .number (.double _) => False
  | .null => True
  | .bool _ => True
  | .text _ => True

def IntegralItems : List Json → Prop
  | [] => True
  | j :: rest => Integral j ∧ IntegralItems rest

def IntegralMembers : List (String × Json) → Prop
  | [] => True
  | (_, j) :: rest => Integral j ∧ IntegralMembers rest

end

/-- Whether a value begins here: there is no blank, and no closing bracket. -/
def Opens (b : UInt8) : Prop := Reader.isBlank b = false ∧ b ≠ octet ']'

theorem opens_digit {b : UInt8} (digit : Reader.isDigit b = true) : Opens b := by
  simp only [Reader.isDigit, Bool.and_eq_true, decide_eq_true_eq, UInt8.le_iff_toNat_le] at digit
  have bounds : 48 ≤ b.toNat ∧ b.toNat ≤ 57 := digit
  have other {n : UInt8} (outside : n.toNat < 48 ∨ 57 < n.toNat) : b ≠ n := by
    rintro rfl
    omega
  refine ⟨?_, other (Or.inr (by decide))⟩
  simp only [Reader.isBlank, Bool.or_eq_false_iff, decide_eq_false_iff_not]
  exact ⟨⟨⟨other (Or.inl (by decide)), other (Or.inl (by decide))⟩, other (Or.inl (by decide))⟩,
    other (Or.inl (by decide))⟩

/-- The first octet of a value shows whether it is an array or an object. -/
theorem exists_write_eq_cons {j : Json} (integral : j.Integral) : ∃ b tail, j.write = b :: tail ∧ Opens b ∧
    (b = octet '[' → ∃ items, j = .array items) ∧ (b = octet '\x7b' → ∃ members, j = .object members) := by
  cases j with
  | null => exact ⟨_, _, rfl, ⟨rfl, by decide⟩, nofun, nofun⟩
  | bool b => cases b <;> exact ⟨_, _, rfl, ⟨rfl, by decide⟩, nofun, nofun⟩
  | number n =>
    cases n with
    | integer i =>
      obtain ⟨b, tail, written, sign | digit⟩ := Reader.exists_ofString_integer i
      · subst sign
        exact ⟨_, tail, written, ⟨rfl, by decide⟩, nofun, nofun⟩
      · have other {d : UInt8} (none : Reader.isDigit d = false) : b ≠ d := by
          rintro rfl
          exact Bool.false_ne_true (none.symm.trans digit)
        exact ⟨b, tail, written, opens_digit digit, fun same => absurd same (other rfl),
          fun same => absurd same (other rfl)⟩
    | double d => exact integral.elim
  | text s => exact ⟨_, _, rfl, ⟨rfl, by decide⟩, nofun, nofun⟩
  | array items =>
    cases items <;> rw [write]
    · exact ⟨_, _, rfl, ⟨rfl, by decide⟩, fun _ => ⟨_, rfl⟩, nofun⟩
    · exact ⟨_, _, rfl, ⟨rfl, by decide⟩, fun _ => ⟨_, rfl⟩, nofun⟩
  | object members =>
    rcases members with _ | ⟨⟨key, j⟩, rest⟩ <;> rw [write]
    · exact ⟨_, _, rfl, ⟨rfl, by decide⟩, nofun, fun _ => ⟨_, rfl⟩⟩
    · exact ⟨_, _, rfl, ⟨rfl, by decide⟩, nofun, fun _ => ⟨_, rfl⟩⟩

end Json

namespace Reader

theorem skipBlank_cons {b : UInt8} (visible : isBlank b = false) (rest : Bytes) :
    skipBlank (b :: rest) = b :: rest := by
  simp [skipBlank, visible]

theorem nextItem_first {j : Json} (integral : j.Integral) (rest : Bytes) :
    nextItem true (j.write ++ rest) = .ok (.more () (j.write ++ rest)) := by
  obtain ⟨b, tail, written, opens, -⟩ := Json.exists_write_eq_cons integral
  simp [nextItem, written, skipBlank_cons opens.1, opens.2]

theorem nextItem_comma {j : Json} (integral : j.Integral) (rest : Bytes) :
    nextItem false (octet ',' :: (j.write ++ rest)) = .ok (.more () (j.write ++ rest)) := by
  obtain ⟨b, tail, written, opens, -⟩ := Json.exists_write_eq_cons integral
  have comma : skipBlank (octet ',' :: b :: (tail ++ rest)) = octet ',' :: b :: (tail ++ rest) :=
    skipBlank_cons rfl _
  simp [nextItem, written, comma, skipBlank_cons opens.1, opens.2, show octet ',' ≠ octet ']' by decide]

/-- The next key is read if it is quoted. -/
theorem nextKey_of_nextQuote {first : Bool} {bs : Bytes} (key : String) (rest : Bytes)
    (quote : nextQuote first bs = .ok (.more () (key.toList.flatMap escapedChar ++ octet '"' :: rest))) :
    nextKey first bs = .ok (.more key rest) := by
  unfold nextKey
  simp only [quote, string_quoted, bind, Except.bind]

theorem quotedText_append (s : String) (rest : Bytes) :
    quotedText s ++ rest = octet '"' :: (s.toList.flatMap escapedChar ++ octet '"' :: rest) := by
  simp [quotedText]

theorem nextKey_first (key : String) (rest : Bytes) :
    nextKey true (quotedText key ++ rest) = .ok (.more key rest) := by
  rw [quotedText_append]
  exact nextKey_of_nextQuote key rest rfl

theorem nextKey_comma (key : String) (rest : Bytes) :
    nextKey false (octet ',' :: (quotedText key ++ rest)) = .ok (.more key rest) := by
  rw [quotedText_append]
  exact nextKey_of_nextQuote key rest rfl

theorem atom_text (s : String) (rest : Bytes) : atom (quotedText s ++ rest) = .ok (.text s, rest) := by
  rw [quotedText_append]
  unfold atom
  simp only [if_neg (show octet '"' ≠ octet 'n' by decide), if_neg (show octet '"' ≠ octet 't' by decide),
    if_neg (show octet '"' ≠ octet 'f' by decide), if_true, string_quoted, bind, Except.bind]

theorem atom_integer {i : Int} (low : -(Nat.pow 2 63 : Nat) ≤ i) (high : i < (Nat.pow 2 64 : Nat))
    {rest : Bytes} (stops : Stops rest) :
    atom (Bytes.ofString (Number.integer i).text ++ rest) = .ok (.number (.integer i), rest) := by
  have read := number_integer low high stops
  obtain ⟨b, tail, written, begins⟩ := exists_ofString_integer i
  rw [written, List.cons_append] at read ⊢
  have other {d : UInt8} (sign : d ≠ octet '-') (digit : isDigit d = false) : b ≠ d := by
    rintro rfl
    rcases begins with same | same
    · exact sign same
    · exact Bool.false_ne_true (digit.symm.trans same)
  unfold atom
  simp only []
  rw [if_neg (other (by decide) rfl), if_neg (other (by decide) rfl), if_neg (other (by decide) rfl),
    if_neg (other (by decide) rfl), if_pos begins, read]
  rfl

/-- A value that nests nothing. -/
theorem atom_write {j : Json} (integral : j.Integral) (array : ∀ items, j ≠ .array items)
    (object : ∀ members, j ≠ .object members) {rest : Bytes} (stops : Stops rest) :
    atom (j.write ++ rest) = .ok (j, rest) := by
  cases j with
  | null => rfl
  | bool b => cases b <;> rfl
  | number n =>
    cases n with
    | integer i => exact atom_integer integral.1 integral.2 stops
    | double d => exact integral.elim
  | text s => exact atom_text s rest
  | array items => exact absurd rfl (array items)
  | object members => exact absurd rfl (object members)

theorem value_atom {j : Json} (integral : j.Integral) (array : ∀ items, j ≠ .array items)
    (object : ∀ members, j ≠ .object members) {rest : Bytes} (stops : Stops rest) (fuel room : Nat) :
    value (fuel + 1) room (j.write ++ rest) = .ok (j, rest) := by
  have read := atom_write integral array object stops
  obtain ⟨b, tail, written, opens, bracket, brace⟩ := Json.exists_write_eq_cons integral
  have notArray : b ≠ octet '[' := fun same => (bracket same).elim array
  have notObject : b ≠ octet '\x7b' := fun same => (brace same).elim object
  rw [written, List.cons_append] at read ⊢
  unfold value
  simp only [skipBlank_cons opens.1, if_neg notArray, if_neg notObject, read]

theorem value_scalar {j : Json} (integral : j.Integral) (array : ∀ items, j ≠ .array items)
    (object : ∀ members, j ≠ .object members) {rest : Bytes} (stops : Stops rest) {fuel room : Nat}
    (flat : j.depth = 0) (enough : 2 * j.write.length ≤ fuel) :
    value fuel room (j.write ++ rest) = if j.depth ≤ room then .ok (j, rest) else .error .malformed := by
  obtain ⟨b, tail, written, -⟩ := Json.exists_write_eq_cons integral
  have some : 1 ≤ j.write.length := by rw [written]; exact Nat.le_add_left ..
  obtain ⟨left, rfl⟩ := Nat.exists_eq_add_of_le' (show 1 ≤ fuel by omega)
  rw [value_atom integral array object stops, if_pos (flat ▸ Nat.zero_le room)]

theorem value_array (fuel room : Nat) (rest : Bytes) :
    value (fuel + 1) (room + 1) (octet '[' :: rest) =
      (do let (js, rest) ← items fuel room true rest; .ok (.array js, rest)) := by
  unfold value
  rw [skipBlank_cons rfl]
  rfl

theorem value_object (fuel room : Nat) (rest : Bytes) :
    value (fuel + 1) (room + 1) (octet '\x7b' :: rest) =
      (do let (ms, rest) ← members fuel room true rest; .ok (.object ms, rest)) := by
  unfold value
  rw [skipBlank_cons rfl]
  rfl

theorem value_array_full (fuel : Nat) (rest : Bytes) :
    value (fuel + 1) 0 (octet '[' :: rest) = .error .malformed := by
  unfold value
  rw [skipBlank_cons rfl]
  rfl

theorem value_object_full (fuel : Nat) (rest : Bytes) :
    value (fuel + 1) 0 (octet '\x7b' :: rest) = .error .malformed := by
  unfold value
  rw [skipBlank_cons rfl]
  rfl

theorem items_more {first : Bool} {bs bs' : Bytes} (step : nextItem first bs = .ok (.more () bs'))
    (fuel room : Nat) :
    items (fuel + 1) room first bs = (do
      let (j, rest) ← value fuel room bs'
      let (js, rest) ← items fuel room false rest
      .ok (j :: js, rest)) := by
  rw [items, step]
  rfl

theorem members_more {first : Bool} {bs bs' : Bytes} {key : String}
    (step : nextKey first bs = .ok (.more key (octet ':' :: bs'))) (fuel room : Nat) :
    members (fuel + 1) room first bs = (do
      let (j, rest) ← value fuel room bs'
      let (ms, rest) ← members fuel room false rest
      .ok ((key, j) :: ms, rest)) := by
  rw [members, step]
  rfl

/-- Two parts in a row fit if both do. -/
theorem bind_fitting {α β γ : Type} {p q : Prop} [Decidable p] [Decidable q] {one : Except Fault (α × Bytes)}
    {others : Bytes → Except Fault (β × Bytes)} {a : α} {b : β} {rest after : Bytes} (f : α → β → γ)
    (first : one = if p then .ok (a, rest) else .error .malformed)
    (second : others rest = if q then .ok (b, after) else .error .malformed) :
    (do
      let (a, rest) ← one
      let (b, rest) ← others rest
      Except.ok (f a b, rest)) = if p ∧ q then .ok (f a b, after) else .error .malformed := by
  by_cases fits : p
  · rw [first, if_pos fits]
    show (do let (b, rest) ← others rest; Except.ok (f a b, rest)) = _
    by_cases rests : q
    · rw [second, if_pos rests, if_pos ⟨fits, rests⟩]
      rfl
    · rw [second, if_neg rests, if_neg fun both => rests both.2]
      rfl
  · rw [first, if_neg fits, if_neg fun both => fits both.1]
    rfl

theorem map_fitting {α β : Type} {p : Prop} [Decidable p] {one : Except Fault (α × Bytes)} {a : α}
    {rest : Bytes} (f : α → β) (read : one = if p then .ok (a, rest) else .error .malformed) :
    (do let (a, rest) ← one; Except.ok (f a, rest)) = if p then .ok (f a, rest) else .error .malformed := by
  rw [read]
  split <;> rfl

theorem stops_writeItems (js : List Json) (rest : Bytes) : Stops (Json.writeItems js ++ rest) := by
  cases js <;> (rw [Json.writeItems]; rintro b ⟨⟩; decide)

theorem stops_writeMembers (ms : List (String × Json)) (rest : Bytes) :
    Stops (Json.writeMembers ms ++ rest) := by
  rcases ms with _ | ⟨⟨key, j⟩, ms⟩ <;> (rw [Json.writeMembers]; rintro b ⟨⟩; decide)

mutual

/-- A value that is written is read back where there is room for it, and refused elsewhere. -/
theorem value_write : (j : Json) → j.Integral → ∀ {fuel : Nat} (room : Nat) {rest : Bytes}, Stops rest →
    2 * j.write.length ≤ fuel →
    value fuel room (j.write ++ rest) = if j.depth ≤ room then .ok (j, rest) else .error .malformed
  | .array [], integral, fuel, room, rest, stops, enough => by
    rw [Json.write] at enough ⊢
    obtain ⟨left, rfl⟩ := Nat.exists_eq_add_of_le' (show 2 ≤ fuel from Nat.le_trans (by decide) enough)
    cases room with
    | zero => exact value_array_full (left + 1) _
    | succ room =>
      exact (value_array (left + 1) room _).trans (if_pos (by simp [Json.depth, Json.depthItems])).symm
  | .array (j :: js), integral, fuel, room, rest, stops, enough => by
    rw [Json.write] at enough ⊢
    simp only [List.length_cons, List.length_append] at enough
    simp only [List.cons_append, List.append_assoc]
    -- the bracket pays for the two calls that are made before the first item is read
    obtain ⟨left, rfl⟩ := Nat.exists_eq_add_of_le' (show 2 ≤ fuel by omega)
    cases room with
    | zero => rw [value_array_full, if_neg (by rw [Json.depth]; omega)]
    | succ room =>
      have one := value_write j integral.1 room (stops_writeItems js rest)
        (show 2 * j.write.length ≤ left by omega)
      have others := items_write js integral.2 room rest
        (show 2 * (Json.writeItems js).length ≤ left by omega)
      rw [value_array, items_more (nextItem_first integral.1 _)]
      refine (map_fitting Json.array (bind_fitting List.cons one others)).trans (if_congr ?_ rfl rfl)
      rw [Json.depth, Json.depthItems, Nat.add_le_add_iff_right, Nat.max_le]
  | .object [], integral, fuel, room, rest, stops, enough => by
    rw [Json.write] at enough ⊢
    obtain ⟨left, rfl⟩ := Nat.exists_eq_add_of_le' (show 2 ≤ fuel from Nat.le_trans (by decide) enough)
    cases room with
    | zero => exact value_object_full (left + 1) _
    | succ room =>
      exact (value_object (left + 1) room _).trans (if_pos (by simp [Json.depth, Json.depthMembers])).symm
  | .object ((key, j) :: ms), integral, fuel, room, rest, stops, enough => by
    rw [Json.write] at enough ⊢
    simp only [List.length_cons, List.length_append] at enough
    simp only [List.cons_append, List.append_assoc]
    obtain ⟨left, rfl⟩ := Nat.exists_eq_add_of_le' (show 2 ≤ fuel by omega)
    cases room with
    | zero => rw [value_object_full, if_neg (by rw [Json.depth]; omega)]
    | succ room =>
      have one := value_write j integral.1 room (stops_writeMembers ms rest)
        (show 2 * j.write.length ≤ left by omega)
      have others := members_write ms integral.2 room rest
        (show 2 * (Json.writeMembers ms).length ≤ left by omega)
      rw [value_object, members_more (nextKey_first key _)]
      refine (map_fitting Json.object (bind_fitting (fun j ms => (key, j) :: ms) one others)).trans
        (if_congr ?_ rfl rfl)
      rw [Json.depth, Json.depthMembers, Nat.add_le_add_iff_right, Nat.max_le]
  | .null, integral, fuel, room, rest, stops, enough => value_scalar integral nofun nofun stops rfl enough
  | .bool b, integral, fuel, room, rest, stops, enough => value_scalar integral nofun nofun stops rfl enough
  | .number n, integral, fuel, room, rest, stops, enough => value_scalar integral nofun nofun stops rfl enough
  | .text s, integral, fuel, room, rest, stops, enough => value_scalar integral nofun nofun stops rfl enough

theorem items_write : (js : List Json) → Json.IntegralItems js → ∀ {fuel : Nat} (room : Nat) (rest : Bytes),
    2 * (Json.writeItems js).length ≤ fuel →
    items fuel room false (Json.writeItems js ++ rest) =
      if Json.depthItems js ≤ room then .ok (js, rest) else .error .malformed
  | [], _, fuel, room, rest, enough => by
    rw [Json.writeItems] at enough ⊢
    obtain ⟨left, rfl⟩ := Nat.exists_eq_add_of_le' (show 1 ≤ fuel from Nat.le_trans (by decide) enough)
    rw [Json.depthItems, if_pos (Nat.zero_le room), items]
    rfl
  | j :: js, integral, fuel, room, rest, enough => by
    rw [Json.writeItems] at enough ⊢
    simp only [List.length_cons, List.length_append] at enough
    simp only [List.cons_append, List.append_assoc]
    obtain ⟨left, rfl⟩ := Nat.exists_eq_add_of_le' (show 1 ≤ fuel by omega)
    have one := value_write j integral.1 room (stops_writeItems js rest)
      (show 2 * j.write.length ≤ left by omega)
    have others := items_write js integral.2 room rest (show 2 * (Json.writeItems js).length ≤ left by omega)
    rw [items_more (nextItem_comma integral.1 _)]
    refine (bind_fitting List.cons one others).trans (if_congr ?_ rfl rfl)
    rw [Json.depthItems, Nat.max_le]

theorem members_write : (ms : List (String × Json)) → Json.IntegralMembers ms → ∀ {fuel : Nat} (room : Nat)
    (rest : Bytes), 2 * (Json.writeMembers ms).length ≤ fuel →
    members fuel room false (Json.writeMembers ms ++ rest) =
      if Json.depthMembers ms ≤ room then .ok (ms, rest) else .error .malformed
  | [], _, fuel, room, rest, enough => by
    rw [Json.writeMembers] at enough ⊢
    obtain ⟨left, rfl⟩ := Nat.exists_eq_add_of_le' (show 1 ≤ fuel from Nat.le_trans (by decide) enough)
    rw [Json.depthMembers, if_pos (Nat.zero_le room), members]
    rfl
  | (key, j) :: ms, integral, fuel, room, rest, enough => by
    rw [Json.writeMembers] at enough ⊢
    simp only [List.length_cons, List.length_append] at enough
    simp only [List.cons_append, List.append_assoc]
    obtain ⟨left, rfl⟩ := Nat.exists_eq_add_of_le' (show 1 ≤ fuel by omega)
    have one := value_write j integral.1 room (stops_writeMembers ms rest)
      (show 2 * j.write.length ≤ left by omega)
    have others := members_write ms integral.2 room rest
      (show 2 * (Json.writeMembers ms).length ≤ left by omega)
    rw [members_more (nextKey_comma key _)]
    refine (bind_fitting (fun j ms => (key, j) :: ms) one others).trans (if_congr ?_ rfl rfl)
    rw [Json.depthMembers, Nat.max_le]

end

end Reader

namespace Json

/-- A whole text is read back if it does not nest too deep, and refused otherwise. -/
theorem parse_write {j : Json} (integral : j.Integral) :
    Json.parse j.write = if j.depth ≤ Reader.depthLimit then .ok j else .error .malformed := by
  have ends : Reader.Stops [] := nofun
  have enough : 2 * j.write.length ≤ Reader.fuelFor j.write := Nat.le_add_right ..
  have read := Reader.value_write j integral Reader.depthLimit ends enough
  rw [List.append_nil] at read
  unfold Json.parse
  rw [read]
  split <;> rfl

theorem place_of_lt {key : String} (j : Json) {members : List (String × Json)}
    (first : ∀ m ∈ members, key < m.1) :
    Table.place key j members = (key, j) :: members := by
  cases members with
  | nil => rfl
  | cons m rest => exact if_pos (first m (List.mem_cons_self ..))

mutual

/-- Where the keys are in order already, sorting changes nothing. -/
theorem sorted_of_ordered : (j : Json) → j.Ordered → j.sorted = j
  | .array items, ordered => by rw [sorted, sortedItems_of_ordered items ordered]
  | .object members, ordered => by rw [sorted, sortedMembers_of_ordered members ordered]
  | .null, _ => rfl
  | .bool _, _ => rfl
  | .number _, _ => rfl
  | .text _, _ => rfl

theorem sortedItems_of_ordered : (items : List Json) → OrderedItems items → sortedItems items = items
  | [], _ => rfl
  | j :: rest, ordered => by
    rw [sortedItems, sorted_of_ordered j ordered.1, sortedItems_of_ordered rest ordered.2]

theorem sortedMembers_of_ordered : (members : List (String × Json)) → OrderedMembers members →
    sortedMembers members = members
  | [], _ => rfl
  | (key, j) :: rest, ordered => by
    rw [sortedMembers, sorted_of_ordered j ordered.1, sortedMembers_of_ordered rest ordered.2.2,
      place_of_lt j ordered.2.1]

end

end Json

namespace Payload

theorem ofJson_json (p : Payload) : ofJson p.json = p := by
  cases p with
  | mk json ordered => simp only [ofJson, Json.sorted_of_ordered json ordered]

theorem parse_write {p : Payload} (integral : p.json.Integral) :
    Payload.parse p.write = if p.json.depth ≤ Reader.depthLimit then .ok p else .error .malformed := by
  unfold Payload.parse write
  rw [Json.parse_write integral]
  split
  · exact congrArg Except.ok p.ofJson_json
  · rfl

end Payload
end KernelLink
