import KernelLink.Proofs.Bytes
import KernelLink.Signer

namespace KernelLink

namespace Sha256

theorem absorb_append {blocks : Nat} {text : Bytes} (full : text.length = 64 * blocks) (more : Nat) (s : Words)
    (rest : Bytes) : absorb (blocks + more) s (text ++ rest) = absorb more (absorb blocks s text) rest := by
  induction blocks generalizing s text with
  | zero =>
    have none : text = [] := List.eq_nil_of_length_eq_zero full
    rw [none, Nat.zero_add, List.nil_append]
    rfl
  | succ blocks ih =>
    have enough : 64 ≤ text.length := by omega
    have left : (text.drop 64).length = 64 * blocks := by
      rw [List.length_drop]
      omega
    rw [Nat.succ_add, absorb, absorb, List.take_append_of_le_length enough, List.drop_append_of_le_length enough]
    exact ih left (compress s (text.take 64))

/-- Of a text that has come so far, the blocks have been taken into the words, and the rest is pending. -/
structure Running.Holds (r : Running) (text : Bytes) : Prop where
  length : r.length = text.length
  split : ∃ done blocks, text = done ++ r.pending ∧ done.length = 64 * blocks ∧
    r.words = absorb blocks initial done

namespace Running

variable {r : Running} {text : Bytes}

theorem holds_start : start.Holds [] := ⟨rfl, [], 0, rfl, rfl, rfl⟩

theorem Holds.update (holds : r.Holds text) (piece : Bytes) : (r.update piece).Holds (text ++ piece) := by
  obtain ⟨length, done, blocks, split, full, words⟩ := holds
  have total : (r.update piece).length = (text ++ piece).length := by
    rw [List.length_append, ← length]
    rfl
  generalize come : r.pending ++ piece = pending
  have taken : (pending.take (64 * (pending.length / 64))).length = 64 * (pending.length / 64) := by
    rw [List.length_take]
    omega
  have ahead := absorb_append taken 0 r.words (pending.drop (64 * (pending.length / 64)))
  rw [List.take_append_drop, Nat.add_zero] at ahead
  refine ⟨total, done ++ pending.take (64 * (pending.length / 64)), blocks + pending.length / 64, ?_, ?_, ?_⟩
  · rw [split, List.append_assoc, come, List.append_assoc, Running.update, come, List.take_append_drop]
  · rw [List.length_append, taken, full]
    omega
  · rw [absorb_append full, ← words, Running.update, come]
    exact ahead

theorem Holds.finish (holds : r.Holds text) : r.finish = digest text := by
  obtain ⟨length, done, blocks, split, full, words⟩ := holds
  have padded : pad text = done ++ (r.pending ++ filling r.length) := by
    rw [pad, length, ← List.append_assoc, ← split]
  have count : (pad text).length / 64 = blocks + (r.pending ++ filling r.length).length / 64 := by
    rw [padded, List.length_append, full]
    omega
  rw [digest, count, padded, absorb_append full, ← words]
  rfl

end Running
end Sha256

/-- Pieces of a text that are taken in one by one have the digest of the whole text. -/
theorem Hmac.Running.finish_foldl (key : Bytes) (pieces : List Bytes) :
    (pieces.foldl update (start key)).finish = digest key pieces.flatten := by
  have taken (r : Running) (text : Bytes) (inner : r.inner.Holds text) :
      (pieces.foldl update r).block = r.block ∧
        (pieces.foldl update r).inner.Holds (text ++ pieces.flatten) := by
    induction pieces generalizing r text with
    | nil =>
      rw [List.flatten_nil, List.append_nil]
      exact ⟨rfl, inner⟩
    | cons piece rest ih =>
      rw [List.foldl_cons, List.flatten_cons, ← List.append_assoc]
      exact ih (r.update piece) (text ++ piece) (inner.update piece)
  obtain ⟨block, inner⟩ := taken (start key) _ (Sha256.Running.holds_start.update _)
  rw [finish, block, inner.finish]
  rfl

namespace Bytes

/-- The letters A to F in lower case, and everything else as it is. -/
def lowerHex (d : UInt8) : UInt8 := if 65 ≤ d.toNat ∧ d.toNat ≤ 70 then d + 32 else d

theorem toNat_lowerHex (d : UInt8) :
    (lowerHex d).toNat = if 65 ≤ d.toNat ∧ d.toNat ≤ 70 then d.toNat + 32 else d.toNat := by
  unfold lowerHex
  split
  · have small : (32 : UInt8).toNat = 32 := rfl
    rw [UInt8.toNat_add, small]
    omega
  · rfl

theorem hexValue_lowerHex (d : UInt8) : hexValue (lowerHex d) = hexValue d := by
  unfold hexValue
  rw [toNat_lowerHex]
  by_cases upper : 65 ≤ d.toNat ∧ d.toNat ≤ 70
  · have letter : d.toNat + 32 - 87 = d.toNat - 55 := by omega
    rw [if_pos upper, if_pos upper, if_neg (by omega), if_pos (by omega), if_neg (by omega), if_neg (by omega),
      letter]
  · rw [if_neg upper]

/-- A digit of either case is the one that is written for its value, but for the case. -/
theorem lowerHex_eq_hexDigit {d : UInt8} {n : Nat} (value : hexValue d = some n) : lowerHex d = hexDigit n ∧ n < 16 := by
  unfold hexValue at value
  have same (m : Nat) (small : m < 256) (number : (lowerHex d).toNat = m) : lowerHex d = UInt8.ofNat m := by
    rw [← UInt8.toNat_inj, UInt8.toNat_ofNat', number]
    omega
  rw [toNat_lowerHex] at same
  unfold hexDigit
  split at value
  · cases value
    rw [if_pos (by omega)]
    exact ⟨same _ (by omega) (by rw [if_neg (by omega)]; omega), by omega⟩
  split at value
  · cases value
    rw [if_neg (by omega)]
    exact ⟨same _ (by omega) (by rw [if_neg (by omega)]; omega), by omega⟩
  split at value
  · cases value
    rw [if_neg (by omega)]
    exact ⟨same _ (by omega) (by rw [if_pos (by omega)]; omega), by omega⟩
  · cases value

theorem unhex?_map_lowerHex (digits : Bytes) : unhex? (digits.map lowerHex) = unhex? digits := by
  induction digits using unhex?.induct with
  | case1 => rfl
  | case2 d => rfl
  | case3 high low rest h l highValue lowValue ih =>
    rw [List.map_cons, List.map_cons, unhex?, unhex?, hexValue_lowerHex, hexValue_lowerHex, ih]
  | case4 high low rest other =>
    rw [List.map_cons, List.map_cons, unhex?, unhex?, hexValue_lowerHex, hexValue_lowerHex]
    cases highValue : hexValue high with
    | none => rfl
    | some h =>
      cases lowValue : hexValue low with
      | none => rfl
      | some l => exact absurd lowValue (other h l highValue)

theorem hex_of_unhex? {digits octets : Bytes} (read : unhex? digits = some octets) :
    digits.map lowerHex = octets.hex := by
  induction digits using unhex?.induct generalizing octets with
  | case1 =>
    cases read
    rfl
  | case2 d => cases read
  | case3 high low rest h l highValue lowValue ih =>
    rw [unhex?, highValue, lowValue] at read
    obtain ⟨later, readLater, rfl⟩ := Option.map_eq_some_iff.mp read
    obtain ⟨highDigit, highSmall⟩ := lowerHex_eq_hexDigit highValue
    obtain ⟨lowDigit, lowSmall⟩ := lowerHex_eq_hexDigit lowValue
    have octet : (UInt8.ofNat (16 * h + l)).toNat = 16 * h + l := by
      rw [UInt8.toNat_ofNat']
      omega
    have halves : (16 * h + l) / 16 = h ∧ (16 * h + l) % 16 = l := by omega
    rw [List.map_cons, List.map_cons, ih readLater, highDigit, lowDigit, hex, octet, halves.1, halves.2]
  | case4 high low rest other =>
    rw [unhex?] at read
    split at read
    · rename_i h l highValue lowValue
      exact absurd lowValue (other h l highValue)
    · cases read

/-- Hexadecimal digits of either case stand for octets exactly if they are the digits of these but for the case. -/
theorem unhex?_eq_some_iff {digits octets : Bytes} : unhex? digits = some octets ↔ digits.map lowerHex = octets.hex := by
  refine ⟨hex_of_unhex?, fun same => ?_⟩
  rw [← unhex?_map_lowerHex, same, unhex?_hex]

theorem length_hex (octets : Bytes) : octets.hex.length = 2 * octets.length := by
  induction octets with
  | nil => rfl
  | cons octet rest ih =>
    rw [hex, List.length_cons, List.length_cons, ih, List.length_cons]
    omega

theorem exists_of_mem_hex {octets : Bytes} {d : UInt8} (member : d ∈ octets.hex) : ∃ n < 16, d = hexDigit n := by
  induction octets with
  | nil => cases member
  | cons octet rest ih =>
    have bound := octet.toNat_lt
    rw [hex, List.mem_cons, List.mem_cons] at member
    rcases member with high | low | later
    · exact ⟨octet.toNat / 16, by omega, high⟩
    · exact ⟨octet.toNat % 16, by omega, low⟩
    · exact ih later

end Bytes

namespace Signer

theorem digest?_eq (s : Signer) (frames : List Bytes) :
    s.digest? frames = if s.signing then some (Hmac.digest s.key frames.flatten) else none := by
  rw [digest?, Hmac.Running.finish_foldl]

theorem sign_eq {s : Signer} (signing : s.signing = true) (frames : List Bytes) :
    s.sign frames = (Hmac.digest s.key frames.flatten).hex := by
  rw [sign, digest?_eq, if_pos signing]

theorem verify_iff {signer : Signer} (signing : signer.signing = true) {frames : List Bytes}
    {signature : Bytes} :
    signer.verify frames signature = true ↔
      Bytes.unhex? signature = some (Hmac.digest signer.key frames.flatten) := by
  rw [verify, digest?_eq, if_pos signing]
  cases Bytes.unhex? signature <;> simp

theorem unsigned {s : Signer} (unkeyed : s.key = []) (frames : List Bytes) (signature : Bytes) :
    s.sign frames = [] ∧ s.verify frames signature = true := by
  have idle : ¬s.signing = true := by simp [signing, unkeyed]
  rw [sign, verify, digest?_eq, if_neg idle]
  exact ⟨rfl, rfl⟩

theorem verify_sign (signer : Signer) (frames : List Bytes) :
    signer.verify frames (signer.sign frames) = true := by
  cases signing : signer.signing with
  | true => rw [verify_iff signing, sign_eq signing, Bytes.unhex?_hex]
  | false =>
    have unkeyed : signer.key = [] := by simpa [Signer.signing] using signing
    exact (unsigned unkeyed frames _).2

/-- Where the frames end makes no difference. -/
theorem congr_flatten (s : Signer) {frames frames' : List Bytes} (same : frames.flatten = frames'.flatten) :
    s.sign frames = s.sign frames' ∧ s.verify frames = s.verify frames' := by
  have digests : s.digest? frames = s.digest? frames' := by rw [digest?_eq, digest?_eq, same]
  refine ⟨by rw [sign, sign, digests], funext fun signature => ?_⟩
  rw [verify, verify, digests]

/-- With a key, a signature passes exactly if it is what is signed, but for the case of its letters: the sixty-four
hexadecimal digits of the keyed digest. Without a key nothing is signed, and anything passes. What is signed passes,
and only the key and the octets of all frames together decide. -/
theorem verify_exactly_sign (s : Signer) (frames : List Bytes) (signature : Bytes) :
    (s.key ≠ [] →
      (s.verify frames signature = true ↔ signature.map Bytes.lowerHex = s.sign frames) ∧
      s.sign frames = (Hmac.digest s.key frames.flatten).hex ∧ (s.sign frames).length = 64 ∧
      (s.verify frames signature = true →
        signature.length = 64 ∧ ∀ d ∈ signature, ∃ n, Bytes.hexValue d = some n)) ∧
    (s.key = [] → s.sign frames = [] ∧ s.verify frames signature = true) ∧
    s.verify frames (s.sign frames) = true ∧
    ∀ frames', frames'.flatten = frames.flatten →
      s.sign frames' = s.sign frames ∧ s.verify frames' signature = s.verify frames signature := by
  refine ⟨fun keyed => ?_, fun unkeyed => unsigned unkeyed frames signature, s.verify_sign frames,
    fun frames' same => ?_⟩
  · have signing : s.signing = true := decide_eq_true keyed
    have length : (s.sign frames).length = 64 := by
      rw [sign_eq signing, Bytes.length_hex, Hmac.length_digest]
    have exactly : s.verify frames signature = true ↔ signature.map Bytes.lowerHex = s.sign frames := by
      rw [verify_iff signing, Bytes.unhex?_eq_some_iff, sign_eq signing]
    refine ⟨exactly, sign_eq signing frames, length, fun verified => ?_⟩
    have same := exactly.mp verified
    refine ⟨by rw [← length, ← same, List.length_map], fun d member => ?_⟩
    have digit : Bytes.lowerHex d ∈ (Hmac.digest s.key frames.flatten).hex := by
      rw [← sign_eq signing, ← same]
      exact List.mem_map_of_mem member
    obtain ⟨n, small, written⟩ := Bytes.exists_of_mem_hex digit
    refine ⟨n, ?_⟩
    rw [← Bytes.hexValue_lowerHex, written, Bytes.hexValue_hexDigit small]
  · obtain ⟨signs, verifies⟩ := s.congr_flatten same
    exact ⟨signs, congrFun verifies signature⟩

theorem verify_exactly_sign_cut :
    let key : Signer := ⟨[7]⟩
    key.verify [[1, 2], [3]] (key.sign [[1], [2, 3]]) = true ∧
      key.verify [[1], [2, 3]] (key.sign [[1], [2, 3]]).dropLast = false := by
  intro key
  obtain ⟨keyed, -, passes, alike⟩ := key.verify_exactly_sign [[1], [2, 3]] (key.sign [[1], [2, 3]])
  obtain ⟨-, -, length, -⟩ := keyed (by decide)
  obtain ⟨keyed, -⟩ := key.verify_exactly_sign [[1], [2, 3]] (key.sign [[1], [2, 3]]).dropLast
  obtain ⟨-, -, -, whole⟩ := keyed (by decide)
  refine ⟨((alike [[1, 2], [3]] rfl).2).trans passes, Bool.eq_false_iff.mpr fun passed => ?_⟩
  have cut := (whole passed).1
  rw [List.length_dropLast, length] at cut
  cases cut

end Signer
end KernelLink
