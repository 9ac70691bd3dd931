import KernelLink.Connection.Info
import KernelLink.Proofs.Message.Header

namespace KernelLink

namespace Decoder

theorem port_read {n : Nat} (fits : n < 65536) {rest : Bytes} (stops : Reader.Stops rest) (room : Nat) :
    port.read room ((Json.ofNat n).write ++ rest) = .ok (n, rest) := by
  have bound : (n : Int) < (Nat.pow 2 64 : Nat) := Int.ofNat_lt.mpr (Nat.lt_trans fits (by decide))
  have atom := @Reader.atom_integer n (by omega) bound rest stops
  obtain ⟨b, tail, written, begins⟩ := Reader.exists_ofString_integer n
  have text : (Json.ofNat n).write = b :: tail := written
  rw [written, List.cons_append] at atom
  have visible : Reader.isBlank b = false := by
    rcases begins with rfl | digit
    · rfl
    · exact (Json.opens_digit digit).1
  have head : (decide (b = octet '-') || Reader.isDigit b) = true := by
    rcases begins with rfl | digit
    · rfl
    · rw [digit, Bool.or_true]
  have bounds : (0 : Int) ≤ n ∧ (n : Int) ≤ 65535 := by omega
  unfold port map integer scalar
  simp only [text, List.cons_append, Reader.skipBlank_cons visible, head, if_true, atom, bind, Except.bind,
    if_pos bounds, Int.toNat_natCast]

end Decoder

namespace ConnectionInfo

/-- What stands behind a member in a text that goes on with some more members and a tail. -/
def behind : List (String × Json) → Bytes → Bytes
  | [], tail => octet '\n' :: tail
  | member :: rest, tail => octet ',' :: octet '\n' :: (lines (member :: rest) ++ tail)

theorem lines_append (member : String × Json) (rest : List (String × Json)) (tail : Bytes) :
    lines (member :: rest) ++ tail = line member ++ behind rest tail := by
  cases rest <;> simp [lines, behind]

theorem line_append (key : String) (j : Json) (rest : Bytes) :
    line (key, j) ++ rest = octet ' ' :: octet ' ' :: octet '"' ::
      (key.toList.flatMap escapedChar ++ octet '"' :: octet ':' :: octet ' ' :: (j.write ++ rest)) := by
  have indent : Bytes.ofString "  " = [octet ' ', octet ' '] := rfl
  have colon : Bytes.ofString ": " = [octet ':', octet ' '] := rfl
  simp [line, indent, colon, quotedText]

theorem stops_behind (rest : List (String × Json)) (tail : Bytes) : Reader.Stops (behind rest tail) := by
  cases rest <;> (rw [behind]; rintro b ⟨⟩; decide)

variable {σ : Type} {r : Record σ} {key : String} {j : Json} {f : Field σ} {seen : List String} {s s' : σ}
  {room : Nat} {rest : List (String × Json)} {tail : Bytes}

theorem readObject_firstLine (found : r.fields.find? (·.name = key) = some f)
    (read : f.read s room (octet ' ' :: (j.write ++ behind rest tail)) = .ok (s', behind rest tail)) (fuel : Nat) :
    r.readObject room (fuel + 1) [] true s (octet '\n' :: (lines ((key, j) :: rest) ++ tail)) =
      r.readObject room fuel [key] false s' (behind rest tail) := by
  refine Record.readObject_member (Reader.nextKey_of_nextQuote key _ ?_) found rfl read fuel
  rw [lines_append, line_append]
  rfl

theorem readObject_nextLine (found : r.fields.find? (·.name = key) = some f) (new : seen.contains key = false)
    (read : f.read s room (octet ' ' :: (j.write ++ behind rest tail)) = .ok (s', behind rest tail)) (fuel : Nat) :
    r.readObject room (fuel + 1) seen false s (behind ((key, j) :: rest) tail) =
      r.readObject room fuel (key :: seen) false s' (behind rest tail) := by
  refine Record.readObject_member (Reader.nextKey_of_nextQuote key _ ?_) found new read fuel
  rw [behind, lines_append, line_append]
  rfl

theorem readObject_lastLine (complete : r.missing seen = none) (fuel : Nat) :
    r.readObject room (fuel + 1) seen false s (behind [] (octet '\x7d' :: tail)) = .ok (s, tail) := by
  have step : Reader.nextKey false (octet '\n' :: octet '\x7d' :: tail) = .ok (.done tail) := rfl
  rw [behind, Record.readObject, step]
  simp only [bind, Except.bind, complete]

theorem read_text {name : String} {presence : Presence} {put : σ → String → σ} (value : String) (rest : Bytes) :
    (Field.of name presence .text put).read s room (octet ' ' :: ((Json.text value).write ++ rest)) =
      .ok (put s value, rest) := by
  -- the blank before the value is skipped by evaluation
  have read : Decoder.text.read room (octet ' ' :: ((Json.text value).write ++ rest)) = .ok (value, rest) :=
    Decoder.text_read value rest room
  simp only [Field.of, read]
  rfl

theorem read_port {name : String} {presence : Presence} {put : σ → Nat → σ} {n : Nat} (fits : n < 65536)
    (rest : List (String × Json)) (tail : Bytes) :
    (Field.of name presence .port put).read s room (octet ' ' :: ((Json.ofNat n).write ++ behind rest tail)) =
      .ok (put s n, behind rest tail) := by
  have read : Decoder.port.read room (octet ' ' :: ((Json.ofNat n).write ++ behind rest tail)) =
      .ok (n, behind rest tail) :=
    Decoder.port_read fits (stops_behind rest tail) room
  simp only [Field.of, read]
  rfl

theorem length_le_lines (members : List (String × Json)) : members.length ≤ (lines members).length := by
  induction members with
  | nil => exact Nat.zero_le _
  | cons member rest ih =>
    cases rest with
    | nil => simp [lines]
    | cons next rest =>
      have split : (lines (member :: next :: rest)).length =
          (line member).length + ((lines (next :: rest)).length + 2) := by simp [lines]
      rw [split, List.length_cons]
      omega

/-- A connection that is written to a file is read back. -/
theorem parse_fileText (i : ConnectionInfo) (fit : ∀ port ∈ i.ports, port < 65536) :
    record.decoder.parse i.fileText = .ok i := by
  simp only [ports, List.forall_mem_cons, List.not_mem_nil, false_implies, implies_true, and_true] at fit
  obtain ⟨shell, iopub, stdin, hb, control⟩ := fit
  -- the reader needs a step for each of the ten members and one for the end
  have long : 11 ≤ (octet '\n' :: (lines i.members ++ [octet '\x7d'])).length + 1 := by
    have members := length_le_lines i.members
    have ten : i.members.length = 10 := rfl
    simp only [List.length_cons, List.length_append]
    omega
  obtain ⟨left, fuel⟩ := Nat.exists_eq_add_of_le' long
  unfold Decoder.parse fileText
  rw [List.cons_append, List.cons_append, Reader.depthLimit, Record.read_object, fuel, members]
  rw [readObject_firstLine rfl (read_port shell _ _), readObject_nextLine rfl rfl (read_port iopub _ _),
    readObject_nextLine rfl rfl (read_port stdin _ _), readObject_nextLine rfl rfl (read_port hb _ _),
    readObject_nextLine rfl rfl (read_port control _ _), readObject_nextLine rfl rfl (read_text _ _),
    readObject_nextLine rfl rfl (read_text _ _), readObject_nextLine rfl rfl (read_text _ _),
    readObject_nextLine rfl rfl (read_text _ _), readObject_nextLine rfl rfl (read_text _ _),
    readObject_lastLine rfl]
  rfl

end ConnectionInfo
end KernelLink
