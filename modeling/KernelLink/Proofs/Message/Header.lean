import KernelLink.Message.Basic
import KernelLink.Proofs.Json.WriteRead

namespace KernelLink

theorem Decoder.text_read (s : String) (rest : Bytes) (room : Nat) :
    Decoder.text.read room (quotedText s ++ rest) = .ok (s, rest) := by
  have read := Reader.atom_text s rest
  rw [Reader.quotedText_append] at read ⊢
  unfold text scalar
  simp only [Reader.skipBlank_cons (show Reader.isBlank (octet '"') = false from rfl), decide_true,
    if_true, read]
  rfl

namespace Record

variable {σ : Type}

/-- One member of a record that is an object, of a key that has not been seen. -/
theorem readObject_member {r : Record σ} {first : Bool} {bs rest after : Bytes} {key : String} {f : Field σ}
    {seen : List String} {s s' : σ} {room : Nat}
    (step : Reader.nextKey first bs = .ok (.more key (octet ':' :: rest)))
    (found : r.fields.find? (·.name = key) = some f) (new : seen.contains key = false)
    (read : f.read s room rest = .ok (s', after)) (fuel : Nat) :
    r.readObject room (fuel + 1) seen first s bs = r.readObject room fuel (key :: seen) false s' after := by
  have colon : Reader.colon (octet ':' :: rest) = .ok rest := rfl
  rw [readObject, step]
  simp only [bind, Except.bind, found, new, colon, read]
  rfl

/-- The end of a record that is an object, once every field that has to be there has been seen. -/
theorem readObject_end {r : Record σ} {seen : List String} (complete : r.missing seen = none)
    (room fuel : Nat) (s : σ) (rest : Bytes) :
    r.readObject room (fuel + 1) seen false s (octet '\x7d' :: rest) = .ok (s, rest) := by
  have step : Reader.nextKey false (octet '\x7d' :: rest) = .ok (.done rest) := rfl
  rw [readObject, step]
  simp only [bind, Except.bind, complete]

theorem read_object (r : Record σ) (room : Nat) (rest : Bytes) :
    r.decoder.read (room + 1) (octet '\x7b' :: rest) =
      r.readObject room (rest.length + 1) [] true r.blank rest := by
  unfold decoder
  simp only [Reader.skipBlank_cons (show Reader.isBlank (octet '\x7b') = false from rfl)]
  rfl

end Record

namespace Header

theorem read_text {name : String} {presence : Presence} {put : Header → String → Header} (h : Header)
    (s : String) (room : Nat) (rest : Bytes) :
    (Field.of name presence .text put).read h room (quotedText s ++ rest) = .ok (put h s, rest) := by
  simp only [Field.of, Decoder.text_read, bind, Except.bind]

/-- A header that is written is read back. -/
theorem parse_write (h : Header) : decoder.parse h.toJson.write = .ok h := by
  have body : h.toJson.write = octet '\x7b' :: (h.toJson.write.drop 1) := by
    rw [toJson, Json.write]
    rfl
  have text : h.toJson.write.drop 1 =
      quotedText "msg_id" ++ octet ':' :: (quotedText h.msgId ++ octet ',' :: (quotedText "username" ++
        octet ':' :: (quotedText h.username ++ octet ',' :: (quotedText "session" ++
        octet ':' :: (quotedText h.session ++ octet ',' :: (quotedText "msg_type" ++
        octet ':' :: (quotedText h.msgType ++ octet ',' :: (quotedText "version" ++
        octet ':' :: (quotedText h.version ++ octet ',' :: (quotedText "date" ++
        octet ':' :: (quotedText h.date ++ [octet '\x7d']))))))))))) := by
    simp only [toJson, Json.write, Json.writeMembers, List.cons_append, List.append_assoc,
      List.drop_succ_cons, List.drop_zero]
  have long : 7 ≤ (h.toJson.write.drop 1).length + 1 := by
    rw [text]
    simp only [List.length_append, List.length_cons]
    omega
  obtain ⟨left, fuel⟩ := Nat.exists_eq_add_of_le' long
  unfold Decoder.parse
  rw [body, decoder, Reader.depthLimit, Record.read_object, fuel, text]
  rw [Record.readObject_member (Reader.nextKey_first "msg_id" _) rfl rfl (read_text _ _ _ _),
    Record.readObject_member (Reader.nextKey_comma "username" _) rfl rfl (read_text _ _ _ _),
    Record.readObject_member (Reader.nextKey_comma "session" _) rfl rfl (read_text _ _ _ _),
    Record.readObject_member (Reader.nextKey_comma "msg_type" _) rfl rfl (read_text _ _ _ _),
    Record.readObject_member (Reader.nextKey_comma "version" _) rfl rfl (read_text _ _ _ _),
    Record.readObject_member (Reader.nextKey_comma "date" _) rfl rfl (read_text _ _ _ _),
    Record.readObject_end rfl]
  rfl

theorem toJson_integral (h : Header) : h.toJson.Integral := by
  simp [toJson, Json.Integral, Json.IntegralMembers]

/-- The members of a header in the order of their keys. -/
theorem sorted_toJson (h : Header) : h.toJson.sorted =
    .object [("date", .text h.date), ("msg_id", .text h.msgId), ("msg_type", .text h.msgType),
      ("session", .text h.session), ("username", .text h.username), ("version", .text h.version)] := rfl

/-- The order of the members does not matter to who takes a header from JSON. -/
theorem take_sorted (h : Header) : decoder.take h.toJson.sorted = .ok h := by
  rw [sorted_toJson]
  rfl

end Header
end KernelLink
