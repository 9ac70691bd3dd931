import KernelLink.Proofs.Message.Header
import KernelLink.Proofs.Wire.Framing

namespace KernelLink

namespace Payload

/-- The value that stands on the wire: there is no null. -/
def orEmpty (p : Payload) : Payload :=
  match p.json with
  | .null => .empty
  | _ => p

theorem orEmpty_of_null {p : Payload} (null : p.json = .null) : p.orEmpty = .empty := by
  simp only [orEmpty, null]

theorem orEmpty_of_ne_null {p : Payload} (value : p.json ≠ .null) : p.orEmpty = p := by
  unfold orEmpty
  split
  · rename_i null
    exact absurd null value
  · rfl

theorem orEmpty_eq_iff {p : Payload} : p.orEmpty = p ↔ p.json ≠ .null := by
  refine ⟨fun same null => ?_, orEmpty_of_ne_null⟩
  rw [orEmpty_of_null null] at same
  rw [← same] at null
  cases null

theorem frame_eq (p : Payload) : p.frame = p.orEmpty.write := by
  by_cases null : p.json = .null
  · rw [orEmpty_of_null null, frame, null]
    rfl
  · rw [orEmpty_of_ne_null null, frame]
    split
    · rename_i same
      exact absurd same null
    · rfl

/-- A payload that is written on the wire is read back, if it does not nest too deep. -/
theorem parse_frame {p : Payload} (integral : p.json.Integral) :
    Payload.parse p.frame = if p.json.depth ≤ Reader.depthLimit then .ok p.orEmpty else .error .malformed := by
  rw [frame_eq]
  by_cases null : p.json = .null
  · rw [orEmpty_of_null null, null]
    rfl
  · rw [orEmpty_of_ne_null null, parse_write integral]

end Payload

namespace Message

theorem parseParent_frame (m : Message) : parseParent m.frames.parentHeader = .ok m.parentHeader := by
  unfold parseParent frames
  cases m.parentHeader with
  | none => rfl
  | some h =>
    have read : Payload.parse h.toJson.write = .ok (.ofJson h.toJson) := by
      unfold Payload.parse
      rw [Json.parse_write h.toJson_integral]
      rfl
    have taken := h.take_sorted
    rw [Header.sorted_toJson] at taken
    simp only [read, Payload.ofJson, Header.sorted_toJson, taken]

/-- What the frames of a message yield. -/
theorem yields_frames_iff {m back : Message} {signer : Signer} (metadata : m.metadata.json.Integral)
    (content : m.content.json.Integral) :
    m.frames.Yields signer m.identities (signer.sign m.frames.toList) back ↔
      m.metadata.json.depth ≤ 127 ∧ m.content.json.depth ≤ 127 ∧
        back = { m with
          metadata := m.metadata.orEmpty
          content := m.content.orEmpty
          signature := some (signer.sign m.frames.toList) } := by
  have header := m.header.parse_write
  have data := Payload.parse_frame metadata
  have body := Payload.parse_frame content
  constructor
  · intro yields
    have readData := data.symm.trans yields.metadata
    have readBody := body.symm.trans yields.content
    split at readData
    · rename_i shallow
      split at readBody
      · rename_i flat
        refine ⟨shallow, flat, ?_⟩
        cases back
        obtain ⟨readHeader, -, readParent, -, -, identities_eq, signature_eq⟩ := yields
        cases Except.ok.inj (header.symm.trans readHeader)
        cases Except.ok.inj (m.parseParent_frame.symm.trans readParent)
        cases Except.ok.inj readData
        cases Except.ok.inj readBody
        cases identities_eq
        cases signature_eq
        rfl
      · cases readBody
    · cases readData
  · rintro ⟨shallow, flat, rfl⟩
    exact ⟨header, signer.verify_sign _, m.parseParent_frame, data.trans (if_pos shallow),
      body.trans (if_pos flat), rfl, rfl⟩

/-- A message is read back whatever route it has taken. -/
theorem decode_routed (m : Message) (signer : Signer) {route : List Bytes} (clear : delimiter ∉ route)
    (metadata : m.metadata.json.Integral) (content : m.content.json.Integral)
    (shallow : m.metadata.json.depth ≤ 127) (flat : m.content.json.depth ≤ 127) :
    decode signer (route ++ delimiter :: signer.sign m.frames.toList :: m.frames.toList) = .ok { m with
      metadata := m.metadata.orEmpty
      content := m.content.orEmpty
      identities := route
      signature := some (signer.sign m.frames.toList) } := by
  have decoded := decode_framed signer clear (signer.sign m.frames.toList) m.frames []
  rw [List.append_nil] at decoded
  refine decoded.trans (Frames.decode_eq_ok_iff.mpr ?_)
  exact (@yields_frames_iff { m with identities := route } _ signer metadata content).mpr ⟨shallow, flat, rfl⟩

/-- A message is read back as it was sent if none of its identities is the delimiter, neither its metadata
nor its content is null, and both nest 127 arrays and objects at most; and only then. If there is a null,
the message is read back all the same, with an empty object for it. -/
theorem decode_encode (m : Message) (signer : Signer) (metadata : m.metadata.json.Integral)
    (content : m.content.json.Integral) :
    ((∃ back, decode signer (m.encode signer) = .ok back ∧ back.header = m.header ∧
        back.parentHeader = m.parentHeader ∧ back.metadata = m.metadata ∧ back.content = m.content ∧
        back.identities = m.identities) ↔
      delimiter ∉ m.identities ∧ m.metadata.json ≠ .null ∧ m.content.json ≠ .null ∧
        m.metadata.json.depth ≤ 127 ∧ m.content.json.depth ≤ 127) ∧
    (delimiter ∉ m.identities → m.metadata.json.depth ≤ 127 → m.content.json.depth ≤ 127 →
      decode signer (m.encode signer) = .ok { m with
        metadata := m.metadata.orEmpty
        content := m.content.orEmpty
        signature := some (signer.sign m.frames.toList) }) := by
  have framed (clear : delimiter ∉ m.identities) :
      decode signer (m.encode signer) = m.frames.decode signer m.identities
        (signer.sign m.frames.toList) := by
    have decoded := decode_framed signer clear (signer.sign m.frames.toList) m.frames []
    rwa [List.append_nil] at decoded
  have readBack (clear : delimiter ∉ m.identities) (shallow : m.metadata.json.depth ≤ 127)
      (flat : m.content.json.depth ≤ 127) : decode signer (m.encode signer) = .ok { m with
        metadata := m.metadata.orEmpty
        content := m.content.orEmpty
        signature := some (signer.sign m.frames.toList) } :=
    (framed clear).trans
      (Frames.decode_eq_ok_iff.mpr ((yields_frames_iff metadata content).mpr ⟨shallow, flat, rfl⟩))
  refine ⟨⟨?_, ?_⟩, readBack⟩
  · rintro ⟨back, decoded, -, -, sameMetadata, sameContent, sameIdentities⟩
    -- the identities that are read are those before the first delimiter
    have clear : delimiter ∉ m.identities := by
      obtain ⟨_, _, _, _, clear, _⟩ := framed_of_decode decoded
      rwa [sameIdentities] at clear
    obtain ⟨shallow, flat, rfl⟩ := (yields_frames_iff metadata content).mp
      (Frames.decode_eq_ok_iff.mp ((framed clear).symm.trans decoded))
    exact ⟨clear, Payload.orEmpty_eq_iff.mp sameMetadata, Payload.orEmpty_eq_iff.mp sameContent, shallow,
      flat⟩
  · rintro ⟨clear, someMetadata, someContent, shallow, flat⟩
    exact ⟨_, readBack clear shallow flat, rfl, rfl, Payload.orEmpty_of_ne_null someMetadata,
      Payload.orEmpty_of_ne_null someContent, rfl⟩

/-- A reply with a parent, an identity and the result of an execution. -/
def sampleReply : Message where
  header := ⟨"reply", "kernel", "session", "execute_reply", "5.3", "2024-01-01T00:00:00Z"⟩
  parentHeader := some ⟨"request", "user", "session", "execute_request", "5.3", ""⟩
  metadata := .empty
  content := .ofJson (.object [("status", .text "ok"), ("execution_count", .number (.integer 1))])
  identities := [Bytes.ofString "client"]
  signature := none

theorem decode_encode_sampleReply : ∃ back, decode ⟨[7]⟩ (sampleReply.encode ⟨[7]⟩) = .ok back ∧
    back.header = sampleReply.header ∧ back.parentHeader = sampleReply.parentHeader ∧
    back.metadata = sampleReply.metadata ∧ back.content = sampleReply.content ∧
    back.identities = sampleReply.identities := by
  have content : sampleReply.content.json =
      .object [("execution_count", .number (.integer 1)), ("status", .text "ok")] := rfl
  have integral : sampleReply.content.json.Integral := by
    simp [content, Json.Integral, Json.IntegralMembers]
  have flat : sampleReply.content.json.depth = 1 := by simp [content, Json.depth, Json.depthMembers]
  refine (sampleReply.decode_encode ⟨[7]⟩ trivial integral).1.mpr
    ⟨by decide, Json.noConfusion, content ▸ Json.noConfusion, by decide, by omega⟩

end Message
end KernelLink
