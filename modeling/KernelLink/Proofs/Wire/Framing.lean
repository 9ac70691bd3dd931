import KernelLink.Proofs.Json.Extension
import KernelLink.Proofs.Signature
import KernelLink.Wire
import Mathlib.Data.List.TakeWhile

namespace KernelLink

/-- The four frames of a message can be read, whatever their signature. -/
structure Frames.Readable (f : Frames) : Prop where
  header : ∃ h, Header.decoder.parse f.header = .ok h
  parentHeader : ∃ parent, parseParent f.parentHeader = .ok parent
  metadata : ∃ p, Payload.parse f.metadata = .ok p
  content : ∃ p, Payload.parse f.content = .ok p

/-- The first delimiter among some frames is followed by hexadecimal digits of the keyed digest of the next
four frames, and these can be read. -/
def Authentic (signer : Signer) (parts : List Bytes) : Prop :=
  ∃ identities signature f buffers,
    parts = identities ++ delimiter :: signature :: (Frames.toList f ++ buffers) ∧ delimiter ∉ identities ∧
    Bytes.unhex? signature = some (Hmac.digest signer.key f.toList.flatten) ∧ f.Readable

theorem parsePayload_ok_iff {frame : Bytes} {p : Payload} :
    parsePayload frame = .ok p ↔ Payload.parse frame = .ok p := by
  unfold parsePayload
  cases Payload.parse frame <;> simp

namespace Frames

/-- The checks that a message passes on its way in. -/
structure Yields (f : Frames) (signer : Signer) (identities : List Bytes) (signature : Bytes) (m : Message) :
    Prop where
  header : Header.decoder.parse f.header = .ok m.header
  verified : signer.verify f.toList signature = true
  parentHeader : parseParent f.parentHeader = .ok m.parentHeader
  metadata : Payload.parse f.metadata = .ok m.metadata
  content : Payload.parse f.content = .ok m.content
  identities_eq : m.identities = identities
  signature_eq : m.signature = some signature

theorem decode_eq_ok_iff {f : Frames} {signer : Signer} {identities : List Bytes} {signature : Bytes}
    {m : Message} : f.decode signer identities signature = .ok m ↔
      f.Yields signer identities signature m := by
  constructor
  · intro decoded
    unfold decode at decoded
    simp only at decoded
    split at decoded
    · rename_i h header
      obtain ⟨_, ⟨⟩, decoded⟩ := bind_eq_ok_iff.mp decoded
      split at decoded
      · cases decoded
      · rename_i verified
        obtain ⟨parent, parentHeader, decoded⟩ := bind_eq_ok_iff.mp decoded
        obtain ⟨data, metadata, decoded⟩ := bind_eq_ok_iff.mp decoded
        obtain ⟨body, content, decoded⟩ := bind_eq_ok_iff.mp decoded
        cases decoded
        exact ⟨header, by simpa using verified, parentHeader, parsePayload_ok_iff.mp metadata,
          parsePayload_ok_iff.mp content, rfl, rfl⟩
    · cases decoded
  · rintro ⟨header, verified, parent, metadata, content, rfl, same⟩
    unfold decode
    rw [header, verified, parent, parsePayload_ok_iff.mpr metadata, parsePayload_ok_iff.mpr content]
    show Except.ok _ = Except.ok m
    rw [← same]

theorem exists_yields_iff {f : Frames} {signer : Signer} {identities : List Bytes} {signature : Bytes} :
    (∃ m, f.Yields signer identities signature m) ↔ signer.verify f.toList signature = true ∧ f.Readable := by
  constructor
  · rintro ⟨m, yields⟩
    exact ⟨yields.verified, ⟨_, yields.header⟩, ⟨_, yields.parentHeader⟩, ⟨_, yields.metadata⟩,
      ⟨_, yields.content⟩⟩
  · rintro ⟨verified, ⟨h, header⟩, ⟨parent, parentHeader⟩, ⟨data, metadata⟩, ⟨body, content⟩⟩
    exact ⟨⟨h, parent, data, body, identities, some signature⟩, header, verified, parentHeader, metadata,
      content, rfl, rfl⟩

end Frames

namespace Message

/-- What stands in front of the first delimiter are the identities, and four frames follow the signature. -/
theorem decode_framed (signer : Signer) {identities : List Bytes} (clear : delimiter ∉ identities)
    (signature : Bytes) (f : Frames) (buffers : List Bytes) :
    decode signer (identities ++ delimiter :: signature :: (f.toList ++ buffers)) =
      f.decode signer identities signature := by
  have others : ∀ frame ∈ identities, decide (frame ≠ delimiter) = true := fun frame member =>
    decide_eq_true fun same => clear (same ▸ member)
  unfold decode
  rw [List.takeWhile_append_of_pos others, List.dropWhile_append_of_pos others]
  simp [Frames.toList]

/-- Frames carry a message only if a delimiter is among them and at least five frames follow the first. -/
theorem framed_of_decode {signer : Signer} {parts : List Bytes} {m : Message}
    (decoded : decode signer parts = .ok m) :
    ∃ signature f buffers, parts = m.identities ++ delimiter :: signature :: (Frames.toList f ++ buffers) ∧
      delimiter ∉ m.identities ∧ f.Yields signer m.identities signature m := by
  unfold decode at decoded
  simp only at decoded
  split at decoded
  · cases decoded
  · rename_i first signature header parentHeader metadata content buffers rest
    have yields := Frames.decode_eq_ok_iff.mp decoded
    have split := List.takeWhile_append_dropWhile (p := (· ≠ delimiter)) (l := parts)
    have here : first = delimiter := by
      have stopped := List.head?_dropWhile_not (p := (· ≠ delimiter)) parts
      rw [rest] at stopped
      simpa using stopped
    rw [rest, here, ← yields.identities_eq] at split
    refine ⟨signature, ⟨header, parentHeader, metadata, content⟩, buffers, split.symm, ?_, ?_⟩
    · rw [yields.identities_eq]
      exact fun member => by simpa using List.mem_takeWhile_imp member
    · rwa [yields.identities_eq]
  · cases decoded

/-- A signer takes in a message only if it is authentic, and takes in every authentic one. -/
theorem exists_decode_iff_authentic {signer : Signer} (signing : signer.signing = true) {parts : List Bytes} :
    (∃ m, decode signer parts = .ok m) ↔ Authentic signer parts := by
  constructor
  · rintro ⟨m, decoded⟩
    obtain ⟨signature, f, buffers, split, clear, yields⟩ := framed_of_decode decoded
    obtain ⟨verified, readable⟩ := Frames.exists_yields_iff.mp ⟨m, yields⟩
    exact ⟨m.identities, signature, f, buffers, split, clear, (Signer.verify_iff signing).mp verified,
      readable⟩
  · rintro ⟨identities, signature, f, buffers, rfl, clear, signed, readable⟩
    obtain ⟨m, yields⟩ := Frames.exists_yields_iff.mpr ⟨(Signer.verify_iff signing).mpr signed, readable⟩
    exact ⟨m, (decode_framed signer clear signature f buffers).trans (Frames.decode_eq_ok_iff.mpr yields)⟩

theorem decode_of_not_authentic {signer : Signer} (keyed : signer.key ≠ []) {parts : List Bytes}
    (foreign : ¬Authentic signer parts) : ∃ failure, decode signer parts = .error failure := by
  cases decoded : decode signer parts with
  | error failure => exact ⟨failure, rfl⟩
  | ok m =>
    exact absurd ((exists_decode_iff_authentic (decide_eq_true keyed)).mp ⟨m, decoded⟩) foreign

end Message
end KernelLink
