import KernelLink.Proofs.Json.RecordExtension
import KernelLink.Proofs.Wire.Grammar

namespace KernelLink
namespace Reader

theorem value_skipBlank (fuel room : Nat) (bs : Bytes) : value fuel room (skipBlank bs) = value fuel room bs := by
  cases fuel with
  | zero => rfl
  | succ fuel => simp only [value, skipBlank_idem]

theorem finish_ok_iff {α : Type} {read : Except Fault (α × Bytes)} {a : α} :
    finish read = .ok a ↔ ∃ rest, read = .ok (a, rest) ∧ skipBlank rest = [] := by
  constructor
  · intro finished
    obtain ⟨⟨value, rest⟩, read, finished⟩ := bind_eq_ok_iff.mp finished
    simp only at finished
    split at finished
    · rename_i blank
      cases finished
      exact ⟨rest, read, blank⟩
    · cases finished
  · rintro ⟨rest, rfl, blank⟩
    simp only [finish, bind, Except.bind, if_pos blank]

/-- Before a value is read, its first octet shows whether it is a number. -/
theorem isNumber_iff_of_value {fuel room : Nat} {bs rest : Bytes} {j : Json}
    (read : value fuel room bs = .ok (j, rest)) :
    ∃ b tail, skipBlank bs = b :: tail ∧ (j.IsNumber ↔ Numeric b) := by
  cases fuel with
  | zero => cases read
  | succ fuel =>
    rw [value] at read
    cases skipped : skipBlank bs with
    | nil =>
      rw [skipped] at read
      cases read
    | cons b tail =>
      refine ⟨b, tail, rfl, ?_⟩
      rw [skipped] at read
      simp only at read
      split at read
      · rename_i bracket
        split at read
        · cases read
        obtain ⟨⟨js, after⟩, -, read⟩ := bind_eq_ok_iff.mp read
        cases read
        subst bracket
        simp [Json.IsNumber, Numeric, octet, isDigit]
      split at read
      · rename_i brace
        split at read
        · cases read
        obtain ⟨⟨ms, after⟩, -, read⟩ := bind_eq_ok_iff.mp read
        cases read
        subst brace
        simp [Json.IsNumber, Numeric, octet, isDigit]
      · exact isNumber_iff_of_atom read

end Reader

/-- The frame is a number, bare of any array or object. -/
def NumberFrame (frame : Bytes) : Prop := ∃ n, Json.parse frame = .ok (.number n)

namespace Json

variable {frame frame' more more' : Bytes} {j j' : Json}

/-- Two frames that are numbers, or neither is: they begin in the same way. -/
theorem isNumber_iff_of_same (parsed : parse frame = .ok j) (parsed' : parse frame' = .ok j')
    (same : Reader.skipBlank (frame ++ more) = Reader.skipBlank (frame' ++ more')) :
    j.IsNumber ↔ j'.IsNumber := by
  obtain ⟨rest, read, -⟩ := Reader.finish_ok_iff.mp parsed
  obtain ⟨rest', read', -⟩ := Reader.finish_ok_iff.mp parsed'
  obtain ⟨b, tail, first, shows⟩ := Reader.isNumber_iff_of_value read
  obtain ⟨b', tail', first', shows'⟩ := Reader.isNumber_iff_of_value read'
  rw [Reader.skipBlank_append first, Reader.skipBlank_append first'] at same
  cases (List.cons.inj same).1
  exact shows.trans shows'.symm

/-- Of two texts that are the same but for the blanks in front, two frames at the head are the same value, and
what stands behind them is the same again. -/
theorem parse_eq_of_same (parsed : parse frame = .ok j) (parsed' : parse frame' = .ok j')
    (same : Reader.skipBlank (frame ++ more) = Reader.skipBlank (frame' ++ more'))
    (last : j.IsNumber → more = []) (last' : j'.IsNumber → more' = []) :
    j = j' ∧ Reader.skipBlank more = Reader.skipBlank more' := by
  obtain ⟨rest, read, blank⟩ := Reader.finish_ok_iff.mp parsed
  obtain ⟨rest', read', blank'⟩ := Reader.finish_ok_iff.mp parsed'
  have whole := Reader.value_append _ (Nat.le_max_left _ (Reader.fuelFor frame')) read _ fun number _ => last number
  have whole' := Reader.value_append _ (Nat.le_max_right (Reader.fuelFor frame) _) read' _ fun number _ => last' number
  rw [← Reader.value_skipBlank, same, Reader.value_skipBlank, whole'] at whole
  obtain ⟨value, behind⟩ := Prod.mk.inj (Except.ok.inj whole)
  refine ⟨value.symm, ?_⟩
  rw [← Reader.skipBlank_append_of_blank blank, ← behind, Reader.skipBlank_append_of_blank blank']

end Json

namespace Record

variable {σ : Type} {r : Record σ}

/-- The same for records, of which no number is read. -/
theorem parse_eq_of_same (closed : ∀ f ∈ r.fields, f.Closed) {frame frame' more more' : Bytes} {s s' : σ}
    (parsed : r.decoder.parse frame = .ok s) (parsed' : r.decoder.parse frame' = .ok s')
    (same : frame ++ more = frame' ++ more') :
    s = s' ∧ Reader.skipBlank more = Reader.skipBlank more' := by
  obtain ⟨rest, read, blank⟩ := Reader.finish_ok_iff.mp parsed
  obtain ⟨rest', read', blank'⟩ := Reader.finish_ok_iff.mp parsed'
  have whole := decoder_append closed read more
  rw [same, decoder_append closed read' more'] at whole
  obtain ⟨record, behind⟩ := Prod.mk.inj (Except.ok.inj whole)
  refine ⟨record.symm, ?_⟩
  rw [← Reader.skipBlank_append_of_blank blank, ← behind, Reader.skipBlank_append_of_blank blank']

end Record

theorem Header.closed : ∀ f ∈ Header.record.fields, f.Closed := by
  intro f member
  simp only [Header.record, List.mem_cons, List.not_mem_nil, or_false] at member
  rcases member with rfl | rfl | rfl | rfl | rfl | rfl <;> exact Field.closed_text ..

theorem Payload.parse_ok_iff {frame : Bytes} {p : Payload} :
    Payload.parse frame = .ok p ↔ ∃ j, Json.parse frame = .ok j ∧ ofJson j = p := by
  unfold Payload.parse
  rw [bind_eq_ok_iff]
  simp

theorem Payload.parse_congr {frame frame' : Bytes} (same : Json.parse frame = Json.parse frame') :
    Payload.parse frame = Payload.parse frame' := by
  rw [Payload.parse, Payload.parse, same]

/-- Null, an empty object and a header are no numbers. -/
theorem exists_parse_of_parseParent {frame : Bytes} {parent : Option Header}
    (read : parseParent frame = .ok parent) : ∃ j, Json.parse frame = .ok j ∧ ¬j.IsNumber := by
  unfold parseParent at read
  cases text : Payload.parse frame with
  | error fault =>
    rw [text] at read
    cases read
  | ok p =>
    obtain ⟨j, parsed, rfl⟩ := Payload.parse_ok_iff.mp text
    refine ⟨j, parsed, ?_⟩
    rintro ⟨n, rfl⟩
    rw [text] at read
    cases read

theorem parseParent_congr {frame frame' : Bytes} (same : Json.parse frame = Json.parse frame') :
    parseParent frame = parseParent frame' := by
  rw [parseParent, parseParent, Payload.parse_congr same]

namespace Message

/-- What the keyed digest covers is one text, however it falls apart into frames. Whatever is signed for one
message is signed for every other that is read from the same text, and the two are the same message unless the
metadata of both is a number. -/
theorem decode_eq_of_flatten_eq (signer : Signer)
    {parts parts' identities identities' buffers buffers' : List Bytes} {signature signature' : Bytes}
    {f f' : Frames} {m m' : Message} (framed : Framed parts identities signature f buffers)
    (framed' : Framed parts' identities' signature' f' buffers')
    (same : f.toList.flatten = f'.toList.flatten)
    (decoded : decode signer parts = .ok m) (decoded' : decode signer parts' = .ok m') :
    (∀ claimed, signer.verify f.toList claimed = signer.verify f'.toList claimed) ∧
    (¬NumberFrame f.metadata ∨ ¬NumberFrame f'.metadata →
      m.header = m'.header ∧ m.parentHeader = m'.parentHeader ∧ m.metadata = m'.metadata ∧
        m.content = m'.content) := by
  refine ⟨fun claimed => by rw [(signer.congr_flatten same).2], fun apart => ?_⟩
  rw [decode_of_framed framed] at decoded
  rw [decode_of_framed framed'] at decoded'
  have yields := Frames.decode_eq_ok_iff.mp decoded
  have yields' := Frames.decode_eq_ok_iff.mp decoded'
  simp only [Frames.toList, List.flatten_cons, List.flatten_nil] at same
  -- one frame after the other, what is left of the two texts differs in blanks only
  obtain ⟨header, afterHeader⟩ := Record.parse_eq_of_same Header.closed yields.header yields'.header same
  obtain ⟨parent, parsedParent, noNumber⟩ := exists_parse_of_parseParent yields.parentHeader
  obtain ⟨parent', parsedParent', noNumber'⟩ := exists_parse_of_parseParent yields'.parentHeader
  obtain ⟨rfl, afterParent⟩ := Json.parse_eq_of_same parsedParent parsedParent' afterHeader
    (absurd · noNumber) (absurd · noNumber')
  have parents := parseParent_congr (parsedParent.trans parsedParent'.symm)
  rw [yields.parentHeader, yields'.parentHeader] at parents
  obtain ⟨data, parsedData, metadata⟩ := Payload.parse_ok_iff.mp yields.metadata
  obtain ⟨data', parsedData', metadata'⟩ := Payload.parse_ok_iff.mp yields'.metadata
  have alike := Json.isNumber_iff_of_same parsedData parsedData' afterParent
  have noData : ¬data.IsNumber := by
    rintro ⟨n, rfl⟩
    obtain ⟨n', rfl⟩ := alike.mp ⟨n, rfl⟩
    exact apart.elim (· ⟨n, parsedData⟩) (· ⟨n', parsedData'⟩)
  obtain ⟨rfl, afterData⟩ := Json.parse_eq_of_same parsedData parsedData' afterParent
    (absurd · noData) (absurd · (mt alike.mpr noData))
  obtain ⟨body, parsedBody, content⟩ := Payload.parse_ok_iff.mp yields.content
  obtain ⟨body', parsedBody', content'⟩ := Payload.parse_ok_iff.mp yields'.content
  obtain ⟨rfl, -⟩ := Json.parse_eq_of_same parsedBody parsedBody' afterData (fun _ => rfl) (fun _ => rfl)
  exact ⟨header, Except.ok.inj parents, metadata.symm.trans metadata', content.symm.trans content'⟩

/-- The frames of a status message, with a blank behind the parent. -/
def looseFrames : Frames where
  header := Bytes.ofString "[\"s\",\"\",\"\",\"status\",\"\",\"\"]"
  parentHeader := Bytes.ofString "null "
  metadata := Bytes.ofString "[1]"
  content := Bytes.ofString "23"

/-- The same frames, with the blank in front of the metadata. -/
def shiftedFrames : Frames :=
  { looseFrames with parentHeader := Bytes.ofString "null", metadata := Bytes.ofString " [1]" }

theorem decode_shiftedFrames : ∃ m m',
    decode ⟨[7]⟩ (delimiter :: Signer.sign ⟨[7]⟩ looseFrames.toList :: looseFrames.toList) = .ok m ∧
    decode ⟨[7]⟩ (delimiter :: Signer.sign ⟨[7]⟩ looseFrames.toList :: shiftedFrames.toList) = .ok m' ∧
    m.header = m'.header ∧ m.parentHeader = m'.parentHeader ∧ m.metadata = m'.metadata ∧
    m.content = m'.content := by
  let signature := Signer.sign ⟨[7]⟩ looseFrames.toList
  let m : Message := ⟨⟨"s", "", "", "status", "", ""⟩, none, .ofJson (.array [.number (.integer 1)]),
    .ofJson (.number (.integer 23)), [], some signature⟩
  have framed (f : Frames) : Framed (delimiter :: signature :: f.toList) [] signature f [] :=
    ⟨by rw [List.append_nil, List.nil_append], List.not_mem_nil⟩
  have same : looseFrames.toList.flatten = shiftedFrames.toList.flatten := rfl
  have verified : Signer.verify ⟨[7]⟩ looseFrames.toList signature = true := Signer.verify_sign _ _
  have verified' : Signer.verify ⟨[7]⟩ shiftedFrames.toList signature = true := by
    rwa [← (Signer.congr_flatten ⟨[7]⟩ same).2]
  have decoded : decode ⟨[7]⟩ (delimiter :: signature :: looseFrames.toList) = .ok m :=
    (decode_of_framed (framed looseFrames)).trans
      (Frames.decode_eq_ok_iff.mpr ⟨rfl, verified, rfl, rfl, rfl, rfl, rfl⟩)
  have decoded' : decode ⟨[7]⟩ (delimiter :: signature :: shiftedFrames.toList) = .ok m :=
    (decode_of_framed (framed shiftedFrames)).trans
      (Frames.decode_eq_ok_iff.mpr ⟨rfl, verified', rfl, rfl, rfl, rfl, rfl⟩)
  have array : ¬NumberFrame looseFrames.metadata := by
    rintro ⟨n, parsed⟩
    have other : Json.parse looseFrames.metadata = .ok (.array [.number (.integer 1)]) := rfl
    cases other.symm.trans parsed
  exact ⟨m, m, decoded, decoded', (decode_eq_of_flatten_eq ⟨[7]⟩ (framed looseFrames) (framed shiftedFrames)
    same decoded decoded').2 (Or.inl array)⟩

/-- Between two numbers nothing shows where the metadata ends. -/
example :
    let header := Bytes.ofString "[\"\",\"\",\"\",\"\",\"\",\"\"]"
    let metadata (frames : List Bytes) := (decode ⟨[]⟩ (delimiter :: [] :: frames)).toOption.map (·.metadata.json)
    metadata [header, emptyObject, [49], [50, 51]] = some (.number (.integer 1)) ∧
      metadata [header, emptyObject, [49, 50], [51]] = some (.number (.integer 12)) := ⟨rfl, rfl⟩

end Message
end KernelLink
