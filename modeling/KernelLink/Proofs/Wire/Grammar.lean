import KernelLink.Proofs.Wire.RoundTrip

namespace KernelLink

/-- Five frames at least follow the first delimiter. The identities stand in front of it, the signature and
the four frames of a message behind it, and the frames that are left over are buffers. -/
structure Framed (parts identities : List Bytes) (signature : Bytes) (f : Frames) (buffers : List Bytes) :
    Prop where
  split : parts = identities ++ delimiter :: signature :: (f.toList ++ buffers)
  clear : delimiter ∉ identities

/-- What a parent frame says: there is no parent, or this is its header. -/
inductive ParentFrame (frame : Bytes) : Option Header → Prop
  | null {p : Payload} : Payload.parse frame = .ok p → p.json = .null → ParentFrame frame none
  | empty {p : Payload} : Payload.parse frame = .ok p → p.json = .object [] → ParentFrame frame none
  | header {p : Payload} {h : Header} : Payload.parse frame = .ok p → Header.decoder.take p.json = .ok h →
      ParentFrame frame (some h)

/-- The messages that frames carry. -/
inductive Carried (signer : Signer) (parts : List Bytes) : Message → Prop
  | message {identities signature f buffers header parent metadata content} :
      Framed parts identities signature f buffers → Header.decoder.parse f.header = .ok header →
      signer.verify f.toList signature = true → ParentFrame f.parentHeader parent →
      Payload.parse f.metadata = .ok metadata → Payload.parse f.content = .ok content →
      Carried signer parts ⟨header, parent, metadata, content, identities, some signature⟩

/-- The first thing that is wrong with frames that carry no message: whatever is looked at before is as it
should be. -/
inductive FirstFault (signer : Signer) (parts : List Bytes) : Failure → Prop
  | noDelimiter : delimiter ∉ parts → FirstFault signer parts (.protocol .noDelimiter)
  | tooFewFrames {identities body} : parts = identities ++ delimiter :: body → delimiter ∉ identities →
      body.length < 5 → FirstFault signer parts (.protocol (.tooFewFrames body.length))
  | header {identities signature f buffers fault} : Framed parts identities signature f buffers →
      Header.decoder.parse f.header = .error fault →
      FirstFault signer parts (.protocol (.header fault))
  | signature {identities signature f buffers header} : Framed parts identities signature f buffers →
      Header.decoder.parse f.header = .ok header → signer.verify f.toList signature = false →
      FirstFault signer parts (.signature header.msgType)
  | parentText {identities signature f buffers header fault} : Framed parts identities signature f buffers →
      Header.decoder.parse f.header = .ok header → signer.verify f.toList signature = true →
      Payload.parse f.parentHeader = .error fault → FirstFault signer parts (.json fault)
  | parentShape {identities signature f buffers header p fault} :
      Framed parts identities signature f buffers →
      Header.decoder.parse f.header = .ok header → signer.verify f.toList signature = true →
      Payload.parse f.parentHeader = .ok p → p.json ≠ .null → p.json ≠ .object [] →
      Header.decoder.take p.json = .error fault →
      FirstFault signer parts (.protocol (.parentHeader fault))
  | metadata {identities signature f buffers header parent fault} :
      Framed parts identities signature f buffers →
      Header.decoder.parse f.header = .ok header → signer.verify f.toList signature = true →
      ParentFrame f.parentHeader parent → Payload.parse f.metadata = .error fault →
      FirstFault signer parts (.json fault)
  | content {identities signature f buffers header parent metadata fault} :
      Framed parts identities signature f buffers →
      Header.decoder.parse f.header = .ok header → signer.verify f.toList signature = true →
      ParentFrame f.parentHeader parent → Payload.parse f.metadata = .ok metadata →
      Payload.parse f.content = .error fault → FirstFault signer parts (.json fault)

/-- Neither null nor the empty object is a header. -/
theorem Header.ne_of_take {j : Json} {h : Header} (taken : Header.decoder.take j = .ok h) :
    j ≠ .null ∧ j ≠ .object [] := by
  constructor <;> (rintro rfl; cases taken)

theorem ParentFrame.parseParent_eq {frame : Bytes} {parent : Option Header} (reading : ParentFrame frame parent) :
    parseParent frame = .ok parent := by
  cases reading with
  | null parsed null => simp only [parseParent, parsed, null]
  | empty parsed empty => simp only [parseParent, parsed, empty]
  | header parsed taken =>
    obtain ⟨notNull, notEmpty⟩ := Header.ne_of_take taken
    simp only [parseParent, parsed, taken]

theorem parseParent_of_shape {frame : Bytes} {p : Payload} {fault : Fault}
    (parsed : Payload.parse frame = .ok p) (notNull : p.json ≠ .null) (notEmpty : p.json ≠ .object [])
    (faulty : Header.decoder.take p.json = .error fault) :
    parseParent frame = .error (.protocol (.parentHeader fault)) := by
  simp only [parseParent, parsed, faulty]

/-- JSON that is no parent frame is neither null nor an empty object, and no header can be taken from it. -/
theorem shape_or_parentFrame {frame : Bytes} {p : Payload} (parsed : Payload.parse frame = .ok p) :
    (p.json ≠ .null ∧ p.json ≠ .object [] ∧ ∃ fault, Header.decoder.take p.json = .error fault) ∨
      ∃ parent, ParentFrame frame parent := by
  cases taken : Header.decoder.take p.json with
  | ok h => exact Or.inr ⟨_, .header parsed taken⟩
  | error fault =>
    by_cases null : p.json = .null
    · exact Or.inr ⟨_, .null parsed null⟩
    by_cases empty : p.json = .object []
    · exact Or.inr ⟨_, .empty parsed empty⟩
    exact Or.inl ⟨null, empty, fault, rfl⟩

theorem parseParent_of_text {frame : Bytes} {fault : Fault} (faulty : Payload.parse frame = .error fault) :
    parseParent frame = .error (.json fault) := by
  simp only [parseParent, faulty]

theorem parsePayload_of_text {frame : Bytes} {fault : Fault} (faulty : Payload.parse frame = .error fault) :
    parsePayload frame = .error (.json fault) := by
  simp only [parsePayload, faulty]

namespace Message

theorem decode_of_framed {signer : Signer} {parts identities : List Bytes} {signature : Bytes} {f : Frames}
    {buffers : List Bytes} (framed : Framed parts identities signature f buffers) :
    decode signer parts = f.decode signer identities signature := by
  rw [framed.split, decode_framed signer framed.clear]

theorem decode_of_carried {signer : Signer} {parts : List Bytes} {m : Message} (carried : Carried signer parts m) :
    decode signer parts = .ok m := by
  obtain ⟨framed, header, verified, parent, metadata, content⟩ := carried
  rw [decode_of_framed framed]
  exact Frames.decode_eq_ok_iff.mpr ⟨header, verified, parent.parseParent_eq, metadata, content, rfl, rfl⟩

theorem decode_of_firstFault {signer : Signer} {parts : List Bytes} {failure : Failure}
    (wrong : FirstFault signer parts failure) : decode signer parts = .error failure := by
  cases wrong with
  | noDelimiter absent =>
    have others : ∀ frame ∈ parts, decide (frame ≠ delimiter) = true := fun frame member =>
      decide_eq_true fun same => absent (same ▸ member)
    unfold decode
    rw [List.dropWhile_eq_nil_iff.mpr others]
  | @tooFewFrames identities body split clear short =>
    have others : ∀ frame ∈ identities, decide (frame ≠ delimiter) = true := fun frame member =>
      decide_eq_true fun same => clear (same ▸ member)
    have dropped : parts.dropWhile (· ≠ delimiter) = delimiter :: body := by
      rw [split, List.dropWhile_append_of_pos others]
      simp
    unfold decode
    simp only [dropped]
    split
    · cases ‹_ = _›
    · rename_i found
      cases found
      simp only [List.length_cons] at short
      omega
    · rename_i found
      cases found
      rfl
  | header framed faulty =>
    rw [decode_of_framed framed, Frames.decode, faulty]
    rfl
  | signature framed header forged =>
    rw [decode_of_framed framed, Frames.decode, header, forged]
    rfl
  | parentText framed header verified faulty =>
    rw [decode_of_framed framed, Frames.decode, header, verified, parseParent_of_text faulty]
    rfl
  | parentShape framed header verified parsed notNull notEmpty faulty =>
    rw [decode_of_framed framed, Frames.decode, header, verified,
      parseParent_of_shape parsed notNull notEmpty faulty]
    rfl
  | metadata framed header verified parent faulty =>
    rw [decode_of_framed framed, Frames.decode, header, verified, parent.parseParent_eq,
      parsePayload_of_text faulty]
    rfl
  | content framed header verified parent metadata faulty =>
    rw [decode_of_framed framed, Frames.decode, header, verified, parent.parseParent_eq,
      parsePayload_ok_iff.mpr metadata, parsePayload_of_text faulty]
    rfl

theorem exists_framed {parts identities body : List Bytes} (split : parts = identities ++ delimiter :: body)
    (clear : delimiter ∉ identities) (enough : ¬body.length < 5) :
    ∃ signature f buffers, Framed parts identities signature f buffers := by
  rcases body with _ | ⟨signature, _ | ⟨header, _ | ⟨parent, _ | ⟨metadata, _ | ⟨content, buffers⟩⟩⟩⟩⟩
  case cons.cons.cons.cons.cons =>
    exact ⟨signature, ⟨header, parent, metadata, content⟩, buffers, split, clear⟩
  all_goals simp at enough

/-- Whatever the frames, they carry a message or there is a first thing that is wrong with them. -/
theorem carried_or_firstFault (signer : Signer) (parts : List Bytes) :
    (∃ m, Carried signer parts m) ∨ ∃ failure, FirstFault signer parts failure := by
  by_cases absent : delimiter ∉ parts
  · exact Or.inr ⟨_, .noDelimiter absent⟩
  obtain ⟨identities, body, split, clear⟩ := List.eq_append_cons_of_mem (Decidable.not_not.mp absent)
  by_cases short : body.length < 5
  · exact Or.inr ⟨_, .tooFewFrames split clear short⟩
  obtain ⟨signature, f, buffers, framed⟩ := exists_framed split clear short
  cases header : Header.decoder.parse f.header with
  | error fault => exact Or.inr ⟨_, .header framed header⟩
  | ok h =>
  cases verified : signer.verify f.toList signature with
  | false => exact Or.inr ⟨_, .signature framed header verified⟩
  | true =>
  cases parsed : Payload.parse f.parentHeader with
  | error fault => exact Or.inr ⟨_, .parentText framed header verified parsed⟩
  | ok p =>
  rcases shape_or_parentFrame parsed with ⟨notNull, notEmpty, fault, faulty⟩ | ⟨parent, reading⟩
  · exact Or.inr ⟨_, .parentShape framed header verified parsed notNull notEmpty faulty⟩
  cases metadata : Payload.parse f.metadata with
  | error fault => exact Or.inr ⟨_, .metadata framed header verified reading metadata⟩
  | ok data =>
  cases content : Payload.parse f.content with
  | error fault => exact Or.inr ⟨_, .content framed header verified reading metadata content⟩
  | ok body => exact Or.inl ⟨_, .message framed header verified reading metadata content⟩

/-- Frames are taken for a message exactly if they carry it. All others are refused for the first thing that is
wrong with them. Buffers play no part in either, even if there are more delimiters among them. -/
theorem decode_grammar (signer : Signer) (parts : List Bytes) :
    (∀ m, decode signer parts = .ok m ↔ Carried signer parts m) ∧
    (∀ failure, decode signer parts = .error failure ↔ FirstFault signer parts failure) ∧
    (∀ {identities signature f buffers}, Framed parts identities signature f buffers → ∀ others,
      decode signer (identities ++ delimiter :: signature :: (f.toList ++ others)) = decode signer parts) := by
  refine ⟨fun m => ⟨fun decoded => ?_, decode_of_carried⟩,
    fun failure => ⟨fun decoded => ?_, decode_of_firstFault⟩, fun framed others => ?_⟩
  · rcases carried_or_firstFault signer parts with ⟨back, carried⟩ | ⟨failure, wrong⟩
    · cases (decode_of_carried carried).symm.trans decoded
      exact carried
    · cases (decode_of_firstFault wrong).symm.trans decoded
  · rcases carried_or_firstFault signer parts with ⟨back, carried⟩ | ⟨first, wrong⟩
    · cases (decode_of_carried carried).symm.trans decoded
    · cases (decode_of_firstFault wrong).symm.trans decoded
      exact wrong
  · rw [decode_of_framed framed, decode_framed signer framed.clear]

/-- A delimiter among the buffers of a reply changes nothing. -/
theorem decode_sampleReply_buffers :
    Framed (sampleReply.encode ⟨[7]⟩) sampleReply.identities (Signer.sign ⟨[7]⟩ sampleReply.frames.toList)
        sampleReply.frames [] ∧
      decode ⟨[7]⟩ (sampleReply.identities ++ delimiter ::
          Signer.sign ⟨[7]⟩ sampleReply.frames.toList :: (sampleReply.frames.toList ++ [delimiter, [1]])) =
        decode ⟨[7]⟩ (sampleReply.encode ⟨[7]⟩) := by
  have framed : Framed (sampleReply.encode ⟨[7]⟩) sampleReply.identities
      (Signer.sign ⟨[7]⟩ sampleReply.frames.toList) sampleReply.frames [] :=
    ⟨by rw [List.append_nil, encode], by decide⟩
  exact ⟨framed, (decode_grammar ⟨[7]⟩ (sampleReply.encode ⟨[7]⟩)).2.2 framed [delimiter, [1]]⟩

end Message
end KernelLink
