import KernelLink.Client.Basic
import KernelLink.Proofs.Json.Extension
import KernelLink.Proofs.Log.Entries

namespace KernelLink

theorem Field.take_of_ok_iff {σ α : Type} {name : String} {presence : Presence} {d : Decoder α} {put : σ → α → σ}
    {s s' : σ} {j : Json} :
    (Field.of name presence d put).take s j = .ok s' ↔ ∃ a, d.take j = .ok a ∧ put s a = s' := by
  rw [of, bind_eq_ok_iff]
  simp

theorem Record.takeMembers_known {σ : Type} {r : Record σ} {key : String} {f : Field σ}
    (known : r.fields.find? (·.name = key) = some f) {s s' : σ} {j : Json} {ms : List (String × Json)} :
    r.takeMembers s ((key, j) :: ms) = .ok s' ↔ ∃ t, f.take s j = .ok t ∧ r.takeMembers t ms = .ok s' := by
  rw [takeMembers, known]
  exact bind_eq_ok_iff

theorem Record.takeMembers_unknown {σ : Type} {r : Record σ} {key : String}
    (unknown : r.fields.find? (·.name = key) = none) (s : σ) (j : Json) (ms : List (String × Json)) :
    r.takeMembers s ((key, j) :: ms) = r.takeMembers s ms := by
  rw [takeMembers, unknown]

/-- An array is taken item by item, none of which is too many; of fields that have defaults some may be left
over. -/
theorem Record.takeArray_ok_iff {σ : Type} {r : Record σ} {total index : Nat} {fields : List (Field σ)}
    (defaulted : ∀ f ∈ fields, f.presence = .defaulted) {s s' : σ} {js : List Json} :
    r.takeArray total fields index s js = .ok s' ↔ js.length ≤ fields.length ∧
      (fields.zip js).foldlM (fun s (item : Field σ × Json) => item.1.take s item.2) s = .ok s' := by
  induction fields generalizing index s js with
  | nil => cases js <;> simp [takeArray, pure, Except.pure]
  | cons f fields ih =>
    cases js with
    | nil =>
      have optional : (f :: fields).findIdx? (fun f => f.presence ≠ .defaulted) = none := by
        simpa using defaulted
      rw [takeArray, endsBefore, optional]
      simp [pure, Except.pure]
    | cons j js =>
      have others := fun other member => defaulted other (List.mem_cons_of_mem _ member)
      rw [takeArray, bind_eq_ok_iff]
      simp only [ih others, List.zip_cons_cons, List.foldlM_cons, bind_eq_ok_iff, List.length_cons,
        Nat.add_le_add_iff_right]
      constructor
      · rintro ⟨t, taken, short, rest⟩
        exact ⟨short, t, taken, rest⟩
      · rintro ⟨short, t, taken, rest⟩
        exact ⟨t, taken, short, rest⟩

namespace ExecuteReply

/-- A part that is missing or null. -/
def Vacant (part : Option Json) : Prop := part = none ∨ part = some .null

/-- A part that is a text if it is anything. -/
def TextPart (part : Option Json) : Prop := Vacant part ∨ ∃ s, part = some (.text s)

/-- A part that is an integer of 64 bits with a sign if it is anything. -/
def CountPart (part : Option Json) : Prop :=
  Vacant part ∨ ∃ i, part = some (.number (.integer i)) ∧ -Nat.pow 2 63 ≤ i ∧ i < Nat.pow 2 63

/-- What a content holds for a field: an object the member of that name, an array the item at that place. -/
def part (content : Json) (place : Nat) (name : String) : Option Json :=
  match content with
  | .object ms => ms.lookup name
  | .array js => js[place]?
  | _ => none

/-- A content that is a terminal reply from end to end. -/
structure Legible (content : Json) : Prop where
  shape : (∃ ms, content = .object ms) ∨ ∃ js, content = .array js ∧ js.length ≤ 4
  status : TextPart (part content 0 "status")
  executionCount : CountPart (part content 1 "execution_count")
  ename : TextPart (part content 2 "ename")
  evalue : TextPart (part content 3 "evalue")

theorem optional_text_take_iff {j : Json} {s : Option String} :
    (Decoder.optional .text).take j = .ok s ↔ TextPart (some j) ∧ j.text? = s := by
  cases j <;>
    simp [Decoder.optional, Decoder.text, Decoder.scalar, TextPart, Vacant, Json.text?, bind, Except.bind]

theorem optional_integer_take_iff {low high : Int} {wanted : String} {j : Json} {n : Option Int} :
    (Decoder.optional (.integer low high wanted)).take j = .ok n ↔
      (j = .null ∧ none = n) ∨ ∃ i, j = .number (.integer i) ∧ low ≤ i ∧ i ≤ high ∧ some i = n := by
  cases j
  case number k =>
    cases k with
    | double d => simp [Decoder.optional, Decoder.integer, Decoder.scalar, bind, Except.bind]
    | integer i =>
      by_cases fits : low ≤ i ∧ i ≤ high
      · simp [Decoder.optional, Decoder.integer, Decoder.scalar, bind, Except.bind, fits]
      · simp [Decoder.optional, Decoder.integer, Decoder.scalar, bind, Except.bind, fits, ← and_assoc]
  all_goals simp [Decoder.optional, Decoder.integer, Decoder.scalar, bind, Except.bind]

theorem optional_count_take_iff {j : Json} {n : Option Int} :
    (Decoder.optional (.integer (-Nat.pow 2 63) (Nat.pow 2 63 - 1) "i64")).take j = .ok n ↔
      CountPart (some j) ∧ j.signed64? = n := by
  rw [optional_integer_take_iff]
  constructor
  · rintro (⟨rfl, rfl⟩ | ⟨i, rfl, low, high, rfl⟩)
    · exact ⟨Or.inl (Or.inr rfl), rfl⟩
    · have below : i < Nat.pow 2 63 := by omega
      exact ⟨Or.inr ⟨i, rfl, low, below⟩, if_pos below⟩
  · rintro ⟨(absent | null) | ⟨i, integer, low, below⟩, rfl⟩
    · cases absent
    · cases null
      exact Or.inl ⟨rfl, rfl⟩
    · cases integer
      exact Or.inr ⟨i, rfl, low, by omega, (if_pos below).symm⟩

theorem take_status_iff {r r' : ExecuteReply} {j : Json} :
    record.fields[0].take r j = .ok r' ↔ TextPart (some j) ∧ { r with status := j.text? } = r' := by
  change (Field.of "status" .defaulted (.optional .text) fun r s => { r with status := s }).take r j = _ ↔ _
  simp [Field.take_of_ok_iff, optional_text_take_iff]

theorem take_executionCount_iff {r r' : ExecuteReply} {j : Json} :
    record.fields[1].take r j = .ok r' ↔ CountPart (some j) ∧ { r with executionCount := j.signed64? } = r' := by
  change (Field.of "execution_count" .defaulted (.optional (.integer (-Nat.pow 2 63) (Nat.pow 2 63 - 1) "i64"))
    fun r n => { r with executionCount := n }).take r j = _ ↔ _
  rw [Field.take_of_ok_iff]
  simp only [optional_count_take_iff, and_assoc, exists_and_left, exists_eq_left']

theorem take_ename_iff {r r' : ExecuteReply} {j : Json} :
    record.fields[2].take r j = .ok r' ↔ TextPart (some j) ∧ { r with ename := j.text? } = r' := by
  change (Field.of "ename" .defaulted (.optional .text) fun r s => { r with ename := s }).take r j = _ ↔ _
  simp [Field.take_of_ok_iff, optional_text_take_iff]

theorem take_evalue_iff {r r' : ExecuteReply} {j : Json} :
    record.fields[3].take r j = .ok r' ↔ TextPart (some j) ∧ { r with evalue := j.text? } = r' := by
  change (Field.of "evalue" .defaulted (.optional .text) fun r s => { r with evalue := s }).take r j = _ ↔ _
  simp [Field.take_of_ok_iff, optional_text_take_iff]

@[simp]
theorem textPart_none : TextPart none := Or.inl (Or.inl rfl)

@[simp]
theorem countPart_none : CountPart none := Or.inl (Or.inl rfl)

/-- The members of an object are taken one after the other. Since their keys differ, each field is taken once at
most. -/
theorem takeMembers_ok_iff {ms : List (String × Json)} (ordered : Json.OrderedMembers ms) {r r' : ExecuteReply} :
    record.takeMembers r ms = .ok r' ↔
      (TextPart (ms.lookup "status") ∧ CountPart (ms.lookup "execution_count") ∧
        TextPart (ms.lookup "ename") ∧ TextPart (ms.lookup "evalue")) ∧
      ⟨(ms.lookup "status").elim r.status Json.text?,
        (ms.lookup "execution_count").elim r.executionCount Json.signed64?,
        (ms.lookup "ename").elim r.ename Json.text?, (ms.lookup "evalue").elim r.evalue Json.text?⟩ = r' := by
  induction ms generalizing r with
  | nil => simp [Record.takeMembers, textPart_none, countPart_none]
  | cons m ms ih =>
    obtain ⟨key, j⟩ := m
    obtain ⟨-, greater, later⟩ := ordered
    have absent : ms.lookup key = none :=
      List.lookup_eq_none_iff.mpr fun m member => bne_iff_ne.mpr (String.ne_of_lt (greater m member))
    by_cases status : key = "status"
    · subst status
      have known : record.fields.find? (·.name = "status") = some record.fields[0] := rfl
      simp [Record.takeMembers_known known, take_status_iff, ih later, List.lookup_cons, absent, and_assoc]
    by_cases count : key = "execution_count"
    · subst count
      have known : record.fields.find? (·.name = "execution_count") = some record.fields[1] := rfl
      simp [Record.takeMembers_known known, take_executionCount_iff, ih later, List.lookup_cons, absent, and_assoc,
        and_left_comm]
    by_cases ename : key = "ename"
    · subst ename
      have known : record.fields.find? (·.name = "ename") = some record.fields[2] := rfl
      simp [Record.takeMembers_known known, take_ename_iff, ih later, List.lookup_cons, absent, and_assoc,
        and_left_comm]
    by_cases evalue : key = "evalue"
    · subst evalue
      have known : record.fields.find? (·.name = "evalue") = some record.fields[3] := rfl
      simp [Record.takeMembers_known known, take_evalue_iff, ih later, List.lookup_cons, absent, and_assoc,
        and_left_comm]
    have unknown : record.fields.find? (·.name = key) = none := by
      simp [record, Field.of, Ne.symm status, Ne.symm count, Ne.symm ename, Ne.symm evalue]
    have other {name : String} (differs : key ≠ name) : ((key, j) :: ms).lookup name = ms.lookup name := by
      rw [List.lookup_cons, beq_false_of_ne differs.symm]
    rw [Record.takeMembers_unknown unknown, ih later, other status, other count, other ename, other evalue]

theorem fields_eq : record.fields = [record.fields[0], record.fields[1], record.fields[2], record.fields[3]] := rfl

/-- The items of an array are taken for the fields in their order. -/
theorem takeArray_ok_iff {js : List Json} {total : Nat} {r : ExecuteReply} :
    record.takeArray total record.fields 0 blank js = .ok r ↔
      js.length ≤ 4 ∧ (TextPart js[0]? ∧ CountPart js[1]? ∧ TextPart js[2]? ∧ TextPart js[3]?) ∧
      ⟨js[0]?.bind Json.text?, js[1]?.bind Json.signed64?, js[2]?.bind Json.text?, js[3]?.bind Json.text?⟩ = r := by
  have defaulted : ∀ f ∈ record.fields, f.presence = .defaulted := by simp [record, Field.of]
  rw [Record.takeArray_ok_iff defaulted, show record.fields.length = 4 from rfl]
  refine and_congr_right fun short => ?_
  rw [fields_eq]
  rcases js with _ | ⟨a, _ | ⟨b, _ | ⟨c, _ | ⟨d, _ | ⟨e, js⟩⟩⟩⟩⟩
  case cons.cons.cons.cons.cons =>
    simp only [List.length_cons] at short
    omega
  case nil =>
    simp [blank, pure, Except.pure]
  all_goals
    simp [bind_eq_ok_iff, take_status_iff, take_executionCount_iff, take_ename_iff, take_evalue_iff, pure,
      Except.pure, blank, and_assoc]

/-- The parts of a content, each read for itself. Parts of another type count for nothing. -/
def ofParts (content : Json) : ExecuteReply where
  status := (part content 0 "status").bind Json.text?
  executionCount := (part content 1 "execution_count").bind Json.signed64?
  ename := (part content 2 "ename").bind Json.text?
  evalue := (part content 3 "evalue").bind Json.text?

theorem legible_object_iff {ms : List (String × Json)} : Legible (.object ms) ↔
    TextPart (ms.lookup "status") ∧ CountPart (ms.lookup "execution_count") ∧
      TextPart (ms.lookup "ename") ∧ TextPart (ms.lookup "evalue") :=
  ⟨fun ⟨_, status, count, ename, evalue⟩ => ⟨status, count, ename, evalue⟩,
    fun ⟨status, count, ename, evalue⟩ => ⟨Or.inl ⟨ms, rfl⟩, status, count, ename, evalue⟩⟩

theorem legible_array_iff {js : List Json} : Legible (.array js) ↔
    js.length ≤ 4 ∧ TextPart js[0]? ∧ CountPart js[1]? ∧ TextPart js[2]? ∧ TextPart js[3]? := by
  constructor
  · rintro ⟨⟨ms, object⟩ | ⟨others, array, short⟩, status, count, ename, evalue⟩
    · cases object
    · cases array
      exact ⟨short, status, count, ename, evalue⟩
  · rintro ⟨short, status, count, ename, evalue⟩
    exact ⟨Or.inr ⟨js, rfl, short⟩, status, count, ename, evalue⟩

theorem Legible.composite {content : Json} (legible : Legible content) :
    (∃ ms, content = .object ms) ∨ ∃ js, content = .array js :=
  legible.shape.imp_right fun ⟨js, array, _⟩ => ⟨js, array⟩

/-- Either the whole content is taken, each part as it is by itself, or nothing is. -/
theorem take_ok_iff {content : Json} (ordered : content.Ordered) {r : ExecuteReply} :
    record.decoder.take content = .ok r ↔ Legible content ∧ ofParts content = r := by
  have elim_none {α : Type} (part : Option Json) (read : Json → Option α) : part.elim none read = part.bind read := by
    cases part <;> rfl
  cases content with
  | object ms =>
    have complete : record.missing (ms.map Prod.fst) = none := by simp [Record.missing, record, Field.of]
    have taken : record.decoder.take (.object ms) = .ok r ↔ record.takeMembers record.blank ms = .ok r := by
      simp only [Record.decoder, complete]
      exact bind_eq_ok_iff.trans (by simp)
    rw [taken, takeMembers_ok_iff ordered, legible_object_iff]
    simp only [record, blank, elim_none]
    rfl
  | array js =>
    rw [legible_array_iff, and_assoc]
    exact takeArray_ok_iff
  | _ =>
    constructor
    · intro taken
      cases taken
    · rintro ⟨legible, -⟩
      rcases legible.composite with ⟨ms, object⟩ | ⟨js, array⟩
      · cases object
      · cases array

theorem takeOrBlank_of_legible {p : Payload} (legible : Legible p.json) :
    record.takeOrBlank p = ofParts p.json := by
  rw [Record.takeOrBlank, (take_ok_iff p.ordered).mpr ⟨legible, rfl⟩]

theorem takeOrBlank_of_not_legible {p : Payload} (illegible : ¬Legible p.json) :
    record.takeOrBlank p = blank := by
  cases taken : record.decoder.take p.json with
  | ok r => exact absurd ((take_ok_iff p.ordered).mp taken).1 illegible
  | error fault =>
    rw [Record.takeOrBlank, taken]
    rfl

end ExecuteReply

namespace Message

open ExecuteReply

/-- What a terminal reply tells of the execution is what can be read off its message. -/
def Agrees (m : Message) (reply : ExecuteReply) : Prop :=
  reply.replyStatus = m.status ∧ reply.executionCount = m.executionCount

theorem agrees_ofParts {m : Message} {ms : List (String × Json)} (object : m.content.json = .object ms) :
    m.Agrees (ofParts m.content.json) := by
  simp only [Agrees, replyStatus, ofParts, part, status, executionCount, text?, field?, Json.field?, object,
    and_self]

theorem agrees_blank_iff {m : Message} : m.Agrees blank ↔ m.status = none ∧ m.executionCount = none := by
  simp [Agrees, replyStatus, blank, eq_comm]

/-- Of anything but an object nothing is read. -/
theorem unread {m : Message} (other : ∀ ms, m.content.json ≠ .object ms) :
    m.status = none ∧ m.executionCount = none := by
  have nothing (key : String) : m.field? key = none := by
    unfold field? Json.field?
    cases content : m.content.json with
    | object ms => exact absurd content (other ms)
    | _ => rfl
  simp [status, text?, executionCount, nothing]

theorem text?_eq_none_iff {part : Option Json} (text : TextPart part) : part.bind Json.text? = none ↔ Vacant part := by
  rcases text with (rfl | rfl) | ⟨s, rfl⟩ <;> simp [Vacant, Json.text?]

theorem signed64?_eq_none_iff {part : Option Json} (count : CountPart part) :
    part.bind Json.signed64? = none ↔ Vacant part := by
  rcases count with (rfl | rfl) | ⟨i, rfl, low, below⟩
  · simp [Vacant]
  · simp [Vacant, Json.signed64?]
  · rw [Option.bind_some, Json.signed64?, if_pos below]
    simp [Vacant]

theorem agrees_array_iff {m : Message} {js : List Json} (array : m.content.json = .array js)
    (legible : Legible m.content.json) : m.Agrees (ofParts m.content.json) ↔ Vacant js[0]? ∧ Vacant js[1]? := by
  have other : ∀ ms, m.content.json ≠ .object ms := fun ms object => Json.noConfusion (array.symm.trans object)
  obtain ⟨noStatus, noCount⟩ := unread other
  rw [array] at legible
  have status := text?_eq_none_iff legible.status
  have count := signed64?_eq_none_iff legible.executionCount
  simp only [part] at status count
  rw [Agrees, noStatus, noCount, array, ← status, ← count]
  simp [replyStatus, ofParts, part]

/-- A reply agrees with its message unless something that the message says is lost because another part is not
what it should be, or the message is an array, of which the record alone can say something. -/
theorem agrees_takeOrBlank_iff (m : Message) : m.Agrees (record.takeOrBlank m.content) ↔
    (∀ ms, m.content.json = .object ms →
      Legible m.content.json ∨ m.status = none ∧ m.executionCount = none) ∧
    ∀ js, m.content.json = .array js → Legible m.content.json → Vacant js[0]? ∧ Vacant js[1]? := by
  by_cases legible : Legible m.content.json
  · rw [takeOrBlank_of_legible legible]
    rcases legible.composite with ⟨ms, object⟩ | ⟨js, array⟩
    · refine iff_of_true (agrees_ofParts object) ⟨fun _ _ => Or.inl legible, fun js array => ?_⟩
      cases object.symm.trans array
    · rw [agrees_array_iff array legible]
      constructor
      · refine fun vacant => ⟨fun _ _ => Or.inl legible, fun others again _ => ?_⟩
        cases array.symm.trans again
        exact vacant
      · exact fun conditions => conditions.2 js array legible
  · rw [takeOrBlank_of_not_legible legible, agrees_blank_iff]
    constructor
    · exact fun unsaid => ⟨fun _ _ => Or.inr unsaid, fun _ _ whole => absurd whole legible⟩
    · intro conditions
      by_cases object : ∃ ms, m.content.json = .object ms
      · obtain ⟨ms, object⟩ := object
        exact (conditions.1 ms object).resolve_left legible
      · exact unread fun ms same => object ⟨ms, same⟩

end Message

/-- A reply whose message is a success is logged as one if it is taken whole. Otherwise the execution is logged as
complete and as an error. -/
theorem ExecutionEntry.hasError_finish_takeOrBlank {m : Message} {ms : List (String × Json)}
    (object : m.content.json = .object ms) (success : m.status = some .ok) (e : ExecutionEntry) :
    let reply := ExecuteReply.record.takeOrBlank m.content
    let after := (e.addResponse m).finish reply.replyStatus reply.executionCount
    after.complete = true ∧
      (after.hasError = true ↔ e.hasError = true ∨ ¬ExecuteReply.Legible m.content.json) := by
  intro reply after
  by_cases legible : ExecuteReply.Legible m.content.json
  · have same : reply.replyStatus = some .ok := by
      rw [← success, ← (Message.agrees_ofParts object).1, ← ExecuteReply.takeOrBlank_of_legible legible]
    have finished : after = { e.addResponse m with complete := true, executionIndex := reply.executionCount } := by
      simp only [after, same, finish]
    rw [finished]
    simp [hasError, addResponse, success, legible]
  · have lost : reply = ExecuteReply.blank := ExecuteReply.takeOrBlank_of_not_legible legible
    have finished : after = { e.addResponse m with error := true, complete := true } := by
      simp [after, lost, ExecuteReply.replyStatus, ExecuteReply.blank, finish, addResponse]
    rw [finished]
    simp [hasError, legible]

namespace Message

/-- What the log takes from a terminal reply is what its message says, exactly if all four parts of an object are
what they should be or the object has neither a status nor a count, and if an array that could be taken has neither.
A reply that tells of success completes its entry, and does so without an error exactly if all its parts are what
they should be. -/
theorem readings_agree_iff (m : Message) (terminal : m.isTerminal = true) :
    ∃ reply, m.classify = .executeReply reply ∧
      (m.Agrees reply ↔
        (∀ ms, m.content.json = .object ms →
          ExecuteReply.Legible m.content.json ∨ m.status = none ∧ m.executionCount = none) ∧
        ∀ js, m.content.json = .array js → ExecuteReply.Legible m.content.json →
          ExecuteReply.Vacant js[0]? ∧ ExecuteReply.Vacant js[1]?) ∧
      ∀ ms, m.content.json = .object ms → m.status = some .ok →
        ∀ log parent e, m.parentId = some parent → ExecutionLog.get? log parent = some e →
          ∃ after, (Client.record log m).get? parent = some after ∧ after.complete = true ∧
            (after.hasError = true ↔ e.hasError = true ∨ ¬ExecuteReply.Legible m.content.json) := by
  have sort : m.classify = .executeReply (ExecuteReply.record.takeOrBlank m.content) := if_pos terminal
  refine ⟨_, sort, agrees_takeOrBlank_iff m, fun ms object success log parent e answers tracked => ?_⟩
  refine ⟨_, ?_, ExecutionEntry.hasError_finish_takeOrBlank object success e⟩
  unfold Client.record
  simp only [answers, sort]
  rw [ExecutionLog.recordReply, ExecutionLog.get?_update_self, tracked]
  rfl

/-- An answer of the kernel to the one request of `requestOnly`. -/
def answerWith (content : List (String × Json)) : Message where
  header := ⟨"reply", "", "", "execute_reply", "", ""⟩
  parentHeader := some ⟨"request", "", "", "execute_request", "", ""⟩
  metadata := .empty
  content := .ofJson (.object content)
  identities := []
  signature := none

def requestOnly : ExecutionLog :=
  ExecutionLog.empty.insert (.new ⟨"request", "", "", "execute_request", "", ""⟩ .empty)

theorem readings_agree_success :
    ∃ reply, (answerWith [("status", .text "ok")]).classify = .executeReply reply ∧
      (answerWith [("status", .text "ok")]).Agrees reply ∧
      ∃ after, (Client.record requestOnly (answerWith [("status", .text "ok")])).get? "request" = some after ∧
        after.complete = true ∧ after.hasError = false := by
  have object : (answerWith [("status", .text "ok")]).content.json = .object [("status", .text "ok")] := rfl
  have legible : ExecuteReply.Legible (answerWith [("status", .text "ok")]).content.json := by
    rw [object, ExecuteReply.legible_object_iff]
    exact ⟨Or.inr ⟨"ok", rfl⟩, ExecuteReply.countPart_none, ExecuteReply.textPart_none, ExecuteReply.textPart_none⟩
  obtain ⟨reply, sort, agrees, logged⟩ := readings_agree_iff (answerWith [("status", .text "ok")]) (by decide)
  obtain ⟨after, found, complete, error⟩ := logged _ object rfl requestOnly "request" _ rfl rfl
  refine ⟨reply, sort, agrees.mpr ⟨fun _ _ => Or.inl legible, fun js array => ?_⟩, after, found, complete, ?_⟩
  · cases object.symm.trans array
  · exact Bool.eq_false_iff.mpr fun wrong => (error.mp wrong).elim (by decide) (absurd legible)

/-- A count that is a text makes an error of a success. -/
theorem readings_differ_mistyped :
    (answerWith [("status", .text "ok"), ("execution_count", .text "3")]).classify =
        .executeReply ⟨none, none, none, none⟩ ∧
      (answerWith [("status", .text "ok"), ("execution_count", .text "3")]).status = some .ok ∧
      ((Client.record requestOnly (answerWith [("status", .text "ok"), ("execution_count", .text "3")])).get?
        "request").map (fun after => (after.complete, after.hasError)) = some (true, true) := by
  decide

end Message
end KernelLink
