import KernelLink.Proofs.Client.Attribution

namespace KernelLink

/-- A content that a peer reads as it was sent. -/
structure Payload.Portable (p : Payload) : Prop where
  integral : p.json.Integral
  value : p.json ≠ .null
  flat : p.json.depth ≤ 127

theorem Payload.empty_portable : Payload.empty.Portable := ⟨trivial, Json.noConfusion, by decide⟩

namespace ExecuteRequest

/-- The members of a request in the order of their keys. -/
theorem json_content (r : ExecuteRequest) : r.content.json =
    .object [("allow_stdin", .bool r.allowStdin), ("code", .text r.code), ("silent", .bool r.silent),
      ("stop_on_error", .bool r.stopOnError), ("store_history", .bool r.storeHistory),
      ("user_expressions", r.userExpressions.json.sorted)] := rfl

/-- A request to run code is read as it was built, whatever the code. -/
theorem take_content (code : String) : record.decoder.take (new code).content.json = .ok (new code) := by
  rw [json_content]
  rfl

theorem content_portable (code : String) : (new code).content.Portable where
  integral := by
    rw [json_content]
    simp [new, Json.Integral, Json.IntegralMembers, Payload.empty, Json.sorted, Json.sortedMembers]
  value := by
    rw [json_content]
    exact Json.noConfusion
  flat := by
    have depth : (new code).content.json.depth = 2 := by
      rw [json_content]
      rfl
    omega

end ExecuteRequest

namespace Message

/-- A message as a peer reads it off its frames, with the route that they have taken. -/
def receivedBy (m : Message) (signer : Signer) (route : List Bytes) : Message :=
  { m with identities := route, signature := some (signer.sign m.frames.toList) }

theorem decode_portable (m : Message) (signer : Signer) {route : List Bytes} (clear : delimiter ∉ route)
    (plain : m.metadata = .empty) (portable : m.content.Portable) :
    decode signer (route ++ delimiter :: signer.sign m.frames.toList :: m.frames.toList) =
      .ok (m.receivedBy signer route) := by
  have empty : m.metadata.json = Payload.empty.json := congrArg Payload.json plain
  have read := m.decode_routed signer clear (empty ▸ Payload.empty_portable.integral) portable.integral
    (empty ▸ Payload.empty_portable.flat) portable.flat
  rw [Payload.orEmpty_of_ne_null portable.value,
    Payload.orEmpty_of_ne_null (empty ▸ Payload.empty_portable.value)] at read
  exact read

/-- The transport takes the route off the frames before they are read. -/
theorem decode_delivered (m : Message) (signer : Signer) (plain : m.metadata = .empty)
    (portable : m.content.Portable) :
    decode signer ((m.encode signer).drop m.identities.length) = .ok (m.receivedBy signer []) := by
  have delivered : (m.encode signer).drop m.identities.length =
      delimiter :: signer.sign m.frames.toList :: m.frames.toList := List.drop_left
  rw [delivered]
  exact m.decode_portable signer List.not_mem_nil plain portable

/-- An answer to a message belongs to it on every route. -/
theorem receivedBy_belongsTo {m : Message} (terminal : m.isTerminal = true) (parent : Message) (signer : Signer)
    (route : List Bytes) : ((m.replyTo parent).receivedBy signer route).belongsTo parent.msgId = true :=
  belongsTo_iff.mpr ⟨rfl, Or.inl terminal⟩

end Message

namespace Client

/-- A peer with the same key reads a request to run code as it was built, whatever route it has taken. Whatever the
peer answers, if it can be read at all, is recorded once with that request, in every log that tracks it, and with no
other. -/
theorem Run.reply_correlates {session : Session} {owned : Bool} {trace : List Happening} {c : Client}
    {x : Exchange} {calls : List Call} (run : Run session owned trace ⟨c, x, calls⟩) (stamp : Stamp)
    (code : String) {peer : Session} (sameKey : peer.signer = session.signer) {route : List Bytes}
    (clear : delimiter ∉ route) :
    let request := (c.beginExecute stamp code).1
    (∀ id, (c.beginExecute stamp code).2.log.get? id =
      if id = request.msgId then some (.new request) else c.log.get? id) ∧
    ∃ received, Message.decode peer.signer (route ++ request.encode c.session.signer) = .ok received ∧
      received.header = request.header ∧ received.identities = route ∧
      ExecuteRequest.record.decoder.take received.content.json = .ok (.new code) ∧
      ∀ (replied : Stamp) (content : Payload), content.Portable →
        let reply := (peer.newMessage replied "execute_reply" content).replyTo received
        ∃ back, Message.decode c.session.signer ((reply.encode peer.signer).drop route.length) = .ok back ∧
          back.header = reply.header ∧ back.parentHeader = some request.header ∧ back.content = content ∧
          ∀ (later : Client) (kind : ChannelKind) (e : ExecutionEntry),
            later.log.get? request.msgId = some e →
            ∃ i e', later.log.index.lookup request.msgId = some i ∧ later.log.entries[i]? = some e ∧
              (later.handle kind back).log = { later.log with entries := later.log.entries.set i e' } ∧
              e'.request = e.request ∧ e'.responses = e.responses ++ [back] := by
  intro request
  have signer : c.session.signer = peer.signer := run.signer_eq.trans sameKey.symm
  have good : c.log.Indexed := by
    rw [run.log_eq]
    exact ExecutionLog.after_indexed _
  refine ⟨good.get?_insert request, request.receivedBy peer.signer route, ?_, rfl, rfl,
    ExecuteRequest.take_content code, fun replied content portable => ?_⟩
  · rw [signer]
    exact request.decode_portable peer.signer clear rfl (ExecuteRequest.content_portable code)
  · intro reply
    refine ⟨reply.receivedBy peer.signer [], ?_, rfl, rfl, rfl, fun later kind e tracked => ?_⟩
    · rw [signer]
      exact reply.decode_delivered peer.signer rfl portable
    · have terminal : (peer.newMessage replied "execute_reply" content).isTerminal = true := rfl
      have belongs := Message.receivedBy_belongsTo terminal (request.receivedBy peer.signer route) peer.signer []
      obtain ⟨i, found, place, changed⟩ := record_of_tracked belongs tracked
      obtain ⟨same, responses⟩ := e.hear_responses belongs
      exact ⟨i, e.hear _, found, place, changed, same, responses⟩

def succeeded : Payload := .ofJson (.object [("status", .text "ok")])

/-- The second request of a client, and the client that has logged it behind the first. -/
def secondRequest : Message × Client := asking.2.1.beginExecute ⟨"second", ""⟩ "y"

theorem asking_run : ∃ trace, Run keyedSession false trace ⟨asking.2.1, asking.2.2, []⟩ := by
  have fresh : Run keyedSession false [] ⟨.new keyedSession false, .new false, []⟩ := .new (.new false)
  have started := fresh.start ⟨true, false, false, false⟩ ⟨"info", ""⟩
  exact ⟨_, started.execute ⟨"request", ""⟩ "x"⟩

/-- The reply to a second request is not recorded with the first. -/
theorem Run.second_request_answered : ∃ received back,
    Message.decode keyedSession.signer ([7] :: secondRequest.1.encode asking.2.1.session.signer) = .ok received ∧
      ExecuteRequest.record.decoder.take received.content.json = .ok (.new "y") ∧
      Message.decode asking.2.1.session.signer
        ((((keyedSession.newMessage ⟨"reply", ""⟩ "execute_reply" succeeded).replyTo received).encode
          keyedSession.signer).drop 1) = .ok back ∧
      (secondRequest.2.handle .shell back).log.entries.map (·.responses) = [[], [back]] := by
  obtain ⟨_, asked⟩ := asking_run
  have clear : delimiter ∉ [[7]] := by decide
  have portable : succeeded.Portable := ⟨⟨trivial, trivial⟩, Json.noConfusion, by decide⟩
  obtain ⟨tracked, received, arrived, -, -, code, answers⟩ :=
    asked.reply_correlates ⟨"second", ""⟩ "y" (rfl : keyedSession.signer = keyedSession.signer) clear
  obtain ⟨back, answered, -, -, -, recorded⟩ := answers ⟨"reply", ""⟩ succeeded portable
  have here := (tracked secondRequest.1.msgId).trans (if_pos rfl)
  obtain ⟨i, e', found, -, changed, -, responses⟩ := recorded secondRequest.2 .shell _ here
  cases (by decide : secondRequest.2.log.index.lookup "second" = some 1).symm.trans found
  refine ⟨received, back, arrived, code, answered, ?_⟩
  have entries := congrArg ExecutionLog.entries changed
  rw [entries]
  show [_, e'].map (·.responses) = _
  rw [List.map_cons, List.map_cons, responses]
  rfl

end Client
end KernelLink
