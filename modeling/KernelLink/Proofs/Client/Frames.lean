import KernelLink.Proofs.Channel.Calls
import KernelLink.Proofs.Client.Operations
import KernelLink.Proofs.Exchange
import KernelLink.Proofs.Wire.Framing

namespace KernelLink
namespace Client

/-- A loop polls its channel, and the client takes in what the channel has received. -/
def poll (c : Client) (loop : Loop) (channel : Channel) (p : Pipe) : Client × Pipe :=
  match channel.tryReceive p with
  | (.ok none, p) => (c.setPoll loop.id none, p)
  | (.ok (some m), p) => (c.receive loop (.ok m), p)
  | (.error failure, p) => (c.receive loop (.error failure), p)

/-- A line hands on what a running channel makes of the frames that arrive. -/
theorem takeArrival_eq_poll (c : Client) {x : Exchange} {loop : Loop} {signer : Signer} {parts : List Bytes}
    {later : List (List Bytes)}
    (inbox : (x.line loop.line).inbox = (parts :: later).map (Message.decode signer))
    (sent : List (List Bytes)) :
    (c.takeArrival x loop).1 =
      (c.poll loop ⟨loop.line.kind, signer, true, true⟩ ⟨sent, parts :: later⟩).1 := by
  unfold takeArrival Exchange.take poll
  rw [List.map_cons] at inbox
  simp only [inbox, Channel.tryReceive_cons]
  cases Message.decode signer parts <;> rfl

/-- The client without a loop. What was pending is given up, and nothing else has changed. -/
def without (c : Client) (loop : Loop) : Client :=
  { c with
    loops := c.loops.filter (· ≠ loop)
    log := { c.log with
      entries := c.log.entries.map fun e => { e with abandoned := e.abandoned || e.isPending } } }

namespace Run

variable {session : Session} {owned : Bool} {trace : List Happening} {c : Client} {x : Exchange}
  {calls : List Call} {loop : Loop}

/-- A loop may hear any message: it stands on the line for as long as it takes the loop to take it. -/
theorem hear (run : Run session owned trace ⟨c, x, calls⟩) (member : loop ∈ c.loops) (m : Message) :
    Run session owned (trace ++ [.heard loop.line.kind m]) ⟨c.receive loop (.ok m), x, calls⟩ := by
  have ready := run.silent
    (@Step.elsewhere c x (x.setLine loop.line { x.line loop.line with inbox := [.ok m] }) calls le_rfl)
  have taken : (x.setLine loop.line { x.line loop.line with inbox := [.ok m] }).take loop.line =
      (some (.ok m), ((x.setLine loop.line { x.line loop.line with inbox := [.ok m] }).setLine loop.line
        { x.line loop.line with inbox := [] })) := by
    simp only [Exchange.take, Exchange.line_setLine]
  exact (ready.next (.hear member taken)).silent (.elsewhere le_rfl)

/-- Whatever arrives on its channel, a loop that polls goes on with the run. -/
theorem poll (run : Run session owned trace ⟨c, x, calls⟩) (member : loop ∈ c.loops) (channel : Channel)
    (p : Pipe) :
    Run session owned
      (trace ++ match (channel.tryReceive p).1 with
        | .ok none => []
        | .ok (some m) => [.heard loop.line.kind m]
        | .error _ => [.left loop.id])
      ⟨(c.poll loop channel p).1, x, calls⟩ := by
  unfold Client.poll
  cases received : channel.tryReceive p with
  | mk result later =>
    rcases result with failure | _ | m
    · exact run.next (.leave member)
    · simpa using run.silent (.expire loop.id)
    · exact run.hear member m

/-- No other loop has the number of the one that ends. -/
theorem leave_eq_without (run : Run session owned trace ⟨c, x, calls⟩) (member : loop ∈ c.loops) :
    c.leave loop.id = c.without loop := by
  have loops : c.loops.filter (·.id ≠ loop.id) = c.loops.filter (· ≠ loop) := by
    refine List.filter_congr fun other here => decide_eq_decide.mpr
      (not_congr ⟨fun same => ?_, congrArg Loop.id⟩)
    exact run.loop_eq_of_id_eq here member same
  have entries : c.log.abandonPending.1.entries =
      c.log.entries.map fun e => { e with abandoned := e.abandoned || e.isPending } := by
    refine List.map_congr_left fun e _ => ?_
    cases pending : e.isPending <;> simp [ExecutionEntry.abandon]
  unfold leave without
  rw [loops, ← entries]
  rfl

/-- Frames that are not authentic end the loop whose channel receives them, and every pending request is given
up. Nothing else happens to the client. A channel that is not running takes nothing, and a line that hands
on what its channel makes of the frames does the same. -/
theorem poll_of_not_authentic (run : Run session owned trace ⟨c, x, calls⟩) (member : loop ∈ c.loops)
    (keyed : session.signer.key ≠ []) {parts : List Bytes} (foreign : ¬Authentic session.signer parts)
    (alive held : Bool) (sent later : List (List Bytes)) :
    c.poll loop ⟨loop.line.kind, c.session.signer, alive, held⟩ ⟨sent, parts :: later⟩ =
        (if alive && held then (c.without loop, ⟨sent, later⟩)
          else (c.setPoll loop.id none, ⟨sent, parts :: later⟩)) ∧
      ((x.line loop.line).inbox = (parts :: later).map (Message.decode c.session.signer) →
        (c.takeArrival x loop).1 = c.without loop) := by
  have signer : c.session.signer = session.signer := run.signer_eq
  rw [signer]
  obtain ⟨failure, rejected⟩ := Message.decode_of_not_authentic keyed foreign
  have polled (alive held : Bool) :
      c.poll loop ⟨loop.line.kind, session.signer, alive, held⟩ ⟨sent, parts :: later⟩ =
        if alive && held then (c.without loop, ⟨sent, later⟩)
        else (c.setPoll loop.id none, ⟨sent, parts :: later⟩) := by
    unfold Client.poll
    rw [Channel.tryReceive_cons]
    cases alive && held with
    | false => rfl
    | true => simp only [if_true, rejected, Except.map, receive, run.leave_eq_without member]
  refine ⟨polled alive held, fun inbox => ?_⟩
  rw [c.takeArrival_eq_poll inbox sent, polled true true]
  rfl

end Run
end Client

/-- Nobody without the key can pretend to have it by leaving the signature out. -/
theorem Message.not_authentic_unsigned {signer : Signer} (keyed : signer.key ≠ []) (m : Message)
    (clear : delimiter ∉ m.identities) : ¬Authentic signer (m.encode ⟨[]⟩) := by
  have signing : signer.signing = true := decide_eq_true keyed
  intro authentic
  obtain ⟨back, decoded⟩ := (Message.exists_decode_iff_authentic signing).mpr authentic
  have framed := Message.decode_framed signer clear [] m.frames []
  rw [List.append_nil] at framed
  have verified := (Frames.decode_eq_ok_iff.mp (framed.symm.trans decoded)).verified
  have same := Option.some.inj ((Signer.verify_iff signing).mp verified)
  have length := congrArg List.length same
  rw [Hmac.length_digest] at length
  cases length

namespace Client

def keyedSession : Session := ⟨"session", "user", ⟨[1]⟩⟩

/-- A client with a key that has asked for the execution of some code. -/
def asking : Except Failure String × Client × Exchange :=
  let started := (Client.new keyedSession false).start (.new false) ⟨true, false, false, false⟩ ⟨"info", ""⟩
  started.2.1.execute started.2.2 ⟨"request", ""⟩ "x"

/-- A reply without a signature. -/
def forged : Message :=
  Message.replyTo (.new { Header.blank with msgType := "execute_reply" }
    (.ofJson (.object [("status", .text "ok")])))
    (keyedSession.newMessage ⟨"request", ""⟩ "execute_request" .empty)

/-- A reply that nobody has signed completes nothing. -/
theorem Run.forged_reply_gives_up :
    ((asking.2.1.poll ⟨0, ⟨.shell, 0⟩, none⟩ ⟨.shell, asking.2.1.session.signer, true, true⟩
      ⟨[], [forged.encode ⟨[]⟩]⟩).1.log.entries.map fun e => (e.complete, e.abandoned, e.responses.length)) =
        [(false, true, 0)] := by
  have fresh : Run keyedSession false [] _ := .new (.new false)
  have started := fresh.start ⟨true, false, false, false⟩ ⟨"info", ""⟩
  have asked : Run keyedSession false _ ⟨asking.2.1, asking.2.2, []⟩ := started.execute ⟨"request", ""⟩ "x"
  have running : ⟨0, ⟨.shell, 0⟩, none⟩ ∈ asking.2.1.loops := by decide
  have keyed : keyedSession.signer.key ≠ [] := by decide
  have foreign : ¬Authentic keyedSession.signer (forged.encode ⟨[]⟩) :=
    forged.not_authentic_unsigned keyed List.not_mem_nil
  have ended := (asked.poll_of_not_authentic running keyed foreign true true [] []).1
  rw [show (⟨0, ⟨.shell, 0⟩, none⟩ : Loop).line.kind = .shell from rfl] at ended
  rw [ended]
  decide

end Client
end KernelLink
