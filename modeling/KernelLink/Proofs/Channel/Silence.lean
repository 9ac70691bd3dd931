import KernelLink.Proofs.Channel.Calls
import Mathlib.Data.List.Induction
import Mathlib.Logic.Function.Basic

namespace KernelLink
namespace Channel

/-- What can happen to a channel and its transport. A stop is taken apart: the channel is marked as stopped, and
the socket is released when nobody uses it. So is a call that sends or receives: it looks whether the channel
is alive, and uses the socket when its turn has come. Calls that overlap are told apart by numbers. -/
inductive Event where
  | start
  | stop
  | release
  | look (call : Nat)
  | send (call : Nat) (m : Message)
  | receive (call : Nat)
  /-- A message of the peer arrives. -/
  | arrive (parts : List Bytes)

def Event.arrived? : Event → Option (List Bytes)
  | .arrive parts => some parts
  | _ => none

/-- What has arrived, in its order. -/
def arrivals (events : List Event) : List (List Bytes) := events.filterMap Event.arrived?

/-- The channel has been started and not been stopped since. -/
def Started (events : List Event) : Prop :=
  ∃ before since, events = before ++ .start :: since ∧ .stop ∉ since

/-- A channel with its transport, the calls that are under way, and what calls have answered. -/
structure Traffic where
  channel : Channel
  pipe : Pipe
  /-- Whether the channel was alive when a call looked. -/
  saw : Nat → Bool
  sends : List (Message × Except Failure Bool)
  receipts : List (Except Failure (Option Message))

/-- The message of a send that says that it has sent it. -/
def accepted? : Message × Except Failure Bool → Option Message
  | (m, .ok true) => some m
  | _ => none

/-- What a call has received: a message, or the failure to read one. -/
def heard? : Except Failure (Option Message) → Option (Except Failure Message)
  | .ok none => none
  | .ok (some m) => some (.ok m)
  | .error failure => some (.error failure)

namespace Traffic

def connected (kind : ChannelKind) (signer : Signer) : Traffic :=
  ⟨.connected kind signer, ⟨[], []⟩, fun _ => false, [], []⟩

/-- The channel as a call finds it that uses the socket: alive if it was when the call looked. -/
def view (t : Traffic) (call : Nat) : Channel := { t.channel with alive := t.saw call }

def react (t : Traffic) : Event → Traffic
  | .start => { t with channel := t.channel.start }
  | .stop => { t with channel := { t.channel with alive := false } }
  | .release => { t with channel := { t.channel with held := false } }
  | .look call => { t with saw := Function.update t.saw call t.channel.alive }
  | .send call m =>
    { t with
      pipe := ((t.view call).send t.pipe m).2
      sends := t.sends ++ [(m, ((t.view call).send t.pipe m).1)] }
  | .receive call =>
    { t with
      pipe := ((t.view call).tryReceive t.pipe).2
      receipts := t.receipts ++ [((t.view call).tryReceive t.pipe).1] }
  | .arrive parts => { t with pipe := { t.pipe with arrived := t.pipe.arrived ++ [parts] } }

/-- A stop that nothing interrupts. -/
theorem react_stop_release (t : Traffic) :
    (t.react .stop).react .release = { t with channel := t.channel.stop } := rfl

/-- A call that nothing interrupts finds the channel as it is. -/
theorem view_react_look (t : Traffic) (call : Nat) : (t.react (.look call)).view call = t.channel := by
  simp [react, view]

/-- What events make of a channel that has just been connected. -/
def after (kind : ChannelKind) (signer : Signer) (events : List Event) : Traffic :=
  events.foldl react (connected kind signer)

theorem after_snoc (kind : ChannelKind) (signer : Signer) (events : List Event) (event : Event) :
    after kind signer (events ++ [event]) = (after kind signer events).react event := by
  rw [after, List.foldl_append]
  rfl

end Traffic

variable {events : List Event}

theorem arrivals_snoc (events : List Event) (event : Event) :
    arrivals (events ++ [event]) = arrivals events ++ event.arrived?.toList := by
  rw [arrivals, List.filterMap_append]
  cases arrived : event.arrived? <;> simp [arrivals, arrived]

theorem started_snoc {event : Event} :
    Started (events ++ [event]) ↔ event = .start ∨ event ≠ .stop ∧ Started events := by
  constructor
  · rintro ⟨before, since, split, unstopped⟩
    -- the start is the last event, or the last event has come after it
    rcases List.eq_nil_or_concat since with rfl | ⟨middle, last, rfl⟩
    · obtain ⟨-, same⟩ := List.append_inj' split rfl
      exact Or.inl (List.singleton_inj.mp same)
    · rw [List.concat_eq_append, ← List.cons_append, ← List.append_assoc] at split
      obtain ⟨rfl, same⟩ := List.append_inj' split rfl
      cases List.singleton_inj.mp same
      simp only [List.concat_eq_append, List.mem_append, List.mem_singleton, not_or] at unstopped
      exact Or.inr ⟨Ne.symm unstopped.2, before, middle, rfl, unstopped.1⟩
  · rintro (rfl | ⟨goesOn, before, since, rfl, unstopped⟩)
    · exact ⟨events, [], rfl, List.not_mem_nil⟩
    · exact ⟨before, since ++ [event], by simp, by simp [unstopped, Ne.symm goesOn]⟩

namespace Traffic

variable {kind : ChannelKind} {signer : Signer}

/-- The two flags of a channel tell what has happened to it: the one whether it has been started and not stopped
since, the other whether a stop has ever come to its end. -/
structure Flagged (kind : ChannelKind) (signer : Signer) (events : List Event) (t : Traffic) : Prop where
  kind_eq : t.channel.kind = kind
  signer_eq : t.channel.signer = signer
  alive_iff : t.channel.alive = true ↔ Started events
  held_iff : t.channel.held = true ↔ .release ∉ events

theorem Flagged.react {t : Traffic} (flagged : Flagged kind signer events t) (event : Event) :
    Flagged kind signer (events ++ [event]) (t.react event) where
  kind_eq := by cases event <;> exact flagged.kind_eq
  signer_eq := by cases event <;> exact flagged.signer_eq
  alive_iff := by
    rw [started_snoc, ← flagged.alive_iff]
    cases event <;> simp [Traffic.react, Channel.start]
  held_iff := by
    rw [List.mem_append, not_or, ← flagged.held_iff]
    cases event <;> simp [Traffic.react, Channel.start]

theorem flagged (kind : ChannelKind) (signer : Signer) (events : List Event) :
    Flagged kind signer events (after kind signer events) := by
  induction events using List.reverseRecOn with
  | nil => exact ⟨rfl, rfl, by simp [after, connected, Channel.connected, Started],
      by simp [after, connected, Channel.connected]⟩
  | append_singleton events event ih =>
    rw [after_snoc]
    exact ih.react event

/-- A call goes by what it saw, whatever happens before it uses the socket. -/
theorem saw_after_look (kind : ChannelKind) (signer : Signer) (earlier : List Event) {call : Nat}
    {later : List Event} (last : .look call ∉ later) :
    (after kind signer (earlier ++ .look call :: later)).saw call =
      (after kind signer earlier).channel.alive := by
  induction later using List.reverseRecOn with
  | nil => simp [after_snoc, Traffic.react]
  | append_singleton later event ih =>
    simp only [List.mem_append, List.mem_singleton, not_or] at last
    rw [← List.cons_append, ← List.append_assoc, after_snoc, ← ih last.1]
    cases event with
    | look other =>
      -- it is another call that looks
      refine Function.update_of_ne (fun same => last.2 ?_) ..
      rw [same]
    | _ => rfl

/-- The books agree: all that has been put on the transport are the messages of the sends that say so, and all
that has arrived has been received in its order or is still there. -/
structure Booked (kind : ChannelKind) (signer : Signer) (events : List Event) (t : Traffic) : Prop where
  sent_eq : t.pipe.sent = (t.sends.filterMap accepted?).map (·.encode signer)
  unsent : kind = .iopub → t.pipe.sent = []
  received : ∃ taken, arrivals events = taken ++ t.pipe.arrived ∧
    t.receipts.filterMap heard? = taken.map (Message.decode signer)

theorem accepted?_eq_none {m : Message} {answer : Except Failure Bool} (untold : answer ≠ .ok true) :
    accepted? (m, answer) = none := by
  rcases answer with failure | _ | _
  · rfl
  · rfl
  · exact absurd rfl untold

theorem heard?_map_some (received : Except Failure Message) : heard? (received.map some) = some received := by
  cases received <;> rfl

theorem Booked.quiet {t next : Traffic} {event : Event} (booked : Booked kind signer events t)
    (nothing : event.arrived? = none) (pipe_eq : next.pipe = t.pipe)
    (sends_eq : next.sends.filterMap accepted? = t.sends.filterMap accepted?)
    (receipts_eq : next.receipts.filterMap heard? = t.receipts.filterMap heard?) :
    Booked kind signer (events ++ [event]) next := by
  obtain ⟨sent_eq, unsent, taken, arrived_eq, received_eq⟩ := booked
  refine ⟨by rw [pipe_eq, sends_eq, sent_eq], by rwa [pipe_eq], taken, ?_, receipts_eq.trans received_eq⟩
  rw [arrivals_snoc, nothing, pipe_eq, arrived_eq, Option.toList_none, List.append_nil]

theorem Booked.send {t : Traffic} (booked : Booked kind signer events t)
    (flagged : Flagged kind signer events t) (call : Nat) (m : Message) :
    Booked kind signer (events ++ [.send call m]) (t.react (.send call m)) := by
  rcases (t.view call).send_cases t.pipe m with ⟨speaks, put⟩ | ⟨untold, kept⟩
  · have view_kind : (t.view call).kind = kind := flagged.kind_eq
    have view_signer : (t.view call).signer = signer := flagged.signer_eq
    rw [view_kind] at speaks
    rw [view_signer] at put
    obtain ⟨taken, arrived_eq, received_eq⟩ := booked.received
    refine ⟨?_, fun listens => absurd listens speaks, taken, ?_, received_eq⟩
    · simp [Traffic.react, put, booked.sent_eq, accepted?]
    · simp [Traffic.react, put, arrivals_snoc, Event.arrived?, arrived_eq]
  · refine booked.quiet rfl kept ?_ rfl
    simp [Traffic.react, accepted?_eq_none untold]

theorem Booked.receive {t : Traffic} (booked : Booked kind signer events t)
    (flagged : Flagged kind signer events t) (call : Nat) :
    Booked kind signer (events ++ [.receive call]) (t.react (.receive call)) := by
  rcases (t.view call).tryReceive_cases t.pipe with nothing | ⟨parts, rest, first, took⟩
  · have unheard : heard? (.ok none) = none := rfl
    exact booked.quiet rfl (by simp [Traffic.react, nothing]) rfl
      (by simp [Traffic.react, nothing, unheard])
  · have view_signer : (t.view call).signer = signer := flagged.signer_eq
    rw [view_signer] at took
    obtain ⟨taken, arrived_eq, received_eq⟩ := booked.received
    refine ⟨?_, ?_, taken ++ [parts], ?_, ?_⟩
    · simpa [Traffic.react, took] using booked.sent_eq
    · simpa [Traffic.react, took] using booked.unsent
    · simp [Traffic.react, took, arrivals_snoc, Event.arrived?, arrived_eq, first]
    · simp [Traffic.react, took, heard?_map_some, received_eq]

theorem Booked.arrive {t : Traffic} (booked : Booked kind signer events t) (parts : List Bytes) :
    Booked kind signer (events ++ [.arrive parts]) (t.react (.arrive parts)) := by
  obtain ⟨sent_eq, unsent, taken, arrived_eq, received_eq⟩ := booked
  refine ⟨sent_eq, unsent, taken, ?_, received_eq⟩
  simp [Traffic.react, arrivals_snoc, Event.arrived?, arrived_eq]

theorem Booked.react {t : Traffic} (booked : Booked kind signer events t)
    (flagged : Flagged kind signer events t) (event : Event) :
    Booked kind signer (events ++ [event]) (t.react event) := by
  cases event with
  | send call m => exact booked.send flagged call m
  | receive call => exact booked.receive flagged call
  | arrive parts => exact booked.arrive parts
  | start => exact booked.quiet rfl rfl rfl rfl
  | stop => exact booked.quiet rfl rfl rfl rfl
  | release => exact booked.quiet rfl rfl rfl rfl
  | look call => exact booked.quiet rfl rfl rfl rfl

theorem booked (kind : ChannelKind) (signer : Signer) (events : List Event) :
    Booked kind signer events (after kind signer events) := by
  induction events using List.reverseRecOn with
  | nil => exact ⟨rfl, fun _ => rfl, [], rfl, rfl⟩
  | append_singleton events event ih =>
    rw [after_snoc]
    exact ih.react (flagged kind signer events) event

/-- A channel that was alive when a call looked serves it if its socket has not been released, and is silent
otherwise. -/
theorem Flagged.serves_or_silent {t : Traffic} (flagged : Flagged kind signer events t) {c : Channel}
    {started : Prop} (kind_eq : c.kind = t.channel.kind) (signer_eq : c.signer = t.channel.signer)
    (held_eq : c.held = t.channel.held) (alive_iff : c.alive = true ↔ started) :
    (started ∧ .release ∉ events → Serves kind signer c t.pipe) ∧
      (¬(started ∧ .release ∉ events) → c.Silent t.pipe) := by
  rw [← alive_iff, ← flagged.held_iff, ← held_eq]
  refine ⟨fun opened => ?_, silent t.pipe⟩
  have served := serves t.pipe opened.1 opened.2
  rwa [kind_eq, flagged.kind_eq, signer_eq, flagged.signer_eq] at served

/-- A channel is silent unless it has been started, and for good once it has been stopped, whatever happens to it
and however calls overlap. A call gets through to the transport exactly if it looked after a start that no stop
had followed and uses the socket before a stop has released it; else it answers that nothing has been sent, or
that nothing has come, and the transport stays as it is. So does a call that nothing interrupts. All that is
ever put on the transport are the messages of the sends that say so, each once and none on iopub, and what calls
have received is what the messages that arrived first are decoded to, one for each call and each once. -/
theorem silent_unless_started (kind : ChannelKind) (signer : Signer) (events : List Event) :
    let t := after kind signer events
    (∀ call earlier later, events = earlier ++ .look call :: later → .look call ∉ later →
      (Started earlier ∧ .release ∉ events → Serves kind signer (t.view call) t.pipe) ∧
      (¬(Started earlier ∧ .release ∉ events) → (t.view call).Silent t.pipe)) ∧
    ((Started events ∧ .release ∉ events → Serves kind signer t.channel t.pipe) ∧
      (¬(Started events ∧ .release ∉ events) → t.channel.Silent t.pipe)) ∧
    t.pipe.sent = (t.sends.filterMap accepted?).map (·.encode signer) ∧
    (kind = .iopub → t.pipe.sent = []) ∧
    ∃ taken, arrivals events = taken ++ t.pipe.arrived ∧
      t.receipts.filterMap heard? = taken.map (Message.decode signer) := by
  have flags := flagged kind signer events
  have books := booked kind signer events
  refine ⟨?_, flags.serves_or_silent rfl rfl rfl flags.alive_iff, books.sent_eq, books.unsent, books.received⟩
  rintro call earlier later rfl last
  -- the flag is what the call saw, the socket is as it is now
  have saw_iff : ((after kind signer (earlier ++ .look call :: later)).view call).alive = true ↔
      Started earlier := by
    rw [← (flagged kind signer earlier).alive_iff, ← saw_after_look kind signer earlier last]
    rfl
  exact flags.serves_or_silent rfl rfl rfl saw_iff

def greeting : Message := .new Header.blank .empty

/-- A channel that has sent a message before it is stopped, and is started again. -/
def restarted : List Event := [.start, .look 0, .send 0 greeting, .stop, .release, .start]

/-- To be started again is of no use to a channel that has been stopped. -/
theorem silent_after_restart :
    let t := after .shell ⟨[]⟩ restarted
    t.channel = (connected .shell ⟨[]⟩).channel.start.stop.start ∧
      t.pipe.sent = [greeting.encode ⟨[]⟩] ∧ t.channel.Silent t.pipe := by
  refine ⟨rfl, rfl, ?_⟩
  have called := (silent_unless_started .shell ⟨[]⟩ (restarted ++ [.look 1])).1 1 restarted [] rfl
    List.not_mem_nil
  rw [after_snoc, view_react_look] at called
  exact called.2 fun opened => opened.2 (by simp [restarted])

end Traffic
end Channel
end KernelLink
