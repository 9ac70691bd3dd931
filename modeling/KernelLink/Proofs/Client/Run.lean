import KernelLink.Client.Operations
import KernelLink.Proofs.Log.History

namespace KernelLink

/-- What happens to the log of a client. -/
inductive Happening where
  /-- A request to run code has been logged. -/
  | requested (request : Message)
  /-- The shell line has taken a request. -/
  | accepted (id : String)
  /-- The shell line could not take a request. -/
  | refused (id : String)
  /-- A loop has taken a message from its line. -/
  | heard (kind : ChannelKind) (m : Message)
  /-- A loop has ended. -/
  | left (loop : Nat)
  | cleared

/-- A call that asks the kernel to run code and has not come back. -/
inductive Call where
  /-- The request is in the log, and has not been sent. -/
  | logged (request : Message)
  /-- What came of sending is not in the log yet. -/
  | sent (request : Message) (result : Except Failure Unit)

def Call.request : Call → Message
  | .logged request => request
  | .sent request _ => request

/-- What comes of a call is known once it has been sent. -/
def Happening.ofResult (request : Message) : Except Failure Unit → Happening
  | .ok () => .accepted request.msgId
  | .error _ => .refused request.msgId

/-- A client, the exchange that it uses, and its calls that have not come back. -/
structure Situation where
  client : Client
  exchange : Exchange
  calls : List Call

/-- One step of a call, of a loop or of the world around a client, and what it does to the log. The
steps of several calls and loops may come in any order. -/
inductive Client.Step : Situation → Option Happening → Situation → Prop
  /-- Lines, probes, the kernel and the clock change behind the client's back. -/
  | elsewhere {c x x' calls} : x.turns ≤ x'.turns → Step ⟨c, x, calls⟩ none ⟨c, x', calls⟩
  | beginStart {c x calls} : Step ⟨c, x, calls⟩ none ⟨{ c with stopping := false }, x, calls⟩
  | startChannel {c x calls} (kind : ChannelKind) : Step ⟨c, x, calls⟩ none
      ⟨(c.startChannel x kind).2.1, (c.startChannel x kind).2.2, calls⟩
  | allow {c x calls} (stdin : Bool) : Step ⟨c, x, calls⟩ none ⟨{ c with allowStdin := stdin }, x, calls⟩
  | startPulse {c x calls} : Step ⟨c, x, calls⟩ none ⟨(c.startPulse x).2.1, (c.startPulse x).2.2, calls⟩
  | kernelInfo {c x calls} (stamp : Stamp) : Step ⟨c, x, calls⟩ none
      ⟨(c.kernelInfo x stamp).2.1, (c.kernelInfo x stamp).2.2, calls⟩
  | request {c x calls} (stamp : Stamp) (code : String) : Step ⟨c, x, calls⟩
      (some (.requested (c.beginExecute stamp code).1))
      ⟨(c.beginExecute stamp code).2, x, .logged (c.beginExecute stamp code).1 :: calls⟩
  | send {c x earlier request later} : Step ⟨c, x, earlier ++ .logged request :: later⟩ none
      ⟨(c.sendOnShell x request).2.1, (c.sendOnShell x request).2.2,
        earlier ++ .sent request (c.sendOnShell x request).1 :: later⟩
  | settle {c x earlier request result later} : Step ⟨c, x, earlier ++ .sent request result :: later⟩
      (some (.ofResult request result)) ⟨(c.settleExecute request result).2, x, earlier ++ later⟩
  | poll {c x calls loop} : loop ∈ c.loops → c.mayPoll x loop = true →
      Step ⟨c, x, calls⟩ none ⟨(c.lookAround x loop).1, (c.lookAround x loop).2, calls⟩
  | expire {c x calls} (loop : Nat) : Step ⟨c, x, calls⟩ none ⟨c.setPoll loop none, x, calls⟩
  | hear {c x calls loop m x'} : loop ∈ c.loops → x.take loop.line = (some (.ok m), x') →
      Step ⟨c, x, calls⟩ (some (.heard loop.line.kind m)) ⟨c.receive loop (.ok m), x', calls⟩
  /-- A loop may end at any moment: it has received a failure, it has been told to stop, or it has
  found its line, the probe or the kernel dead. -/
  | leave {c x calls loop} : loop ∈ c.loops →
      Step ⟨c, x, calls⟩ (some (.left loop.id)) ⟨c.leave loop.id, x, calls⟩
  | beginStop {c x calls} : Step ⟨c, x, calls⟩ none ⟨c.beginStop, x, calls⟩
  | stopLines {c x calls} : Step ⟨c, x, calls⟩ none ⟨(c.stopLines x).1, (c.stopLines x).2, calls⟩
  | stopPulse {c x calls} : Step ⟨c, x, calls⟩ none ⟨(c.stopPulse x).1, (c.stopPulse x).2, calls⟩
  | clear {c x calls} : Step ⟨c, x, calls⟩ (some .cleared) ⟨{ c with log := .empty }, x, calls⟩

/-- A run of a client from its beginning, with all that has happened to its log. -/
inductive Client.Run (session : Session) (owned : Bool) : List Happening → Situation → Prop
  | new (x : Exchange) : Run session owned [] ⟨.new session owned, x, []⟩
  | next {trace s happening s'} : Run session owned trace s → Client.Step s happening s' →
      Run session owned (trace ++ happening.toList) s'

/-- What a message from the kernel does to a log, if anything. -/
def Message.logStep? (m : Message) : Option LogStep :=
  match m.parentId with
  | none => none
  | some parent =>
    match m.classify with
    | .executeReply reply => some (.recordReply parent m reply.replyStatus reply.executionCount)
    | .data => some (.recordOutput parent m)
    | .shutdownReply _ => none
    | .status _ => none
    | .other => none

theorem Client.record_eq (log : ExecutionLog) (m : Message) :
    Client.record log m = m.logStep?.toList.foldl ExecutionLog.apply log := by
  unfold Client.record Message.logStep?
  cases m.parentId with
  | none => rfl
  | some parent => cases m.classify <;> rfl

/-- What a happening does to the log. -/
def Happening.logStep? : Happening → Option LogStep
  | .requested request => some (.insert request)
  | .accepted _ => none
  | .refused id => some (.abandon id)
  | .heard _ m => m.logStep?
  | .left _ => some .abandonPending
  | .cleared => some .clear

/-- The history of the log of a client. -/
def logHistory (trace : List Happening) : List LogStep := trace.filterMap Happening.logStep?

theorem after_logHistory_snoc (trace : List Happening) (happening : Happening) :
    ExecutionLog.after (logHistory (trace ++ [happening])) =
      happening.logStep?.toList.foldl ExecutionLog.apply (.after (logHistory trace)) := by
  unfold logHistory
  rw [List.filterMap_append, ExecutionLog.after_append]
  cases step : happening.logStep? <;> simp [step]

namespace Exchange

theorem turns_create (x : Exchange) (kind : ChannelKind) : (x.create kind).2.turns = x.turns := by
  unfold create
  simp only
  split <;> rfl

theorem turns_send (x : Exchange) (id : LineId) (m : Message) : (x.send id m).2.turns = x.turns := by
  unfold send
  simp only
  split
  · rfl
  · split <;> rfl

theorem turns_take (x : Exchange) (id : LineId) : (x.take id).2.turns = x.turns := by
  unfold take
  simp only
  split <;> rfl

end Exchange

namespace Client

/-- Nothing has changed of what the loops of a client do and have done. -/
structure Undisturbed (c : Client) (x : Exchange) (c' : Client) (x' : Exchange) : Prop where
  log : c'.log = c.log
  loops : c'.loops = c.loops
  session : c'.session = c.session
  turns : x'.turns = x.turns

theorem lineTo_undisturbed (c : Client) (x : Exchange) (kind : ChannelKind) :
    Undisturbed c x (c.lineTo x kind).2.1 (c.lineTo x kind).2.2 := by
  unfold lineTo
  split
  · exact ⟨rfl, rfl, rfl, rfl⟩
  · have turns := x.turns_create kind
    split <;> (rename_i created; rw [created] at turns; exact ⟨rfl, rfl, rfl, turns⟩)

theorem sendOnShell_undisturbed (c : Client) (x : Exchange) (m : Message) :
    Undisturbed c x (c.sendOnShell x m).2.1 (c.sendOnShell x m).2.2 := by
  have line := c.lineTo_undisturbed x .shell
  unfold sendOnShell
  split
  · rename_i opened
    rw [opened] at line
    exact line
  · rename_i id c' x' opened
    rw [opened] at line
    have turns := x'.turns_send id m
    split <;> (rename_i sent; rw [sent] at turns; exact { line with turns := turns.trans line.turns })

theorem kernelInfo_undisturbed (c : Client) (x : Exchange) (stamp : Stamp) :
    Undisturbed c x (c.kernelInfo x stamp).2.1 (c.kernelInfo x stamp).2.2 := by
  have sent := c.sendOnShell_undisturbed x (c.session.newMessage stamp "kernel_info_request" .empty)
  unfold kernelInfo
  simp only
  split <;> (rename_i result; rw [result] at sent; exact sent)

theorem startPulse_undisturbed (c : Client) (x : Exchange) :
    Undisturbed c x (c.startPulse x).2.1 (c.startPulse x).2.2 := by
  unfold startPulse
  split
  · exact ⟨rfl, rfl, rfl, rfl⟩
  · have turns := x.turns_create .heartbeat
    split <;> (rename_i created; rw [created] at turns; exact ⟨rfl, rfl, rfl, turns⟩)

theorem turns_stopLine (x : Exchange) (ids : List LineId) :
    (ids.foldl Exchange.stopLine x).turns = x.turns := by
  induction ids generalizing x with
  | nil => rfl
  | cons id ids ih => exact ih (x.stopLine id)

theorem stopLines_undisturbed (c : Client) (x : Exchange) :
    Undisturbed c x (c.stopLines x).1 (c.stopLines x).2 :=
  ⟨rfl, rfl, rfl, turns_stopLine x c.channels⟩

theorem stopPulse_undisturbed (c : Client) (x : Exchange) :
    Undisturbed c x (c.stopPulse x).1 (c.stopPulse x).2 := by
  unfold stopPulse
  split <;> exact ⟨rfl, rfl, rfl, rfl⟩

/-- Starting a channel adds a loop of a new turn, if anything. -/
theorem startChannel_cases (c : Client) (x : Exchange) (kind : ChannelKind) :
    Undisturbed c x (c.startChannel x kind).2.1 (c.startChannel x kind).2.2 ∨
      ∃ line, (c.startChannel x kind).2.1.log = c.log ∧
        (c.startChannel x kind).2.1.loops = c.loops ++ [⟨x.turns, line, none⟩] ∧
        (c.startChannel x kind).2.1.session = c.session ∧
        (c.startChannel x kind).2.2.turns = x.turns + 1 := by
  have line := c.lineTo_undisturbed x kind
  unfold startChannel
  split
  · rename_i opened
    rw [opened] at line
    exact Or.inl line
  · rename_i id c' x' opened
    rw [opened] at line
    split
    · exact Or.inl line
    · refine Or.inr ⟨id, line.log, ?_, line.session, congrArg (· + 1) line.turns⟩
      simp only [Exchange.takeTurn, Exchange.startLine, Exchange.setLine]
      rw [show x'.turns = x.turns from line.turns, show c'.loops = c.loops from line.loops]

def loopIds (c : Client) : List Nat := c.loops.map (·.id)

theorem loopIds_setPoll (c : Client) (loop : Nat) (poll : Option Poll) :
    (c.setPoll loop poll).loopIds = c.loopIds := by
  simp only [loopIds, setPoll, List.map_map]
  refine List.map_congr_left fun l _ => ?_
  rw [Function.comp_apply]
  split <;> rfl

theorem loopIds_leave (c : Client) (loop : Nat) : (c.leave loop).loopIds = c.loopIds.filter (· ≠ loop) := by
  simp only [loopIds, leave, List.filter_map]
  rfl

theorem signer_adopt (session : Session) (id : String) : (session.adopt id).1.signer = session.signer := by
  unfold Session.adopt
  split <;> rfl

/-- What a step does to the log, the loops, the signer and the calls. -/
structure Effect (s : Situation) (happening : Option Happening) (s' : Situation) : Prop where
  log : s'.client.log = (happening.bind Happening.logStep?).toList.foldl ExecutionLog.apply s.client.log
  signer : s'.client.session.signer = s.client.session.signer
  turns : s.exchange.turns ≤ s'.exchange.turns
  /-- A loop that ends goes, and one that begins has a new turn. -/
  loops : (∃ loop, happening = some (.left loop) ∧ s'.client.loopIds = s.client.loopIds.filter (· ≠ loop)) ∨
    (∀ loop, happening ≠ some (.left loop)) ∧
      (s'.client.loopIds = s.client.loopIds ∨
        s'.client.loopIds = s.client.loopIds ++ [s.exchange.turns] ∧ s.exchange.turns < s'.exchange.turns)
  heard : ∀ kind m, happening = some (.heard kind m) → s.client.loops ≠ []
  requested : ∀ request, happening = some (.requested request) → ∃ call ∈ s'.calls, call.request = request
  calls : ∀ call ∈ s.calls, (∃ later ∈ s'.calls, later.request = call.request) ∨
    happening = some (.accepted call.request.msgId) ∨ happening = some (.refused call.request.msgId)

/-- Nothing has happened to the log, and no loop has begun or ended. -/
theorem Effect.silent {c c' : Client} {x x' : Exchange} {calls calls' : List Call} (log : c'.log = c.log)
    (signer : c'.session.signer = c.session.signer) (turns : x.turns ≤ x'.turns)
    (ids : c'.loopIds = c.loopIds)
    (kept : ∀ call ∈ calls, ∃ later ∈ calls', later.request = call.request) :
    Effect ⟨c, x, calls⟩ none ⟨c', x', calls'⟩ where
  log := log
  signer := signer
  turns := turns
  loops := Or.inr ⟨by simp, Or.inl ids⟩
  heard := by simp
  requested := by simp
  calls := fun call member => Or.inl (kept call member)

theorem Undisturbed.effect {c c' : Client} {x x' : Exchange} {calls calls' : List Call}
    (same : Undisturbed c x c' x')
    (kept : ∀ call ∈ calls, ∃ later ∈ calls', later.request = call.request) :
    Effect ⟨c, x, calls⟩ none ⟨c', x', calls'⟩ :=
  .silent same.log (congrArg Session.signer same.session) same.turns.ge
    (congrArg (List.map Loop.id) same.loops) kept

theorem Step.effect {s s' : Situation} {happening : Option Happening} (step : Step s happening s') :
    Effect s happening s' := by
  have all (calls : List Call) : ∀ call ∈ calls, ∃ later ∈ calls, later.request = call.request :=
    fun call member => ⟨call, member, rfl⟩
  cases step with
  | elsewhere later => exact .silent rfl rfl later rfl (all _)
  | beginStart => exact Undisturbed.effect ⟨rfl, rfl, rfl, rfl⟩ (all _)
  | startChannel kind =>
    rename_i c x calls
    rcases c.startChannel_cases x kind with same | ⟨line, log, loops, session, turns⟩
    · exact same.effect (all _)
    · refine ⟨log, congrArg Session.signer session, by simp only [turns]; omega, ?_, by simp, by simp,
        fun call member => Or.inl (all _ call member)⟩
      refine Or.inr ⟨by simp, Or.inr ⟨?_, by simp only [turns]; omega⟩⟩
      simp [loopIds, loops]
  | allow stdin => exact Undisturbed.effect ⟨rfl, rfl, rfl, rfl⟩ (all _)
  | startPulse => exact (startPulse_undisturbed ..).effect (all _)
  | kernelInfo stamp => exact (kernelInfo_undisturbed ..).effect (all _)
  | request stamp code =>
    exact ⟨rfl, rfl, le_rfl, Or.inr ⟨by simp, Or.inl rfl⟩, by simp, by simp [Call.request],
      fun call member => Or.inl ⟨call, List.mem_cons_of_mem _ member, rfl⟩⟩
  | send =>
    refine (sendOnShell_undisturbed ..).effect fun call member => ?_
    rcases List.mem_append.mp member with before | here
    · exact ⟨call, List.mem_append_left _ before, rfl⟩
    rcases List.mem_cons.mp here with rfl | after
    · exact ⟨_, List.mem_append_right _ (List.mem_cons_self ..), rfl⟩
    · exact ⟨call, List.mem_append_right _ (List.mem_cons_of_mem _ after), rfl⟩
  | @settle c x earlier request result later =>
    have calls : ∀ call ∈ earlier ++ .sent request result :: later,
        (∃ other ∈ earlier ++ later, other.request = call.request) ∨ call = .sent request result := by
      intro call member
      rcases List.mem_append.mp member with before | here
      · exact Or.inl ⟨call, List.mem_append_left _ before, rfl⟩
      rcases List.mem_cons.mp here with rfl | after
      · exact Or.inr rfl
      · exact Or.inl ⟨call, List.mem_append_right _ after, rfl⟩
    cases result with
    | ok taken =>
      refine ⟨rfl, rfl, le_rfl, Or.inr ⟨by simp [Happening.ofResult], Or.inl rfl⟩,
        by simp [Happening.ofResult], by simp [Happening.ofResult], fun call member => ?_⟩
      refine (calls call member).imp_right fun same => Or.inl ?_
      rw [same]
      rfl
    | error failure =>
      refine ⟨rfl, rfl, le_rfl, Or.inr ⟨by simp [Happening.ofResult], Or.inl rfl⟩,
        by simp [Happening.ofResult], by simp [Happening.ofResult], fun call member => ?_⟩
      refine (calls call member).imp_right fun same => Or.inr ?_
      rw [same]
      rfl
  | @poll c x calls loop member may =>
    simp only [lookAround, may, if_true, Exchange.takeTurn]
    exact .silent rfl rfl (Nat.le_succ _) (loopIds_setPoll ..) (all _)
  | expire loop => exact .silent rfl rfl le_rfl (loopIds_setPoll ..) (all _)
  | @hear c x calls loop m x' member taken =>
    have turns := x.turns_take loop.line
    rw [taken] at turns
    refine ⟨record_eq c.log m, ?_, turns.ge, Or.inr ⟨by simp, Or.inl (loopIds_setPoll ..)⟩, ?_, by simp,
      fun call member => Or.inl (all _ call member)⟩
    · exact signer_adopt ..
    · exact fun _ _ _ => List.ne_nil_of_mem member
  | @leave c x calls loop member =>
    exact ⟨rfl, rfl, le_rfl, Or.inl ⟨loop.id, rfl, loopIds_leave c loop.id⟩, by simp, by simp,
      fun call member => Or.inl (all _ call member)⟩
  | beginStop => exact Undisturbed.effect ⟨rfl, rfl, rfl, rfl⟩ (all _)
  | stopLines => exact (stopLines_undisturbed ..).effect (all _)
  | stopPulse => exact (stopPulse_undisturbed ..).effect (all _)
  | clear =>
    exact ⟨rfl, rfl, le_rfl, Or.inr ⟨by simp, Or.inl rfl⟩, by simp, by simp,
      fun call member => Or.inl (all _ call member)⟩

namespace Run

variable {session : Session} {owned : Bool} {trace : List Happening} {s : Situation}

/-- The log of a client is that of its history. -/
theorem log_eq (run : Run session owned trace s) : s.client.log = .after (logHistory trace) := by
  induction run with
  | new x => rfl
  | @next trace s happening s' _ step ih =>
    rw [step.effect.log, ih]
    cases happening with
    | none => rw [Option.toList_none, List.append_nil]; rfl
    | some happening => exact (after_logHistory_snoc trace happening).symm

theorem signer_eq (run : Run session owned trace s) : s.client.session.signer = session.signer := by
  induction run with
  | new x => rfl
  | next _ step ih => exact step.effect.signer.trans ih

theorem loopIds_lt (run : Run session owned trace s) : ∀ id ∈ s.client.loopIds, id < s.exchange.turns := by
  induction run with
  | new x => exact fun id member => absurd member List.not_mem_nil
  | @next trace s happening s' _ step ih =>
    intro id member
    have turns := step.effect.turns
    rcases step.effect.loops with ⟨loop, _, ids⟩ | ⟨_, ids | ⟨ids, new⟩⟩
    · rw [ids] at member
      exact (ih id (List.mem_filter.mp member).1).trans_le turns
    · rw [ids] at member
      exact (ih id member).trans_le turns
    · rw [ids, List.mem_append, List.mem_singleton] at member
      rcases member with old | rfl
      · exact (ih id old).trans_le turns
      · exact new

/-- No two loops have the same number. -/
theorem loopIds_nodup (run : Run session owned trace s) : s.client.loopIds.Nodup := by
  induction run with
  | new x => exact List.nodup_nil
  | @next trace s happening s' run step ih =>
    rcases step.effect.loops with ⟨loop, _, ids⟩ | ⟨_, ids | ⟨ids, _⟩⟩
    · rw [ids]
      exact ih.filter _
    · rw [ids]
      exact ih
    · -- the turns count all loops that have ever begun, so a new one has a number of its own
      rw [ids, List.nodup_append]
      refine ⟨ih, List.nodup_singleton _, fun id member other last same => ?_⟩
      rw [List.mem_singleton.mp last] at same
      exact (run.loopIds_lt id member).ne same

theorem loop_eq_of_id_eq (run : Run session owned trace s) {loop other : Loop} (one : loop ∈ s.client.loops)
    (two : other ∈ s.client.loops) (same : loop.id = other.id) : loop = other :=
  List.inj_on_of_nodup_map run.loopIds_nodup one two same

end Run
end Client
end KernelLink
