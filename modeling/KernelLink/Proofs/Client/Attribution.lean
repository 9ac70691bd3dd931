import KernelLink.Proofs.Client.Frames
import KernelLink.Proofs.Client.Verdicts
import KernelLink.Proofs.Wire.RoundTrip

namespace KernelLink

namespace Message

/-- A terminal reply to the request of an id, or an output of it. -/
def belongsTo (m : Message) (id : String) : Bool := m.parentId = some id && (m.isTerminal || m.isOutput)

theorem belongsTo_iff {m : Message} {id : String} :
    m.belongsTo id = true ↔ m.parentId = some id ∧ (m.isTerminal = true ∨ m.isOutput = true) := by
  simp [belongsTo]

theorem classify_of_neither {m : Message} (terminal : ¬m.isTerminal = true) (output : ¬m.isOutput = true) :
    (∃ reply, m.classify = .shutdownReply reply) ∨ (∃ state, m.classify = .status state) ∨ m.classify = .other := by
  unfold classify
  rw [if_neg terminal, if_neg output]
  by_cases shutdown : m.msgType = "shutdown_reply"
  · rw [if_pos shutdown]
    exact Or.inl ⟨_, rfl⟩
  · rw [if_neg shutdown]
    split
    · split
      · exact Or.inr (Or.inl ⟨_, rfl⟩)
      · exact Or.inr (Or.inr rfl)
    · exact Or.inr (Or.inr rfl)

/-- Only the type and the parent of a message decide which step it is for the log. -/
theorem logStep?_eq (m : Message) :
    m.logStep? = m.parentId.bind fun parent =>
      let reply := ExecuteReply.record.takeOrBlank m.content
      if m.isTerminal then some (.recordReply parent m reply.replyStatus reply.executionCount)
      else if m.isOutput then some (.recordOutput parent m)
      else none := by
  unfold logStep?
  cases m.parentId with
  | none => rfl
  | some parent =>
    by_cases terminal : m.isTerminal = true
    · simp only [classify, terminal, if_true, Option.bind_some]
    · by_cases output : m.isOutput = true
      · simp only [classify, terminal, output, if_true, Option.bind_some]
        rfl
      · simp only [terminal, output, Option.bind_some]
        rcases classify_of_neither terminal output with ⟨reply, sort⟩ | ⟨state, sort⟩ | sort <;>
          rw [sort] <;> rfl

theorem response?_logStep? (m : Message) (id : String) :
    m.logStep?.bind (LogStep.response? id) = if m.belongsTo id then some m else none := by
  rw [logStep?_eq]
  cases parent : m.parentId with
  | none => simp [belongsTo, parent]
  | some other =>
    by_cases named : id = other
    · subst named
      by_cases terminal : m.isTerminal = true
      · simp [belongsTo, parent, terminal, LogStep.response?]
      · by_cases output : m.isOutput = true <;> simp [belongsTo, parent, terminal, output, LogStep.response?]
    · have foreign : m.belongsTo id = false := by simp [belongsTo, parent, Ne.symm named]
      rw [foreign]
      by_cases terminal : m.isTerminal = true
      · simp [terminal, LogStep.response?, named]
      · by_cases output : m.isOutput = true <;> simp [terminal, output, LogStep.response?, named]

end Message

namespace Happening

def heard? : Happening → Option Message
  | .heard _ m => some m
  | _ => none

theorem response?_logStep? (happening : Happening) (id : String) :
    happening.logStep?.bind (LogStep.response? id) = happening.heard?.filter (·.belongsTo id) := by
  cases happening with
  | heard kind m => exact m.response?_logStep? id
  | _ => rfl

end Happening

/-- The messages that the loops of a client have taken in, in their order. -/
def heardIn (trace : List Happening) : List Message := trace.filterMap Happening.heard?

/-- The steps of a history add to the responses of an id what has been heard about it. -/
theorem responses_logHistory (trace : List Happening) (id : String) :
    (logHistory trace).filterMap (LogStep.response? id) = (heardIn trace).filter (·.belongsTo id) := by
  unfold logHistory heardIn
  rw [List.filterMap_filterMap, List.filter_filterMap]
  exact List.filterMap_congr fun happening _ => happening.response?_logStep? id

namespace ExecutionLog

/-- A change to a tracked entry is made where it stands, and nowhere else. -/
theorem update_of_get?_eq_some {log : ExecutionLog} {id : String} {e : ExecutionEntry}
    (tracked : log.get? id = some e) (f : ExecutionEntry → ExecutionEntry) :
    ∃ i, log.index.lookup id = some i ∧ log.entries[i]? = some e ∧
      log.update id f = ({ log with entries := log.entries.set i (f e) }, true) := by
  obtain ⟨i, found, place⟩ := Option.bind_eq_some_iff.mp tracked
  obtain ⟨bound, here⟩ := List.getElem?_eq_some_iff.mp place
  have changed : log.entries.modify i f = log.entries.set i (f e) := by
    rw [List.modify_eq_set_get _ bound, List.get_eq_getElem, here]
  refine ⟨i, found, place, ?_⟩
  unfold update
  rw [found]
  simp only [if_pos bound, changed]

theorem update_of_get?_eq_none {log : ExecutionLog} {id : String} (untracked : log.get? id = none)
    (f : ExecutionEntry → ExecutionEntry) : log.update id f = (log, false) := by
  unfold get? at untracked
  unfold update
  cases found : log.index.lookup id with
  | none => rfl
  | some i =>
    rw [found, Option.bind_some, List.getElem?_eq_none_iff] at untracked
    simp only [if_neg (Nat.not_lt.mpr untracked)]

end ExecutionLog

theorem ExecutionEntry.hear_eq (e : ExecutionEntry) {m : Message} {id : String} (belongs : m.belongsTo id = true) :
    e.hear m =
      let reply := ExecuteReply.record.takeOrBlank m.content
      if m.isTerminal then (e.addResponse m).finish reply.replyStatus reply.executionCount else e.addResponse m := by
  obtain ⟨-, terminal | output⟩ := Message.belongsTo_iff.mp belongs
  · simp only [hear, Message.classify, terminal, if_true]
  · by_cases terminal : m.isTerminal = true
    · simp only [hear, Message.classify, terminal, if_true]
    · simp only [hear, Message.classify, terminal, output, if_true, Bool.false_eq_true, if_false]

theorem ExecutionEntry.hear_responses (e : ExecutionEntry) {m : Message} {id : String}
    (belongs : m.belongsTo id = true) :
    (e.hear m).request = e.request ∧ (e.hear m).responses = e.responses ++ [m] := by
  rw [e.hear_eq belongs]
  dsimp only
  split
  · exact ⟨ExecutionEntry.request_finish .., (Outcome.finish_flags ..).2.2.2⟩
  · exact ⟨rfl, rfl⟩

namespace Client

/-- A message that belongs to no request leaves the log as it is. -/
theorem record_of_foreign (log : ExecutionLog) {m : Message} (foreign : ∀ id, m.belongsTo id = false) :
    record log m = log := by
  have silent : m.logStep? = none := by
    rw [Message.logStep?_eq]
    cases parent : m.parentId with
    | none => rfl
    | some id =>
      have neither := foreign id
      simp only [Message.belongsTo, parent, decide_true, Bool.true_and, Bool.or_eq_false_iff] at neither
      simp [neither]
  rw [record_eq, silent]
  rfl

theorem record_eq_update (log : ExecutionLog) {m : Message} {id : String} (belongs : m.belongsTo id = true) :
    record log m = (log.update id (·.hear m)).1 := by
  have heard := funext fun e : ExecutionEntry => e.hear_eq belongs
  rw [heard, record_eq, Message.logStep?_eq]
  obtain ⟨answers, kind⟩ := Message.belongsTo_iff.mp belongs
  rw [answers]
  by_cases terminal : m.isTerminal = true
  · simp only [terminal, if_true]
    rfl
  · have output := kind.resolve_left terminal
    simp only [terminal, output]
    rfl

/-- A message that belongs to a tracked request changes the entry of that request, and nothing else in the
log. -/
theorem record_of_tracked {log : ExecutionLog} {m : Message} {id : String} {e : ExecutionEntry}
    (belongs : m.belongsTo id = true) (tracked : log.get? id = some e) :
    ∃ i, log.index.lookup id = some i ∧ log.entries[i]? = some e ∧
      record log m = { log with entries := log.entries.set i (e.hear m) } := by
  obtain ⟨i, found, place, changed⟩ := ExecutionLog.update_of_get?_eq_some tracked (·.hear m)
  refine ⟨i, found, place, ?_⟩
  rw [record_eq_update log belongs, changed]

theorem record_ne_iff (log : ExecutionLog) (m : Message) :
    record log m ≠ log ↔ ∃ id e, m.belongsTo id = true ∧ log.get? id = some e := by
  constructor
  · intro changed
    by_cases foreign : ∀ id, m.belongsTo id = false
    · exact absurd (record_of_foreign log foreign) changed
    · simp only [not_forall, Bool.not_eq_false] at foreign
      obtain ⟨id, belongs⟩ := foreign
      cases tracked : log.get? id with
      | some e => exact ⟨id, e, belongs, tracked⟩
      | none =>
        rw [record_eq_update log belongs, ExecutionLog.update_of_get?_eq_none tracked] at changed
        exact absurd rfl changed
  · rintro ⟨id, e, belongs, tracked⟩ same
    obtain ⟨i, -, place, changed⟩ := record_of_tracked belongs tracked
    -- the entry has one response more than before
    have longer := (e.hear_responses belongs).2
    have bound := (List.getElem?_eq_some_iff.mp place).1
    have here : (record log m).entries[i]? = some (e.hear m) := by
      rw [changed, List.getElem?_set_self bound]
    rw [same, place] at here
    have length := congrArg List.length longer
    rw [← Option.some.inj here, List.length_append, List.length_singleton] at length
    omega

end Client

namespace Exchange

/-- What waits on a line until somebody takes it. -/
def inbox (x : Exchange) (line : LineId) : List (Except Failure Message) := (x.line line).inbox

theorem inbox_setLine (x : Exchange) (id line : LineId) (l : Line) :
    (x.setLine id l).inbox line = if line = id then l.inbox else x.inbox line := by
  unfold inbox
  split
  · rename_i same
    rw [same, line_setLine]
  · rename_i differs
    rw [line_setLine_of_ne x differs]

theorem inbox_arrive (x : Exchange) (id line : LineId) (a : Except Failure Message) :
    (x.arrive id a).inbox line = x.inbox line ++ if id = line then [a] else [] := by
  unfold arrive
  rw [inbox_setLine]
  by_cases same : line = id
  · rw [if_pos same, if_pos same.symm, same]
    rfl
  · rw [if_neg same, if_neg (Ne.symm same), List.append_nil]

theorem inbox_of_take {x x' : Exchange} {id : LineId} {a : Except Failure Message} (taken : x.take id = (some a, x'))
    (line : LineId) : x.inbox line = (if id = line then [a] else []) ++ x'.inbox line := by
  unfold take at taken
  simp only at taken
  split at taken
  · cases taken
  · rename_i first rest waiting
    cases taken
    rw [inbox_setLine]
    by_cases same : line = id
    · rw [if_pos same, if_pos same.symm, same]
      exact waiting
    · rw [if_neg same, if_neg (Ne.symm same), List.nil_append]

theorem inbox_create (x : Exchange) (kind : ChannelKind) (line : LineId) :
    (x.create kind).2.inbox line = x.inbox line := by
  unfold create
  simp only
  split <;> rfl

theorem inbox_startLine (x : Exchange) (id line : LineId) : (x.startLine id).inbox line = x.inbox line := by
  unfold startLine
  rw [inbox_setLine]
  split
  · rename_i same
    rw [same]
    rfl
  · rfl

end Exchange

/-- What happens to a client, and on the lines that it listens to. -/
inductive Event where
  /-- Frames have arrived on a line. -/
  | arrived (line : LineId) (parts : List Bytes)
  /-- A loop has taken what had arrived first on its line. -/
  | taken (loop : Loop) (a : Except Failure Message)
  | other (happening : Happening)

namespace Event

def happening? : Event → Option Happening
  | .arrived _ _ => none
  | .taken loop (.ok m) => some (.heard loop.line.kind m)
  | .taken loop (.error _) => some (.left loop.id)
  | .other happening => some happening

def arrivedOn? (line : LineId) : Event → Option (List Bytes)
  | .arrived there parts => if there = line then some parts else none
  | _ => none

def takenOn? (line : LineId) : Event → Option (Except Failure Message)
  | .taken loop a => if loop.line = line then some a else none
  | _ => none

/-- The message that a loop has taken in, and the line on which it had arrived. -/
def handled? : Event → Option (LineId × Message)
  | .taken loop (.ok m) => some (loop.line, m)
  | _ => none

end Event

def happenings (trace : List Event) : List Happening := trace.filterMap Event.happening?

theorem happenings_append (trace later : List Event) :
    happenings (trace ++ later) = happenings trace ++ happenings later := List.filterMap_append

/-- The frames that have arrived on a line, in the order of their arrival. -/
def arrivedOn (line : LineId) (trace : List Event) : List (List Bytes) := trace.filterMap (Event.arrivedOn? line)

def takenOn (line : LineId) (trace : List Event) : List (Except Failure Message) :=
  trace.filterMap (Event.takenOn? line)

/-- The messages that have been handled, with their lines, in the order in which they were. -/
def handled (trace : List Event) : List (LineId × Message) := trace.filterMap Event.handled?

/-- The messages among some frames that can be verified and read. -/
def verified (signer : Signer) (frames : List (List Bytes)) : List Message :=
  frames.filterMap fun parts => (Message.decode signer parts).toOption

/-- A request has been logged, and what came later has neither replaced it nor cleared the log. -/
structure LoggedSince (trace : List Event) (request : Message) (later : List Event) : Prop where
  split : ∃ earlier, trace = earlier ++ .other (.requested request) :: later
  kept : .other .cleared ∉ later
  last : ∀ other, .other (.requested other) ∈ later → other.msgId ≠ request.msgId

theorem Event.eq_other {event : Event} {happening : Happening} (does : event.happening? = some happening)
    (unheard : ∀ kind m, happening ≠ .heard kind m) (stays : ∀ loop, happening ≠ .left loop) :
    event = .other happening := by
  cases event with
  | arrived line parts => cases does
  | taken loop a =>
    cases a with
    | ok m => exact absurd (Option.some.inj does).symm (unheard _ m)
    | error failure => exact absurd (Option.some.inj does).symm (stays _)
  | other other => exact congrArg Event.other (Option.some.inj does)

/-- Whatever is cleared or requested in the log stands as such in the trace. -/
theorem mem_of_logHistory {trace : List Event} {step : LogStep} (member : step ∈ logHistory (happenings trace)) :
    (step = .clear → .other .cleared ∈ trace) ∧
      ∀ request, step = .insert request → .other (.requested request) ∈ trace := by
  obtain ⟨happening, here, logs⟩ := mem_logHistory.mp member
  obtain ⟨event, stands, does⟩ := List.mem_filterMap.mp here
  constructor
  · rintro rfl
    cases Happening.of_logStep? logs
    rwa [event.eq_other does nofun nofun] at stands
  · rintro request rfl
    cases Happening.of_logStep? logs
    rwa [event.eq_other does nofun nofun] at stands

theorem LoggedSince.life {trace later : List Event} {request : Message} (since : LoggedSince trace request later) :
    IsLife (logHistory (happenings trace)) request.msgId request (logHistory (happenings later)) := by
  obtain ⟨earlier, rfl⟩ := since.split
  refine ⟨rfl, ⟨logHistory (happenings earlier), ?_⟩, fun cleared => ?_, fun other inserted => ?_⟩
  · rw [happenings_append, logHistory, List.filterMap_append]
    rfl
  · exact since.kept ((mem_of_logHistory cleared).1 rfl)
  · exact since.last other ((mem_of_logHistory inserted).2 other rfl)

theorem IsLife.loggedSince {trace : List Event} {id : String} {request : Message} {rest : List LogStep}
    (life : IsLife (logHistory (happenings trace)) id request rest) : ∃ later, LoggedSince trace request later := by
  obtain ⟨before, split⟩ := life.split
  obtain ⟨first, second, apart, -, inserted⟩ := List.filterMap_eq_append_iff.mp split
  obtain ⟨silent, happening, others, rfl, -, logs, after⟩ := List.filterMap_eq_cons_iff.mp inserted
  cases Happening.of_logStep? logs
  obtain ⟨front, back, rfl, -, begins⟩ := List.filterMap_eq_append_iff.mp apart
  obtain ⟨passed, waiting, rfl, -, requested⟩ := List.filterMap_eq_append_iff.mp begins
  obtain ⟨quiet, event, later, rfl, -, does, rfl⟩ := List.filterMap_eq_cons_iff.mp requested
  cases event.eq_other does nofun nofun
  have steps {happening : Happening} {step : LogStep} (member : .other happening ∈ later)
      (does : happening.logStep? = some step) : step ∈ rest := by
    rw [← after]
    exact mem_logHistory.mpr ⟨happening, List.mem_filterMap.mpr ⟨_, member, rfl⟩, does⟩
  refine ⟨later, ⟨front ++ (passed ++ quiet), by simp only [List.append_assoc]⟩, fun cleared => ?_,
    fun other again => ?_⟩
  · exact life.kept (steps cleared rfl)
  · rw [life.named]
    exact life.last other (steps again rfl)

namespace Client

theorem inbox_lineTo (c : Client) (x : Exchange) (kind : ChannelKind) (line : LineId) :
    (c.lineTo x kind).2.2.inbox line = x.inbox line := by
  have created := x.inbox_create kind line
  unfold lineTo
  split
  · rfl
  · split <;> (rename_i asked; rw [asked] at created; exact created)

/-- Starting a channel leaves alone what waits on the lines. -/
theorem inbox_startChannel (c : Client) (x : Exchange) (kind : ChannelKind) (line : LineId) :
    (c.startChannel x kind).2.2.inbox line = x.inbox line := by
  have held := c.inbox_lineTo x kind line
  unfold startChannel
  split
  · rename_i opened
    rw [opened] at held
    exact held
  · rename_i id c' x' opened
    rw [opened] at held
    split
    · exact held
    · exact (x'.inbox_startLine id line).trans held

/-- A run of a client in which frames arrive on its lines, and nobody but its loops takes anything from them. -/
inductive Course (session : Session) (owned : Bool) : List Event → Situation → Prop
  | new {x} : (∀ line, x.inbox line = []) → Course session owned [] ⟨.new session owned, x, []⟩
  | arrive {trace c x calls} (line : LineId) (parts : List Bytes) : Course session owned trace ⟨c, x, calls⟩ →
      Course session owned (trace ++ [.arrived line parts])
        ⟨c, x.arrive line (Message.decode session.signer parts), calls⟩
  | take {trace c x calls loop a x'} : Course session owned trace ⟨c, x, calls⟩ → loop ∈ c.loops →
      x.take loop.line = (some a, x') →
      Course session owned (trace ++ [.taken loop a]) ⟨c.receive loop a, x', calls⟩
  | step {trace s happening s'} : Course session owned trace s → Client.Step s happening s' →
      (∀ line, s'.exchange.inbox line = s.exchange.inbox line) →
      Course session owned (trace ++ happening.toList.map .other) s'

theorem Step.inbox_of_heard {s s' : Situation} {happening : Option Happening} (step : Step s happening s')
    {kind : ChannelKind} {m : Message} (heard : happening = some (.heard kind m)) :
    ∃ line, (s'.exchange.inbox line).length < (s.exchange.inbox line).length := by
  cases step with
  | @hear c x calls loop m x' member taken =>
    have shorter := Exchange.inbox_of_take taken loop.line
    have length := congrArg List.length shorter
    rw [if_pos rfl, List.length_append, List.length_singleton] at length
    refine ⟨loop.line, ?_⟩
    show (x'.inbox loop.line).length < (x.inbox loop.line).length
    omega
  | @settle c x earlier request result later => cases result <;> cases heard
  | _ => cases heard

namespace Course

variable {session : Session} {owned : Bool} {trace : List Event} {s : Situation}

/-- A course is a run. -/
theorem run (course : Course session owned trace s) : Run session owned (happenings trace) s := by
  induction course with
  | new quiet => exact .new _
  | @arrive trace c x calls line parts course ih =>
    have silent : happenings [.arrived line parts] = [] := rfl
    rw [happenings_append, silent, List.append_nil]
    exact ih.silent (.elsewhere le_rfl)
  | @take trace c x calls loop a x' course member taken ih =>
    have turns := x.turns_take loop.line
    rw [taken] at turns
    rw [happenings_append]
    cases a with
    | ok m => exact ih.next (.hear member taken)
    | error failure => exact (ih.next (.leave member)).silent (.elsewhere turns.ge)
  | @step trace s happening s' course step same ih =>
    have next := ih.next step
    rw [happenings_append]
    cases happening with
    | none => exact next
    | some happening => exact next

/-- What has arrived on a line has been taken in the same order, or waits. -/
theorem queue (course : Course session owned trace s) (line : LineId) :
    (arrivedOn line trace).map (Message.decode session.signer) = takenOn line trace ++ s.exchange.inbox line := by
  induction course with
  | new quiet => exact (quiet line).symm
  | @arrive trace c x calls there parts course ih =>
    have arrivals : arrivedOn line (trace ++ [.arrived there parts]) =
        arrivedOn line trace ++ if there = line then [parts] else [] := by
      rw [arrivedOn, List.filterMap_append]
      by_cases here : there = line <;> simp [Event.arrivedOn?, arrivedOn, here]
    have takes : takenOn line (trace ++ [.arrived there parts]) = takenOn line trace := by
      rw [takenOn, List.filterMap_append]
      exact List.append_nil _
    rw [arrivals, takes, List.map_append, ih, Exchange.inbox_arrive, List.append_assoc]
    split <;> rfl
  | @take trace c x calls loop a x' course member taken ih =>
    have arrivals : arrivedOn line (trace ++ [.taken loop a]) = arrivedOn line trace := by
      rw [arrivedOn, List.filterMap_append]
      exact List.append_nil _
    have takes : takenOn line (trace ++ [.taken loop a]) =
        takenOn line trace ++ if loop.line = line then [a] else [] := by
      rw [takenOn, List.filterMap_append]
      by_cases here : loop.line = line <;> simp [Event.takenOn?, takenOn, here]
    rw [arrivals, takes, ih, Exchange.inbox_of_take taken, List.append_assoc]
  | @step trace s happening s' course step same ih =>
    have arrivals : arrivedOn line (trace ++ happening.toList.map .other) = arrivedOn line trace := by
      rw [arrivedOn, List.filterMap_append]
      cases happening <;> exact List.append_nil _
    have takes : takenOn line (trace ++ happening.toList.map .other) = takenOn line trace := by
      rw [takenOn, List.filterMap_append]
      cases happening <;> exact List.append_nil _
    rw [arrivals, takes, ih, same]

/-- Whatever a client takes in, a loop has taken from a line. -/
theorem not_heard (course : Course session owned trace s) (kind : ChannelKind) (m : Message) :
    .other (.heard kind m) ∉ trace := by
  induction course with
  | new quiet => exact List.not_mem_nil
  | arrive line parts _ ih => simpa using ih
  | take _ member taken ih => simpa using ih
  | @step trace s happening s' course step same ih =>
    intro member
    rcases List.mem_append.mp member with old | new
    · exact ih old
    · obtain ⟨heard, here, named⟩ := List.mem_map.mp new
      cases named
      obtain ⟨line, shorter⟩ := step.inbox_of_heard (Option.mem_toList.mp here)
      rw [same line] at shorter
      omega

end Course

theorem heardIn_happenings {trace : List Event} (loops : ∀ kind m, .other (.heard kind m) ∉ trace) :
    heardIn (happenings trace) = (handled trace).map (·.2) := by
  unfold heardIn happenings handled
  rw [List.filterMap_filterMap, List.map_filterMap]
  refine List.filterMap_congr fun event member => ?_
  cases event with
  | arrived line parts => rfl
  | taken loop a => cases a <;> rfl
  | other happening =>
    cases happening with
    | heard kind m => exact absurd member (loops kind m)
    | _ => rfl

/-- The messages that were handled on a line are those among what was taken from it. -/
theorem handled_eq_verified {signer : Signer} {line : LineId} {trace : List Event} {frames : List (List Bytes)}
    (taken : frames.map (Message.decode signer) = takenOn line trace) :
    ((handled trace).filter (·.1 = line)).map (·.2) = verified signer frames := by
  have messages : verified signer frames = (takenOn line trace).filterMap Except.toOption := by
    rw [← taken, List.filterMap_map]
    rfl
  rw [messages]
  unfold handled takenOn
  rw [List.filter_filterMap, List.map_filterMap, List.filterMap_filterMap]
  refine List.filterMap_congr fun event _ => ?_
  cases event with
  | arrived there parts => rfl
  | taken loop a =>
    by_cases here : loop.line = line
    · cases a <;> simp [Event.handled?, Event.takenOn?, here, Except.toOption]
    · cases a <;> simp [Event.handled?, Event.takenOn?, here]
  | other happening => rfl

/-- The entry of a request that has been logged holds what its client has handled since, and on every line that
was a part of what had arrived there, in the same order. -/
theorem Course.responses_of_loggedSince {session : Session} {owned : Bool} {trace later : List Event}
    {s : Situation} (course : Course session owned trace s) {request : Message}
    (since : LoggedSince trace request later) :
    (∃ e, s.client.log.get? request.msgId = some e ∧ e.request = request ∧
      e.responses = ((handled later).map (·.2)).filter (·.belongsTo request.msgId)) ∧
    ∀ line, ∃ before during waiting, arrivedOn line trace = before ++ during ++ waiting ∧
      ((handled later).filter (·.1 = line)).map (·.2) = verified session.signer during ∧
      s.exchange.inbox line = waiting.map (Message.decode session.signer) := by
  obtain ⟨earlier, rfl⟩ := since.split
  constructor
  · obtain ⟨e, found, known⟩ := ExecutionLog.outcome_of_life since.life
    rw [← course.run.log_eq] at found
    have loops : ∀ kind m, .other (.heard kind m) ∉ later := fun kind m member =>
      course.not_heard kind m (List.mem_append_right _ (List.mem_cons_of_mem _ member))
    refine ⟨e, found, known.request_eq, ?_⟩
    rw [known.responses_eq, responses_logHistory, heardIn_happenings loops]
  · intro line
    have queue := course.queue line
    have takes : takenOn line (earlier ++ .other (.requested request) :: later) =
        takenOn line earlier ++ takenOn line later := List.filterMap_append
    rw [takes, List.append_assoc, List.map_eq_append_iff] at queue
    obtain ⟨before, rest, apart, -, remaining⟩ := queue
    obtain ⟨during, waiting, rfl, taken, left⟩ := List.map_eq_append_iff.mp remaining
    exact ⟨before, during, waiting, by rw [apart, List.append_assoc], handled_eq_verified taken, left.symm⟩

/-- A message changes the log only if it is a terminal reply or an output and its parent is tracked. Then it is
added to the responses of that one entry, whose flags and counter change only with a terminal reply. So an entry
holds what has been handled of its request since that was logged, in the order in which it was; and what was handled
on a line since then is the verified part of a series of arrivals on it, each once and in their order. -/
theorem Course.messages_attributed {session : Session} {owned : Bool} {trace : List Event} {s : Situation}
    (course : Course session owned trace s) :
    (∀ (c : Client) (kind : ChannelKind) (m : Message),
      ((c.handle kind m).log ≠ c.log ↔ ∃ id e, m.belongsTo id = true ∧ c.log.get? id = some e) ∧
      ∀ id e, m.belongsTo id = true → c.log.get? id = some e →
        ∃ i e', c.log.index.lookup id = some i ∧ c.log.entries[i]? = some e ∧
          (c.handle kind m).log = { c.log with entries := c.log.entries.set i e' } ∧
          e'.responses = e.responses ++ [m] ∧ e'.request = e.request ∧
          e' = let reply := ExecuteReply.record.takeOrBlank m.content
            if m.isTerminal then (e.addResponse m).finish reply.replyStatus reply.executionCount
            else e.addResponse m) ∧
    (∀ e ∈ s.client.log.entries, ∃ later, LoggedSince trace e.request later) ∧
    ∀ request later, LoggedSince trace request later →
      (∃ e, s.client.log.get? request.msgId = some e ∧ e.request = request ∧
        e.responses = ((handled later).map (·.2)).filter (·.belongsTo request.msgId)) ∧
      ∀ line, ∃ before during waiting, arrivedOn line trace = before ++ during ++ waiting ∧
        ((handled later).filter (·.1 = line)).map (·.2) = verified session.signer during ∧
        s.exchange.inbox line = waiting.map (Message.decode session.signer) := by
  refine ⟨fun c kind m => ⟨record_ne_iff c.log m, fun id e belongs tracked => ?_⟩, fun e member => ?_,
    fun request later since => course.responses_of_loggedSince since⟩
  · obtain ⟨i, found, place, changed⟩ := record_of_tracked belongs tracked
    obtain ⟨request, responses⟩ := e.hear_responses belongs
    exact ⟨i, e.hear m, found, place, changed, responses, request, e.hear_eq belongs⟩
  · rw [course.run.log_eq] at member
    obtain ⟨request, rest, life, known⟩ := ExecutionLog.exists_outcome member
    rw [known.request_eq]
    exact life.loggedSince

def shown : Message := about "request" "stream" [("text", .text "x")]

/-- A message as it is read off its frames where nothing is signed. -/
def unsigned (m : Message) : Message := { m with signature := some [] }

def asked : Message := plainSession.newMessage ⟨"request", ""⟩ "execute_request" (ExecuteRequest.new "x").content

/-- The reply arrives on the shell line before the output on iopub, and is handled after it. -/
def outputFirst : List Event :=
  [.other (.requested asked), .arrived shellLoop.line (success.encode ⟨[]⟩),
    .arrived iopubLoop.line (shown.encode ⟨[]⟩), .taken iopubLoop (.ok (unsigned shown)),
    .taken shellLoop (.ok (unsigned success))]

theorem exists_outputFirst : ∃ s, Course plainSession false outputFirst s := by
  have reply : Message.decode plainSession.signer (success.encode ⟨[]⟩) = .ok (unsigned success) := by
    have integral : success.content.json.Integral := ⟨trivial, trivial⟩
    exact success.decode_routed ⟨[]⟩ List.not_mem_nil trivial integral (by decide) (by decide)
  have output : Message.decode plainSession.signer (shown.encode ⟨[]⟩) = .ok (unsigned shown) := by
    have integral : shown.content.json.Integral := ⟨trivial, trivial⟩
    exact shown.decode_routed ⟨[]⟩ List.not_mem_nil trivial integral (by decide) (by decide)
  have fresh : Course plainSession false [] ⟨.new plainSession false, .new false, []⟩ := .new fun _ => rfl
  have shell := fresh.step (.startChannel .shell) (inbox_startChannel _ _ _)
  have both := shell.step (.startChannel .iopub) (inbox_startChannel _ _ _)
  have asked := both.step (.request ⟨"request", ""⟩ "x") fun _ => rfl
  have arrived := (asked.arrive shellLoop.line (success.encode ⟨[]⟩)).arrive iopubLoop.line (shown.encode ⟨[]⟩)
  rw [reply, output] at arrived
  have first := @Course.take _ _ _ _ _ _ iopubLoop _ _ arrived (by decide) rfl
  have second := @Course.take _ _ _ _ _ _ shellLoop _ _ first (by decide) rfl
  exact ⟨_, second⟩

theorem Course.output_before_reply :
    ∃ s e, Course plainSession false outputFirst s ∧ s.client.log.get? "request" = some e ∧
      e.responses.map (·.msgType) = ["stream", "execute_reply"] := by
  obtain ⟨s, course⟩ := exists_outputFirst
  have since : LoggedSince outputFirst asked (outputFirst.drop 1) := ⟨⟨[], rfl⟩, by simp [outputFirst],
    by simp [outputFirst]⟩
  obtain ⟨⟨e, found, -, responses⟩, -⟩ := course.messages_attributed.2.2 asked (outputFirst.drop 1) since
  exact ⟨s, e, course, found, by rw [responses]; decide⟩

end Client
end KernelLink
