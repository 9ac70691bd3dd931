import KernelLink.Proofs.Client.Attribution

namespace KernelLink

namespace Exchange

/-- The messages of an id that have been handed to a line. -/
def handed (x : Exchange) (line : LineId) (id : String) : List Message :=
  (x.line line).sent.filter (·.msgId = id)

theorem handed_create (x : Exchange) (kind : ChannelKind) (line : LineId) (id : String) :
    (x.create kind).2.handed line id = x.handed line id := by
  unfold create
  simp only
  split <;> rfl

theorem handed_setLine (x : Exchange) {there : LineId} {l : Line} (same : l.sent = (x.line there).sent)
    (line : LineId) (id : String) : (x.setLine there l).handed line id = x.handed line id := by
  unfold handed
  by_cases here : line = there
  · rw [here, line_setLine, same]
  · rw [line_setLine_of_ne x here]

theorem handed_arrive (x : Exchange) (there : LineId) (a : Except Failure Message) (line : LineId) (id : String) :
    (x.arrive there a).handed line id = x.handed line id := by
  refine x.handed_setLine ?_ line id
  rfl

theorem handed_take {x x' : Exchange} {there : LineId} {a : Option (Except Failure Message)}
    (taken : x.take there = (a, x')) (line : LineId) (id : String) : x'.handed line id = x.handed line id := by
  unfold take at taken
  simp only at taken
  split at taken <;> cases taken
  · rfl
  · refine x.handed_setLine ?_ line id
    rfl

/-- A line takes a message, and otherwise nothing happens to the exchange. -/
theorem send_cases (x : Exchange) (line : LineId) (m : Message) :
    (∃ x', x.send line m = (.ok true, x') ∧ ∀ other id,
      x'.handed other id = x.handed other id ++ if other = line ∧ m.msgId = id then [m] else []) ∨
    x.send line m = (.ok false, x) ∨ ∃ failure, x.send line m = (.error failure, x) := by
  rcases x.sent_cases line m with ⟨x', sent, -, added, others⟩ | nothing
  · refine Or.inl ⟨x', sent, fun other id => ?_⟩
    unfold handed
    by_cases here : other = line
    · rw [here, added, List.filter_append]
      by_cases named : m.msgId = id <;> simp [named]
    · rw [others other here, if_neg (fun both => here both.1), List.append_nil]
  · exact Or.inr nothing

end Exchange

/-- How far a call that asks the kernel to run code has come since its request was logged. -/
inductive Stage where
  | logged
  /-- The client holds no shell line, and asks for one. -/
  | opening
  | opened (serial : Nat)
  | holding (line : LineId)
  /-- What came of sending is not in the log yet. -/
  | answered (result : Except Failure Unit)
  | returned (result : Except Failure String)

namespace Stage

/-- The shell line has taken the request. -/
def Taken : Stage → Prop
  | .answered (.ok ()) => True
  | .returned (.ok _) => True
  | _ => False

/-- What happens to the log with the next step of the call. -/
def happening? (request : Message) : Stage → Option Happening
  | .answered result => some (.ofResult request result)
  | _ => none

end Stage

namespace Client

/-- The next step of a call by itself. While a line is being opened another may have been put in its place. -/
def advance (request : Message) : Client × Exchange × Stage → Client × Exchange × Stage
  | (c, x, .logged) =>
    match c.channels.find? (·.kind = .shell) with
    | some line => (c, x, .holding line)
    | none => (c, x, .opening)
  | (c, x, .opening) =>
    match x.create .shell with
    | (.error failure, x) => (c, x, .answered (.error failure))
    | (.ok serial, x) => (c, x, .opened serial)
  | (c, x, .opened serial) =>
    match c.channels.find? (·.kind = .shell) with
    | some line => (c, x, .holding line)
    | none => ({ c with channels := c.channels ++ [⟨.shell, serial⟩] }, x, .holding ⟨.shell, serial⟩)
  | (c, x, .holding line) =>
    match x.send line request with
    | (.ok true, x) => (c, x, .answered (.ok ()))
    | (.ok false, x) => (c, x, .answered (.error (.channelNotAlive .shell)))
    | (.error failure, x) => (c, x, .answered (.error failure))
  | (c, x, .answered result) =>
    match c.settleExecute request result with
    | (result, c) => (c, x, .returned result)
  | (c, x, .returned result) => (c, x, .returned result)

/-- What is left of a call once it holds a line. -/
theorem advance_advance_holding {c c' : Client} {x x' : Exchange} {line : LineId} (request : Message)
    (opened : c.lineTo x .shell = (.ok line, c', x')) :
    advance request (advance request (c', x', .holding line)) =
      let sent := c.sendOnShell x request
      ((sent.2.1.settleExecute request sent.1).2, sent.2.2,
        .returned (sent.2.1.settleExecute request sent.1).1) := by
  unfold sendOnShell
  rcases x'.send_cases line request with ⟨x'', sent, -⟩ | sent | ⟨failure, sent⟩ <;>
    simp only [advance, opened, sent]

/-- A call that nobody interrupts takes these steps. -/
theorem iterate_advance (c : Client) (x : Exchange) (stamp : Stamp) (code : String) :
    (advance (c.beginExecute stamp code).1)^[5] ((c.beginExecute stamp code).2, x, .logged) =
      ((c.execute x stamp code).2.1, (c.execute x stamp code).2.2, .returned (c.execute x stamp code).1) := by
  unfold execute
  simp only [Function.iterate_succ, Function.iterate_zero, Function.comp_apply, id]
  generalize (c.beginExecute stamp code).1 = request
  generalize (c.beginExecute stamp code).2 = c
  cases held : c.channels.find? (·.kind = .shell) with
  | some line =>
    have found : advance request (c, x, .logged) = (c, x, .holding line) := by simp only [advance, held]
    have opened : c.lineTo x .shell = (.ok line, c, x) := by simp only [lineTo, held]
    rw [found, advance_advance_holding request opened]
    simp only [advance]
  | none =>
    have missing : advance request (c, x, .logged) = (c, x, .opening) := by simp only [advance, held]
    rw [missing]
    cases created : x.create .shell with
    | mk result x' =>
      cases result with
      | error failure =>
        have failed : advance request (c, x, .opening) = (c, x', .answered (.error failure)) := by
          simp only [advance, created]
        have refused : c.sendOnShell x request = (.error failure, c, x') := by
          simp only [sendOnShell, lineTo, held, created]
        rw [failed, refused]
        simp only [advance]
      | ok serial =>
        have taken : advance request (advance request (c, x, .opening)) =
            ({ c with channels := c.channels ++ [⟨.shell, serial⟩] }, x', .holding ⟨.shell, serial⟩) := by
          simp only [advance, created, held]
        have opened : c.lineTo x .shell =
            (.ok ⟨.shell, serial⟩, { c with channels := c.channels ++ [⟨.shell, serial⟩] }, x') := by
          simp only [lineTo, held, created]
        rw [taken, advance_advance_holding request opened]

/-- A step that neither sends the request of a call nor takes note of what came of that. -/
structure Quiet (before after : Client × Exchange × Stage) : Prop where
  log : after.1.log = before.1.log
  handed : ∀ line id, after.2.1.handed line id = before.2.1.handed line id
  taken : after.2.2.Taken ↔ before.2.2.Taken
  holding : ∀ line, after.2.2 = .holding line → line.kind = .shell ∨ before.2.2 = .holding line
  returned : ∀ result, after.2.2 = .returned result → before.2.2 = .returned result

section advance

variable (request : Message) (c : Client) (x : Exchange) (stage : Stage)

/-- A call hands its request to the line that it holds, or takes note of what came of that, or does neither. -/
theorem advance_cases :
    (stage.happening? request = none ∧ Quiet (c, x, stage) (advance request (c, x, stage))) ∨
    (∃ line x', stage = .holding line ∧ advance request (c, x, stage) = (c, x', .answered (.ok ())) ∧
      ∀ other id, x'.handed other id =
        x.handed other id ++ if other = line ∧ request.msgId = id then [request] else []) ∨
    ∃ result, stage = .answered result := by
  have shell {found : LineId} (held : c.channels.find? (·.kind = .shell) = some found) : found.kind = .shell := by
    simpa using List.find?_some held
  cases stage with
  | logged =>
    refine Or.inl ⟨rfl, ?_⟩
    simp only [advance]
    split
    · rename_i held
      refine ⟨rfl, fun _ _ => rfl, Iff.rfl, ?_, ?_⟩ <;> intro _ becomes <;> cases becomes
      exact Or.inl (shell held)
    · refine ⟨rfl, fun _ _ => rfl, Iff.rfl, ?_, ?_⟩ <;> intro _ becomes <;> cases becomes
  | opening =>
    refine Or.inl ⟨rfl, ?_⟩
    have kept := x.handed_create .shell
    simp only [advance]
    split
    · rename_i created
      rw [created] at kept
      refine ⟨rfl, kept, Iff.rfl, ?_, ?_⟩ <;> intro _ becomes <;> cases becomes
    · rename_i created
      rw [created] at kept
      refine ⟨rfl, kept, Iff.rfl, ?_, ?_⟩ <;> intro _ becomes <;> cases becomes
  | opened serial =>
    refine Or.inl ⟨rfl, ?_⟩
    simp only [advance]
    split
    · rename_i held
      refine ⟨rfl, fun _ _ => rfl, Iff.rfl, ?_, ?_⟩ <;> intro _ becomes <;> cases becomes
      exact Or.inl (shell held)
    · refine ⟨rfl, fun _ _ => rfl, Iff.rfl, ?_, ?_⟩ <;> intro _ becomes <;> cases becomes
      exact Or.inl rfl
  | holding line =>
    rcases x.send_cases line request with ⟨x', sent, handed⟩ | sent | ⟨failure, sent⟩
    · refine Or.inr (Or.inl ⟨line, x', rfl, ?_, handed⟩)
      simp only [advance, sent]
    · refine Or.inl ⟨rfl, ?_⟩
      simp only [advance, sent]
      refine ⟨rfl, fun _ _ => rfl, Iff.rfl, ?_, ?_⟩ <;> intro _ becomes <;> cases becomes
    · refine Or.inl ⟨rfl, ?_⟩
      simp only [advance, sent]
      refine ⟨rfl, fun _ _ => rfl, Iff.rfl, ?_, ?_⟩ <;> intro _ becomes <;> cases becomes
  | answered result => exact Or.inr (Or.inr ⟨result, rfl⟩)
  | returned result => exact Or.inl ⟨rfl, rfl, fun _ _ => rfl, Iff.rfl, fun _ => Or.inr, fun _ => id⟩

theorem advance_log : (advance request (c, x, stage)).1.log =
    ((stage.happening? request).bind Happening.logStep?).toList.foldl ExecutionLog.apply c.log := by
  rcases advance_cases request c x stage with ⟨silent, quiet⟩ | ⟨line, x', rfl, sent, -⟩ | ⟨result, rfl⟩
  · rw [silent]
    exact quiet.log
  · rw [sent]
    rfl
  · cases result <;> rfl

/-- A call touches no entry but that of its own request. -/
theorem advance_others (good : c.log.Indexed) : (advance request (c, x, stage)).1.log.ids = c.log.ids ∧
    ∀ id, id ≠ request.msgId → (advance request (c, x, stage)).1.log.get? id = c.log.get? id := by
  rcases advance_cases request c x stage with ⟨-, quiet⟩ | ⟨line, x', rfl, sent, -⟩ | ⟨result, rfl⟩
  · rw [quiet.log]
    exact ⟨rfl, fun _ _ => rfl⟩
  · rw [sent]
    exact ⟨rfl, fun _ _ => rfl⟩
  · cases result with
    | ok taken => exact ⟨rfl, fun _ _ => rfl⟩
    | error failure =>
      refine ⟨good.ids_update ExecutionEntry.id_abandon request.msgId, fun id other => ?_⟩
      have found := good.get?_update ExecutionEntry.id_abandon request.msgId id
      simp only [if_neg other, Option.map_id'] at found
      exact found

end advance

end Client

namespace ExecutionLog

theorem Indexed.pendingCount_insert {log : ExecutionLog} (good : log.Indexed) {request : Message}
    (untracked : request.msgId ∉ log.ids) : (log.insert request).pendingCount = log.pendingCount + 1 := by
  rw [good.insert_untracked untracked, pendingCount, List.countP_append]
  rfl

/-- A request that is given up at once is never counted. -/
theorem Indexed.pendingCount_abandon_insert {log : ExecutionLog} (good : log.Indexed) {request : Message}
    (untracked : request.msgId ∉ log.ids) :
    ((log.insert request).abandon request.msgId).pendingCount = log.pendingCount := by
  have others : log.entries.map (fun e => if e.id = request.msgId then e.abandon else e) = log.entries := by
    refine (List.map_congr_left fun e tracked => ?_).trans (List.map_id _)
    exact if_neg fun named => untracked (List.mem_map.mpr ⟨e, tracked, named⟩)
  rw [abandon, (good.insert request).update_eq, good.insert_untracked untracked]
  simp only [ExecutionLog.mapEntry, List.map_append, others, pendingCount, List.countP_append, List.map_singleton,
    ExecutionEntry.id_new, if_true]
  rfl

end ExecutionLog

namespace Client

theorem execute_cases (c : Client) (x : Exchange) (stamp : Stamp) (code : String) :
    let request := (c.beginExecute stamp code).1
    (∃ id, (c.execute x stamp code).1 = .ok id ∧ (c.execute x stamp code).2.1.log = c.log.insert request) ∨
      ∃ failure, (c.execute x stamp code).1 = .error failure ∧
        (c.execute x stamp code).2.1.log = (c.log.insert request).abandon request.msgId := by
  intro request
  have log := ((c.beginExecute stamp code).2.sendOnShell_undisturbed x request).log
  have logged : (c.beginExecute stamp code).2.log = c.log.insert request := rfl
  rw [logged] at log
  cases sent : ((c.beginExecute stamp code).2.sendOnShell x request).1 with
  | ok taken =>
    refine Or.inl ⟨request.msgId, ?_⟩
    simp only [execute, settleExecute]
    rw [sent]
    exact ⟨rfl, log⟩
  | error failure =>
    refine Or.inr ⟨failure, ?_⟩
    simp only [execute, settleExecute]
    rw [sent]
    exact ⟨rfl, congrArg (·.abandon request.msgId) log⟩

/-- What a call that nobody interrupts does to the number of pending requests. -/
theorem pendingCount_execute {c : Client} (good : c.log.Indexed) (x : Exchange) {stamp : Stamp} (code : String)
    (untracked : stamp.id ∉ c.log.ids) :
    (c.execute x stamp code).2.1.log.pendingCount =
      c.log.pendingCount + if (c.execute x stamp code).1.isOk then 1 else 0 := by
  rcases c.execute_cases x stamp code with ⟨id, answered, log⟩ | ⟨failure, failed, log⟩
  · rw [answered, log]
    exact good.pendingCount_insert untracked
  · rw [failed, log]
    exact good.pendingCount_abandon_insert untracked

/-- A step of others while a call of an id is under way. Nobody clears the log, and nobody else makes a message of
that id. -/
structure Aside (id : String) (s : Situation) (happening : Option Happening) (s' : Situation) : Prop where
  step : Client.Step s happening s'
  kept : happening ≠ some .cleared
  unasked : ∀ other, happening = some (.requested other) → other.msgId ≠ id
  unsent : ∀ line, s'.exchange.handed line id = s.exchange.handed line id

/-- A call that asks the kernel to run code, and what others do in the meantime and afterwards, with all that has
happened to the log since the request was logged. -/
inductive Executing (start : Situation) (stamp : Stamp) (code : String) :
    List Happening → Situation → Stage → Prop
  | log : Executing start stamp code []
      ⟨(start.client.beginExecute stamp code).2, start.exchange, start.calls⟩ .logged
  | own {trace c x calls stage} : Executing start stamp code trace ⟨c, x, calls⟩ stage →
      Executing start stamp code
        (trace ++ (stage.happening? (start.client.beginExecute stamp code).1).toList)
        ⟨(advance (start.client.beginExecute stamp code).1 (c, x, stage)).1,
          (advance (start.client.beginExecute stamp code).1 (c, x, stage)).2.1, calls⟩
        (advance (start.client.beginExecute stamp code).1 (c, x, stage)).2.2
  | aside {trace s happening s' stage} : Executing start stamp code trace s stage →
      Aside stamp.id s happening s' → Executing start stamp code (trace ++ happening.toList) s' stage

namespace Executing

variable {start : Situation} {stamp : Stamp} {code : String} {trace : List Happening} {s : Situation} {stage : Stage}

/-- The log of the client is that of its history, to which the call belongs. -/
theorem log_eq {session : Session} {owned : Bool} {before : List Happening} (run : Run session owned before start)
    (call : Executing start stamp code trace s stage) :
    s.client.log =
      .after (logHistory (before ++ .requested (start.client.beginExecute stamp code).1 :: trace)) := by
  have longer (trace : List Happening) (happening : Option Happening) :
      ExecutionLog.after (logHistory (before ++ .requested (start.client.beginExecute stamp code).1 ::
          (trace ++ happening.toList))) =
        (happening.bind Happening.logStep?).toList.foldl ExecutionLog.apply
          (.after (logHistory (before ++ .requested (start.client.beginExecute stamp code).1 :: trace))) := by
    cases happening with
    | none => simp
    | some happening =>
      rw [Option.toList_some, ← List.cons_append, ← List.append_assoc, after_logHistory_snoc]
      rfl
  -- every step does to the log what it adds to the trace
  induction call with
  | log =>
    rw [after_logHistory_snoc, ← run.log_eq]
    rfl
  | @own trace c x calls stage call ih =>
    rw [longer, ← ih]
    exact advance_log ..
  | aside call aside ih =>
    rw [longer, ← ih]
    exact aside.step.effect.log

theorem kept (call : Executing start stamp code trace s stage) :
    .cleared ∉ trace ∧ ∀ other, .requested other ∈ trace → other.msgId ≠ stamp.id := by
  induction call with
  | log => simp
  | @own trace c x calls stage call ih =>
    cases stage with
    | answered result => cases result <;> simpa [Stage.happening?, Happening.ofResult] using ih
    | _ => simpa [Stage.happening?] using ih
  | @aside trace s happening s' stage call aside ih =>
    constructor
    · intro cleared
      rcases List.mem_append.mp cleared with old | new
      · exact ih.1 old
      · exact aside.kept (Option.mem_toList.mp new)
    · intro other requested
      rcases List.mem_append.mp requested with old | new
      · exact ih.2 other old
      · exact aside.unasked other (Option.mem_toList.mp new)

/-- The request of the call lives in the log from the beginning of the call on. -/
theorem life (call : Executing start stamp code trace s stage) (before : List Happening) :
    IsLife (logHistory (before ++ .requested (start.client.beginExecute stamp code).1 :: trace)) stamp.id
      (start.client.beginExecute stamp code).1 (logHistory trace) := by
  obtain ⟨kept, unasked⟩ := call.kept
  refine ⟨rfl, ⟨logHistory before, List.filterMap_append⟩, fun cleared => ?_, fun other requested => ?_⟩
  · obtain ⟨happening, here, does⟩ := mem_logHistory.mp cleared
    cases Happening.of_logStep? does
    exact kept here
  · obtain ⟨happening, here, does⟩ := mem_logHistory.mp requested
    cases Happening.of_logStep? does
    exact unasked other here

theorem holding (call : Executing start stamp code trace s stage) {line : LineId} (holds : stage = .holding line) :
    line.kind = .shell := by
  induction call with
  | log => cases holds
  | @own trace c x calls stage call ih =>
    rcases advance_cases (start.client.beginExecute stamp code).1 c x stage with
      ⟨-, quiet⟩ | ⟨there, x', rfl, sent, -⟩ | ⟨result, rfl⟩
    · exact (quiet.holding line holds).elim id ih
    · rw [sent] at holds
      cases holds
    · cases holds
  | aside call aside ih => exact ih holds

/-- The request has been handed to no line before one has taken it, and to that line alone afterwards. -/
theorem handed (unsent : ∀ line, start.exchange.handed line stamp.id = [])
    (call : Executing start stamp code trace s stage) :
    (¬stage.Taken → ∀ line, s.exchange.handed line stamp.id = []) ∧
      (stage.Taken → ∃ line, line.kind = .shell ∧
        s.exchange.handed line stamp.id = [(start.client.beginExecute stamp code).1] ∧
        ∀ other, other ≠ line → s.exchange.handed other stamp.id = []) := by
  induction call with
  | log => exact ⟨fun _ => unsent, fun taken => taken.elim⟩
  | @own trace c x calls stage call ih =>
    rcases advance_cases (start.client.beginExecute stamp code).1 c x stage with
      ⟨-, quiet⟩ | ⟨line, x', rfl, sent, handed⟩ | ⟨result, rfl⟩
    · simp only [quiet.taken, quiet.handed]
      exact ih
    · -- no line has had the request until now, so this one alone has it
      have empty := ih.1 fun taken => taken.elim
      rw [sent]
      refine ⟨fun untaken => absurd trivial untaken, fun _ => ⟨line, call.holding rfl, ?_, fun other differs => ?_⟩⟩
      · rw [handed, empty, if_pos ⟨rfl, rfl⟩, List.nil_append]
      · rw [handed, empty, if_neg fun both => differs both.1, List.nil_append]
    · cases result <;> exact ih
  | aside call aside ih =>
    simp only [aside.unsent]
    exact ih

/-- A call comes back with the id of its request, or with a failure that has given it up. -/
theorem returned (call : Executing start stamp code trace s stage) {result : Except Failure String}
    (ends : stage = .returned result) :
    result = .ok stamp.id ∨ ∃ failure, result = .error failure ∧ .refused stamp.id ∈ trace := by
  induction call with
  | log => cases ends
  | @own trace c x calls stage call ih =>
    rcases advance_cases (start.client.beginExecute stamp code).1 c x stage with
      ⟨silent, quiet⟩ | ⟨line, x', rfl, sent, -⟩ | ⟨result, rfl⟩
    · rw [silent, Option.toList_none, List.append_nil]
      exact ih (quiet.returned _ ends)
    · rw [sent] at ends
      cases ends
    · cases result with
      | ok taken =>
        cases ends
        exact Or.inl rfl
      | error failure =>
        cases ends
        exact Or.inr ⟨failure, rfl, List.mem_append_right _ (List.mem_singleton_self _)⟩
  | aside call aside ih =>
    rcases ih ends with ok | ⟨failure, failed, refused⟩
    · exact Or.inl ok
    · exact Or.inr ⟨failure, failed, List.mem_append_left _ refused⟩

/-- What the log holds of a request at any moment since the call has logged it. -/
theorem outcome {session : Session} {owned : Bool} {before : List Happening} (run : Run session owned before start)
    (call : Executing start stamp code trace s stage) :
    ∃ e, s.client.log.get? stamp.id = some e ∧
      Outcome stamp.id (start.client.beginExecute stamp code).1 (logHistory trace) e := by
  rw [call.log_eq run]
  exact ExecutionLog.outcome_of_life (call.life before)

/-- A call logs its request before it hands it to the shell line, once and to no other line, so no reply is lost. If
the call fails, nothing has been handed over and its request is given up. The steps of the call touch no other request,
and if nobody interrupts it, the number of pending requests grows by one or, if it fails, stays. -/
theorem accounts_for_request {session : Session} {owned : Bool} {before : List Happening}
    (run : Run session owned before start) (untracked : stamp.id ∉ start.client.log.ids)
    (unsent : ∀ line, start.exchange.handed line stamp.id = [])
    (call : Executing start stamp code trace s stage) :
    let request := (start.client.beginExecute stamp code).1
    let logged := (start.client.beginExecute stamp code).2
    (∃ e, s.client.log.get? request.msgId = some e ∧ e.request = request ∧
      e.responses = (heardIn trace).filter (·.belongsTo request.msgId) ∧
      ∀ failure, stage = .returned (.error failure) → e.abandoned = true ∧ e.isPending = false) ∧
    (∀ id, stage = .returned (.ok id) → id = request.msgId) ∧
    (¬stage.Taken → ∀ line, s.exchange.handed line request.msgId = []) ∧
    (stage.Taken → ∃ line, line.kind = .shell ∧ s.exchange.handed line request.msgId = [request] ∧
      ∀ other, other ≠ line → s.exchange.handed other request.msgId = []) ∧
    (logged.log.ids = start.client.log.ids ++ [request.msgId] ∧
      ∀ id, id ≠ request.msgId → logged.log.get? id = start.client.log.get? id) ∧
    ((advance request (s.client, s.exchange, stage)).1.log.ids = s.client.log.ids ∧
      ∀ id, id ≠ request.msgId →
        (advance request (s.client, s.exchange, stage)).1.log.get? id = s.client.log.get? id) ∧
    ∃ c x result, start.client.execute start.exchange stamp code = (result, c, x) ∧
      (advance request)^[5] (logged, start.exchange, .logged) = (c, x, .returned result) ∧
      c.log.pendingCount = start.client.log.pendingCount + if result.isOk then 1 else 0 := by
  intro request logged
  have started : start.client.log.Indexed := by
    rw [run.log_eq]
    exact ExecutionLog.after_indexed _
  have good : s.client.log.Indexed := by
    rw [call.log_eq run]
    exact ExecutionLog.after_indexed _
  obtain ⟨unhanded, taken⟩ := call.handed unsent
  refine ⟨?_, fun id ends => ?_, unhanded, taken, ⟨?_, fun id other => ?_⟩, advance_others _ _ _ _ good,
    ?_⟩
  · obtain ⟨e, found, known⟩ := call.outcome run
    refine ⟨e, found, known.request_eq, known.responses_eq.trans (responses_logHistory trace stamp.id),
      fun failure ends => ?_⟩
    obtain ⟨_, -, refused⟩ := (call.returned ends).resolve_left nofun
    have abandoned : e.abandoned = true :=
      known.abandoned_iff.mpr (Or.inl (mem_logHistory.mpr ⟨_, refused, rfl⟩))
    exact ⟨abandoned, by simp [ExecutionEntry.isPending, abandoned]⟩
  · rcases call.returned ends with ok | ⟨failure, failed, -⟩
    · exact Except.ok.inj ok
    · cases failed
  · exact (started.ids_insert request).trans (if_neg untracked)
  · exact (started.get?_insert request id).trans (if_neg other)
  · exact ⟨_, _, _, rfl, start.client.iterate_advance start.exchange stamp code,
      pendingCount_execute started start.exchange code untracked⟩

/-- A call whose request the shell line has just taken. -/
def halfway : Client × Exchange × Stage :=
  let begun := shellOnly.2.1.beginExecute ⟨"request", ""⟩ "x"
  advance begun.1 (advance begun.1 (begun.2, shellOnly.2.2, .logged))

/-- The reply arrives and is handled after the shell line has taken the request, before the call knows that. -/
theorem early_reply_recorded : ∃ s e,
    Executing ⟨shellOnly.2.1, shellOnly.2.2, []⟩ ⟨"request", ""⟩ "x"
      [.heard .shell success, .accepted "request"] s (.returned (.ok "request")) ∧
      s.client.log.get? "request" = some e ∧ e.responses = [success] := by
  have unsent : ∀ line, shellOnly.2.2.handed line "request" = [] := by
    intro line
    obtain ⟨l, lines, sent⟩ : ∃ l, shellOnly.2.2.lines = [(⟨.shell, 0⟩, l)] ∧
        l.sent.filter (·.msgId = "request") = [] := ⟨_, rfl, rfl⟩
    unfold Exchange.handed Exchange.line
    rw [lines, List.lookup_cons]
    by_cases here : line = ⟨.shell, 0⟩
    · simpa [here] using sent
    · rw [beq_false_of_ne here]
      rfl
  have sent : Executing ⟨shellOnly.2.1, shellOnly.2.2, []⟩ ⟨"request", ""⟩ "x" []
      ⟨halfway.1, halfway.2.1, []⟩ halfway.2.2 := Executing.log.own.own
  have arrives : halfway.2.1.turns ≤ (halfway.2.1.arrive shellLoop.line (.ok success)).turns := le_rfl
  have arrived := sent.aside ⟨.elsewhere arrives, nofun, nofun, fun line =>
    Exchange.handed_arrive _ shellLoop.line (.ok success) line "request"⟩
  have member : shellLoop ∈ halfway.1.loops := by decide
  have taken : (halfway.2.1.arrive shellLoop.line (.ok success)).take shellLoop.line = (some (.ok success), _) := rfl
  have heard := arrived.aside ⟨.hear member taken, nofun, nofun, fun line =>
    Exchange.handed_take taken line "request"⟩
  have settled := heard.own
  obtain ⟨⟨e, found, -, responses, -⟩, -⟩ := settled.accounts_for_request shellOnly_run (by decide) unsent
  exact ⟨_, e, settled, found, responses⟩

end Executing
end Client
end KernelLink
