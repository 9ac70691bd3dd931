import KernelLink.Proofs.Client.Operations

namespace KernelLink

/-- After such a happening nobody waits for the request of that id as it was logged before. -/
def Happening.Ends (id : String) : Happening → Prop
  | .requested request => request.msgId = id
  | .accepted _ => False
  | .refused other => other = id
  | .heard _ _ => False
  | .left _ => True
  | .cleared => True

/-- The shell line has taken a request that was logged when the last loop to end had ended already,
and the request has been neither forgotten nor replaced. -/
def Stranded (trace : List Happening) : Prop :=
  ∃ earlier request later, trace = earlier ++ .requested request :: later ∧
    .accepted request.msgId ∈ later ∧ ∀ happening ∈ later, ¬happening.Ends request.msgId

theorem Message.logStep?_cases (m : Message) : m.logStep? = none ∨
    (∃ parent status count, m.logStep? = some (.recordReply parent m status count)) ∨
    ∃ parent, m.logStep? = some (.recordOutput parent m) := by
  unfold logStep?
  cases m.parentId with
  | none => exact Or.inl rfl
  | some parent =>
    cases m.classify with
    | executeReply reply => exact Or.inr (Or.inl ⟨parent, _, _, rfl⟩)
    | data => exact Or.inr (Or.inr ⟨parent, rfl⟩)
    | shutdownReply _ => exact Or.inl rfl
    | status _ => exact Or.inl rfl
    | other => exact Or.inl rfl

/-- A step of the log tells what has happened. -/
theorem Happening.of_logStep? {happening : Happening} {step : LogStep}
    (does : happening.logStep? = some step) :
    match step with
    | .insert request => happening = .requested request
    | .recordOutput _ m => ∃ kind, happening = .heard kind m
    | .recordReply _ m _ _ => ∃ kind, happening = .heard kind m
    | .abandon id => happening = .refused id
    | .abandonPending => ∃ loop, happening = .left loop
    | .clear => happening = .cleared := by
  cases happening with
  | requested request => cases does; rfl
  | accepted id => cases does
  | refused id => cases does; rfl
  | heard kind m =>
    rcases m.logStep?_cases with nothing | ⟨parent, status, count, reply⟩ | ⟨parent, output⟩
    · cases nothing.symm.trans does
    · cases reply.symm.trans does
      exact ⟨kind, rfl⟩
    · cases output.symm.trans does
      exact ⟨kind, rfl⟩
  | left loop => cases does; exact ⟨loop, rfl⟩
  | cleared => cases does; rfl

theorem mem_logHistory {trace : List Happening} {step : LogStep} :
    step ∈ logHistory trace ↔ ∃ happening ∈ trace, happening.logStep? = some step := List.mem_filterMap

/-- An unanswered life of the log begins where its request was logged, and nothing has ended it since. -/
theorem exists_requested_of_unanswered {trace : List Happening} {id : String} {request : Message}
    {rest : List LogStep} (life : IsLife (logHistory trace) id request rest) (unanswered : Unanswered id rest) :
    ∃ earlier later, trace = earlier ++ .requested request :: later ∧
      ∀ happening ∈ later, ¬happening.Ends request.msgId := by
  obtain ⟨before, split⟩ := life.split
  obtain ⟨first, second, rfl, -, inserted⟩ := List.filterMap_eq_append_iff.mp split
  obtain ⟨silent, happening, later, rfl, -, does, rfl⟩ := List.filterMap_eq_cons_iff.mp inserted
  cases Happening.of_logStep? does
  cases life.named
  refine ⟨first ++ silent, later, (List.append_assoc ..).symm, fun happening member ends => ?_⟩
  cases happening with
  | requested other => exact life.last other (mem_logHistory.mpr ⟨_, member, rfl⟩) ends
  | accepted other => exact ends
  | refused other =>
    cases ends
    exact unanswered.kept (mem_logHistory.mpr ⟨_, member, rfl⟩)
  | heard kind m => exact ends
  | left loop => exact unanswered.unswept (mem_logHistory.mpr ⟨_, member, rfl⟩)
  | cleared => exact life.kept (mem_logHistory.mpr ⟨_, member, rfl⟩)

/-- A request that nothing has ended since it was logged is alive in the log, and nobody has given it up. -/
theorem life_of_not_ended {earlier later : List Happening} {request : Message}
    (kept : ∀ happening ∈ later, ¬happening.Ends request.msgId) :
    IsLife (logHistory (earlier ++ .requested request :: later)) request.msgId request (logHistory later) ∧
      .abandon request.msgId ∉ logHistory later ∧ .abandonPending ∉ logHistory later := by
  have tells {step : LogStep} (member : step ∈ logHistory later) :
      ∃ happening : Happening, happening.logStep? = some step ∧ ¬happening.Ends request.msgId := by
    obtain ⟨happening, here, does⟩ := mem_logHistory.mp member
    exact ⟨happening, does, kept happening here⟩
  refine ⟨⟨rfl, ⟨logHistory earlier, List.filterMap_append⟩, fun member => ?_, fun other member => ?_⟩,
    fun member => ?_, fun member => ?_⟩
  · obtain ⟨happening, does, goesOn⟩ := tells member
    cases Happening.of_logStep? does
    exact goesOn trivial
  · obtain ⟨happening, does, goesOn⟩ := tells member
    cases Happening.of_logStep? does
    exact goesOn
  · obtain ⟨happening, does, goesOn⟩ := tells member
    cases Happening.of_logStep? does
    exact goesOn rfl
  · obtain ⟨happening, does, goesOn⟩ := tells member
    obtain ⟨loop, rfl⟩ := Happening.of_logStep? does
    exact goesOn trivial

/-- The last happening of a longer trace is behind every place at which the trace is cut. -/
theorem snoc_eq_append {trace earlier later : List Happening} {happening : Happening}
    (split : trace ++ [happening] = earlier ++ later) :
    later = [] ∨ ∃ rest, later = rest ++ [happening] ∧ trace = earlier ++ rest := by
  rcases List.eq_nil_or_concat later with rfl | ⟨rest, last, rfl⟩
  · exact Or.inl rfl
  · rw [List.concat_eq_append, ← List.append_assoc] at split
    obtain ⟨same, here⟩ := List.append_inj' split rfl
    cases List.singleton_inj.mp here
    exact Or.inr ⟨rest, List.concat_eq_append, same⟩

namespace Client

theorem loops_eq_nil {c : Client} : c.loops = [] ↔ c.loopIds = [] := List.map_eq_nil_iff.symm

/-- Loops go only when they end. -/
theorem Effect.loops_ne_nil {s s' : Situation} {happening : Option Happening} (effect : Effect s happening s')
    (kept : ∀ loop, happening ≠ some (.left loop)) (running : s.client.loops ≠ []) :
    s'.client.loops ≠ [] := by
  rw [Ne, loops_eq_nil] at running ⊢
  rcases effect.loops with ⟨loop, ended, _⟩ | ⟨_, ids | ⟨ids, _⟩⟩
  · exact absurd ended (kept loop)
  · rwa [ids]
  · rw [ids]
    simp

namespace Run

variable {session : Session} {owned : Bool} {trace : List Happening} {s : Situation}

/-- Whoever has heard something since the last loop ended is still running. -/
theorem loops_ne_nil_of_heard (run : Run session owned trace s) {earlier later : List Happening}
    (split : trace = earlier ++ later) (kept : ∀ loop, .left loop ∉ later) {kind : ChannelKind} {m : Message}
    (heard : .heard kind m ∈ later) : s.client.loops ≠ [] := by
  induction run generalizing later with
  | new x =>
    rw [(List.append_eq_nil_iff.mp split.symm).2] at heard
    exact absurd heard List.not_mem_nil
  | @next trace s happening s' run step ih =>
    cases happening with
    | none =>
      rw [Option.toList_none, List.append_nil] at split
      exact step.effect.loops_ne_nil (by simp) (ih split kept heard)
    | some happening =>
      rcases snoc_eq_append split with rfl | ⟨rest, rfl, before⟩
      · exact absurd heard List.not_mem_nil
      have still : ∀ loop, some happening ≠ some (.left loop) := fun loop same =>
        kept loop (List.mem_append_right _ (by rw [Option.some.inj same]; exact List.mem_singleton_self _))
      refine step.effect.loops_ne_nil still ?_
      rcases List.mem_append.mp heard with old | last
      · exact ih before (fun loop ended => kept loop (List.mem_append_left _ ended)) old
      · exact step.effect.heard kind m (congrArg some (List.mem_singleton.mp last).symm)

/-- A call whose request has been logged is under way or has come back with an answer. -/
theorem settled (run : Run session owned trace s) {earlier later : List Happening} {request : Message}
    (split : trace = earlier ++ .requested request :: later) :
    (∃ call ∈ s.calls, call.request.msgId = request.msgId) ∨ .accepted request.msgId ∈ later ∨
      .refused request.msgId ∈ later := by
  induction run generalizing later with
  | new x => cases (List.append_eq_nil_iff.mp split.symm).2
  | @next trace s happening s' run step ih =>
    have effect := step.effect
    have goOn {before : List Happening} (known : (∃ call ∈ s.calls, call.request.msgId = request.msgId) ∨
        .accepted request.msgId ∈ before ∨ .refused request.msgId ∈ before) :
        (∃ call ∈ s'.calls, call.request.msgId = request.msgId) ∨
          .accepted request.msgId ∈ before ++ happening.toList ∨
          .refused request.msgId ∈ before ++ happening.toList := by
      rcases known with ⟨call, member, named⟩ | accepted | refused
      · rcases effect.calls call member with ⟨after, still, same⟩ | accepted | refused
        · exact Or.inl ⟨after, still, by rw [same, named]⟩
        · exact Or.inr (Or.inl (List.mem_append_right _ (by simp [accepted, named])))
        · exact Or.inr (Or.inr (List.mem_append_right _ (by simp [refused, named])))
      · exact Or.inr (Or.inl (List.mem_append_left _ accepted))
      · exact Or.inr (Or.inr (List.mem_append_left _ refused))
    cases happening with
    | none =>
      rw [Option.toList_none, List.append_nil] at split
      simpa using goOn (ih split)
    | some happening =>
      rcases snoc_eq_append split with none | ⟨rest, same, before⟩
      · cases none
      -- either this step has logged the request, or the call is known from the steps before
      cases rest with
      | nil =>
        obtain ⟨rfl, rfl⟩ := List.cons.inj same
        obtain ⟨call, member, here⟩ := effect.requested request rfl
        exact Or.inl ⟨call, member, congrArg Message.msgId here⟩
      | cons first rest =>
        obtain ⟨rfl, rfl⟩ := List.cons.inj same
        exact goOn (ih before)

/-- The log of a client without loops and calls has a pending entry if a request is stranded, and only then. -/
theorem hasPending_iff_stranded (run : Run session owned trace s) (idle : s.client.loops = [])
    (quiet : s.calls = []) : s.client.log.hasPending = true ↔ Stranded trace := by
  rw [run.log_eq, ExecutionLog.hasPending_iff]
  constructor
  · rintro ⟨id, request, rest, life, unanswered⟩
    obtain ⟨earlier, later, split, kept⟩ := exists_requested_of_unanswered life unanswered
    refine ⟨earlier, request, later, split, ?_, kept⟩
    rcases run.settled split with ⟨call, member, _⟩ | accepted | refused
    · rw [quiet] at member
      exact absurd member List.not_mem_nil
    · exact accepted
    · exact absurd rfl (kept _ refused)
  · rintro ⟨earlier, request, later, split, -, kept⟩
    obtain ⟨life, known, unswept⟩ := life_of_not_ended kept
    have unreplied : ¬Replied request.msgId (fun _ => True) (logHistory later) := by
      rintro ⟨m, status, count, member, -⟩
      obtain ⟨happening, here, does⟩ := mem_logHistory.mp member
      obtain ⟨kind, rfl⟩ := Happening.of_logStep? does
      -- who hears the reply is running, and no loop has ended since the request was logged
      have cut : trace = (earlier ++ [.requested request]) ++ later := by
        rw [split, List.append_assoc, List.singleton_append]
      exact run.loops_ne_nil_of_heard cut (fun loop ended => kept _ ended trivial) here idle
    exact ⟨request.msgId, request, logHistory later, split ▸ life, unreplied, known, unswept⟩

end Run

/-- Nobody but a loop gives up what is pending when a client is stopped. -/
theorem hasPending_joinLoops (c : Client) :
    c.joinLoops.log.hasPending = (c.loops.isEmpty && c.log.hasPending) := by
  unfold joinLoops
  rcases List.eq_nil_or_concat c.loops with none | ⟨loops, last, some⟩
  · rw [none]
    rfl
  · rw [some, List.concat_eq_append, List.foldl_append, List.foldl_cons, List.foldl_nil, leave,
      ExecutionLog.hasPending_abandonPending]
    simp

theorem stop_undisturbed (c : Client) (x : Exchange) :
    ((c.beginStop.stopLines x).1.stopPulse (c.beginStop.stopLines x).2).1.loops = c.loops ∧
      ((c.beginStop.stopLines x).1.stopPulse (c.beginStop.stopLines x).2).1.log = c.log :=
  ⟨(stopPulse_undisturbed ..).loops, (stopPulse_undisturbed ..).log⟩

theorem hasPending_stop (c : Client) (x : Exchange) :
    (c.stop x).1.log.hasPending = (c.loops.isEmpty && c.log.hasPending) := by
  obtain ⟨loops, log⟩ := c.stop_undisturbed x
  rw [stop, hasPending_joinLoops, loops, log]

/-- Once no loop is running and no call is under way, what is pending is a request that the shell line took
while nobody was there to hear the answer. Stopping the client does not change that, and leaves nothing
pending otherwise. -/
theorem Run.pending_iff_stranded {session : Session} {owned : Bool} {trace : List Happening} {c : Client}
    {x : Exchange} (run : Run session owned trace ⟨c, x, []⟩) :
    (c.loops = [] → (c.log.hasPending = true ↔ Stranded trace)) ∧
      ((c.stop x).1.log.hasPending = true ↔ c.loops = [] ∧ Stranded trace) := by
  refine ⟨fun idle => run.hasPending_iff_stranded idle rfl, ?_⟩
  rw [hasPending_stop, Bool.and_eq_true, List.isEmpty_iff]
  exact and_congr_right fun idle => run.hasPending_iff_stranded idle rfl

/-- A session that signs nothing. -/
def plainSession : Session := ⟨"session", "user", ⟨[]⟩⟩

/-- A client whose shell line alone has been started. -/
def shellOnly : Except Failure Unit × Client × Exchange :=
  (Client.new plainSession false).start (.new false) ⟨true, false, false, false⟩ ⟨"info", ""⟩

/-- The loop of the shell line has received a failure. -/
def deafened : Client × Exchange :=
  shellOnly.2.1.takeArrival (shellOnly.2.2.arrive ⟨.shell, 0⟩ (.error (.protocol (.receiveOnly .shell))))
    ⟨0, ⟨.shell, 0⟩, none⟩

def lateRequest : Except Failure String × Client × Exchange :=
  deafened.1.execute deafened.2 ⟨"request", ""⟩ "x"

theorem shellOnly_run : Run plainSession false [] ⟨shellOnly.2.1, shellOnly.2.2, []⟩ :=
  (Run.new (.new false)).start ⟨true, false, false, false⟩ ⟨"info", ""⟩

/-- Stopping a client whose loop is running gives up what it has asked for. -/
theorem Run.request_given_up_at_stop :
    ((shellOnly.2.1.execute shellOnly.2.2 ⟨"request", ""⟩ "x").2.1.stop
      (shellOnly.2.1.execute shellOnly.2.2 ⟨"request", ""⟩ "x").2.2).1.log.hasPending = false := by
  have asked := shellOnly_run.execute ⟨"request", ""⟩ "x"
  refine Bool.eq_false_iff.mpr fun pending => ?_
  exact absurd (asked.pending_iff_stranded.2.mp pending).1 (by decide)

/-- A request that is sent after a failure has ended the only loop is pending for good: the shell line still
takes it, and stopping the client gives nothing up. -/
theorem Run.late_request_stays_pending :
    (∃ trace, Run plainSession false trace ⟨lateRequest.2.1, lateRequest.2.2, []⟩) ∧
      lateRequest.1.toOption = some "request" ∧ lateRequest.2.1.loops = [] ∧
      lateRequest.2.1.log.hasPending = true ∧
      (lateRequest.2.1.stop lateRequest.2.2).1.log.hasPending = true := by
  have failed := shellOnly_run.silent
    (@Step.elsewhere _ _ (shellOnly.2.2.arrive ⟨.shell, 0⟩ (.error
      (.protocol (.receiveOnly .shell)))) _ le_rfl)
  have running : ⟨0, ⟨.shell, 0⟩, none⟩ ∈ shellOnly.2.1.loops := by decide
  have asked := (failed.takeArrival running).execute ⟨"request", ""⟩ "x"
  exact ⟨⟨_, asked⟩, by decide, by decide, by decide, by decide⟩

end Client
end KernelLink
