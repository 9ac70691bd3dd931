import KernelLink.Proofs.Manager.Tenure
import KernelLink.Proofs.Rehearsal.Passing

namespace KernelLink

namespace Control

/-- Who has been waited for is gone, and nothing else has changed. -/
theorem foldl_leave (loops : List Loop) (c : Control) :
    loops.foldl (fun c l => c.leave l.id) c =
      { c with loops := c.loops.filter fun k => k.id ∉ loops.map (·.id) } := by
  induction loops generalizing c with
  | nil => simp
  | cons l rest ih =>
    rw [List.foldl_cons, ih, leave]
    simp only [List.filter_filter, List.map_cons, List.mem_cons, not_or]
    congr 1
    exact List.filter_congr fun k _ => by simp [Bool.and_comm]

theorem join_eq (c : Control) : c.join = { c with loops := [] } := by
  unfold join
  rw [foldl_leave]
  congr 1
  refine List.filter_eq_nil_iff.mpr fun k here => ?_
  simpa using ⟨k, here, rfl⟩

/-- Who waits for all loops waits for the others once one has left. -/
theorem join_leave (c : Control) (loop : Nat) : (c.leave loop).join = c.join := by
  rw [join_eq, join_eq]
  rfl

theorem length_leave {c : Control} {loop : Loop} (member : loop ∈ c.loops) :
    (c.leave loop.id).loops.length < c.loops.length :=
  List.length_filter_lt_length_iff_exists.mpr ⟨loop, member, by simp⟩

end Control

namespace Scene

variable {Frame : Type} {reads : Signer → Frame → Except Failure Message} {s : Scene} {i : Nat} {c : Control}

theorem setParty_setParty (s : Scene) (i : Nat) (p p' : Party) (x x' : Exchange) :
    (s.setParty i p x).setParty i p' x' = s.setParty i p' x' := by
  simp [setParty, List.set_set]

/-- Once a watch has been told to end, its loops look around one after the other, and each of them leaves. -/
theorem course_leave (here : s.control? i = some c) (stopping : c.stopping = true)
    (idle : ∀ l ∈ c.loops, l.poll = none) :
    Course reads s [] (s.setParty i (.control c.join) s.exchange) := by
  induction left : c.loops.length using Nat.strong_induction_on generalizing c s with
  | _ n ih =>
    cases loops : c.loops with
    | nil =>
      have same : c.join = c := by rw [Control.join_eq, ← loops]
      rw [same]
      exact course_setWatch here (.refl c)
    | cons loop rest =>
      have member : loop ∈ c.loops := loops ▸ List.mem_cons_self ..
      have looks : Course reads s [] _ := .looks .begin here member (idle loop member)
      rw [c.lookAround_of_stopping stopping] at looks
      have there := control?_setWatch here (c.leave loop.id) s.exchange
      have fewer : (c.leave loop.id).loops.length < n := left ▸ Control.length_leave member
      have others := ih _ fewer there stopping (fun l kept => idle l (List.mem_filter.mp kept).1) rfl
      rw [Control.join_leave, setParty_setParty] at others
      exact looks.trans others

/-- The loops of a watch that has been told to end are no longer there once their polls have ended. -/
theorem course_join (here : s.control? i = some c) (stopping : c.stopping = true) :
    Course reads s [] (s.setParty i (.control c.join) s.exchange) := by
  have ended : Course reads s [] _ := course_setWatch here
    (c.lasting_map (f := fun l => { l with poll := none }) fun _ => ⟨rfl, rfl⟩)
  have there := control?_setWatch here { c with loops := c.loops.map fun l => { l with poll := none } } s.exchange
  have left : Course reads _ [] _ := course_leave there stopping fun l kept => by
    obtain ⟨old, -, rfl⟩ := List.mem_map.mp kept
    rfl
  have same : Control.join { c with loops := c.loops.map fun l => { l with poll := none } } = c.join := by
    rw [Control.join_eq, Control.join_eq]
  rw [same, setParty_setParty] at left
  exact ended.trans left

end Scene

namespace Premises

variable {p : Premises} {child : Nat} {q : KernelProcess}

theorem onProcess_eq {c : Child} (there : p.children[child]? = some c) (f : KernelProcess → KernelProcess) :
    p.onProcess child f = { p with children := p.children.set child { c with process := f c.process } } := by
  rw [onProcess, List.modify_eq_set_getElem?, there]
  rfl

/-- A process that is killed is told to end, and waited for. -/
theorem course_killProcess (here : p.process? child = some q) (budget : Nat) : ∃ heard,
    Course Scene.asArrived (p.onProcess child fun q => (q.kill (p.now + budget)).2) heard (p.kill child budget).2 := by
  obtain ⟨c, there, rfl⟩ := Option.map_eq_some_iff.mp here
  unfold Premises.kill
  rw [here, onProcess_eq there]
  simp only
  rcases killed : c.process.kill (p.now + budget) with ⟨_ | watch, q'⟩
  · -- a process that has exited is left as it is
    have same : q' = c.process := by
      unfold KernelProcess.kill at killed
      split at killed <;> cases killed
      rfl
    have still : p.children.set child c = p.children := by
      obtain ⟨bound, rfl⟩ := List.getElem?_eq_some_iff.mp there
      exact List.set_getElem_self bound
    rw [same, still]
    exact ⟨[], .refl p⟩
  · rw [← onProcess_eq there fun _ => q']
    exact course_awaitWatch _ child watch budget

theorem course_waitForExit (p : Premises) (child budget : Nat) :
    ∃ heard, Course Scene.asArrived p heard (p.waitForExit child budget).2 := by
  unfold waitForExit
  cases p.process? child with
  | none => exact ⟨[], .refl p⟩
  | some q =>
    simp only
    rcases q.watch (some (p.now + budget)) with ⟨watch, q'⟩
    obtain ⟨heard, waited⟩ := (p.onProcess child fun _ => q').course_awaitWatch child watch budget
    exact ⟨_, (course_onProcess p child fun _ => q').trans waited⟩

end Premises

namespace Supervision

variable {Frame : Type} {lag : Nat} {reads : Signer → Frame → Except Failure Message} {s t : Supervision}
  {moments : List (Moment Frame)} {stage : Stage}

/-- What the manager does is a step that nothing else comes with. -/
theorem Shutdown.goOn {t' : Supervision} {stage' : Stage} (shutdown : Shutdown lag reads s moments t stage)
    (step : Step lag reads t stage [] t' stage') : Shutdown lag reads s moments t' stage' := by
  have next := shutdown.next step
  rwa [List.append_nil] at next

theorem Shutdown.waitUntil (shutdown : Shutdown lag reads s moments t stage) (later : Nat)
    (punctual : stage.Punctual lag (max t.premises.now later)) :
    Shutdown lag reads s moments { t with premises := t.premises.waitUntil later } stage :=
  shutdown.goOn (.elsewhere (t.premises.course_waitUntil later) punctual)

theorem Shutdown.asking {q : KernelProcess} (process : s.process? = some q) (running : q.exited = false) :
    Shutdown lag reads s [] s .asking := by
  obtain ⟨child, here, -⟩ := Option.bind_eq_some_iff.mp process
  have called : Shutdown lag reads s [] s _ := .called here
  have first : Stage.ofFarewell (Manager.farewell s.process?) = .asking := by
    simp [process, Manager.farewell, running, Stage.ofFarewell]
  rwa [first] at called

/-- A loop of a watch may take any frames at any time. -/
theorem Shutdown.hear (shutdown : Shutdown lag reads s moments t stage) {i : Nat} {c : Control} {loop : Loop}
    (here : t.premises.scene.control? i = some c) (polls : loop ∈ c.loops) (frame : Frame)
    (punctual : stage.Punctual lag t.premises.now) :
    Shutdown lag reads s (moments ++ [.heard ⟨i, t.premises.now, frame⟩])
      (t.withScene (t.premises.scene.setParty i (.control (c.receive loop (reads c.session.signer frame)))
        t.premises.scene.exchange)) stage := by
  have course : Premises.Course reads t.premises [⟨i, t.premises.now, frame⟩]
      (t.withScene (t.premises.scene.setParty i (.control (c.receive loop (reads c.session.signer frame)))
        t.premises.scene.exchange)).premises :=
    ⟨.hears frame .begin here polls, rfl, Nat.le_refl _⟩
  exact shutdown.next (.elsewhere course punctual)

/-- As long as no agreement is noted, one look comes after the other until the deadline is over. -/
theorem Shutdown.looks {deadline due : Nat}
    (shutdown : Shutdown lag reads s moments t (.looking deadline due)) (now : t.premises.now = due)
    (silent : t.premises.scene.acknowledged t.watch = false) (k : Nat)
    (early : ∀ j < k, due + max t.manager.options.shutdownPause 1 * j < deadline) :
    ∃ p : Premises, Shutdown lag reads s moments { t with premises := p }
        (.looking deadline (due + max t.manager.options.shutdownPause 1 * k)) ∧
      p.now = due + max t.manager.options.shutdownPause 1 * k ∧ p.scene.parties = t.premises.scene.parties := by
  induction k with
  | zero => exact ⟨t.premises, shutdown, now, rfl⟩
  | succ k ih =>
    obtain ⟨p, looking, here, same⟩ := ih fun j before => early j (Nat.lt_succ_of_lt before)
    have quiet : p.scene.acknowledged t.watch = false := by
      unfold Scene.acknowledged Scene.control? at silent ⊢
      rwa [same]
    have doubting := looking.goOn (.silent (Nat.le_of_eq here.symm) quiet)
    have inTime : p.now < deadline := here.symm ▸ early k (Nat.lt_succ_self k)
    have next := doubting.goOn (.paused inTime)
    have moment : p.now + max t.manager.options.shutdownPause 1 =
        due + max t.manager.options.shutdownPause 1 * (k + 1) := by
      rw [here, Nat.mul_succ, Nat.add_assoc]
    simp only [moment] at next
    have later : max p.now (due + max t.manager.options.shutdownPause 1 * (k + 1)) =
        due + max t.manager.options.shutdownPause 1 * (k + 1) := by
      rw [← moment]
      exact Nat.max_eq_right (Nat.le_add_right ..)
    have waited := next.waitUntil (due + max t.manager.options.shutdownPause 1 * (k + 1))
      (Nat.le_trans (Nat.le_of_eq later) (Nat.le_add_right ..))
    exact ⟨_, waited, later, same⟩

/-- Whoever looks again after every pause, until there is an agreement or the time is over, goes through these
stages. -/
theorem Shutdown.awaits {moments : List (Moment (Except Failure Message))} {due : Nat}
    (shutdown : Shutdown 0 Scene.asArrived s moments t
      (.looking (t.premises.now + t.manager.options.shutdownWait) due)) (now : due ≤ t.premises.now)
    {agreed : Bool} {p : Premises} (waited : t.premises.await (fun p => p.scene.acknowledged t.watch)
      t.manager.options.shutdownWait t.manager.options.shutdownPause = (agreed, p)) :
    ∃ more, Shutdown 0 Scene.asArrived s more { t with premises := p }
      (.ending (if agreed then .acknowledged else .killed)) := by
  refine Clock.await_leads
    (fun p => ∃ moments due, due ≤ p.now ∧ Shutdown 0 Scene.asArrived s moments { t with premises := p }
      (.looking (t.premises.now + t.manager.options.shutdownWait) due))
    (fun agreed p => ∃ more, Shutdown 0 Scene.asArrived s more { t with premises := p }
      (.ending (if agreed then .acknowledged else .killed)))
    waited Premises.now_pass ?_ ?_ ?_ ⟨moments, due, now, shutdown⟩
  · rintro p ⟨moments, due, now, looking⟩ agreed
    exact ⟨moments, looking.goOn (.agreed now agreed)⟩
  · rintro p ⟨moments, due, now, looking⟩ silent late
    exact ⟨moments, (looking.goOn (.silent now silent)).goOn (.gaveUp late)⟩
  · rintro p ⟨moments, due, now, looking⟩ silent early
    obtain ⟨heard, passed⟩ := Premises.course_pass (max t.manager.options.shutdownPause 1) p
    have later := Premises.now_pass (max t.manager.options.shutdownPause 1) p
    have paused := (looking.goOn (.silent now silent)).goOn (.paused early)
    exact ⟨_, _, Nat.le_of_eq later.symm, paused.next (.elsewhere passed (Nat.le_of_eq later))⟩

/-- The kernel is asked, and its answer waited for. -/
theorem Shutdown.ask {moments : List (Moment (Except Failure Message))}
    (shutdown : Shutdown 0 Scene.asArrived s moments t .asking) :
    ∃ more agreed t', t.ask = (agreed, t') ∧
      Shutdown 0 Scene.asArrived s more t' (.ending (if agreed then .acknowledged else .killed)) := by
  unfold Supervision.ask
  cases held : t.manager.control with
  | none => exact ⟨moments, false, t, rfl, shutdown.goOn (.unopened held)⟩
  | some line =>
    have drawn : Premises.Course Scene.asArrived t.premises [] t.premises.stamp.2 := ⟨.begin, rfl, Nat.le_refl _⟩
    have stamped := shutdown.next (.elsewhere drawn trivial)
    simp only
    generalize t.premises.stamp.2 = p at stamped ⊢
    rcases requested : p.scene.sendRequest t.watch line t.premises.stamp.1 with ⟨_ | _, scene⟩
    · exact ⟨_, false, _, rfl, stamped.goOn (.refused held requested)⟩
    · have asked := (stamped.goOn (.sent held requested)).next .timed
      rcases waited : ({ p with scene := scene } : Premises).await (fun p => p.scene.acknowledged t.watch)
        t.manager.options.shutdownWait t.manager.options.shutdownPause with ⟨agreed, p'⟩
      obtain ⟨more, ended⟩ := asked.awaits (Nat.le_refl _) waited
      simp only [waited]
      exact ⟨more, agreed, _, rfl, ended⟩

/-- The watch ends, the line is stopped, and the loops are waited for. -/
theorem Shutdown.endControl {moments : List (Moment (Except Failure Message))} {o : ShutdownOutcome}
    (shutdown : Shutdown 0 Scene.asArrived s moments t (.ending o)) {c : Control} {line : LineId}
    (here : t.premises.scene.control? t.watch = some c) (held : t.manager.control = some line) :
    ∃ more, Shutdown 0 Scene.asArrived s more t.endControl (.parting o) := by
  have told := shutdown.goOn .told
  rw [stopWatch_eq here] at told
  have hung := told.goOn .hungUp
  have still : (t.withScene (t.premises.scene.setParty t.watch (.control c.stop) t.premises.scene.exchange)).manager.control =
      some line := held
  rw [hangUp_eq still] at hung
  have ended : t.endControl =
      { t.withScene (t.premises.scene.setParty t.watch (.control c.stop.join)
          (t.premises.scene.exchange.stopLine line)) with
        manager := { t.manager with control := none } } := by
    unfold Supervision.endControl
    rw [here]
    simp only [Manager.endControl, held]
    rfl
  rw [ended]
  have joined : Premises.Course Scene.asArrived
      (t.withScene (t.premises.scene.setParty t.watch (.control c.stop)
        (t.premises.scene.exchange.stopLine line))).premises []
      (t.withScene (t.premises.scene.setParty t.watch (.control c.stop.join)
        (t.premises.scene.exchange.stopLine line))).premises := by
    have left : Scene.Course Scene.asArrived _ [] _ := Scene.course_join
      (Scene.control?_setWatch here c.stop (t.premises.scene.exchange.stopLine line)) rfl
    rw [Scene.setParty_setParty] at left
    exact ⟨left, rfl, Nat.le_refl _⟩
  have left := hung.next (.elsewhere joined trivial)
  refine ⟨_, left.goOn (.joined fun c' there => ?_)⟩
  have last := Scene.control?_setWatch here c.stop.join (t.premises.scene.exchange.stopLine line)
  have same : c.stop.join = c' := Option.some.inj (last.symm.trans there)
  rw [← same, Control.join_eq]

/-- The process is waited for, and killed if it has to be. -/
theorem Shutdown.seeOff {moments : List (Moment (Except Failure Message))} {o : ShutdownOutcome}
    (shutdown : Shutdown 0 Scene.asArrived s moments t (.parting o)) {child : Nat}
    (process : t.manager.process = some child) (here : child < t.premises.children.length) :
    ∃ more, Shutdown 0 Scene.asArrived s more (t.seeOff child o) (.leaving o) := by
  have kill {moments : List (Moment (Except Failure Message))} {t : Supervision}
      (shutdown : Shutdown 0 Scene.asArrived s moments t (.parting o)) (process : t.manager.process = some child)
      (here : child < t.premises.children.length) (harsh : o = .killed ∨ o = .acknowledged) :
      ∃ more, Shutdown 0 Scene.asArrived s more { t with premises := (t.premises.kill child killWait).2 }
        (.leaving o) := by
    obtain ⟨q, found⟩ := process?_isSome here
    obtain ⟨heard, killed⟩ := Premises.course_killProcess found killWait
    exact ⟨_, (shutdown.goOn (.killed harsh process)).next (.elsewhere killed trivial)⟩
  cases o with
  | acknowledged =>
    obtain ⟨heard, waited⟩ := t.premises.course_waitForExit child t.manager.options.shutdownWait
    unfold Supervision.seeOff
    simp only
    rcases result : t.premises.waitForExit child t.manager.options.shutdownWait with ⟨_ | _, p⟩ <;>
      rw [result] at waited
    · have late := shutdown.next (.elsewhere waited trivial)
      exact kill late process (Nat.lt_of_lt_of_le here waited.children) (Or.inr rfl)
    · exact ⟨_, (shutdown.next (.elsewhere waited trivial)).goOn (.spared nofun)⟩
  | killed => exact kill shutdown process here (Or.inl rfl)
  | alreadyExited => exact ⟨moments, shutdown.goOn (.spared nofun)⟩
  | notRunning => exact ⟨moments, shutdown.goOn (.spared nofun)⟩

/-- A shutdown in the rehearsal, where it is settled what happens next, is one of those that there can be. -/
theorem shutdown_closes (settled : s.AtRest ∨ s.Connected) :
    ∃ moments, Closes 0 Scene.asArrived s s.shutdown.1 moments s.shutdown.2 := by
  cases process : s.manager.process with
  | none =>
    have result : s.shutdown =
        (.notRunning, s.withDisk (s.manager.cleanup s.disk).1 (s.manager.cleanup s.disk).2) := by
      unfold Supervision.shutdown
      rw [process]
    rw [result]
    exact ⟨[], .idle process⟩
  | some child =>
    have begun : Shutdown 0 Scene.asArrived s [] s _ := .called process
    have connected := begun.connected settled
    obtain ⟨q, here⟩ := process?_isSome (connected.here child process)
    have found : s.process? = some q := by rw [Supervision.process?, process]; exact here
    -- up to here it matters whether the process is running, and what the kernel answers
    obtain ⟨o, t, moments, result, ending⟩ : ∃ o t moments,
        s.shutdown = (o, (t.endControl.seeOff child o).letGo) ∧ Shutdown 0 Scene.asArrived s moments t (.ending o) := by
      unfold Supervision.shutdown
      rw [process]
      rw [found] at begun ⊢
      cases exited : q.exited with
      | true =>
        have farewell : Manager.farewell (some q) = .alreadyExited := by simp [Manager.farewell, exited]
        rw [farewell] at begun
        simp only [farewell]
        exact ⟨.alreadyExited, s, [], rfl, begun⟩
      | false =>
        have farewell : Manager.farewell (some q) = .killed := by simp [Manager.farewell, exited]
        obtain ⟨moments, agreed, t, asked, ending⟩ := (Shutdown.asking found exited).ask
        simp only [farewell, asked]
        cases agreed with
        | true => exact ⟨.acknowledged, t, moments, rfl, ending⟩
        | false => exact ⟨.killed, t, moments, rfl, ending⟩
    have underWay := ending.underWay connected
    obtain ⟨c, there, -⟩ := underWay.supervising.watched
    have manager : t.manager = s.manager := underWay.manager
    obtain ⟨line, held⟩ := Option.isSome_iff_exists.mp connected.line
    obtain ⟨more, parting⟩ := ending.endControl there (manager ▸ held)
    have later := parting.underWay connected
    have still : t.endControl.manager.process = some child := by rw [later.manager]; exact process
    obtain ⟨rest, leaving⟩ := parting.seeOff still (later.supervising.here child still)
    rw [result]
    exact ⟨rest, .left leaving⟩

/-- Once its outcome is settled a shutdown can be brought to its end, and nothing else has to happen for it. -/
theorem Shutdown.ends {o : ShutdownOutcome} (shutdown : Shutdown lag reads s moments t stage)
    (connected : s.Connected) (settled : stage.outcome? = some o) : ∃ s', Closes lag reads s o moments s' := by
  -- from the last stage back to the first
  have parting {t} (here : Shutdown lag reads s moments t (.parting o)) : ∃ s', Closes lag reads s o moments s' := by
    by_cases harsh : o = .killed
    · have kernel := (here.underWay connected).supervising.process
      obtain ⟨child, process⟩ := Option.isSome_iff_exists.mp kernel
      exact ⟨_, .left (here.goOn (.killed (Or.inl harsh) process))⟩
    · exact ⟨_, .left (here.goOn (.spared harsh))⟩
  have joining {t} (here : Shutdown lag reads s moments t (.joining o)) : ∃ s', Closes lag reads s o moments s' := by
    obtain ⟨c, there, -⟩ := (here.underWay connected).supervising.watched
    have told : c.stopping = true := (here.underWay connected).told rfl c there
    have left : Premises.Course reads t.premises []
        (t.withScene (t.premises.scene.setParty t.watch (.control c.join) t.premises.scene.exchange)).premises :=
      ⟨Scene.course_join there told, rfl, Nat.le_refl _⟩
    refine parting ((here.goOn (.elsewhere left trivial)).goOn (.joined fun c' last => ?_))
    have same := (Scene.control?_setWatch there c.join t.premises.scene.exchange).symm.trans last
    rw [← Option.some.inj same, Control.join_eq]
  cases stage <;> cases settled
  case ending => exact joining ((shutdown.goOn .told).goOn .hungUp)
  case hanging => exact joining (shutdown.goOn .hungUp)
  case joining => exact joining shutdown
  case parting => exact parting shutdown
  case leaving => exact ⟨_, .left shutdown⟩

/-- What has been called comes to its answer, if what it waits for happens. -/
theorem Shutdown.can_close (shutdown : Shutdown lag reads s moments t stage) (connected : s.Connected) :
    ∃ o more s', Closes lag reads s o (moments ++ more) s' := by
  have settled {moments t stage} {o : ShutdownOutcome} (here : Shutdown lag reads s moments t stage)
      (settled : stage.outcome? = some o) : ∃ o more s', Closes lag reads s o (moments ++ more) s' := by
    obtain ⟨s', closes⟩ := here.ends connected settled
    rw [← List.append_nil moments] at closes
    exact ⟨o, [], s', closes⟩
  have doubting {moments t deadline} (here : Shutdown lag reads s moments t (.doubting deadline)) :
      ∃ o more s', Closes lag reads s o (moments ++ more) s' :=
    settled ((here.waitUntil deadline trivial).goOn (.gaveUp (Nat.le_max_right ..))) rfl
  have looking {moments t deadline due} (here : Shutdown lag reads s moments t (.looking deadline due)) :
      ∃ o more s', Closes lag reads s o (moments ++ more) s' := by
    have punctual : max t.premises.now due ≤ due + lag := Nat.max_le.mpr ⟨here.punctual, Nat.le_add_right ..⟩
    have looks := here.waitUntil due punctual
    have now : due ≤ (t.premises.waitUntil due).now := Nat.le_max_right ..
    cases agreed : (t.premises.waitUntil due).scene.acknowledged t.watch with
    | true => exact settled (looks.goOn (.agreed now agreed)) rfl
    | false => exact doubting (looks.goOn (.silent now agreed))
  have asked {moments t} (here : Shutdown lag reads s moments t .asked) :
      ∃ o more s', Closes lag reads s o (moments ++ more) s' := by
    obtain ⟨o, more, s', closes⟩ := looking (here.next .timed)
    rw [List.append_assoc] at closes
    exact ⟨o, _, s', closes⟩
  cases stage with
  | asking =>
    have manager : t.manager = s.manager := (shutdown.underWay connected).manager
    obtain ⟨line, held⟩ := Option.isSome_iff_exists.mp connected.line
    rw [← manager] at held
    rcases requested : t.premises.scene.sendRequest t.watch line ⟨"", ""⟩ with ⟨_ | _, scene⟩
    · exact settled (shutdown.goOn (.refused held requested)) rfl
    · exact asked (shutdown.goOn (.sent held requested))
  | asked => exact asked shutdown
  | looking deadline due => exact looking shutdown
  | doubting deadline => exact doubting shutdown
  | _ => exact settled shutdown rfl

/-- What a shutdown that was called at `s` leaves, whatever its outcome. -/
structure ShutDown (s : Supervision) (outcome : ShutdownOutcome) (s' : Supervision) : Prop where
  hasKernel : s'.manager.hasKernel = false
  isAlive : s'.premises.isAlive = false
  control : s'.manager.control = none
  /-- No control line is running. -/
  stopped : ∀ id : LineId, id.kind = .control → (s'.premises.scene.exchange.line id).alive = false
  /-- No loop polls a control line. -/
  ended : ∀ i c, s'.premises.scene.control? i = some c → c.loops = []
  written : s'.manager.file.written = false
  /-- The connection file is gone, where files may be removed. -/
  away : s.manager.file.written = true → s'.disk.tree.obstacles.remove = none →
    s'.disk.tree.isFile s.manager.file.path = false
  /-- One request has been sent at most, and none if the process had exited before. -/
  requests : s.Unsent s' ∨ s.AskedOnce s'
  outcome_iff : outcome = .notRunning ↔ s.manager.hasKernel = false

/-- A manager that holds no kernel: another shutdown has nothing to do, and a launch is not refused because of a
kernel that is running. -/
structure Ready (s : Supervision) : Prop where
  shutdown : s.shutdown.1 = .notRunning
  closes : ∀ {Frame : Type} (lag : Nat) (reads : Signer → Frame → Except Failure Message) outcome moments s',
    Closes lag reads s outcome moments s' → outcome = .notRunning
  prepare : ∀ disk octets inherited extra kernel,
    (s.manager.prepare disk octets inherited extra).1 ≠ .error (.config (.alreadyRunning kernel))
  start : ∀ extra, s.Attempt extra (s.start extra).1 (s.start extra).2

theorem ready_of_process (process : s.manager.process = none) : s.Ready where
  shutdown := by
    unfold Supervision.shutdown
    rw [process]
  closes lag reads outcome moments s' closes := by
    cases closes with
    | idle => rfl
    | left shutdown =>
      have kernel := shutdown.hasKernel
      rw [Manager.hasKernel, process] at kernel
      cases kernel
  prepare disk octets inherited extra kernel refused := by
    have idle : s.manager.hasKernel = false := by rw [Manager.hasKernel, process]; rfl
    have ends := s.manager.preparation_prepare idle disk octets inherited extra
    generalize s.manager.prepare disk octets inherited extra = result at ends refused
    cases ends with
    | refused kind =>
      cases refused
      cases kind with
      | port portless => cases portless
    | torn => cases refused
    | ready => cases line : s.manager.commandLine extra <;> rw [line] at refused <;> cases refused
  start extra := s.attempt_start (Manager.hasKernel_eq_false_iff.mpr process) extra

theorem AtRest.isAlive (rest : s.AtRest) : s.premises.isAlive = false := by
  unfold Premises.isAlive Premises.supervised
  rw [rest.slot, rest.process]
  rfl

theorem AtRest.stopped (rest : s.AtRest) {id : LineId} (control : id.kind = .control) :
    (s.premises.scene.exchange.line id).alive = false :=
  rest.lines id control (by rw [rest.control]; nofun)

theorem Closes.shutDown {o : ShutdownOutcome} {s' : Supervision} (closes : Closes lag reads s o moments s')
    (settled : s.AtRest ∨ s.Connected) : s.ShutDown o s' := by
  have rest := closes.atRest settled
  cases closes with
  | idle none =>
    exact {
      hasKernel := rest.hasKernel
      isAlive := rest.isAlive
      control := rest.control
      stopped := fun _ => rest.stopped
      ended := rest.ended
      written := congrArg ConnectionFile.written (s.manager.file.written_cleanup s.disk)
      away := fun written => ConnectionFile.isFile_cleanup written
      requests := Or.inl fun _ _ => rfl
      outcome_iff := iff_of_true rfl (Manager.hasKernel_eq_false_iff.mpr none) }
  | @left _ _ t shutdown =>
    have underWay := shutdown.underWay (shutdown.connected settled)
    have file : t.manager.file = s.manager.file := by rw [underWay.manager]; rfl
    refine {
      hasKernel := rest.hasKernel
      isAlive := rest.isAlive
      control := rest.control
      stopped := fun _ => rest.stopped
      ended := rest.ended
      written := congrArg ConnectionFile.written t.file_letGo
      away := fun _ => ?_
      requests := Unsent.sent (fun _ _ => rfl) underWay.sent
      outcome_iff := iff_of_false (fun same => underWay.outcome (congrArg some same)) ?_ }
    · rw [t.letGo_eq.2.2.1, ← file]
      exact ConnectionFile.isFile_cleanup underWay.supervising.written
    · rw [shutdown.hasKernel]
      exact Bool.noConfusion

/-- Whatever has happened before and happens meanwhile, a shutdown that has been called can be brought to its
answer, and when it has answered the manager is at rest: there is no kernel, no control line and no loop over one,
the connection file is gone, and one request to shut down has been sent at most. Another shutdown, whatever happens
until then, has nothing to do, and a launch is not refused because of a kernel that is running. -/
theorem Tenure.comes_to_rest {name : String} {spec : KernelSpec} {options : LaunchOptions}
    {trace : List (Moment Frame)} (tenure : Tenure lag reads name spec options trace s) :
    (∀ moments t stage, Shutdown lag reads s moments t stage →
      ∃ outcome more s', Closes lag reads s outcome (moments ++ more) s') ∧
    ∀ outcome moments s', Closes lag reads s outcome moments s' →
      s.ShutDown outcome s' ∧ ∀ p, Ready { s' with premises := p } :=
  have settled := tenure.settled
  ⟨fun _ _ _ shutdown => shutdown.can_close (shutdown.connected settled),
    fun _ _ _ closes => ⟨closes.shutDown settled, fun _ => ready_of_process (closes.atRest settled).process⟩⟩

/-- A program that sleeps is launched and shut down. -/
theorem Tenure.sleep_comes_to_rest : ∃ trace s,
    Tenure 0 Scene.asArrived "kernel" (fresh ["/bin/sleep", "5"]).manager.spec
      (fresh ["/bin/sleep", "5"]).manager.options trace s ∧
    s.manager.hasKernel = true ∧ s.shutdown.1 ≠ .notRunning ∧ s.ShutDown s.shutdown.1 s.shutdown.2 ∧
    Ready s.shutdown.2 := by
  have line : (fresh ["/bin/sleep", "5"]).manager.commandLine [] = ["/bin/sleep", "5"] := by cbv
  obtain ⟨-, started⟩ := @prepared_of_write (fresh ["/bin/sleep", "5"]) _ _ rfl (validate_fresh _) (write_fresh _) []
  obtain ⟨program, launched⟩ := @launch_sleep_ringUp ((fresh ["/bin/sleep", "5"]).prepared [])
    (by rw [prepared_fresh]; rfl) (by rw [prepared_fresh]; rfl)
  have made : Tenure 0 Scene.asArrived "kernel" _ _ [] (fresh ["/bin/sleep", "5"]) := .new _ _ _ _ _
  have tenure := made.launched ((started _ _ line).trans launched)
  obtain ⟨moments, closes⟩ := shutdown_closes tenure.settled
  obtain ⟨-, rests⟩ := tenure.comes_to_rest
  obtain ⟨shutDown, ready⟩ := rests _ _ _ closes
  refine ⟨_, _, tenure, rfl, fun same => ?_, shutDown, ready _⟩
  have none := shutDown.outcome_iff.mp same
  cases none

end Supervision
end KernelLink
