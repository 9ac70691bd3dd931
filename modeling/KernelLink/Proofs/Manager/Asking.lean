import KernelLink.Proofs.Manager.CurrentLaunch
import KernelLink.Proofs.Rehearsal.Ensuing

namespace KernelLink

theorem Waiting.Run.trans {line : LineId} {deadline : Nat} {start s s' : Waiting} {trace more : List Occurrence}
    (one : Run line deadline start trace s) (two : Run line deadline s more s') :
    Run line deadline start (trace ++ more) s' := by
  induction two with
  | begin => rwa [List.append_nil]
  | next _ step ih =>
    rw [← List.append_assoc]
    exact ih.next step

namespace Waiting.AtMostOne

variable {line : LineId} {deadline : Nat} {c : Control} {loop : Loop}

theorem receive (single : AtMostOne line c.loops) (member : loop ∈ c.loops) (a : Except Failure Message) :
    AtMostOne line (c.receive loop a).loops := by
  cases a with
  | ok m => exact @setPoll line (c.handle m) single loop.id none
  | error failure => exact Or.inl (single.leave member).2

theorem lookAround (single : AtMostOne line c.loops) (member : loop ∈ c.loops) (x : Exchange) :
    AtMostOne line (c.lookAround x loop).1.loops := by
  unfold Control.lookAround
  split
  · exact single.setPoll ..
  · exact Or.inl (single.leave member).2

/-- The only poll that there may be ends if its time is over. -/
theorem expire (single : AtMostOne line c.loops) (now : Nat) (x : Exchange) :
    ∃ c', (Party.control c).expire now = .control c' ∧ AtMostOne line c'.loops ∧
      ∃ trace, Run line deadline ⟨c, x, none⟩ trace ⟨c', x, none⟩ := by
  obtain ⟨session, acknowledged, stopping, loops⟩ := c
  rcases single with rfl | ⟨⟨id, place, poll⟩, rfl, rfl⟩
  · exact ⟨_, rfl, Or.inl rfl, [], .begin⟩
  · have kept : poll.filter (fun poll => now < poll.deadline) = poll ∨
        poll.filter (fun poll => now < poll.deadline) = none := by
      cases poll with
      | none => exact Or.inl rfl
      | some poll => by_cases early : now < poll.deadline <;> simp [Option.filter, early]
    refine ⟨_, rfl, Or.inr ⟨_, rfl, rfl⟩, ?_⟩
    rcases kept with same | gone
    · exact ⟨[], by simpa [same] using Run.begin⟩
    · have expired : Step place deadline ⟨⟨session, acknowledged, stopping, [⟨id, place, poll⟩]⟩, x, none⟩ .expired _ :=
        .expired (List.mem_singleton_self _)
      rw [Control.setPoll] at expired
      exact ⟨[.expired], by simpa [gone] using Run.begin.next expired⟩

end Waiting.AtMostOne

namespace Party

/-- No loop of the party polls a line. -/
def Elsewhere (line : LineId) (p : Party) : Prop := ∀ l ∈ p.loops, l.line ≠ line

variable {line : LineId} {p : Party} {l : Loop}

/-- Whatever becomes of its poll, a loop stays with its line. -/
theorem elsewhere_map {loops : List Loop} (elsewhere : ∀ l ∈ loops, l.line ≠ line) {f : Loop → Loop}
    (same : ∀ l, (f l).line = l.line) : ∀ l ∈ loops.map f, l.line ≠ line := by
  intro l' here
  obtain ⟨l, there, rfl⟩ := List.mem_map.mp here
  rw [same]
  exact elsewhere l there

theorem elsewhere_setPoll {loops : List Loop} (elsewhere : ∀ l ∈ loops, l.line ≠ line) (id : Nat)
    (poll : Option Poll) :
    ∀ l ∈ loops.map fun k => if k.id = id then { k with poll := poll } else k, l.line ≠ line :=
  elsewhere_map elsewhere fun k => by split <;> rfl

theorem elsewhere_leave {loops : List Loop} (elsewhere : ∀ l ∈ loops, l.line ≠ line) (id : Nat) :
    ∀ l ∈ loops.filter (·.id ≠ id), l.line ≠ line := fun l here => elsewhere l (List.mem_filter.mp here).1

theorem Elsewhere.takeArrival (elsewhere : p.Elsewhere line) (x : Exchange) (l : Loop) :
    (p.takeArrival x l).1.Elsewhere line := by
  cases p with
  | client c =>
    rcases taken : x.take l.line with ⟨_ | failure | m, x'⟩ <;>
      simp only [Party.takeArrival, Client.takeArrival, taken]
    · exact elsewhere
    · exact elsewhere_leave elsewhere l.id
    · exact elsewhere_setPoll elsewhere l.id none
  | control c =>
    rcases taken : x.take l.line with ⟨_ | failure | m, x'⟩ <;>
      simp only [Party.takeArrival, Control.takeArrival, taken]
    · exact elsewhere
    · exact elsewhere_leave elsewhere l.id
    · exact elsewhere_setPoll elsewhere l.id none
  | reader r =>
    intro l' here
    cases here

theorem Elsewhere.lookAround (elsewhere : p.Elsewhere line) (x : Exchange) (member : l ∈ p.loops) :
    (p.lookAround x l).1.Elsewhere line := by
  cases p with
  | client c =>
    cases may : c.mayPoll x l <;> simp only [Party.lookAround, Client.lookAround, may, if_true]
    · exact elsewhere_leave elsewhere l.id
    · exact elsewhere_setPoll elsewhere l.id _
  | control c =>
    cases may : c.mayPoll x l <;> simp only [Party.lookAround, Control.lookAround, may, if_true]
    · exact elsewhere_leave elsewhere l.id
    · exact elsewhere_setPoll elsewhere l.id _
  | reader r =>
    cases running : (x.line l.line).alive <;> simp only [Party.lookAround, running, if_true]
    · intro l' here
      cases here
    · intro l' here
      cases List.mem_singleton.mp here
      exact elsewhere l member

theorem Elsewhere.expire (elsewhere : p.Elsewhere line) (now : Nat) : (p.expire now).Elsewhere line := by
  cases p with
  | client c => exact elsewhere_map elsewhere fun _ => rfl
  | control c => exact elsewhere_map elsewhere fun _ => rfl
  | reader r =>
    intro l' here
    obtain ⟨l, waits, rfl⟩ := Option.map_eq_some_iff.mp (Option.mem_toList.mp here)
    exact elsewhere l (Option.mem_toList.mpr waits)

end Party

namespace Scene

/-- What a shutdown has before it that waits for what a watch notes. -/
def waiting (s : Scene) (c : Control) : Waiting := ⟨c, s.exchange, none⟩

/-- One watch alone polls a line, by one loop or none. -/
structure SoleWatch (s : Scene) (i : Nat) (line : LineId) (c : Control) : Prop where
  watch : s.control? i = some c
  single : Waiting.AtMostOne line c.loops
  others : ∀ j p, s.parties[j]? = some p → j ≠ i → p.Elsewhere line

/-- The scene goes on as a shutdown does that waits, as far as the watch and the line are concerned. -/
def RunsOn (line : LineId) (deadline i : Nat) (s s' : Scene) : Prop :=
  ∀ c, s.SoleWatch i line c → ∃ c' trace, s'.SoleWatch i line c' ∧
    Waiting.Run line deadline (s.waiting c) trace (s'.waiting c')

variable {line : LineId} {deadline i j : Nat} {s s' : Scene} {c c' : Control} {p p' : Party} {x : Exchange}

theorem SoleWatch.setWatch (sole : s.SoleWatch i line c) (single : Waiting.AtMostOne line c'.loops) (x : Exchange) :
    (s.setParty i (.control c') x).SoleWatch i line c' where
  watch := control?_setWatch sole.watch c' x
  single := single
  others j p here other := by
    rw [setParty, List.getElem?_set_ne (Ne.symm other)] at here
    exact sole.others j p here other

theorem SoleWatch.setOther (sole : s.SoleWatch i line c) (here : s.parties[j]? = some p) (other : j ≠ i)
    (elsewhere : p'.Elsewhere line) (x : Exchange) : (s.setParty j p' x).SoleWatch i line c where
  watch := by rw [control?_setParty here, if_neg (Ne.symm other), sole.watch]
  single := sole.single
  others k q there others := by
    rw [setParty, List.getElem?_set] at there
    split at there
    · split at there
      · cases there
        exact elsewhere
      · cases there
    · exact sole.others k q there others

theorem SoleWatch.withExchange (sole : s.SoleWatch i line c) (x : Exchange) :
    ({ s with exchange := x } : Scene).SoleWatch i line c := ⟨sole.watch, sole.single, sole.others⟩

theorem SoleWatch.acknowledged (sole : s.SoleWatch i line c) : s.acknowledged i = c.acknowledged := by
  rw [Scene.acknowledged, sole.watch]
  rfl

/-- What goes on at other lines does not concern the watch, except that it may take some time. -/
theorem run_elsewhere (c : Control) {x x' : Exchange} (same : x'.line line = x.line line)
    (alive : x'.kernelAlive = x.kernelAlive) (later : x.now ≤ x'.now) :
    ∃ trace, Waiting.Run line deadline ⟨c, x, none⟩ trace ⟨c, x', none⟩ :=
  ⟨_, Waiting.Run.begin.next (.elapsed same alive (Nat.add_sub_of_le later).symm)⟩

theorem runsOn_takeArrival (here : s.parties[j]? = some p) {l : Loop} (member : l ∈ p.loops)
    (polling : l.poll ≠ none) :
    RunsOn line deadline i s (s.setParty j (p.takeArrival s.exchange l).1 (p.takeArrival s.exchange l).2) := by
  intro c sole
  by_cases same : j = i
  · subst same
    cases here.symm.trans (parties_of_control? sole.watch)
    rw [Party.takeArrival]
    rcases taken : s.exchange.take l.line with ⟨_ | a, x⟩ <;> simp only [Control.takeArrival, taken]
    · -- nothing was there
      have unchanged : x = s.exchange := by
        unfold Exchange.take at taken
        simp only at taken
        split at taken <;> cases taken
        rfl
      exact ⟨c, [], sole.setWatch sole.single x, unchanged ▸ .begin⟩
    · exact ⟨_, _, sole.setWatch (sole.single.receive member a) x, Waiting.Run.begin.next (.took member polling taken)⟩
  · have elsewhere := sole.others j p here same
    have apart : (p.takeArrival s.exchange l).2.line line = s.exchange.line line := by
      rw [p.exchange_takeArrival]
      exact s.exchange.line_take_of_ne (Ne.symm (elsewhere l member))
    have news := s.exchange.sameNews_take l.line
    have now := s.exchange.now_take l.line
    rw [← p.exchange_takeArrival] at news now
    obtain ⟨trace, run⟩ := run_elsewhere c apart news.kernelAlive (Nat.le_of_eq now.symm)
    exact ⟨c, trace, sole.setOther here same (elsewhere.takeArrival _ l) _, run⟩

theorem runsOn_lookAround (here : s.parties[j]? = some p) {l : Loop} (member : l ∈ p.loops) (idle : l.poll = none) :
    RunsOn line deadline i s (s.setParty j (p.lookAround s.exchange l).1 (p.lookAround s.exchange l).2) := by
  intro c sole
  by_cases same : j = i
  · subst same
    cases here.symm.trans (parties_of_control? sole.watch)
    exact ⟨_, _, sole.setWatch (sole.single.lookAround member s.exchange) _,
      Waiting.Run.begin.next (.looked member idle)⟩
  · have elsewhere := sole.others j p here same
    obtain ⟨trace, run⟩ : ∃ trace, Waiting.Run line deadline ⟨c, s.exchange, none⟩ trace
        ⟨c, (p.lookAround s.exchange l).2, none⟩ := by
      rcases p.exchange_lookAround s.exchange l with same | same <;> rw [same]
      · exact ⟨[], .begin⟩
      · exact run_elsewhere c rfl rfl (Nat.le_refl _)
    exact ⟨c, trace, sole.setOther here same (elsewhere.lookAround _ member) _, run⟩

/-- The polls whose time is over end, those of the watch like all others. -/
theorem runsOn_moveTo (s : Scene) (t : Nat) : RunsOn line deadline i s (s.moveTo t) := by
  unfold moveTo
  have later := Nat.le_max_left s.exchange.now t
  generalize max s.exchange.now t = now at later ⊢
  intro c sole
  have passed : Waiting.Run line deadline ⟨c, s.exchange, none⟩ [.elapsed (now - s.exchange.now)]
      ⟨c, { s.exchange with now := now }, none⟩ :=
    Waiting.Run.begin.next (.elapsed rfl rfl (Nat.add_sub_of_le later).symm)
  obtain ⟨c', expired, single, more, run⟩ :=
    @Waiting.AtMostOne.expire line deadline c sole.single now { s.exchange with now := now }
  refine ⟨c', _, ⟨?_, single, fun j p here other => ?_⟩, passed.trans run⟩
  · rw [control?_eq, List.getElem?_map, parties_of_control? sole.watch]
    exact congrArg Party.watch? expired
  · rw [List.getElem?_map] at here
    obtain ⟨q, there, rfl⟩ := Option.map_eq_some_iff.mp here
    exact (sole.others j q there other).expire now

/-- What arrives on the line arrives for the watch. -/
theorem run_arriveAll (c : Control) (due : List (Nat × LineId × Except Failure Message)) (x : Exchange) :
    ∃ trace, Waiting.Run line deadline ⟨c, x, none⟩ trace
      ⟨c, due.foldl (fun x (_, id, a) => x.arrive id a) x, none⟩ := by
  induction due generalizing x with
  | nil => exact ⟨[], .begin⟩
  | cons first rest ih =>
    obtain ⟨trace, run⟩ := ih (x.arrive first.2.1 first.2.2)
    by_cases here : first.2.1 = line
    · have arrived : Waiting.Run line deadline ⟨c, x, none⟩ [.arrived first.2.2]
          ⟨c, x.arrive first.2.1 first.2.2, none⟩ := here ▸ Waiting.Run.begin.next (.arrived first.2.2)
      exact ⟨_, arrived.trans run⟩
    · have apart : (x.arrive first.2.1 first.2.2).line line = x.line line :=
        x.line_setLine_of_ne (Ne.symm here) _
      obtain ⟨before, aside⟩ := run_elsewhere c apart rfl (Nat.le_refl x.now)
      exact ⟨_, aside.trans run⟩

theorem runsOn_deliver (s : Scene) : RunsOn line deadline i s s.deliver := by
  intro c sole
  unfold deliver
  generalize s.arrivals.partition _ = parted
  obtain ⟨due, later⟩ := parted
  obtain ⟨trace, run⟩ := run_arriveAll c due s.exchange
  exact ⟨c, trace, ⟨sole.watch, sole.single, sole.others⟩, run⟩

theorem habit_runsOn : Habit (RunsOn line deadline i) where
  refl s c sole := ⟨c, [], sole, .begin⟩
  trans one two c sole := by
    obtain ⟨c', trace, sole', run⟩ := one c sole
    obtain ⟨c'', more, sole'', run'⟩ := two c' sole'
    exact ⟨c'', trace ++ more, sole'', run.trans run'⟩
  take here member polling := runsOn_takeArrival here member polling
  look here member idle := runsOn_lookAround here member idle
  moveTo := runsOn_moveTo
  deliver := runsOn_deliver
  rest s now later c sole := by
    have rested : ∃ trace, Waiting.Run line deadline ⟨c, s.exchange, none⟩ trace
        ⟨c, { s.exchange with now := now }, none⟩ := run_elsewhere c rfl rfl later
    obtain ⟨trace, run⟩ := rested
    exact ⟨c, trace, sole.withExchange _, run⟩

end Scene

namespace Premises

variable {line : LineId} {deadline i : Nat} {p : Premises} {c : Control}

theorem isAlive_iff (p : Premises) :
    p.isAlive = true ↔ ∃ child q, p.slot = some child ∧ p.process? child = some q ∧ q.exited = false := by
  unfold isAlive supervised
  cases p.slot with
  | none => simp
  | some child => simp [Option.any_eq_true, KernelProcess.isAlive]

/-- Nobody's process comes to life as the owners look at what has become of theirs. -/
theorem isAlive_settleProcesses (alive : p.settleProcesses.isAlive = true) : p.isAlive = true := by
  obtain ⟨child, q, slot, here, running⟩ := (isAlive_iff _).mp alive
  refine (isAlive_iff _).mpr ?_
  obtain ⟨c, there, rfl⟩ : ∃ c, p.children[child]? = some c ∧ (c.settle p.now).process = q := by
    simpa [process?, settleProcesses, inform] using here
  refine ⟨child, c.process, slot, by simp [process?, there], ?_⟩
  cases exited : c.process.exited with
  | false => rfl
  | true => exact (c.exited_settle exited p.now).symm.trans running

/-- Where the news are right and go on to be, the scene goes on as runs do. -/
def RunsOn (line : LineId) (deadline i : Nat) (p p' : Premises) : Prop :=
  p.Informed → p'.Informed ∧ p.scene.RunsOn line deadline i p'.scene

theorem RunsOn.trans {p' p'' : Premises} (one : RunsOn line deadline i p p') (two : RunsOn line deadline i p' p'') :
    RunsOn line deadline i p p'' := by
  intro informed
  obtain ⟨informed', went⟩ := one informed
  obtain ⟨informed'', went'⟩ := two informed'
  exact ⟨informed'', Scene.habit_runsOn.trans went went'⟩

theorem runsOn_scene {scene : Scene} (went : p.scene.RunsOn line deadline i scene) (ensues : p.scene.Ensues scene) :
    RunsOn line deadline i p { p with scene := scene } := fun informed => ⟨ensues.premises.informed informed, went⟩

/-- The exit of the process is news, and no other news come. -/
theorem runsOn_settleProcesses (p : Premises) : RunsOn line deadline i p p.settleProcesses := by
  refine fun informed => ⟨rfl, fun c sole => ?_⟩
  have news : p.settleProcesses.scene =
      { p.scene with exchange := { p.scene.exchange with kernelAlive := p.settleProcesses.isAlive } } := rfl
  rw [news]
  refine ⟨c, ?_⟩
  by_cases same : p.settleProcesses.isAlive = p.isAlive
  · rw [same, ← show p.scene.exchange.kernelAlive = p.isAlive from informed]
    exact ⟨[], sole, .begin⟩
  · have exited : p.settleProcesses.isAlive = false := by
      cases alive : p.settleProcesses.isAlive with
      | false => rfl
      | true => exact absurd (alive.trans (isAlive_settleProcesses alive).symm) same
    rw [exited]
    exact ⟨[.exited], sole.withExchange _, Waiting.Run.begin.next .exited⟩

theorem runsOn_settle (p : Premises) : RunsOn line deadline i p p.settle := by
  have ran : RunsOn line deadline i p p.runPrograms :=
    fun informed => ⟨p.ensues_runPrograms.informed informed, Scene.habit_runsOn.refl _⟩
  exact (ran.trans p.runPrograms.runsOn_settleProcesses).trans
    (runsOn_scene (Scene.habit_runsOn.settle _) (Scene.ensues_settle _))

theorem runsOn_pass (p : Premises) (ms : Nat) : RunsOn line deadline i p (pass ms p) := by
  unfold pass
  induction ms with
  | zero => exact fun informed => ⟨informed, Scene.habit_runsOn.refl _⟩
  | succ ms ih =>
    rw [Nat.repeat]
    generalize Nat.repeat _ ms p = q at ih ⊢
    exact (ih.trans (runsOn_scene (Scene.habit_runsOn.pass q.scene 1) (q.scene.ensues_pass 1))).trans (runsOn_settle _)

/-- Whoever waits for an agreement by looking again after every pause takes part in a run with each of the looks,
and goes by the last of them. -/
theorem run_await {budget pause : Nat} {agreed : Bool} {q : Premises} (sole : p.scene.SoleWatch i line c)
    (informed : p.Informed) (waited : p.await (fun p => p.scene.acknowledged i) budget pause = (agreed, q)) :
    ∃ trace c', q.scene.control? i = some c' ∧
      Waiting.Run line (p.now + budget) (p.scene.waiting c) trace (q.scene.waiting c') ∧
      (q.scene.waiting c').verdict (p.now + budget) = some (if agreed then .acknowledged else .killed) := by
  refine Clock.await_leads
    (fun t => t.Informed ∧ ∃ trace c', t.scene.SoleWatch i line c' ∧
      Waiting.Run line (p.now + budget) (p.scene.waiting c) trace (t.scene.waiting c'))
    (fun agreed t => ∃ trace c', t.scene.control? i = some c' ∧
      Waiting.Run line (p.now + budget) (p.scene.waiting c) trace (t.scene.waiting c') ∧
      (t.scene.waiting c').verdict (p.now + budget) = some (if agreed then .acknowledged else .killed))
    waited now_pass ?_ ?_ ?_ ⟨informed, [], c, sole, .begin⟩
  · rintro t ⟨-, trace, c', sole, run⟩ agreed
    rw [sole.acknowledged] at agreed
    exact ⟨trace, c', sole.watch, run, if_pos agreed⟩
  · rintro t ⟨-, trace, c', sole, run⟩ silent late
    rw [sole.acknowledged] at silent
    exact ⟨trace, c', sole.watch, run, (if_neg (Bool.not_eq_true _ ▸ silent)).trans (if_pos late)⟩
  · rintro t ⟨informed, trace, c', sole, run⟩ silent early
    -- the look has settled nothing, and the rest goes on until the next
    rw [sole.acknowledged] at silent
    have nothing : (t.scene.waiting c').verdict (p.now + budget) = none :=
      (if_neg (Bool.not_eq_true _ ▸ silent)).trans (if_neg (Nat.not_le_of_lt early))
    have looked := run.next (.checked rfl)
    rw [nothing] at looked
    obtain ⟨informed', went⟩ := t.runsOn_pass (max pause 1) informed
    obtain ⟨c'', between, sole', passed⟩ := went c' sole
    exact ⟨informed', _, c'', sole', looked.trans passed⟩

end Premises

namespace Supervision

variable {s : Supervision} {line : LineId} {c : Control} {scene : Scene}

/-- A manager that is about to ask its kernel: nobody but its watch polls the line, and the news are right. -/
structure Asking (s : Supervision) (line : LineId) (c : Control) : Prop where
  held : s.manager.control = some line
  watch : s.premises.scene.control? s.watch = some c
  begun : Waiting.Begun line (s.premises.scene.waiting c)
  alone : ∀ j p, s.premises.scene.parties[j]? = some p → j ≠ s.watch → p.Elsewhere line
  informed : s.premises.Informed

theorem Asking.sole (asking : s.Asking line c) : s.premises.scene.SoleWatch s.watch line c where
  watch := asking.watch
  single := by
    obtain ⟨loop, one, place⟩ := asking.begun.loops
    exact Or.inr ⟨loop, one, place⟩
  others := asking.alone

/-- The request itself does not disturb anything. -/
theorem Asking.sent (asking : s.Asking line c) {stamp : Stamp}
    (sent : s.premises.scene.sendRequest s.watch line stamp = (true, scene)) :
    Waiting.Begun line (scene.waiting c) := by
  have ensues := s.premises.scene.ensues_sendRequest s.watch line stamp
  rw [sent] at ensues
  obtain ⟨x, m, rfl, -, -, alive, -⟩ := sendRequest_sent sent
  exact { asking.begun with
    connected := (alive line).trans asking.begun.connected
    running := ensues.news.kernelAlive.trans asking.begun.running }

/-- A manager that asks its kernel waits as a shutdown does, and goes by the last of its looks. -/
theorem Asking.run (asking : s.Asking line c)
    (sent : s.premises.scene.sendRequest s.watch line s.premises.stamp.1 = (true, scene)) :
    ∃ trace c', s.ask.2.premises.scene.control? s.watch = some c' ∧
      Waiting.Run line (s.premises.now + s.manager.options.shutdownWait) (scene.waiting c) trace
        (s.ask.2.premises.scene.waiting c') ∧
      (s.ask.2.premises.scene.waiting c').verdict (s.premises.now + s.manager.options.shutdownWait) =
        some (if s.ask.1 then .acknowledged else .killed) := by
  have ensues := s.premises.scene.ensues_sendRequest s.watch line s.premises.stamp.1
  rw [sent] at ensues
  have informed : Premises.Informed { s.premises.stamp.2 with scene := scene } :=
    ensues.premises.informed (s.premises.ensues_stamp.informed asking.informed)
  obtain ⟨x, m, rfl, -, now, -⟩ := sendRequest_sent sent
  have waits : x.now + s.manager.options.shutdownWait = s.premises.now + s.manager.options.shutdownWait :=
    congrArg (· + _) now
  have requested : s.premises.stamp.2.scene.sendRequest s.watch line s.premises.stamp.1 =
      (true, { s.premises.scene with exchange := x }) := sent
  rcases waited : ({ s.premises.stamp.2 with scene := { s.premises.scene with exchange := x } } : Premises).await
    (fun p => p.scene.acknowledged s.watch) s.manager.options.shutdownWait s.manager.options.shutdownPause
    with ⟨agreed, p⟩
  have result : s.ask = (agreed, { s with premises := p }) := by
    unfold Supervision.ask
    simp only [asking.held, requested, waited]
  obtain ⟨trace, c', watch, run, verdict⟩ := Premises.run_await (asking.sole.withExchange x) informed waited
  rw [result, ← waits]
  exact ⟨trace, c', watch, run, verdict⟩

/-- So it learns of the agreement exactly if nothing has ended the loop before it took the agreement. -/
theorem Asking.agrees_iff (asking : s.Asking line c)
    (sent : s.premises.scene.sendRequest s.watch line s.premises.stamp.1 = (true, scene)) :
    ∃ trace c', s.ask.2.premises.scene.control? s.watch = some c' ∧
      Waiting.Run line (s.premises.now + s.manager.options.shutdownWait) (scene.waiting c) trace
        (s.ask.2.premises.scene.waiting c') ∧
      ∀ ahead behind reply, (scene.exchange.line line).inbox ++ arrivals trace = ahead ++ .ok reply :: behind →
        reply.Agreement → (∀ m, .ok m ∈ ahead → ¬m.Agreement) →
        ahead.length < (taken trace).length ∨ c'.loops = [] →
        (s.ask.1 = true ↔ ¬∃ earlier last, earlier ++ [last] <+: trace ∧ Waiting.Ending earlier last ∧
          (taken earlier).length ≤ ahead.length) := by
  obtain ⟨trace, c', watch, run, verdict⟩ := asking.run sent
  refine ⟨trace, c', watch, run, fun ahead behind reply queue agreement first served => ?_⟩
  have kept := run.kept (asking.sent sent)
  rw [← kept.agreed_iff queue agreement first served, ← Waiting.verdict_acknowledged_iff, verdict]
  cases s.ask.1 <;> simp

/-- So is a manager that has just launched its kernel, and the line takes its request. -/
example : ∃ program c scene, (awaiting program).Asking ⟨.control, 0⟩ c ∧
    (awaiting program).premises.scene.sendRequest (awaiting program).watch ⟨.control, 0⟩
      (awaiting program).premises.stamp.1 = (true, scene) := by
  obtain ⟨program, -⟩ := start_patient
  have state : awaiting program = _ := congrArg (fun s => (takeCharge s program).ringUp) prepared_patient.1
  have sent : (awaiting program).premises.scene.sendRequest (awaiting program).watch ⟨.control, 0⟩
      (awaiting program).premises.stamp.1 = (true, _) := Prod.ext (by rw [state]; rfl) rfl
  obtain ⟨c, watch, begun⟩ : ∃ c,
      (awaiting program).premises.scene.control? (awaiting program).watch = some c ∧
        Waiting.Begun ⟨.control, 0⟩ ((awaiting program).premises.scene.waiting c) := by
    rw [state]
    exact ⟨_, rfl, ⟨_, rfl, rfl⟩, rfl, rfl, rfl, rfl, rfl⟩
  have single : (awaiting program).premises.scene.parties.length = 1 ∧ (awaiting program).watch = 0 := by
    rw [state]
    exact ⟨rfl, rfl⟩
  refine ⟨program, c, _, ⟨by rw [state]; rfl, watch, begun, fun j p here other => ?_, by rw [state]; rfl⟩, sent⟩
  have inside := (List.getElem?_eq_some_iff.mp here).1
  omega

end Supervision
end KernelLink
