import KernelLink.Proofs.Manager.Acknowledgement
import KernelLink.Proofs.Manager.Shutdown
import KernelLink.Proofs.Wire.Grammar

namespace KernelLink

theorem Message.Agreement.msgType_eq {m : Message} (agreement : m.Agreement) : m.msgType = "shutdown_reply" := by
  obtain ⟨reply, classified⟩ := agreement
  unfold Message.classify at classified
  split at classified
  · cases classified
  split at classified
  · cases classified
  split at classified
  · assumption
  split at classified
  · split at classified <;> cases classified
  · cases classified

theorem Message.carried_of_decode {signer : Signer} {parts : List Bytes} {m : Message}
    (decoded : decode signer parts = .ok m) : Carried signer parts m := by
  rcases carried_or_firstFault signer parts with ⟨other, carried⟩ | ⟨failure, wrong⟩
  · have same := (decode_of_carried carried).symm.trans decoded
    cases same
    exact carried
  · have refused := (decode_of_firstFault wrong).symm.trans decoded
    cases refused

namespace Scene

variable {Frame : Type} {reads : Signer → Frame → Except Failure Message} {start s s' : Scene}
  {heard : List (Reception Frame)}

theorem Apart.earlier (apart : Apart s s') {i : Nat} {c' : Control} (there : s'.control? i = some c') :
    ∃ c, s.control? i = some c ∧ c.Lasting c' := by
  have went := apart.watches i
  rw [there] at went
  generalize s.control? i = here at went ⊢
  cases went with
  | some lasting => exact ⟨_, rfl, lasting⟩

/-- A watch notes an agreement only when one of its loops takes one. -/
theorem Course.acknowledged (course : Course reads start heard s) {i : Nat} {c c' : Control}
    (here : start.control? i = some c) (there : s.control? i = some c') (noted : c'.acknowledged = true) :
    c.acknowledged = true ∨ ∃ r ∈ heard, r.watch = i ∧ r.now ≤ s.exchange.now ∧
      ∃ m, reads c.session.signer r.frame = .ok m ∧ m.Agreement := by
  induction course generalizing c' with
  | begin =>
    have same := here.symm.trans there
    cases same
    exact Or.inl noted
  | apart course apart ih =>
    obtain ⟨before, known, lasting⟩ := apart.earlier there
    have earlier := ih known (lasting.acknowledged.symm.trans noted)
    refine earlier.imp_right ?_
    rintro ⟨r, member, watch, now, agreed⟩
    exact ⟨r, member, watch, now.trans apart.now, agreed⟩
  | @hears earlier s j before loop frame course known member ih =>
    have goesOn {d : Control} (known : s.control? i = some d) (noted : d.acknowledged = true) :
        c.acknowledged = true ∨ ∃ r ∈ earlier ++ [⟨j, s.exchange.now, frame⟩], r.watch = i ∧
          r.now ≤ s.exchange.now ∧ ∃ m, reads c.session.signer r.frame = .ok m ∧ m.Agreement := by
      refine (ih known noted).imp_right ?_
      rintro ⟨r, member, rest⟩
      exact ⟨r, List.mem_append_left _ member, rest⟩
    rw [control?_setParty (parties_of_control? known)] at there
    by_cases same : i = j
    · subst same
      rw [if_pos rfl] at there
      cases there
      -- what a loop of this watch takes is noted if it can be read and agrees
      cases read : reads before.session.signer frame with
      | error failure =>
        rw [read] at noted
        exact goesOn known noted
      | ok m =>
        rw [read] at noted
        rcases (Waiting.acknowledged_handle_iff before m).mp noted with old | agreement
        · exact goesOn known old
        · obtain ⟨d, there, later⟩ := course.later here
          have watch : d = before := Option.some.inj (there.symm.trans known)
          have signer : before.session.signer = c.session.signer := watch ▸ later.signer
          refine Or.inr ⟨_, List.mem_append_right _ (List.mem_singleton_self _), rfl, Nat.le_refl _, m, ?_, agreement⟩
          rw [← signer]
          exact read
    · rw [if_neg same] at there
      exact goesOn there noted
  | @looks earlier s j before loop course known member idle ih =>
    -- whoever looks around takes nothing in
    have onward := before.onward_lookAround s.exchange loop
    have now : (before.lookAround s.exchange loop).2.now = s.exchange.now :=
      ((Party.control before).sameLines_lookAround s.exchange loop).2
    have goesOn {d : Control} (known : s.control? i = some d) (noted : d.acknowledged = true) :
        c.acknowledged = true ∨ ∃ r ∈ earlier, r.watch = i ∧ r.now ≤ (before.lookAround s.exchange loop).2.now ∧
          ∃ m, reads c.session.signer r.frame = .ok m ∧ m.Agreement := by
      rw [now]
      exact ih known noted
    rw [control?_setParty (parties_of_control? known)] at there
    by_cases same : i = j
    · subst same
      rw [if_pos rfl] at there
      cases there
      exact goesOn known (onward.acknowledged.symm.trans noted)
    · rw [if_neg same] at there
      exact goesOn there noted

end Scene

namespace Supervision

section

variable {Frame : Type} {lag : Nat} {reads : Signer → Frame → Except Failure Message} {name : String}
  {spec : KernelSpec} {options : LaunchOptions} {s s' s'' t : Supervision} {stage stage' : Stage}
  {o : ShutdownOutcome} {trace moments later more : List (Moment Frame)} {p : Premises}
  {heard : List (Reception Frame)}

/-- The last launch began this watch, and this has happened since then. -/
structure SinceLaunch (watch : Nat) (trace later : List (Moment Frame)) : Prop where
  split : ∃ earlier, trace = earlier ++ .launched watch :: later ∧ .launched watch ∉ earlier
  last : ∀ i, .launched i ∉ later

theorem SinceLaunch.append {watch : Nat} (since : SinceLaunch watch trace later)
    (quiet : ∀ i, .launched i ∉ more) : SinceLaunch watch (trace ++ more) (later ++ more) := by
  obtain ⟨⟨earlier, rfl, new⟩, last⟩ := since
  refine ⟨⟨earlier, by simp, new⟩, fun i member => ?_⟩
  rcases List.mem_append.mp member with old | recent
  · exact last i old
  · exact quiet i recent

theorem launched_notMem_heard (heard : List (Reception Frame)) (i : Nat) :
    Moment.launched i ∉ heard.map Moment.heard := by
  intro member
  obtain ⟨r, -, same⟩ := List.mem_map.mp member
  cases same

theorem Step.quiet (step : Step lag reads s stage more t stage') (i : Nat) : .launched i ∉ more := by
  cases step with
  | elsewhere => exact launched_notMem_heard _ i
  | timed => simp
  | _ => exact List.not_mem_nil

theorem Shutdown.quiet (shutdown : Shutdown lag reads s moments t stage) (i : Nat) : .launched i ∉ moments := by
  induction shutdown with
  | called => exact List.not_mem_nil
  | next _ step ih =>
    intro member
    rcases List.mem_append.mp member with old | recent
    · exact ih old
    · exact step.quiet i recent

/-- No shutdown launches anything. -/
theorem Closes.quiet (closes : Closes lag reads s o moments s') (i : Nat) : .launched i ∉ moments := by
  cases closes with
  | idle => exact List.not_mem_nil
  | left shutdown => exact shutdown.quiet i

theorem Keeps.trans (one : s.Keeps s') (two : s'.Keeps s'') : s.Keeps s'' := by
  intro i c here
  obtain ⟨c', there⟩ := one i c here
  exact two i c' there

theorem keeps_elsewhere (course : Premises.Course reads s.premises heard p) : s.Keeps { s with premises := p } := by
  intro i c here
  obtain ⟨c', there, -⟩ := course.scene.later here
  exact ⟨c', there⟩

theorem Step.keeps (step : Step lag reads s stage more t stage') : s.Keeps t := by
  cases step with
  | elsewhere course _ => exact keeps_elsewhere course
  | sent _ sent =>
    obtain ⟨x, m, same, -⟩ := sendRequest_sent sent
    cases same
    exact .refl s
  | refused _ refused =>
    cases sendRequest_refused refused
    exact .refl s
  | told =>
    intro i c here
    unfold Supervision.stopWatch
    split
    · exact ⟨c, here⟩
    · rename_i watch found
      have there := Scene.control?_setParty (Scene.parties_of_control? found) (.control watch.stop)
        s.premises.scene.exchange i
      by_cases same : i = s.watch
      · rw [if_pos same] at there
        exact ⟨watch.stop, there⟩
      · rw [if_neg same] at there
        exact ⟨c, there.trans here⟩
  | hungUp =>
    unfold Supervision.hangUp
    split <;> exact .refl s
  | _ => exact .refl s

theorem Shutdown.keeps (shutdown : Shutdown lag reads s moments t stage) : s.Keeps t := by
  induction shutdown with
  | called => exact .refl s
  | next _ step ih => exact ih.trans step.keeps

theorem Closes.keeps (closes : Closes lag reads s o moments s') : s.Keeps s' := by
  cases closes with
  | idle => exact .refl s
  | left shutdown => exact shutdown.keeps

/-- Whatever has been launched, its watch is still there. So no two launches share one. -/
theorem Tenure.watches (tenure : Tenure lag reads name spec options trace s) {i : Nat} (launched : .launched i ∈ trace) :
    ∃ c, s.premises.scene.control? i = some c := by
  induction tenure with
  | new => cases launched
  | elsewhere _ course ih =>
    obtain ⟨c, here⟩ := ih ((List.mem_append.mp launched).resolve_right (launched_notMem_heard _ i))
    exact keeps_elsewhere course i c here
  | launched before result ih =>
    obtain ⟨-, kept, watched⟩ := connected_of_start before.settled result
    rcases List.mem_append.mp launched with old | recent
    · obtain ⟨c, here⟩ := ih old
      exact kept i c here
    · cases List.mem_singleton.mp recent
      obtain ⟨id, turn, line, here⟩ := watched.begun
      exact ⟨_, here⟩
  | failed before result ih =>
    obtain ⟨c, here⟩ := ih ((List.mem_append.mp launched).resolve_right (by simp))
    rcases of_start_failed before.settled reads result with ⟨-, kept⟩ | ⟨-, p, rfl, course⟩
    · exact kept i c here
    · exact keeps_elsewhere course i c here
  | closed _ closes ih =>
    have old := (List.mem_append.mp launched).resolve_right (by simp)
    obtain ⟨c, here⟩ := ih ((List.mem_append.mp old).resolve_right (closes.quiet i))
    exact closes.keeps i c here

theorem Tenure.connected (tenure : Tenure lag reads name spec options trace s)
    (kernel : s.manager.hasKernel = true) : s.Connected :=
  tenure.settled.resolve_left fun rest => by cases rest.hasKernel.symm.trans kernel

/-- The time is over then that began when the kernel was asked. -/
def Due (options : LaunchOptions) (moments : List (Moment Frame)) (deadline : Nat) : Prop :=
  ∃ asked, .asked asked ∈ moments ∧ deadline = asked + options.shutdownWait

theorem Due.append {deadline : Nat} (due : Due options moments deadline) (more : List (Moment Frame)) :
    Due options (moments ++ more) deadline := by
  obtain ⟨asked, member, same⟩ := due
  exact ⟨asked, List.mem_append_left _ member, same⟩

/-- The first look that there is behind the deadline is one pause behind it at most. -/
def Stage.Timed (options : LaunchOptions) (moments : List (Moment Frame)) : Stage → Prop
  | looking deadline due => due ≤ deadline + max options.shutdownPause 1 ∧ Due options moments deadline
  | doubting deadline => Due options moments deadline
  | _ => True

theorem Shutdown.timed (shutdown : Shutdown lag reads s moments t stage) (connected : s.Connected) :
    stage.Timed s.manager.options moments := by
  induction shutdown with
  | called process => cases Manager.farewell s.process? <;> trivial
  | @next moments t stage more t' stage' before step ih =>
    have options : t.manager.options = s.manager.options := by
      rw [(before.underWay connected).manager]
      split <;> rfl
    cases step with
    | elsewhere course punctual =>
      cases stage with
      | looking deadline due => exact ⟨ih.1, ih.2.append _⟩
      | doubting deadline => exact Due.append ih _
      | _ => trivial
    | timed =>
      refine ⟨by omega, t.premises.now, List.mem_append_right _ (List.mem_singleton_self _), ?_⟩
      rw [options]
    | silent => exact ih.2.append _
    | paused early =>
      rw [options]
      exact ⟨by omega, Due.append ih _⟩
    | _ => trivial

end

variable {lag : Nat} {name : String} {spec : KernelSpec} {options : LaunchOptions} {s s' t : Supervision}
  {stage : Stage} {trace moments more : List (Moment (List Bytes))}

/-- A loop of the watch has taken frames, by then at the latest, that carry an answer to a request to shut down
under the signer's signature. -/
def Agreed (signer : Signer) (watch latest : Nat) (moments : List (Moment (List Bytes))) : Prop :=
  ∃ r m, .heard r ∈ moments ∧ r.watch = watch ∧ r.now ≤ latest ∧ Carried signer r.frame m ∧
    m.msgType = "shutdown_reply"

theorem Agreed.mono {signer : Signer} {watch latest latest' : Nat} {moments moments' : List (Moment (List Bytes))}
    (agreed : Agreed signer watch latest moments) (later : latest ≤ latest') (more : moments ⊆ moments') :
    Agreed signer watch latest' moments' := by
  obtain ⟨r, m, member, mine, now, carried, kind⟩ := agreed
  exact ⟨r, m, more member, mine, now.trans later, carried, kind⟩

/-- The signer that the last watch is to have. -/
def signer (s : Supervision) : Signer := ⟨s.manager.file.info.keyBytes⟩

/-- An agreement that is noted has come since the last launch. -/
def Current (trace : List (Moment (List Bytes))) (s : Supervision) : Prop :=
  ∃ later, SinceLaunch s.watch trace later ∧
    (s.premises.scene.acknowledged s.watch = true → Agreed s.signer s.watch s.premises.now later)

theorem Current.next (current : s.Current trace) (quiet : ∀ i, .launched i ∉ more) (watch : t.watch = s.watch)
    (file : t.manager.file = s.manager.file) (now : s.premises.now ≤ t.premises.now)
    (noted : t.premises.scene.acknowledged t.watch = true → s.premises.scene.acknowledged s.watch = true ∨
      Agreed s.signer s.watch t.premises.now more) :
    t.Current (trace ++ more) := by
  obtain ⟨later, since, agreed⟩ := current
  have signer : t.signer = s.signer := congrArg (fun file => (⟨file.info.keyBytes⟩ : Signer)) file
  refine ⟨later ++ more, watch ▸ since.append quiet, fun acknowledged => ?_⟩
  rw [signer, watch]
  rcases noted acknowledged with before | recent
  · exact (agreed before).mono now (List.subset_append_left ..)
  · exact recent.mono (Nat.le_refl _) (List.subset_append_right ..)

/-- What the manager does itself is not noted as an agreement. -/
theorem Current.aside (current : s.Current trace) (watch : t.watch = s.watch)
    (file : t.manager.file = s.manager.file) (now : s.premises.now ≤ t.premises.now)
    (same : t.premises.scene.acknowledged t.watch = s.premises.scene.acknowledged s.watch) : t.Current trace := by
  have next : t.Current (trace ++ []) := current.next (fun _ => List.not_mem_nil) watch file now
    fun noted => Or.inl (same.symm.trans noted)
  rwa [List.append_nil] at next

theorem Current.course {p : Premises} {heard : List (Reception (List Bytes))} (current : s.Current trace)
    (supervising : s.Supervising) (course : Premises.Course Message.decode s.premises heard p) :
    Current (trace ++ heard.map .heard) { s with premises := p } := by
  obtain ⟨c, here, signer⟩ := supervising.watched
  obtain ⟨c', there, -⟩ := course.scene.later here
  refine current.next (launched_notMem_heard heard) rfl rfl course.scene.now_le fun noted => ?_
  have flag : c'.acknowledged = true := by
    have noted : p.scene.acknowledged s.watch = true := noted
    rwa [Scene.acknowledged, there] at noted
  rcases course.scene.acknowledged here there flag with before | ⟨r, member, mine, now, m, read, agreement⟩
  · left
    rw [Scene.acknowledged, here]
    exact before
  · right
    rw [signer] at read
    exact ⟨r, m, List.mem_map_of_mem member, mine, now, Message.carried_of_decode read, agreement.msgType_eq⟩

theorem Current.step {stage' : Stage} (current : s.Current trace) (supervising : s.Supervising)
    (step : Step lag Message.decode s stage more t stage') : t.Current (trace ++ more) := by
  cases step with
  | elsewhere course _ => exact current.course supervising course
  | timed => exact current.next (by simp) rfl rfl (Nat.le_refl _) Or.inl
  | sent _ sent =>
    obtain ⟨x, m, same, -, now, -⟩ := sendRequest_sent sent
    cases same
    rw [List.append_nil]
    exact current.aside rfl rfl (Nat.le_of_eq now.symm) rfl
  | refused _ refused =>
    cases sendRequest_refused refused
    rw [List.append_nil]
    exact current
  | told =>
    obtain ⟨c, here, -⟩ := supervising.watched
    have there := Scene.control?_setWatch here c.stop s.premises.scene.exchange
    rw [List.append_nil, stopWatch_eq here]
    refine current.aside rfl rfl (Nat.le_refl _) ?_
    simp only [withScene, Scene.acknowledged, here, there]
    rfl
  | hungUp =>
    rw [List.append_nil]
    refine current.aside s.watch_hangUp (by rw [manager_hangUp]) ?_ ?_
    · unfold Supervision.hangUp
      split <;> exact Nat.le_refl _
    · unfold Supervision.hangUp
      split <;> rfl
  | killed =>
    rw [List.append_nil]
    exact current.aside rfl rfl (Nat.le_refl _) rfl
  | _ =>
    rw [List.append_nil]
    exact current

theorem Tenure.current (tenure : Tenure lag Message.decode name spec options trace s)
    (kernel : s.manager.hasKernel = true) : s.Current trace := by
  induction tenure with
  | new => cases kernel
  | elsewhere before course ih => exact (ih kernel).course (before.connected kernel).toSupervising course
  | launched before result _ =>
    -- the watch has no agreement noted, and its number is a new one
    obtain ⟨-, -, watched⟩ := connected_of_start before.settled result
    obtain ⟨id, turn, line, here⟩ := watched.begun
    refine ⟨[], ⟨⟨_, rfl, fun member => ?_⟩, fun _ => List.not_mem_nil⟩, fun noted => ?_⟩
    · obtain ⟨c, there⟩ := before.watches member
      cases watched.new.symm.trans there
    · rw [Scene.acknowledged, here] at noted
      cases noted
  | failed before result ih =>
    rcases of_start_failed before.settled Message.decode result with ⟨rest, -⟩ | ⟨connected, p, rfl, course⟩
    · cases rest.hasKernel.symm.trans kernel
    · have current := (ih kernel).course connected.toSupervising course
      rw [List.map_nil, List.append_nil] at current
      exact current.next (by simp) rfl rfl (Nat.le_refl _) Or.inl
  | closed before closes _ =>
    have rest := closes.atRest before.settled
    cases rest.hasKernel.symm.trans kernel

/-- The kernel has agreed since the last launch, and not much behind the time that it had for it. -/
def InTime (lag : Nat) (s : Supervision) (trace moments : List (Moment (List Bytes))) : Prop :=
  ∃ later, SinceLaunch s.watch (trace ++ moments) later ∧ ∃ asked, .asked asked ∈ moments ∧
    Agreed s.signer s.watch (asked + s.manager.options.shutdownWait + max s.manager.options.shutdownPause 1 + lag) later

theorem Shutdown.current (shutdown : Shutdown lag Message.decode s moments t stage) (connected : s.Connected)
    (current : s.Current trace) : t.Current (trace ++ moments) := by
  induction shutdown with
  | called => rwa [List.append_nil]
  | next before step ih =>
    rw [← List.append_assoc]
    exact ih.step (before.underWay connected).supervising step

theorem Shutdown.inTime (shutdown : Shutdown lag Message.decode s moments t stage) (connected : s.Connected)
    (current : s.Current trace) (agreed : stage.outcome? = some .acknowledged) : s.InTime lag trace moments := by
  induction shutdown with
  | called =>
    -- no shutdown begins with an agreement
    unfold Manager.farewell at agreed
    split at agreed
    · cases agreed
    · split at agreed <;> cases agreed
  | @next moments t stage more t' stage' before step ih =>
    have goOn (agreed : stage.outcome? = some .acknowledged) : s.InTime lag trace (moments ++ more) := by
      obtain ⟨later, since, asked, member, heard⟩ := ih agreed
      refine ⟨later ++ more, ?_, asked, List.mem_append_left _ member,
        heard.mono (Nat.le_refl _) (List.subset_append_left ..)⟩
      rw [← List.append_assoc]
      exact since.append step.quiet
    cases step with
    | agreed due noted =>
      -- what the flag says at a look has come before it, and the look is not late
      have punctual := before.punctual
      obtain ⟨near, asked, member, deadline⟩ := before.timed connected
      obtain ⟨later, since, heard⟩ := before.current connected current
      have underWay := before.underWay connected
      have signer : t.signer = s.signer := by
        unfold Supervision.signer
        rw [underWay.manager]
        rfl
      rw [underWay.watch] at since
      rw [signer, underWay.watch] at heard
      rw [underWay.watch] at noted
      rw [List.append_nil]
      refine ⟨later, since, asked, member, (heard noted).mono ?_ (List.Subset.refl _)⟩
      have now : t.premises.now ≤ _ + lag := punctual
      omega
    | elsewhere => exact goOn agreed
    | told => exact goOn agreed
    | hungUp => exact goOn agreed
    | joined => exact goOn agreed
    | spared => exact goOn agreed
    | killed => exact goOn agreed
    | _ => cases agreed

theorem Supervising.signer_eq (supervising : s.Supervising) {c : Control}
    (here : s.premises.scene.control? s.watch = some c) : c.session.signer = s.signer := by
  obtain ⟨d, there, known⟩ := supervising.watched
  have same := there.symm.trans here
  cases same
  exact known

/-- What a loop of the last watch takes before a look is seen at the look. -/
theorem Shutdown.agrees {deadline due late : Nat}
    (shutdown : Shutdown lag Message.decode s moments t (.looking deadline due)) (connected : s.Connected)
    {c : Control} {loop : Loop} (here : t.premises.scene.control? t.watch = some c) (polls : loop ∈ c.loops)
    {frame : List Bytes} {m : Message} (read : Message.decode c.session.signer frame = .ok m)
    (agreement : m.Agreement) (now : t.premises.now ≤ late) (soon : late ≤ due) :
    ∃ s', Closes lag Message.decode s .acknowledged (moments ++ [.heard ⟨t.watch, late, frame⟩]) s' := by
  have moment : (t.premises.waitUntil late).now = late := Nat.max_eq_right now
  have punctual : (t.premises.waitUntil late).now ≤ due + lag := by
    rw [moment]
    exact Nat.le_trans soon (Nat.le_add_right ..)
  have answered := (shutdown.waitUntil late punctual).hear here polls frame punctual
  have last := answered.waitUntil due (Nat.max_le.mpr ⟨punctual, Nat.le_add_right ..⟩)
  have noted : (c.receive loop (Message.decode c.session.signer frame)).acknowledged = true := by
    rw [read]
    exact (Waiting.acknowledged_handle_iff c m).mpr (Or.inr agreement)
  have known := @Scene.control?_setWatch (t.premises.waitUntil late).scene _ _ here
    (c.receive loop (Message.decode c.session.signer frame)) (t.premises.waitUntil late).scene.exchange
  have agreed := last.goOn (.agreed (Nat.le_max_right ..) ((congrArg (·.any (·.acknowledged)) known).trans noted))
  obtain ⟨s', closes⟩ := agreed.ends connected rfl
  simp only [moment] at closes
  exact ⟨s', closes⟩

/-- Whenever an answer comes until the first look behind the kernel's time, the kernel has agreed. So the time that
an agreement may come at cannot be named any closer. -/
theorem Connected.agrees_until_last_look (connected : s.Connected) {q : KernelProcess}
    (process : s.process? = some q) (running : q.exited = false) {line : LineId}
    (held : s.manager.control = some line) {stamp : Stamp} {scene : Scene}
    (sent : s.premises.scene.sendRequest s.watch line stamp = (true, scene)) {c : Control} {loop : Loop}
    (watch : s.premises.scene.control? s.watch = some c) (polls : loop ∈ c.loops) (silent : c.acknowledged = false)
    {frame : List Bytes} {m : Message} (read : Message.decode s.signer frame = .ok m) (agreement : m.Agreement)
    {k late : Nat} (early : max s.manager.options.shutdownPause 1 * k < s.manager.options.shutdownWait)
    (behind : max s.manager.options.shutdownPause 1 * k ≤ late)
    (before : late ≤ max s.manager.options.shutdownPause 1 * (k + 1)) :
    ∃ s', Closes 0 Message.decode s .acknowledged
      [.asked s.premises.now, .heard ⟨s.watch, s.premises.now + late, frame⟩] s' := by
  obtain ⟨x, request, rfl, -, now, -⟩ := sendRequest_sent sent
  have begun : Shutdown 0 Message.decode s [] s .asking := .asking process running
  have asked := (begun.goOn (.sent held sent)).next .timed
  have start : (s.withScene { s.premises.scene with exchange := x }).premises.now = s.premises.now := now
  rw [start] at asked
  have quiet : (s.withScene { s.premises.scene with exchange := x }).premises.scene.acknowledged s.watch = false :=
    (congrArg (·.any (·.acknowledged)) watch).trans silent
  -- the last look before the answer finds nothing
  obtain ⟨p, looking, now, same⟩ := asked.looks start quiet k fun j less => by
    have order := Nat.mul_le_mul_left (max s.manager.options.shutdownPause 1) (Nat.le_of_lt less)
    exact Nat.add_lt_add_left (Nat.lt_of_le_of_lt order early) _
  have found : p.scene.control? s.watch = some c := by
    unfold Scene.control? at watch ⊢
    rw [same]
    exact watch
  have unnoted : p.scene.acknowledged s.watch = false := (congrArg (·.any (·.acknowledged)) found).trans silent
  have inTime : p.now < s.premises.now + s.manager.options.shutdownWait := by
    rw [now]
    exact Nat.add_lt_add_left early _
  have waiting := (looking.goOn (.silent (Nat.le_of_eq now.symm) unnoted)).goOn (.paused inTime)
  refine waiting.agrees connected found polls (connected.signer_eq watch ▸ read) agreement ?_ ?_
  · exact Nat.le_trans (Nat.le_of_eq now) (Nat.add_le_add_left behind _)
  · refine Nat.le_trans (Nat.add_le_add_left before _) (Nat.le_of_eq ?_)
    rw [Nat.mul_succ, ← Nat.add_assoc]
    exact congrArg (· + _) now.symm

/-- A manager that gives a kernel 150 milliseconds to answer, and looks for an answer every 100. -/
def patient : Supervision :=
  { fresh ["/bin/sleep", "5"] with
    manager := { (fresh ["/bin/sleep", "5"]).manager with
      options := { (fresh ["/bin/sleep", "5"]).manager.options with shutdownWait := 150, shutdownPause := 100 } } }

theorem prepared_patient :
    patient.prepared [] = withDisk { patient with premises := patient.premises.draw.2 }
        { patient.manager with file := ⟨freshInfo, "/k", true⟩ }
        { patient.disk with tree := freshTree, asked := 5 } ∧
      patient.start [] = (patient.prepared []).launch ⟨"/bin/sleep", ["5"], []⟩ := by
  obtain ⟨state, started⟩ := @prepared_of_write patient _ _ rfl (validate_fresh ["/bin/sleep", "5"])
    (write_fresh ["/bin/sleep", "5"]) []
  exact ⟨state, started "/bin/sleep" ["5"] (by cbv)⟩

/-- Its kernel has been launched. -/
def awaiting (program : Program) : Supervision := ((patient.prepared []).takeCharge program).ringUp

theorem start_patient : ∃ program, patient.start [] = (.ok (), awaiting program) := by
  obtain ⟨state, started⟩ := prepared_patient
  obtain ⟨program, launched⟩ := @launch_sleep_ringUp (patient.prepared []) (by rw [state]; rfl) (by rw [state]; rfl)
  exact ⟨program, started.trans launched⟩

/-- What a kernel answers that agrees to shut down. -/
def shutdownReply : Message := .new { Header.blank with msgType := "shutdown_reply" } .empty

theorem decode_shutdownReply (signer : Signer) : ∃ frame m, Message.decode signer frame = .ok m ∧ m.Agreement := by
  have decoded := shutdownReply.decode_routed signer List.not_mem_nil trivial trivial (by decide) (by decide)
  exact ⟨_, _, decoded, _, rfl⟩

/-- The kernel is asked and answers 170 milliseconds later. -/
theorem exists_late_answer : ∃ frame s s',
    Tenure 0 Message.decode "kernel" patient.manager.spec patient.manager.options [.launched 0] s ∧
    s.watch = 0 ∧ s.manager.options = patient.manager.options ∧
    Closes 0 Message.decode s .acknowledged [.asked 0, .heard ⟨0, 170, frame⟩] s' := by
  obtain ⟨program, started⟩ := start_patient
  have made : Tenure 0 Message.decode "kernel" patient.manager.spec patient.manager.options [] patient :=
    .new _ _ _ _ _
  have tenure := made.launched started
  have connected := tenure.connected rfl
  obtain ⟨frame, m, read, agreement⟩ := decode_shutdownReply (awaiting program).signer
  have state : awaiting program = _ := congrArg (fun s => (takeCharge s program).ringUp) prepared_patient.1
  have process : (awaiting program).process? = some .started := by rw [state]; rfl
  have sent : (awaiting program).premises.scene.sendRequest (awaiting program).watch ⟨.control, 0⟩ ⟨"", ""⟩ =
      (true, _) := Prod.ext (by rw [state]; rfl) rfl
  obtain ⟨c, watch, polls, silent⟩ : ∃ c,
      (awaiting program).premises.scene.control? (awaiting program).watch = some c ∧
        ⟨0, ⟨.control, 0⟩, none⟩ ∈ c.loops ∧ c.acknowledged = false := by
    rw [state]
    exact ⟨_, rfl, .head _, rfl⟩
  have options : (awaiting program).manager.options = patient.manager.options := by rw [state]; rfl
  have pause : (awaiting program).manager.options.shutdownPause = 100 := by rw [options]; rfl
  have wait : (awaiting program).manager.options.shutdownWait = 150 := by rw [options]; rfl
  have early : max (awaiting program).manager.options.shutdownPause 1 * 1 <
      (awaiting program).manager.options.shutdownWait := by omega
  have behind : max (awaiting program).manager.options.shutdownPause 1 * 1 ≤ 170 := by omega
  have before : 170 ≤ max (awaiting program).manager.options.shutdownPause 1 * (1 + 1) := by omega
  obtain ⟨s', closes⟩ := connected.agrees_until_last_look process rfl rfl sent watch polls silent read agreement
    early behind before
  exact ⟨frame, awaiting program, s', tenure, rfl, options, closes⟩

/-- Where a shutdown answers that the kernel has agreed, a loop of the last launch has taken an answer to the request
since then, and its signature was right. It took it before the last look at the watch, and the first look behind the
time that the kernel has is the last. -/
theorem Tenure.acknowledged_since_launch
    (tenure : Tenure lag Message.decode name spec options trace s)
    (closes : Closes lag Message.decode s .acknowledged moments s') :
    ∃ later, SinceLaunch s.watch (trace ++ moments) later ∧ ∃ asked, .asked asked ∈ moments ∧
      Agreed s.signer s.watch (asked + s.manager.options.shutdownWait + max s.manager.options.shutdownPause 1 + lag)
        later := by
  cases closes with
  | left shutdown =>
    have kernel := shutdown.hasKernel
    exact shutdown.inTime (tenure.connected kernel) (tenure.current kernel) rfl

/-- The answer has come since the launch, under its signature. -/
theorem Tenure.late_answer_acknowledged : ∃ trace s moments s',
    Tenure 0 Message.decode "kernel" patient.manager.spec patient.manager.options trace s ∧
    Closes 0 Message.decode s .acknowledged moments s' ∧
    ∃ later, SinceLaunch s.watch (trace ++ moments) later ∧ ∃ asked, .asked asked ∈ moments ∧
      Agreed s.signer s.watch (asked + s.manager.options.shutdownWait + max s.manager.options.shutdownPause 1 + 0)
        later := by
  obtain ⟨frame, s, s', tenure, -, -, closes⟩ := exists_late_answer
  exact ⟨_, s, _, s', tenure, closes, tenure.acknowledged_since_launch closes⟩

/-- The kernel's time was over when the answer came that the shutdown takes for an agreement. -/
theorem Tenure.late_answer_behind_time : ∃ trace s moments s',
    Tenure 0 Message.decode "kernel" patient.manager.spec patient.manager.options trace s ∧
    Closes 0 Message.decode s .acknowledged moments s' ∧
    ¬∃ later, SinceLaunch s.watch (trace ++ moments) later ∧ ∃ asked, .asked asked ∈ moments ∧
      Agreed s.signer s.watch (asked + s.manager.options.shutdownWait) later := by
  obtain ⟨frame, s, s', tenure, watch, options, closes⟩ := exists_late_answer
  refine ⟨_, s, _, s', tenure, closes, ?_⟩
  rintro ⟨later, ⟨⟨earlier, split, -⟩, -⟩, asked, ask, r, m, heard, -, now, -⟩
  have begin_ : asked = 0 := by simpa using ask
  have wait : s.manager.options.shutdownWait = 150 := by rw [options]; rfl
  have all : .heard r ∈ earlier ++ .launched s.watch :: later :=
    List.mem_append_right _ (List.mem_cons_of_mem _ heard)
  rw [← split] at all
  have only : r = ⟨0, 170, frame⟩ := by simpa using all
  have came : r.now = 170 := by rw [only]
  omega

end Supervision
end KernelLink
