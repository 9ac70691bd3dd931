import KernelLink.Proofs.Manager.Endings
import KernelLink.Proofs.Manager.Tenure

namespace KernelLink
namespace Supervision

/-- What a manager does that its clients may come to see. Processes go by their numbers among the children, and
clients by theirs among the parties. -/
inductive Deed where
  /-- A launch has started this process, and the manager has taken charge of it. -/
  | started (child : Nat)
  /-- A client has been made while the manager was in charge of this process. -/
  | made (client child : Nat)
  /-- The manager has let go of the process: the launch has failed or has been shut down. -/
  | letGo (child : Nat)

/-- What a deed makes of a manager. -/
inductive Deed.Does (s : Supervision) : Deed → Supervision → Prop
  | started (program : Program) : s.manager.process = none →
      Does s (.started s.premises.children.length) (s.takeCharge program)
  | made {client child t} : s.manager.process = some child → s.createClient = (.ok client, t) →
      Does s (.made client child) t
  | letGo {child} : s.manager.process = some child → Does s (.letGo child) s.letGo

/-- A manager from some moment on. Between its deeds the premises go on, and it keeps its process. A launch, the
making of a client and a shutdown consist of such steps. -/
inductive Custody (s : Supervision) : List Deed → Supervision → Prop
  | here : Custody s [] s
  | elsewhere {deeds t} {m : Manager} {p : Premises} (watch : Nat) : Custody s deeds t → t.premises.Ensues p →
      m.process = t.manager.process →
      Custody s deeds { t with premises := p, manager := m, watch := watch }
  | deed {deeds t t'} {deed : Deed} : Custody s deeds t → deed.Does t t' → Custody s (deeds ++ [deed]) t'

variable {s t u : Supervision} {deeds earlier later : List Deed} {deed : Deed} {client child : Nat}

/-- A deed divides a custody. -/
theorem Custody.divide (custody : Custody s deeds t) (split : deeds = earlier ++ deed :: later) :
    ∃ u v, Custody s earlier u ∧ deed.Does u v ∧ Custody v later t := by
  induction custody generalizing later with
  | here => simp at split
  | elsewhere watch _ ensues same ih =>
    obtain ⟨u, v, before, does, after⟩ := ih split
    exact ⟨u, v, before, does, after.elsewhere watch ensues same⟩
  | deed custody does ih =>
    rcases later.eq_nil_or_concat' with rfl | ⟨rest, last, rfl⟩
    · obtain ⟨rfl, rfl⟩ := List.append_singleton_inj.mp split
      exact ⟨_, _, custody, does, .here⟩
    · rw [← List.cons_append, ← List.append_assoc, List.append_singleton_inj] at split
      obtain ⟨split, rfl⟩ := split
      obtain ⟨u, v, before, did, after⟩ := ih split
      exact ⟨u, v, before, did, after.deed does⟩

/-- The clients see the process that the manager is in charge of. -/
structure Shown (s : Supervision) : Prop where
  slot : s.premises.slot = s.manager.process
  informed : s.premises.Informed

theorem shown_showProcess (s : Supervision) : s.showProcess.Shown := ⟨rfl, rfl⟩

/-- What the making of a client does, whether it succeeds or not. -/
theorem createClient_ends (s : Supervision) : ∃ result p, s.createClient = (result, { s with premises := p }) ∧
    s.premises.Ensues p ∧ ∀ client, result = .ok client →
      p.scene.owned? client = some true ∧ ∃ child, s.manager.process = some child := by
  unfold createClient
  cases may : s.manager.mayConnect s.process? with
  | error failure => exact ⟨_, s.premises, rfl, .refl _, nofun⟩
  | ok _ =>
    have there : ∃ child, s.manager.process = some child := by
      cases process : s.manager.process with
      | none => simp [Manager.mayConnect, process?, process] at may
      | some child => exact ⟨child, rfl⟩
    have drawn := s.premises.ensues_identifier.trans (Premises.ensues_stamp _)
    simp only
    generalize s.premises.identifier = identified at drawn ⊢
    obtain ⟨id, p⟩ := identified
    generalize p.stamp = stamped at drawn ⊢
    obtain ⟨stamp, p⟩ := stamped
    have started := (Client.new (s.manager.newSession id s.username) true).alike_start p.scene.exchange .all stamp
    generalize (Client.new (s.manager.newSession id s.username) true).start p.scene.exchange .all stamp = result
      at started ⊢
    obtain ⟨_ | _, c, x⟩ := result
    · have stopped := started.trans (c.alike_stop x)
      exact ⟨_, _, rfl, drawn.trans (Scene.ensues_append _ stopped.news).premises, nofun⟩
    · refine ⟨_, _, rfl, drawn.trans (Scene.ensues_append _ started.news).premises, fun client made => ?_⟩
      cases made
      have owned : c.owned = true := started.owned
      exact ⟨by simp [Scene.owned?, Scene.client?, owned], there⟩

theorem createClient_made (made : s.createClient = (.ok client, t)) : ∃ p, t = { s with premises := p } ∧
    s.premises.Ensues p ∧ p.scene.owned? client = some true := by
  obtain ⟨_, p, ended, ensues, knows⟩ := s.createClient_ends
  cases made.symm.trans ended
  exact ⟨p, rfl, ensues, (knows client rfl).1⟩

theorem manager_createClient (s : Supervision) : s.createClient.2.manager = s.manager := by
  obtain ⟨_, p, ended, -⟩ := s.createClient_ends
  rw [ended]

/-- Every client and every process stays. -/
structure Inherits (s t : Supervision) : Prop where
  owned : ∀ i known, s.premises.scene.owned? i = some known → t.premises.scene.owned? i = some known
  processes : ∀ child process, s.premises.process? child = some process →
    ∃ process', t.premises.process? child = some process'

theorem Inherits.trans (one : Inherits s t) (two : Inherits t u) : Inherits s u where
  owned i known here := two.owned i known (one.owned i known here)
  processes child process here := by
    obtain ⟨process', there⟩ := one.processes child process here
    exact two.processes child process' there

theorem inherits_of_ensues (ensues : s.premises.Ensues t.premises) : Inherits s t where
  owned := ensues.owned
  processes child process here := by
    obtain ⟨process', there, -⟩ := ensues.processes child process here
    exact ⟨process', there⟩

theorem Deed.Does.inherits (does : deed.Does s t) : Inherits s t := by
  cases does with
  | started program _ =>
    refine ⟨fun _ _ here => here, fun child process here => ⟨process, ?_⟩⟩
    obtain ⟨c, found, same⟩ := Option.map_eq_some_iff.mp here
    have bound : child < s.premises.children.length := (List.getElem?_eq_some_iff.mp found).1
    show ((s.premises.children ++ [Child.mk .started program])[child]?).map (·.process) = some process
    rw [List.getElem?_append_left bound]
    exact here
  | made _ made =>
    obtain ⟨p, rfl, ensues, -⟩ := createClient_made made
    exact inherits_of_ensues ensues
  | letGo _ => exact ⟨fun _ _ here => here, fun _ process here => ⟨process, here⟩⟩

theorem Custody.inherits (custody : Custody s deeds t) : Inherits s t := by
  induction custody with
  | here => exact inherits_of_ensues (.refl _)
  | elsewhere watch _ ensues _ ih => exact ih.trans (inherits_of_ensues ensues)
  | deed _ does ih => exact ih.trans does.inherits

/-- What the clients see stays up to date. -/
theorem Custody.shown (custody : Custody s deeds t) (shown : s.Shown) : t.Shown := by
  induction custody with
  | here => exact shown
  | elsewhere watch _ ensues same ih => exact ⟨ensues.slot.trans (ih.slot.trans same.symm), ensues.informed ih.informed⟩
  | @deed _ t _ _ _ does ih =>
    cases does with
    | started program _ => exact shown_showProcess _
    | made _ made =>
      obtain ⟨p, rfl, ensues, -⟩ := createClient_made made
      exact ⟨ensues.slot.trans ih.slot, ensues.informed ih.informed⟩
    | letGo _ => exact shown_showProcess _

/-- A process that a manager without one has taken charge of later is a new one. -/
theorem Custody.process_new (custody : Custody s deeds t) (idle : s.manager.process = none)
    (process : t.manager.process = some child) :
    .started child ∈ deeds ∧ (∃ q, t.premises.process? child = some q) ∧ s.premises.process? child = none := by
  -- a process keeps its number for good, so the number of the next one has never been given away
  induction custody with
  | here => cases idle.symm.trans process
  | elsewhere watch _ ensues same ih =>
    obtain ⟨begun, ⟨q, here⟩, new⟩ := ih (same.symm.trans process)
    obtain ⟨q', there, -⟩ := ensues.processes child q here
    exact ⟨begun, ⟨q', there⟩, new⟩
  | @deed deeds t t' _ custody does ih =>
    have kept := does.inherits
    cases does with
    | started program _ =>
      cases process
      have absent : t.premises.process? t.premises.children.length = none := by simp [Premises.process?]
      refine ⟨by simp, ⟨.started, ?_⟩, ?_⟩
      · simp [takeCharge, showProcess, Premises.setSlot, Premises.inform, Premises.process?]
      · cases here : s.premises.process? t.premises.children.length with
        | none => rfl
        | some q =>
          obtain ⟨q', there⟩ := custody.inherits.processes _ q here
          cases absent.symm.trans there
    | made _ made =>
      obtain ⟨p, rfl, ensues, -⟩ := createClient_made made
      obtain ⟨begun, ⟨q, here⟩, new⟩ := ih process
      exact ⟨List.mem_append_left _ begun, kept.processes _ q here, new⟩
    | letGo _ => cases process

/-- How a launch goes on with a custody. One that fails leaves no process in charge. -/
inductive Launching (s : Supervision) (deeds : List Deed) : Except Failure Unit → Supervision → Prop
  | unstarted {failure} {t : Supervision} : Custody s deeds t → Launching s deeds (.error failure) t
  | givenUp {failure} {child : Nat} {t : Supervision} :
      Custody s (deeds ++ [.started child] ++ [.letGo child]) t → Launching s deeds (.error failure) t
  | done {child : Nat} {t : Supervision} : t.manager.process = some child →
      Custody s (deeds ++ [.started child]) t → Launching s deeds (.ok ()) t

theorem Custody.launch (custody : Custody s deeds t) (idle : t.manager.process = none) (command : Command) :
    Launching s deeds (t.launch command).1 (t.launch command).2 := by
  rw [launch_eq]
  cases Program.start t.premises.disk.tree command t.premises.now with
  | error fault =>
    have left : t.premises.Ensues { t.premises with disk := (t.manager.cleanup t.disk).2 } :=
      Premises.ensues_children rfl rfl fun _ => rfl
    exact .unstarted (custody.elsewhere t.watch left rfl)
  | ok program =>
    have begun := custody.deed (.started program idle)
    dsimp only
    rcases settleLaunch_ends (t.takeCharge program) t.premises.children.length with
      ⟨failure, p, ended, ensues, -⟩ | ⟨p, control, watch, ended, ensues⟩
    · have waited : Custody s _ { t.takeCharge program with premises := p } := begun.elsewhere _ ensues rfl
      rw [ended]
      exact .givenUp (waited.deed (.letGo rfl))
    · rw [ended]
      exact .done rfl (begun.elsewhere watch ensues rfl)

/-- Every launch is a part of a custody. -/
theorem Custody.start (custody : Custody s deeds t) (extra : List String) :
    Launching s deeds (t.start extra).1 (t.start extra).2 := by
  obtain ⟨file, same⟩ := t.prepared_manager extra
  have process : (t.prepared extra).manager.process = t.manager.process := by rw [same]
  have drawn : t.premises.Ensues (t.prepared extra).premises := Premises.ensues_children rfl rfl fun _ => rfl
  have ready : Custody s deeds (t.prepared extra) := custody.elsewhere t.watch drawn process
  cases kernel : t.manager.hasKernel with
  | true =>
    rw [(t.start_busy kernel extra).1]
    exact .unstarted ready
  | false =>
    have idle : t.manager.process = none := by simpa [Manager.hasKernel] using kernel
    obtain ⟨-, failed, goesOn⟩ := @start_of_prepare t extra _ _ _ rfl
    cases made : (t.manager.prepare t.disk (t.premises.draw.1.take keyLength) t.inherited extra).1 with
    | error failure =>
      rw [failed failure made]
      exact .unstarted ready
    | ok command =>
      rw [goesOn command made]
      exact ready.launch (process.trans idle) command

/-- So is the making of a client. -/
theorem Custody.createClient (custody : Custody s deeds t) :
    (∃ failure, t.createClient.1 = .error failure ∧ Custody s deeds t.createClient.2) ∨
    ∃ client child, t.createClient.1 = .ok client ∧ t.manager.process = some child ∧
      Custody s (deeds ++ [.made client child]) t.createClient.2 := by
  obtain ⟨result, p, ended, ensues, knows⟩ := t.createClient_ends
  cases result with
  | error failure =>
    rw [ended]
    exact Or.inl ⟨failure, rfl, custody.elsewhere _ ensues rfl⟩
  | ok client =>
    obtain ⟨-, child, process⟩ := knows client rfl
    exact Or.inr ⟨client, child, by rw [ended], process, custody.deed (.made process (by rw [ended]))⟩

/-- And so is every shutdown. -/
theorem Custody.shutdown (custody : Custody s deeds t) :
    t.manager.process = none ∧ Custody s deeds t.shutdown.2 ∨
    ∃ child, t.manager.process = some child ∧ Custody s (deeds ++ [.letGo child]) t.shutdown.2 := by
  cases process : t.manager.process with
  | none =>
    have cleaned : t.premises.Ensues { t.premises with disk := (t.manager.cleanup t.disk).2 } :=
      Premises.ensues_children rfl rfl fun _ => rfl
    have ended : t.shutdown = (.notRunning, t.withDisk (t.manager.cleanup t.disk).1 (t.manager.cleanup t.disk).2) := by
      simp only [Supervision.shutdown, process]
    rw [ended]
    exact Or.inl ⟨rfl, custody.elsewhere t.watch cleaned rfl⟩
  | some child =>
    obtain ⟨outcome, p, control, ended, ensues⟩ := shutdown_ends process
    have closed : Custody s deeds { t with premises := p, manager := { t.manager with control := control } } :=
      custody.elsewhere t.watch ensues rfl
    rw [ended]
    exact Or.inr ⟨child, rfl, closed.deed (.letGo process)⟩

/-- A client of the manager tells whether the process that the manager is in charge of is running. -/
theorem Shown.isAlive (shown : s.Shown) {c : Client} (owned : c.owned = true) :
    c.isAlive s.premises.scene.exchange = s.process?.any (·.isAlive) := by
  have news : s.premises.scene.exchange.kernelAlive = s.premises.isAlive := shown.informed
  rw [Client.isAlive, if_pos owned, news, Premises.isAlive, Premises.supervised, shown.slot, process?]

/-- Who waits for what is the case already does not wait. -/
theorem await_done {σ : Type} (k : Clock σ) {done : σ → Bool} {world : σ} (already : done world = true)
    (budget pause : Nat) : k.await done budget pause world = (true, world) := by
  rw [Clock.await, Clock.awaitWith, if_pos already]

/-- A process that has just been started is gone at once if it is killed. -/
theorem answer_kill_started (program : Program) (deadline now : Nat) :
    ((Child.mk (KernelProcess.started.kill deadline).2 program).settle now).process.answer? 0 = some true := by
  cases program <;> cbv

/-- Meanwhile nobody changes the disk. -/
theorem disk_kill_started {p : Premises} {program : Program} (only : p.children = [⟨.started, program⟩])
    (budget : Nat) : (p.kill 0 budget).2.disk = p.disk := by
  have here : p.process? 0 = some .started := by rw [Premises.process?, only]; rfl
  have asked : KernelProcess.started.kill (p.now + budget) =
      (some 0, (KernelProcess.started.kill (p.now + budget)).2) := rfl
  have told := answer_kill_started program (p.now + budget) p.now
  unfold Premises.kill
  rw [here]
  dsimp only
  rw [asked]
  generalize (KernelProcess.started.kill (p.now + budget)).2 = process at told ⊢
  have noted : ((p.onProcess 0 fun _ => process).settleProcesses.process? 0).bind (·.answer? 0) = some true := by
    have first : (p.onProcess 0 fun _ => process).children[0]? = some ⟨process, program⟩ := by
      simp [Premises.onProcess, only]
    rw [Premises.process?, Premises.settleProcesses, Premises.inform, List.getElem?_map, first, Option.map_some,
      Option.map_some, Option.bind_some]
    exact told
  unfold Premises.awaitWatch Premises.await
  dsimp only
  rw [await_done Premises.clock (by rw [noted]; rfl)]
  rfl

/-- The programs and the disk are as they were. -/
structure Still (s t : Supervision) : Prop where
  children : t.premises.children = s.premises.children
  disk : t.disk = s.disk

theorem still_createClient (s : Supervision) : s.Still s.createClient.2 := by
  unfold Supervision.createClient
  split
  · exact ⟨rfl, rfl⟩
  · simp only
    split <;> exact ⟨rfl, rfl⟩

theorem still_ask (soon : s.manager.options.shutdownWait = 0) : s.Still s.ask.2 := by
  unfold ask
  split
  · exact ⟨rfl, rfl⟩
  · simp only
    split
    · exact ⟨rfl, rfl⟩
    · simp only [soon, Premises.await, snd_await_zero]
      exact ⟨rfl, rfl⟩

theorem still_endControl (s : Supervision) : s.Still s.endControl := by
  unfold endControl
  split <;> exact ⟨rfl, rfl⟩

/-- A shutdown that nobody answers in no time leaves nothing on the disk but what the manager has not written. -/
theorem disk_shutdown_started {program : Program} (process : s.manager.process = some 0)
    (only : s.premises.children = [⟨.started, program⟩]) (soon : s.manager.options.shutdownWait = 0)
    (silent : s.ask.1 = false) : s.shutdown.2.disk = (s.manager.file.cleanup s.disk).2 := by
  have running : s.process? = some .started := by rw [process?, process, Option.bind_some, Premises.process?, only]; rfl
  have asked := still_ask soon
  have hungUp := s.ask.2.still_endControl
  have killed := disk_kill_started ((hungUp.children.trans asked.children).trans only) killWait
  have file : s.ask.2.endControl.manager.file = s.manager.file := by rw [file_endControl, manager_ask]
  have ended : s.shutdown = (.killed, (s.ask.2.endControl.seeOff 0 .killed).letGo) := by
    unfold Supervision.shutdown
    rw [process, running]
    generalize s.ask = answer at silent ⊢
    obtain ⟨agreed, t⟩ := answer
    cases silent
    rfl
  have away := (s.ask.2.endControl.seeOff 0 .killed).letGo_eq.2.2.1
  rw [ended, away, manager_seeOff, file]
  exact congrArg (fun disk => (s.manager.file.cleanup disk).2) ((killed.trans hungUp.disk).trans asked.disk)

theorem process?_ringUp (s : Supervision) (program : Program) :
    (s.takeCharge program).ringUp.process? = some .started := by
  simp [process?, ringUp, takeCharge, showProcess, Premises.setSlot, Premises.inform, Premises.process?,
    Premises.identifier, Premises.draw]

/-- A launch of a program that sleeps, if nothing keeps the manager from writing its connection file. -/
theorem start_sleep_ringUp {info : ConnectionInfo} {disk : Disk} (idle : s.manager.hasKernel = false)
    (valid : s.manager.file.validate = .ok ())
    (wrote : (s.manager.file.generateKey (s.premises.draw.1.take keyLength)).write s.disk =
      (.ok (), ⟨info, s.manager.file.path, true⟩, disk))
    (line : s.manager.commandLine [] = ["/bin/sleep", "5"])
    (bare : Environment.resolve s.inherited [s.manager.spec.env, s.manager.options.env] = [])
    (soon : s.manager.options.settleTime = 0) (free : s.premises.scene.exchange.refused = []) :
    ∃ program, s.start [] = (.ok (), ((s.prepared []).takeCharge program).ringUp) := by
  obtain ⟨state, goesOn⟩ := prepared_of_write idle valid wrote []
  obtain ⟨program, launched⟩ := @launch_sleep_ringUp (s.prepared []) (by rw [state]; exact soon)
    (by rw [state]; exact free)
  refine ⟨program, ?_⟩
  rw [goesOn _ _ line, bare, launched]

/-- A fresh manager has launched a kernel that sleeps. -/
def asleep (program : Program) : Supervision := (((fresh ["/bin/sleep", "5"]).prepared []).takeCharge program).ringUp

theorem start_asleep : ∃ program, (fresh ["/bin/sleep", "5"]).start [] = (.ok (), asleep program) :=
  start_sleep_ringUp rfl (validate_fresh _) (write_fresh _) (by cbv) rfl rfl rfl

theorem createClient_asleep (program : Program) : (asleep program).createClient.1 = .ok 1 := by
  rw [asleep, prepared_fresh]
  rfl

theorem silent_asleep (program : Program) : (asleep program).createClient.2.ask.1 = false := by
  rw [asleep, prepared_fresh]
  rfl

/-- A client has been made for it, and it has been shut down. -/
def outlived (program : Program) : Supervision := (asleep program).createClient.2.shutdown.2

/-- Nothing but the news has changed for the manager and its client. -/
theorem outlived_eq (program : Program) : ∃ p control,
    outlived program = letGo { asleep program with
      premises := p, manager := { (asleep program).manager with control := control } } ∧
    p.scene.owned? 1 = some true ∧ p.scene.exchange.refused = [] := by
  have free : (asleep program).premises.scene.exchange.refused = [] := by rw [asleep, prepared_fresh]; rfl
  obtain ⟨result, p, made, first, knows⟩ := (asleep program).createClient_ends
  have client : result = .ok 1 := (congrArg Prod.fst made).symm.trans (createClient_asleep program)
  have process : (asleep program).createClient.2.manager.process = some 0 := by
    rw [manager_createClient, asleep, prepared_fresh]
    rfl
  obtain ⟨outcome, q, control, ended, second⟩ := shutdown_ends process
  rw [made] at ended second
  refine ⟨q, control, ?_, second.owned _ _ (knows 1 client).1, second.refused.trans (first.refused.trans free)⟩
  rw [outlived, made]
  exact congrArg Prod.snd ended

theorem disk_outlived (program : Program) :
    (outlived program).disk = { (fresh ["/bin/sleep", "5"]).disk with asked := 5 } := by
  have still := (asleep program).still_createClient
  have manager := (asleep program).manager_createClient
  have left := @disk_shutdown_started (asleep program).createClient.2 program
    (by rw [manager, asleep, prepared_fresh]; rfl) (by rw [still.children, asleep, prepared_fresh]; rfl)
    (by rw [manager, asleep, prepared_fresh]; rfl) (silent_asleep program)
  have away : (⟨freshInfo, "/k", true⟩ : ConnectionFile).cleanup { (fresh ["/bin/sleep", "5"]).disk with
      tree := freshTree, asked := 5 } = (⟨freshInfo, "/k", false⟩, { (fresh ["/bin/sleep", "5"]).disk with asked := 5 }) := by
    cbv
  rw [outlived, left, manager, still.disk, asleep, prepared_fresh]
  exact congrArg Prod.snd away

theorem start_outlived (program : Program) :
    ∃ next, (outlived program).start [] = (.ok (), (((outlived program).prepared []).takeCharge next).ringUp) := by
  obtain ⟨p, control, state, -, free⟩ := outlived_eq program
  have file : (outlived program).manager.file = ⟨freshInfo, "/k", false⟩ := by
    rw [state, file_letGo, asleep, prepared_fresh]
    rfl
  have here : isLocalAddress "127.0.0.1" = true := by cbv
  have wrote (octets : Bytes) : ∃ disk, ((outlived program).manager.file.generateKey octets).write
      (outlived program).disk = (.ok (), ⟨{ freshInfo with key := keyText octets }, "/k", true⟩, disk) := by
    rw [file, disk_outlived]
    have opened : ((⟨freshInfo, "/k", false⟩ : ConnectionFile).generateKey octets).Opened
        { (fresh ["/bin/sleep", "5"]).disk with asked := 5 } { freshInfo with key := keyText octets } 5 ["k"]
        (FileTree.empty.put ["k"] (.file [])) :=
      ⟨fun both => Bool.false_ne_true both.1,
        by simp [ConnectionFile.validate, ConnectionFile.generateKey, freshInfo, here], rfl, create_empty⟩
    exact ⟨_, ConnectionFile.write_anew opened rfl⟩
  obtain ⟨disk, wrote⟩ := wrote ((outlived program).premises.draw.1.take keyLength)
  refine start_sleep_ringUp ?_ ?_ (by rw [wrote, file]) ?_ ?_ ?_ ?_
  · rw [state]
    rfl
  · rw [file]
    simp [ConnectionFile.validate, freshInfo, here]
  · rw [Manager.commandLine, file, state, asleep, prepared_fresh]
    cbv
  · rw [state, asleep, prepared_fresh]
    rfl
  · rw [state, asleep, prepared_fresh]
    rfl
  · rw [state]
    exact free

/-- Once the launch that a client has been made for has been let go of, the client tells whether the process that the
manager is in charge of by then is running: it tells so only of a process that has been started since. -/
theorem Custody.isAlive_after_letGo {name : String} {spec : KernelSpec} {options : LaunchOptions}
    (new : s.manager = .ofSpec name spec options) (custody : Custody s (earlier ++ .letGo child :: later) t)
    (made : .made client child ∈ earlier) :
    ∃ c, t.premises.scene.client? client = some c ∧
      c.isAlive t.premises.scene.exchange = t.process?.any (·.isAlive) ∧
      (c.isAlive t.premises.scene.exchange = true → ∃ next process, .started next ∈ later ∧ next ≠ child ∧
        t.manager.process = some next ∧ t.premises.process? next = some process ∧ process.exited = false) := by
  have idle : s.manager.process = none := by rw [new]; rfl
  -- the client knows its owner from its making on; the slot and the news are right from the letting go on
  obtain ⟨u, v, before, gone, after⟩ := custody.divide rfl
  obtain ⟨a, b, apart⟩ := List.append_of_mem made
  obtain ⟨w, w', -, created, between⟩ := before.divide apart
  have known : w'.premises.scene.owned? client = some true := by
    cases created with
    | made _ made =>
      obtain ⟨p, rfl, -, knows⟩ := createClient_made made
      exact knows
  have kept := (between.inherits.trans gone.inherits).trans after.inherits
  obtain ⟨c, found, owned⟩ := Option.map_eq_some_iff.mp (kept.owned client true known)
  cases gone with
  | letGo process =>
    have tells := (after.shown (shown_showProcess _)).isAlive owned
    refine ⟨c, found, tells, fun alive => ?_⟩
    rw [tells] at alive
    obtain ⟨q, supervised, running⟩ := (Option.any_eq_true _ _).mp alive
    obtain ⟨next, charge, here⟩ := Option.bind_eq_some_iff.mp supervised
    obtain ⟨since, -, fresh⟩ := after.process_new rfl charge
    obtain ⟨-, ⟨old, there⟩, -⟩ := before.process_new idle process
    refine ⟨next, q, since, ?_, charge, here, by simpa [KernelProcess.isAlive] using running⟩
    rintro rfl
    cases fresh.symm.trans there

/-- Once its kernel has been shut down, a client is not alive. -/
theorem Custody.not_isAlive_after_shutdown : ∃ t c,
    Custody (fresh ["/bin/sleep", "5"]) ([.started 0, .made 1 0] ++ .letGo 0 :: []) t ∧
      t.premises.scene.client? 1 = some c ∧ c.isAlive t.premises.scene.exchange = false := by
  obtain ⟨program, started⟩ := start_asleep
  have process : (asleep program).manager.process = some 0 := by rw [asleep, prepared_fresh]; rfl
  have went : Launching (fresh ["/bin/sleep", "5"]) [] _ _ := Custody.here.start []
  rw [started] at went
  cases went with
  | done charge launched =>
    cases process.symm.trans charge
    rcases launched.createClient with ⟨failure, failed, -⟩ | ⟨client, child, answered, charge, made⟩
    · cases (createClient_asleep program).symm.trans failed
    cases (createClient_asleep program).symm.trans answered
    cases process.symm.trans charge
    have kept := (congrArg Manager.process (asleep program).manager_createClient).trans process
    rcases made.shutdown with ⟨none, -⟩ | ⟨child, charge, closed⟩
    · cases kept.symm.trans none
    cases kept.symm.trans charge
    have new : (fresh ["/bin/sleep", "5"]).manager = .ofSpec "kernel" _ _ := rfl
    obtain ⟨c, found, -, alive⟩ := Custody.isAlive_after_letGo new closed (.tail _ (.head _))
    refine ⟨_, c, closed, found, Bool.eq_false_iff.mpr fun running => ?_⟩
    obtain ⟨next, -, since, -⟩ := alive running
    cases since

/-- When the next kernel has been launched, a client of the one before is alive again. -/
theorem Custody.isAlive_of_next_launch : ∃ s₁ client s₂ s₃ c,
    (fresh ["/bin/sleep", "5"]).start [] = (.ok (), s₁) ∧ s₁.createClient = (.ok client, s₂) ∧
      s₂.shutdown.2.manager.process = none ∧ s₂.shutdown.2.start [] = (.ok (), s₃) ∧
      s₃.premises.scene.client? client = some c ∧ c.isAlive s₃.premises.scene.exchange = true := by
  obtain ⟨program, started⟩ := start_asleep
  obtain ⟨next, again⟩ := start_outlived program
  obtain ⟨p, control, state, owned, -⟩ := outlived_eq program
  have idle : (outlived program).manager.process = none := by rw [state]; rfl
  have shown : (outlived program).Shown := by rw [state]; exact shown_showProcess _
  have known : (outlived program).premises.scene.owned? 1 = some true := by rw [state]; exact owned
  have running := process?_ringUp ((outlived program).prepared []) next
  generalize (((outlived program).prepared []).takeCharge next).ringUp = s₃ at again running
  have went : Launching (outlived program) [] _ _ := Custody.here.start []
  rw [again] at went
  cases went with
  | done _ custody =>
    obtain ⟨c, found, knows⟩ := Option.map_eq_some_iff.mp (custody.inherits.owned 1 true known)
    have tells := (custody.shown shown).isAlive knows
    rw [running] at tells
    refine ⟨asleep program, 1, (asleep program).createClient.2, s₃, c, started,
      Prod.ext (createClient_asleep program) rfl, ?_⟩
    rw [← outlived]
    exact ⟨idle, again, found, tells⟩

end Supervision
end KernelLink
