import KernelLink.Proofs.Client.Operations
import KernelLink.Proofs.Manager.Launch

namespace KernelLink

namespace Supervision

/-- What a manager has been asked for, and what came of it. -/
inductive Event where
  | started (result : Except Failure Unit)
  | shutDown

/-- A manager from its making on: it is asked to launch and to shut down in any order, and in between the
premises change in any way. -/
inductive Run (name : String) (spec : KernelSpec) (options : LaunchOptions) : List Event → Supervision → Prop
  | new {s : Supervision} : s.manager = .ofSpec name spec options → Run name spec options [] s
  | start {trace s} (extra : List String) : Run name spec options trace s → PortPicker.Valid s.disk.picker →
      Run name spec options (trace ++ [.started (s.start extra).1]) (s.start extra).2
  | shutdown {trace s} : Run name spec options trace s →
      Run name spec options (trace ++ [.shutDown]) s.shutdown.2
  | elsewhere {trace s} (p : Premises) : Run name spec options trace s →
      Run name spec options trace { s with premises := p }

/-- Since the last shutdown a launch has failed because the command line named no program. -/
def Stale (trace : List Event) : Prop :=
  ∃ earlier later, trace = earlier ++ .started (.error .noProgram) :: later ∧ .shutDown ∉ later

theorem Stale.snoc {trace : List Event} (stale : Stale trace) {event : Event} (goesOn : event ≠ .shutDown) :
    Stale (trace ++ [event]) := by
  obtain ⟨earlier, later, rfl, kept⟩ := stale
  refine ⟨earlier, later ++ [event], by simp, ?_⟩
  simpa using ⟨kept, goesOn.symm⟩

variable {s s' : Supervision}

theorem start_busy (busy : s.manager.hasKernel = true) (extra : List String) :
    s.start extra = (.error (.config (.alreadyRunning s.manager.name)), s.prepared extra) ∧
      (s.prepared extra).manager = s.manager := by
  have refused (octets : Bytes) : s.manager.prepare s.disk octets s.inherited extra =
      (.error (.config (.alreadyRunning s.manager.name)), s.manager, s.disk) := by
    simp [Manager.prepare, busy]
  obtain ⟨state, failed, -⟩ := start_of_prepare (refused _)
  exact ⟨failed _ rfl, by rw [state]; rfl⟩

theorem manager_ask (s : Supervision) : s.ask.2.manager = s.manager := by
  unfold ask
  split
  · rfl
  · simp only
    split <;> rfl

theorem file_endControl (s : Supervision) : s.endControl.manager.file = s.manager.file := by
  unfold endControl
  split
  · rfl
  · unfold Manager.endControl
    cases s.manager.control <;> rfl

theorem manager_seeOff (s : Supervision) (child : Nat) (outcome : ShutdownOutcome) :
    (s.seeOff child outcome).manager = s.manager := rfl

theorem file_letGo (s : Supervision) : s.letGo.manager.file = { s.manager.file with written := false } :=
  s.letGo_eq.2.1.trans (ConnectionFile.written_cleanup _ _)

/-- After a shutdown the connection file does not count as written. -/
theorem file_shutdown (s : Supervision) :
    s.shutdown.2.manager.file = { s.manager.file with written := false } := by
  unfold shutdown
  split
  · exact ConnectionFile.written_cleanup _ _
  · rename_i child _
    have asked := s.manager_ask
    simp only
    rw [file_letGo, manager_seeOff, file_endControl]
    cases Manager.farewell s.process? with
    | killed =>
      rcases asking : s.ask with ⟨agreed, after⟩
      rw [asking] at asked
      cases agreed <;> (simp only; rw [asked])
    | acknowledged => rfl
    | alreadyExited => rfl
    | notRunning => rfl

/-- What a run keeps: the ports are ones that there are, and the file counts as written without a kernel only if a
launch has left it behind. -/
structure Kept (trace : List Event) (s : Supervision) : Prop where
  fits : s.manager.file.info.Fits
  clean : s.manager.hasKernel = false → s.manager.file.written = true → Stale trace

theorem Kept.start {trace : List Event} (kept : Kept trace s) (valid : PortPicker.Valid s.disk.picker)
    (extra : List String) : Kept (trace ++ [.started (s.start extra).1]) (s.start extra).2 := by
  have goesOn (result : Except Failure Unit) : Event.started result ≠ .shutDown := nofun
  cases kernel : s.manager.hasKernel with
  | true =>
    obtain ⟨result, same⟩ := s.start_busy kernel extra
    rw [result]
    refine ⟨by rw [same]; exact kept.fits, fun idle => ?_⟩
    rw [same, kernel] at idle
    cases idle
  | false =>
    have went := s.attempt_start kernel extra
    generalize (s.start extra).1 = result, (s.start extra).2 = s' at went ⊢
    cases went with
    | refused _ refused =>
      exact ⟨refused.fits valid kept.fits, fun _ written =>
        (kept.clean kernel (refused.written.symm.trans written)).snoc (goesOn _)⟩
    | torn torn =>
      exact ⟨torn.fits valid kept.fits, fun _ written =>
        (kept.clean kernel (torn.written.symm.trans written)).snoc (goesOn _)⟩
    | noProgram ready _ =>
      exact ⟨ready.fits valid kept.fits, fun _ _ => ⟨trace, [], rfl, List.not_mem_nil⟩⟩
    | cleanedUp ready _ clean =>
      refine ⟨clean.file ▸ ready.fits valid kept.fits, fun _ written => ?_⟩
      rw [clean.file] at written
      cases written
    | launched ready there =>
      refine ⟨there.file ▸ ready.fits valid kept.fits, fun idle => ?_⟩
      cases there.process.symm.trans idle

theorem Run.kept {name : String} {spec : KernelSpec} {options : LaunchOptions} {trace : List Event}
    (run : Run name spec options trace s) : Kept trace s := by
  -- a shutdown always takes the mark from the file; a launch that keeps it has a kernel or has failed early
  induction run with
  | new made =>
    refine ⟨?_, fun _ written => ?_⟩
    · rw [made]
      simp [ConnectionInfo.Fits, ConnectionInfo.ports, Manager.ofSpec, ConnectionFile.ofInfo,
        ConnectionInfo.default]
    · rw [made] at written
      cases written
  | start extra _ valid ih => exact ih.start valid extra
  | shutdown _ ih =>
    refine ⟨?_, fun _ written => ?_⟩
    · rw [file_shutdown]
      exact ih.fits
    · rw [file_shutdown] at written
      cases written
  | elsewhere p _ ih => exact ⟨ih.fits, ih.clean⟩

/-- A client has the key of the connection file. -/
theorem signer_createClient {client : Nat} {t : Supervision} (made : s.createClient = (.ok client, t)) :
    ∃ c, t.premises.scene.client? client = some c ∧ c.session.signer = ⟨s.manager.file.info.keyBytes⟩ := by
  unfold createClient at made
  split at made
  · cases made
  · simp only at made
    split at made
    · rename_i c x started
      cases made
      refine ⟨c, by simp [Scene.client?], ?_⟩
      have run : Client.Run (s.manager.newSession s.premises.identifier.1 s.username) true [] _ :=
        .new s.premises.identifier.2.stamp.2.scene.exchange
      have signer := (run.start .all s.premises.identifier.2.stamp.1).signer_eq
      rw [started] at signer
      exact signer
    · cases made

/-- Wherever a launch succeeds, the connection file with which the program is started holds the connection of
the manager, key and ports; so does the file on disk as long as nobody has changed it. The watch over the
control line has that key, and so has every client that is made before the manager is asked again. The only
exception is a file that a launch without a program has left and that is still there. -/
theorem Run.start_shares_key {name : String} {spec : KernelSpec} {options : LaunchOptions} {trace : List Event}
    {extra : List String} (run : Run name spec options trace s)
    (tidy : Stale trace → ¬(s.manager.file.written = true ∧ s.disk.tree.hasNode s.manager.file.path = true))
    (valid : PortPicker.Valid s.disk.picker) (launched : s.start extra = (.ok (), s')) :
    ConnectionFile.ofFile (s.prepared extra).disk.tree s'.manager.file.path =
        .ok (.ofInfo s'.manager.file.info s'.manager.file.path) ∧
      (s'.disk.tree.status s'.manager.file.path = (s.prepared extra).disk.tree.status s'.manager.file.path →
        ConnectionFile.ofFile s'.disk.tree s'.manager.file.path =
          .ok (.ofInfo s'.manager.file.info s'.manager.file.path)) ∧
      (∃ watch, s'.premises.scene.control? s'.watch = some watch ∧
        watch.session.signer = ⟨s'.manager.file.info.keyBytes⟩) ∧
      ∀ p client t, createClient { s' with premises := p } = (.ok client, t) →
        ∃ c, t.premises.scene.client? client = some c ∧
          c.session.signer = ⟨s'.manager.file.info.keyBytes⟩ := by
  have kept := run.kept
  have idle : s.manager.hasKernel = false := by
    cases kernel : s.manager.hasKernel with
    | false => rfl
    | true => cases (s.start_busy kernel extra).1.symm.trans launched
  have went := s.attempt_start idle extra
  rw [launched] at went
  cases went with
  | launched ready there =>
    have fits := ready.fits valid kept.fits
    have written : (s.prepared extra).disk.tree.status (s.prepared extra).manager.file.path =
        .ok (.file (s.prepared extra).manager.file.info.fileText) := by
      -- a file that was there before and counted as written can only have been left behind
      rcases ready.tree with ⟨before, there, -⟩ | ⟨-, now⟩
      · exact absurd ⟨before, there⟩ (tidy (kept.clean idle before))
      · rw [ready.path, now]
    rw [there.file]
    refine ⟨ConnectionFile.ofFile_of_status fits written,
      fun same => ConnectionFile.ofFile_of_status fits (same.trans written), there.watched,
      fun p client t made => ?_⟩
    rw [← there.file]
    exact signer_createClient (s := { s' with premises := p }) made

/-- Who does not wait goes on at once. -/
theorem snd_await_zero {σ : Type} (k : Clock σ) (done : σ → Bool) (pause : Nat) (s : σ) :
    (k.await done 0 pause s).2 = s := by
  simp only [Clock.await, Clock.awaitWith, Nat.zero_div, Nat.add_zero]
  split <;> simp

/-- The control line has been opened at once, and its watch has begun. -/
def ringUp (s : Supervision) : Supervision :=
  let (id, p) := s.premises.identifier
  let (_, x) := p.scene.exchange.create .control
  let line : LineId := ⟨.control, if p.scene.exchange.reuses then 0 else p.scene.exchange.created⟩
  let (turn, x) := (x.startLine line).takeTurn
  { s with
    premises := { p with scene := { p.scene with
      exchange := x
      parties := p.scene.parties ++ [.control (.begun (s.manager.newSession id s.username) turn line)] } }
    manager := { s.manager with control := some line }
    watch := p.scene.parties.length }

/-- A kernel that is not given any time is running, and nobody refuses a control line to it. -/
theorem settleLaunch_ringUp {child : Nat} {process : KernelProcess} (soon : s.manager.options.settleTime = 0)
    (here : s.premises.process? child = some process) (running : process.exited = false)
    (free : s.premises.scene.exchange.refused = []) : s.settleLaunch child = (.ok (), s.ringUp) := by
  have waited (done : Premises → Bool) : (s.premises.await done 0 1).2 = s.premises := snd_await_zero _ _ _ _
  have still : s.premises.identifier.2.process? child = some process := here
  have open_ : s.premises.identifier.2.scene.exchange.refused = [] := free
  unfold settleLaunch ringUp
  simp only [soon, waited, still, Manager.openControl, running, Bool.false_eq_true, if_false, Exchange.create,
    open_, List.lookup_nil, Manager.takeControl]
  rfl

/-- A program that sleeps can be started anywhere. -/
theorem start_sleep (tree : FileTree) (now : Nat) :
    ∃ program, Program.start tree ⟨"/bin/sleep", ["5"], []⟩ now = .ok program := by
  have found : Program.find tree ⟨"/bin/sleep", ["5"], []⟩ = .ok "sleep" := by cbv
  unfold Program.start
  rw [if_neg (by cbv; exact Bool.false_ne_true), found]
  exact ⟨_, rfl⟩

theorem launch_sleep_ringUp (soon : s.manager.options.settleTime = 0)
    (free : s.premises.scene.exchange.refused = []) :
    ∃ program, s.launch ⟨"/bin/sleep", ["5"], []⟩ = (.ok (), (s.takeCharge program).ringUp) := by
  obtain ⟨program, started⟩ := start_sleep s.premises.disk.tree s.premises.now
  rw [launch_eq, started]
  have here : (s.takeCharge program).premises.process? s.premises.children.length = some .started := by
    simp [takeCharge, showProcess, Premises.setSlot, Premises.inform, Premises.process?]
  exact ⟨program, settleLaunch_ringUp (s := s.takeCharge program) soon here rfl free⟩

theorem launch_sleep (soon : s.manager.options.settleTime = 0) (free : s.premises.scene.exchange.refused = []) :
    ∃ s', s.launch ⟨"/bin/sleep", ["5"], []⟩ = (.ok (), s') ∧ s'.disk = s.disk ∧
      s'.manager.file = s.manager.file := by
  obtain ⟨program, launched⟩ := launch_sleep_ringUp soon free
  exact ⟨_, launched, rfl, rfl⟩

theorem valid_fresh (argv : List String) : PortPicker.Valid (fresh argv).disk.picker := by
  rintro n port named
  cases named
  exact Nat.lt_of_lt_of_le (Nat.add_lt_add_left (Nat.mod_lt n (by decide)) 9000) (by decide)

/-- The first launch of a manager shares its key. -/
theorem Run.first_launch_shares_key :
    ∃ s', (fresh ["/bin/sleep", "5"]).start [] = (.ok (), s') ∧ s'.manager.file.info.key = "00" ∧
      ConnectionFile.ofFile s'.disk.tree s'.manager.file.path =
        .ok (.ofInfo s'.manager.file.info s'.manager.file.path) := by
  have line : (fresh ["/bin/sleep", "5"]).manager.commandLine [] = ["/bin/sleep", "5"] := by cbv
  obtain ⟨empty, -⟩ | ⟨program, args, same, result⟩ := fresh_start_cases ["/bin/sleep", "5"] []
  · cases line.symm.trans empty
  · cases line.symm.trans same
    obtain ⟨s', launched, disk, file⟩ := launch_sleep (s := (fresh ["/bin/sleep", "5"]).prepared [])
      (by rw [prepared_fresh]; rfl) (by rw [prepared_fresh]; rfl)
    have unwritten : ¬((fresh ["/bin/sleep", "5"]).manager.file.written = true ∧
        (fresh ["/bin/sleep", "5"]).disk.tree.hasNode "/k" = true) := fun both => Bool.false_ne_true both.1
    obtain ⟨-, still, -⟩ := Run.start_shares_key (.new rfl) (fun _ => unwritten) (valid_fresh _)
      (result.trans launched)
    refine ⟨s', result.trans launched, ?_, still (by rw [disk])⟩
    rw [file, prepared_fresh]
    rfl

/-- What a launch without a program leaves. -/
def leftBehind : Supervision :=
  withDisk { fresh [] with premises := (fresh []).premises.draw.2 }
    { (fresh []).manager with file := ⟨freshInfo, "/k", true⟩ }
    { (fresh []).disk with tree := freshTree, asked := 5 }

/-- The next launch draws a key of its own, and does not write the file again. -/
theorem prepared_leftBehind :
    leftBehind.start ["/bin/sleep", "5"] =
        (leftBehind.prepared ["/bin/sleep", "5"]).launch ⟨"/bin/sleep", ["5"], []⟩ ∧
      leftBehind.prepared ["/bin/sleep", "5"] =
        withDisk { leftBehind with premises := leftBehind.premises.draw.2 }
          { leftBehind.manager with file := ⟨{ freshInfo with key := "01" }, "/k", true⟩ }
          leftBehind.disk := by
  have valid : leftBehind.manager.file.validate = .ok () := by
    have here : isLocalAddress "127.0.0.1" = true := by cbv
    simp [ConnectionFile.validate, leftBehind, withDisk, freshInfo, here]
  have key : keyText [1] = "01" := by cbv
  have there : leftBehind.disk.tree.hasNode "/k" = true := congrArg Except.isOk status_freshTree
  have again : (leftBehind.manager.file.generateKey [1]).write leftBehind.disk =
      (.ok (), ⟨{ freshInfo with key := "01" }, "/k", true⟩, leftBehind.disk) := by
    have file : leftBehind.manager.file.generateKey [1] = ⟨{ freshInfo with key := "01" }, "/k", true⟩ := by
      rw [ConnectionFile.generateKey, key]
      rfl
    rw [file]
    exact ConnectionFile.write_again rfl there
  obtain ⟨state, goesOn⟩ := prepared_of_write rfl valid again ["/bin/sleep", "5"]
  exact ⟨goesOn "/bin/sleep" ["5"] (by cbv), state⟩

/-- A launch for which no program was named leaves a connection file, and the next launch takes it for its own:
the kernel is started with the key of the launch that failed. -/
theorem Run.stale_file_shares_no_key :
    ∃ name spec options trace s s', Run name spec options trace s ∧ PortPicker.Valid s.disk.picker ∧
      s.start ["/bin/sleep", "5"] = (.ok (), s') ∧
      ConnectionFile.ofFile s'.disk.tree s'.manager.file.path = .ok (.ofInfo freshInfo s'.manager.file.path) ∧
      s'.manager.file.info.key ≠ freshInfo.key := by
  obtain ⟨-, failed⟩ | ⟨_, _, line, -⟩ := fresh_start_cases [] []
  · have made : Run "kernel" (fresh []).manager.spec (fresh []).manager.options [] (fresh []) := .new rfl
    have run := made.start [] (valid_fresh [])
    rw [failed, prepared_fresh] at run
    obtain ⟨started, ready⟩ := prepared_leftBehind
    obtain ⟨s', launched, disk, file⟩ := launch_sleep (s := leftBehind.prepared ["/bin/sleep", "5"])
      (by rw [ready]; rfl) (by rw [ready]; rfl)
    refine ⟨_, _, _, _, leftBehind, s', run, valid_fresh [], started.trans launched, ?_, ?_⟩
    · have fits : freshInfo.Fits := by decide
      rw [disk, file, ready]
      exact ConnectionFile.ofFile_of_status fits status_freshTree
    · rw [file, ready]
      decide
  · cases line

end Supervision
end KernelLink
