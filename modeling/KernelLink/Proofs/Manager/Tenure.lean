import KernelLink.Proofs.Manager.SharedKey
import KernelLink.Proofs.Rehearsal.Course

namespace KernelLink

/-- What happens while a manager is there. -/
inductive Moment (Frame : Type) where
  /-- A launch has succeeded; its control line is under this watch. -/
  | launched (watch : Nat)
  | failed (failure : Failure)
  | heard (reception : Reception Frame)
  /-- The kernel has been asked to shut down, and the time for its answer begins. -/
  | asked (now : Nat)
  | closed (outcome : ShutdownOutcome)

namespace Supervision

/-- How far a shutdown has come that has found a process. -/
inductive Stage where
  /-- The process is running, and the kernel is to be asked. -/
  | asking
  /-- The kernel has been asked. -/
  | asked
  /-- A look whether the kernel has agreed is due at some time. The wait ends at the first look behind the
  deadline. -/
  | looking (deadline due : Nat)
  /-- The kernel had not agreed, and the clock is to be looked at. -/
  | doubting (deadline : Nat)
  /-- The watch over the control line is to be told to end. -/
  | ending (outcome : ShutdownOutcome)
  /-- The control line is to be stopped. -/
  | hanging (outcome : ShutdownOutcome)
  /-- The loops over the control line are waited for. -/
  | joining (outcome : ShutdownOutcome)
  /-- The process is to exit. -/
  | parting (outcome : ShutdownOutcome)
  /-- The manager is to let go of the process. -/
  | leaving (outcome : ShutdownOutcome)

namespace Stage

/-- A shutdown that is to look, looks no later than so much after the look is due. -/
def Punctual (lag now : Nat) : Stage → Prop
  | looking _ due => now ≤ due + lag
  | _ => True

/-- Whether the watch over the control line has been told to end. -/
def told : Stage → Bool
  | hanging _ => true
  | joining _ => true
  | parting _ => true
  | leaving _ => true
  | _ => false

/-- Whether the manager has let go of the control line. -/
def hungUp : Stage → Bool
  | joining _ => true
  | parting _ => true
  | leaving _ => true
  | _ => false

/-- Whether the loops have been waited for. -/
def joined : Stage → Bool
  | parting _ => true
  | leaving _ => true
  | _ => false

def outcome? : Stage → Option ShutdownOutcome
  | ending o => some o
  | hanging o => some o
  | joining o => some o
  | parting o => some o
  | leaving o => some o
  | _ => none

/-- What comes first: the kernel is asked if its process is running. -/
def ofFarewell : ShutdownOutcome → Stage
  | .killed => asking
  | o => ending o

end Stage

/-- Puts back what an act on the control line has left. -/
def withScene (s : Supervision) (scene : Scene) : Supervision :=
  { s with premises := { s.premises with scene := scene } }

/-- Tells the watch over the control line to end. -/
def stopWatch (s : Supervision) : Supervision :=
  match s.premises.scene.control? s.watch with
  | none => s
  | some c => s.withScene (s.premises.scene.setParty s.watch (.control c.stop) s.premises.scene.exchange)

/-- Stops the control line, and lets go of it. -/
def hangUp (s : Supervision) : Supervision :=
  match s.manager.control with
  | none => s
  | some line =>
    { s.withScene (s.premises.scene.onExchange (·.stopLine line)) with
      manager := { s.manager with control := none } }

/-- Has the program of a process killed. -/
def killProcess (s : Supervision) (child : Nat) : Supervision :=
  { s with premises := s.premises.onProcess child fun q => (q.kill (s.premises.now + killWait)).2 }

variable {Frame : Type}

/-- What a shutdown does next, or what happens meanwhile. How long a process is waited for that has been told to
exit, and whether it does, is left open. -/
inductive Step (lag : Nat) (reads : Signer → Frame → Except Failure Message) (s : Supervision) :
    Stage → List (Moment Frame) → Supervision → Stage → Prop
  | elsewhere {stage heard p} : Premises.Course reads s.premises heard p → stage.Punctual lag p.now →
      Step lag reads s stage (heard.map .heard) { s with premises := p } stage
  | unopened : s.manager.control = none → Step lag reads s .asking [] s (.ending .killed)
  | refused {line stamp scene} : s.manager.control = some line →
      s.premises.scene.sendRequest s.watch line stamp = (false, scene) →
      Step lag reads s .asking [] (s.withScene scene) (.ending .killed)
  | sent {line stamp scene} : s.manager.control = some line →
      s.premises.scene.sendRequest s.watch line stamp = (true, scene) →
      Step lag reads s .asking [] (s.withScene scene) .asked
  | timed : Step lag reads s .asked [.asked s.premises.now] s
      (.looking (s.premises.now + s.manager.options.shutdownWait) s.premises.now)
  | agreed {deadline due} : due ≤ s.premises.now → s.premises.scene.acknowledged s.watch = true →
      Step lag reads s (.looking deadline due) [] s (.ending .acknowledged)
  | silent {deadline due} : due ≤ s.premises.now → s.premises.scene.acknowledged s.watch = false →
      Step lag reads s (.looking deadline due) [] s (.doubting deadline)
  | gaveUp {deadline} : deadline ≤ s.premises.now → Step lag reads s (.doubting deadline) [] s (.ending .killed)
  | paused {deadline} : s.premises.now < deadline → Step lag reads s (.doubting deadline) [] s
      (.looking deadline (s.premises.now + max s.manager.options.shutdownPause 1))
  | told {o} : Step lag reads s (.ending o) [] s.stopWatch (.hanging o)
  | hungUp {o} : Step lag reads s (.hanging o) [] s.hangUp (.joining o)
  | joined {o} : (∀ c, s.premises.scene.control? s.watch = some c → c.loops = []) →
      Step lag reads s (.joining o) [] s (.parting o)
  | spared {o} : o ≠ .killed → Step lag reads s (.parting o) [] s (.leaving o)
  | killed {o child} : o = .killed ∨ o = .acknowledged → s.manager.process = some child →
      Step lag reads s (.parting o) [] (s.killProcess child) (.leaving o)

/-- A shutdown that has been called and has found a process: what has happened since, and how far it has come. -/
inductive Shutdown (lag : Nat) (reads : Signer → Frame → Except Failure Message) (s : Supervision) :
    List (Moment Frame) → Supervision → Stage → Prop
  | called {child} : s.manager.process = some child →
      Shutdown lag reads s [] s (.ofFarewell (Manager.farewell s.process?))
  | next {moments t stage more t' stage'} : Shutdown lag reads s moments t stage →
      Step lag reads t stage more t' stage' → Shutdown lag reads s (moments ++ more) t' stage'

/-- A shutdown from its call to its answer. -/
inductive Closes (lag : Nat) (reads : Signer → Frame → Except Failure Message) (s : Supervision) :
    ShutdownOutcome → List (Moment Frame) → Supervision → Prop
  | idle : s.manager.process = none →
      Closes lag reads s .notRunning []
        (s.withDisk (s.manager.cleanup s.disk).1 (s.manager.cleanup s.disk).2)
  | left {o moments t} : Shutdown lag reads s moments t (.leaving o) → Closes lag reads s o moments t.letGo

/-- A manager from its making on: launches and shutdowns one after the other, and whatever happens in between. -/
inductive Tenure (lag : Nat) (reads : Signer → Frame → Except Failure Message) (name : String)
    (spec : KernelSpec) (options : LaunchOptions) : List (Moment Frame) → Supervision → Prop
  | new (tree : FileTree) (picker : PortPicker) (source : Nat → Bytes) (inherited : List (String × String))
      (username : String) : Tenure lag reads name spec options []
        ⟨.new tree picker source, .ofSpec name spec options, 0, inherited, username⟩
  | elsewhere {trace s heard p} : Tenure lag reads name spec options trace s →
      Premises.Course reads s.premises heard p →
      Tenure lag reads name spec options (trace ++ heard.map .heard) { s with premises := p }
  | launched {trace s extra s'} : Tenure lag reads name spec options trace s → s.start extra = (.ok (), s') →
      Tenure lag reads name spec options (trace ++ [.launched s'.watch]) s'
  | failed {trace s extra failure s'} : Tenure lag reads name spec options trace s →
      s.start extra = (.error failure, s') →
      Tenure lag reads name spec options (trace ++ [.failed failure]) s'
  | closed {trace s outcome moments s'} : Tenure lag reads name spec options trace s →
      Closes lag reads s outcome moments s' →
      Tenure lag reads name spec options (trace ++ moments ++ [.closed outcome]) s'

/-- Nothing is left of earlier launches: no control line is running but the one that the manager holds, and no loop
polls one but those of the last watch. -/
structure Tidy (s : Supervision) : Prop where
  slot : s.premises.slot = s.manager.process
  here : ∀ child, s.manager.process = some child → child < s.premises.children.length
  held : ∀ line, s.manager.control = some line → line.kind = .control
  lines : ∀ id : LineId, id.kind = .control → s.manager.control ≠ some id →
    (s.premises.scene.exchange.line id).alive = false
  watches : ∀ i c, s.premises.scene.control? i = some c → i ≠ s.watch → c.loops = []

/-- No control line is held, and no loop polls one. -/
structure Unwatched (s : Supervision) : Prop extends Tidy s where
  control : s.manager.control = none
  ended : ∀ i c, s.premises.scene.control? i = some c → c.loops = []

/-- No kernel is there. -/
structure AtRest (s : Supervision) : Prop extends Unwatched s where
  process : s.manager.process = none

/-- A kernel has been launched and not yet been let go of. The last watch is over its control line. -/
structure Supervising (s : Supervision) : Prop extends Tidy s where
  process : s.manager.hasKernel = true
  written : s.manager.file.written = true
  watched : ∃ c, s.premises.scene.control? s.watch = some c ∧
    c.session.signer = ⟨s.manager.file.info.keyBytes⟩

variable {lag : Nat} {reads : Signer → Frame → Except Failure Message} {s s' : Supervision} {p : Premises}
  {heard : List (Reception Frame)}

theorem Tidy.course (tidy : s.Tidy) (course : Premises.Course reads s.premises heard p) :
    Tidy { s with premises := p } where
  slot := course.slot.trans tidy.slot
  here child process := Nat.lt_of_lt_of_le (tidy.here child process) course.children
  held := tidy.held
  lines id control other := by
    have stopped := tidy.lines id control other
    cases running : (p.scene.exchange.line id).alive with
    | false => rfl
    | true => exact (course.scene.alive control running).symm.trans stopped
  watches i c there other := by
    obtain ⟨before, here, later⟩ := course.scene.earlier there
    exact later.loops_eq_nil (tidy.watches i before here other)

theorem Unwatched.course (unwatched : s.Unwatched) (course : Premises.Course reads s.premises heard p) :
    Unwatched { s with premises := p } where
  toTidy := unwatched.toTidy.course course
  control := unwatched.control
  ended i c there := by
    obtain ⟨before, here, later⟩ := course.scene.earlier there
    exact later.loops_eq_nil (unwatched.ended i before here)

theorem AtRest.course (rest : s.AtRest) (course : Premises.Course reads s.premises heard p) :
    AtRest { s with premises := p } := ⟨rest.toUnwatched.course course, rest.process⟩

theorem Supervising.course (supervising : s.Supervising) (course : Premises.Course reads s.premises heard p) :
    Supervising { s with premises := p } where
  toTidy := supervising.toTidy.course course
  process := supervising.process
  written := supervising.written
  watched := by
    obtain ⟨c, here, signer⟩ := supervising.watched
    obtain ⟨c', there, later⟩ := course.scene.later here
    exact ⟨c', there, later.signer.trans signer⟩

/-- Once the manager has let go of the process, it is at rest. -/
theorem Unwatched.letGo (unwatched : s.Unwatched) : s.letGo.AtRest where
  slot := rfl
  here := nofun
  held := unwatched.held
  lines := unwatched.lines
  watches := unwatched.watches
  control := unwatched.control
  ended := unwatched.ended
  process := rfl

/-- A kernel has been launched, and the manager holds its control line. -/
structure Connected (s : Supervision) : Prop extends Supervising s where
  line : s.manager.control.isSome = true

/-- The watches that there were are still there. -/
def Keeps (s s' : Supervision) : Prop :=
  ∀ i c, s.premises.scene.control? i = some c → ∃ c', s'.premises.scene.control? i = some c'

theorem Keeps.refl (s : Supervision) : s.Keeps s := fun _ c here => ⟨c, here⟩

/-- The last watch has just begun, under the key of the connection file, and has not been one of those before. -/
structure NewlyWatched (s s' : Supervision) : Prop where
  begun : ∃ id turn line,
    s'.premises.scene.control? s'.watch = some (.begun (s'.manager.newSession id s'.username) turn line)
  new : s.premises.scene.control? s'.watch = none

theorem manager_prepare (m : Manager) (disk : Disk) (octets : Bytes) (inherited : List (String × String))
    (extra : List String) : ∃ file, (m.prepare disk octets inherited extra).2.1 = { m with file := file } := by
  cases busy : m.hasKernel with
  | true => exact ⟨m.file, by simp [Manager.prepare, busy]⟩
  | false =>
    have ends := m.preparation_prepare busy disk octets inherited extra
    generalize m.prepare disk octets inherited extra = result at ends ⊢
    cases ends <;> exact ⟨_, rfl⟩

/-- Before a program is started only the connection file changes. -/
theorem prepared_manager (s : Supervision) (extra : List String) :
    ∃ file, (s.prepared extra).manager = { s.manager with file := file } :=
  manager_prepare s.manager s.disk (s.premises.draw.1.take keyLength) s.inherited extra

theorem AtRest.prepared (rest : s.AtRest) (extra : List String) : (s.prepared extra).AtRest := by
  obtain ⟨file, same⟩ := s.prepared_manager extra
  have process : (s.prepared extra).manager.process = s.manager.process := by rw [same]
  have control : (s.prepared extra).manager.control = s.manager.control := by rw [same]
  refine ⟨⟨⟨?_, ?_, ?_, ?_, rest.watches⟩, control.trans rest.control, rest.ended⟩, process.trans rest.process⟩
  · rw [process]
    exact rest.slot
  · rw [process]
    exact rest.here
  · rw [control]
    exact rest.held
  · rw [control]
    exact rest.lines

theorem Unwatched.takeCharge (unwatched : s.Unwatched) (program : Program) : (s.takeCharge program).Unwatched where
  slot := rfl
  here child process := by
    cases process
    show s.premises.children.length < (s.premises.children ++ [Child.mk .started program]).length
    simp
  held := unwatched.held
  lines := unwatched.lines
  watches := unwatched.watches
  control := unwatched.control
  ended := unwatched.ended

theorem process?_isSome {child : Nat} (here : child < p.children.length) :
    ∃ process, p.process? child = some process :=
  ⟨p.children[child].process, by simp [Premises.process?, here]⟩

/-- The control line has been opened, and is watched. -/
theorem Unwatched.connected (unwatched : s.Unwatched) (process : s.manager.hasKernel = true)
    (written : s.manager.file.written = true) (id : String) (turn serial : Nat) {x : Exchange}
    (opened : ∀ other, (x.line other).alive = true ↔ other = ⟨.control, serial⟩ ∨
      (s.premises.scene.exchange.line other).alive = true) :
    Connected { s with
      premises := { s.premises with scene :=
        { s.premises.scene with
          exchange := x
          parties := s.premises.scene.parties ++
            [.control (.begun (s.manager.newSession id s.username) turn ⟨.control, serial⟩)] } }
      manager := { s.manager with control := some ⟨.control, serial⟩ }
      watch := s.premises.scene.parties.length } where
  slot := unwatched.slot
  here := unwatched.here
  held line same := by
    cases same
    rfl
  lines other control differs := by
    have stopped := unwatched.lines other control (by rw [unwatched.control]; nofun)
    rw [Bool.eq_false_iff]
    intro running
    rcases (opened other).mp running with same | before
    · exact differs (congrArg some same.symm)
    · cases stopped.symm.trans before
  watches i c there other := by
    rw [Scene.control?_append, if_neg other] at there
    exact unwatched.ended i c there
  process := process
  written := written
  watched := by
    refine ⟨.begun (s.manager.newSession id s.username) turn ⟨.control, serial⟩, ?_, rfl⟩
    rw [Scene.control?_append, if_pos rfl]
    rfl
  line := rfl

/-- Nobody has started a line. -/
theorem Unwatched.refused (unwatched : s.Unwatched) {x : Exchange}
    (same : ∀ id, (x.line id).alive = (s.premises.scene.exchange.line id).alive) :
    Unwatched { s with premises := { s.premises with scene := { s.premises.scene with exchange := x } } } where
  slot := unwatched.slot
  here := unwatched.here
  held := unwatched.held
  lines id control differs := (same id).trans (unwatched.lines id control differs)
  watches := unwatched.watches
  control := unwatched.control
  ended := unwatched.ended

/-- Once a program has been started, its kernel is supervised, or nothing is left of it. -/
theorem Unwatched.settleLaunch (unwatched : s.Unwatched) {child : Nat} (process : s.manager.process = some child)
    (written : s.manager.file.written = true) :
    (∃ failure s', s.settleLaunch child = (.error failure, s') ∧ s'.AtRest ∧ s.Keeps s') ∨
      ∃ s', s.settleLaunch child = (.ok (), s') ∧ s'.Connected ∧ s.Keeps s' ∧ s.NewlyWatched s' := by
  obtain ⟨heard, waited⟩ := s.premises.course_await (fun p => (p.process? child).any (·.exited))
    s.manager.options.settleTime 1
  unfold Supervision.settleLaunch
  simp only
  generalize (s.premises.await _ _ _).2 = p at waited ⊢
  have went : Premises.Course Scene.asArrived s.premises heard p.identifier.2 :=
    ⟨waited.scene, waited.slot, waited.children⟩
  generalize p.identifier = identified at went ⊢
  obtain ⟨id, p⟩ := identified
  have still : Unwatched { s with premises := p } := unwatched.course went
  obtain ⟨q, here⟩ := process?_isSome (still.here child process)
  simp only [here]
  rcases s.manager.openControl_cases q p.scene.exchange (s.manager.newSession id s.username) with
    ⟨failure, x, failed, alive⟩ | ⟨turn, serial, x, opened, alive⟩
  · rw [failed]
    obtain ⟨more, killed⟩ := Premises.course_kill { p with scene := { p.scene with exchange := x } } child killWait
    refine Or.inl ⟨failure, _, rfl, ((still.refused alive).course killed).letGo, fun i c there => ?_⟩
    obtain ⟨c', there, -⟩ := went.scene.later there
    obtain ⟨c'', there, -⟩ := killed.scene.later there
    exact ⟨c'', there⟩
  · rw [opened]
    have kernel : s.manager.hasKernel = true := by rw [Manager.hasKernel, process]; rfl
    refine Or.inr ⟨_, rfl, still.connected kernel written id turn serial alive, fun i c there => ?_,
      ⟨id, turn, ⟨.control, serial⟩, ?_⟩, ?_⟩
    · rw [Scene.control?_append]
      split
      · exact ⟨_, rfl⟩
      · obtain ⟨c', there, -⟩ := went.scene.later there
        exact ⟨c', there⟩
    · rw [Scene.control?_append, if_pos rfl]
      rfl
    · -- whoever was there before has a smaller number
      refine Option.eq_none_iff_forall_ne_some.mpr fun c there => ?_
      obtain ⟨c', there, -⟩ := went.scene.later there
      have known := Scene.parties_of_control? there
      rw [List.getElem?_eq_none (Nat.le_refl _)] at known
      cases known

/-- Removing the connection file leaves the rest as it is. -/
theorem AtRest.cleanup (rest : s.AtRest) :
    (s.withDisk (s.manager.cleanup s.disk).1 (s.manager.cleanup s.disk).2).AtRest where
  slot := rest.slot
  here := rest.here
  held := rest.held
  lines := rest.lines
  watches := rest.watches
  control := rest.control
  ended := rest.ended
  process := rest.process

theorem AtRest.hasKernel (rest : s.AtRest) : s.manager.hasKernel = false :=
  Manager.hasKernel_eq_false_iff.mpr rest.process

/-- A launch leaves a kernel that is supervised, or nothing. -/
theorem AtRest.start (rest : s.AtRest) (extra : List String) :
    (∃ failure s', s.start extra = (.error failure, s') ∧ s'.AtRest ∧ s.Keeps s') ∨
      ∃ s', s.start extra = (.ok (), s') ∧ s'.Connected ∧ s.Keeps s' ∧ s.NewlyWatched s' := by
  have idle : s.manager.hasKernel = false := rest.hasKernel
  have ready := rest.prepared extra
  have same : s.Keeps (s.prepared extra) := .refl s
  rcases start_cases idle extra with ⟨failure, result, -⟩ | ⟨prepared, ⟨-, result⟩ | ⟨program, args, -, result⟩⟩
  · exact Or.inl ⟨failure, _, result, ready, same⟩
  · exact Or.inl ⟨.noProgram, _, result, ready, same⟩
  · rw [result, launch_eq]
    cases Program.start (s.prepared extra).premises.disk.tree _ (s.prepared extra).premises.now with
    | error fault => exact Or.inl ⟨_, _, rfl, ready.cleanup, same⟩
    | ok program =>
      -- neither the connection file nor the process has anything to do with the watches
      rcases (ready.toUnwatched.takeCharge program).settleLaunch rfl prepared.written with
        ⟨failure, s', failed, rest, kept⟩ | ⟨s', launched, connected, kept, begun, new⟩
      · exact Or.inl ⟨failure, s', failed, rest, kept⟩
      · exact Or.inr ⟨s', launched, connected, kept, begun, new⟩

/-- Where a kernel is, a launch is refused, and changes nothing that matters. -/
theorem Supervising.start (supervising : s.Supervising) (reads : Signer → Frame → Except Failure Message)
    (extra : List String) :
    ∃ failure p, s.start extra = (.error failure, { s with premises := p }) ∧
      Premises.Course reads s.premises [] p := by
  obtain ⟨refused, same⟩ := s.start_busy supervising.process extra
  have state : s.prepared extra =
      { s with premises := (s.prepared extra).premises, manager := (s.prepared extra).manager } := rfl
  rw [same] at state
  exact ⟨_, _, refused.trans (congrArg (Prod.mk _) state), ⟨.begin, rfl, Nat.le_refl _⟩⟩

/-- The same has been sent over the control lines. -/
def Unsent (s s' : Supervision) : Prop :=
  ∀ id : LineId, id.kind = .control →
    (s'.premises.scene.exchange.line id).sent = (s.premises.scene.exchange.line id).sent

/-- The process was running, and one request to shut down has been sent since over the line that the manager
held. -/
def AskedOnce (s s' : Supervision) : Prop :=
  (∃ process, s.process? = some process ∧ process.exited = false) ∧
    ∃ line m, s.manager.control = some line ∧ line.kind = .control ∧ m.msgType = "shutdown_request" ∧
      (s'.premises.scene.exchange.line line).sent = (s.premises.scene.exchange.line line).sent ++ [m] ∧
      ∀ id : LineId, id.kind = .control → id ≠ line →
        (s'.premises.scene.exchange.line id).sent = (s.premises.scene.exchange.line id).sent

/-- What a shutdown keeps that was called at `s`. -/
structure UnderWay (s t : Supervision) (stage : Stage) : Prop where
  supervising : t.Supervising
  watch : t.watch = s.watch
  manager : t.manager = if stage.hungUp then { s.manager with control := none } else s.manager
  told : stage.told = true → ∀ c, t.premises.scene.control? t.watch = some c → c.stopping = true
  joined : stage.joined = true → ∀ c, t.premises.scene.control? t.watch = some c → c.loops = []
  running : stage = .asking → ∃ process, s.process? = some process ∧ process.exited = false
  unsent : stage = .asking → s.Unsent t
  sent : s.Unsent t ∨ s.AskedOnce t
  outcome : stage.outcome? ≠ some .notRunning

/-- A request is sent over a line that takes it. Otherwise nothing happens. -/
theorem sendRequest_cases (scene : Scene) (i : Nat) (id : LineId) (stamp : Stamp) :
    scene.sendRequest i id stamp = (false, scene) ∨
      ∃ x m, scene.sendRequest i id stamp = (true, { scene with exchange := x }) ∧
        m.msgType = "shutdown_request" ∧ x.now = scene.exchange.now ∧
        (∀ other, (x.line other).alive = (scene.exchange.line other).alive) ∧
        (x.line id).sent = (scene.exchange.line id).sent ++ [m] ∧
        ∀ other, other ≠ id → x.line other = scene.exchange.line other := by
  unfold Scene.sendRequest
  cases scene.control? i with
  | none => exact Or.inl rfl
  | some c =>
    have steady := scene.exchange.steady_send id (c.request stamp)
    rcases scene.exchange.sent_cases id (c.request stamp) with ⟨x, sent, now, added, others⟩ | sent |
      ⟨failure, sent⟩
    · rw [sent] at steady
      exact Or.inr ⟨x, c.request stamp, by simp only [sent], rfl, now, steady.lines, added, others⟩
    · exact Or.inl (by simp only [sent])
    · exact Or.inl (by simp only [sent])

theorem sendRequest_refused {scene scene' : Scene} {i : Nat} {id : LineId} {stamp : Stamp}
    (refused : scene.sendRequest i id stamp = (false, scene')) : scene' = scene := by
  rcases sendRequest_cases scene i id stamp with same | ⟨x, m, sent, -⟩
  · cases refused.symm.trans same
    rfl
  · cases refused.symm.trans sent

theorem sendRequest_sent {scene scene' : Scene} {i : Nat} {id : LineId} {stamp : Stamp}
    (sent : scene.sendRequest i id stamp = (true, scene')) : ∃ x m, scene' = { scene with exchange := x } ∧
      m.msgType = "shutdown_request" ∧ x.now = scene.exchange.now ∧
      (∀ other, (x.line other).alive = (scene.exchange.line other).alive) ∧
      (x.line id).sent = (scene.exchange.line id).sent ++ [m] ∧
      ∀ other, other ≠ id → x.line other = scene.exchange.line other := by
  rcases sendRequest_cases scene i id stamp with same | ⟨x, m, taken, effect⟩
  · cases sent.symm.trans same
  · cases sent.symm.trans taken
    exact ⟨x, m, rfl, effect⟩

theorem Supervising.withExchange (supervising : s.Supervising) {x : Exchange}
    (alive : ∀ id, (x.line id).alive = (s.premises.scene.exchange.line id).alive) :
    (s.withScene { s.premises.scene with exchange := x }).Supervising where
  slot := supervising.slot
  here := supervising.here
  held := supervising.held
  lines id control other := (alive id).trans (supervising.lines id control other)
  watches := supervising.watches
  process := supervising.process
  written := supervising.written
  watched := supervising.watched

theorem stopWatch_eq {c : Control} (here : s.premises.scene.control? s.watch = some c) : s.stopWatch =
    s.withScene (s.premises.scene.setParty s.watch (.control c.stop) s.premises.scene.exchange) := by
  unfold Supervision.stopWatch
  rw [here]

theorem hangUp_eq {line : LineId} (held : s.manager.control = some line) : s.hangUp =
    { s.withScene (s.premises.scene.onExchange (·.stopLine line)) with
      manager := { s.manager with control := none } } := by
  unfold Supervision.hangUp
  rw [held]

/-- The watch that is told to end goes on as the last one. -/
theorem Supervising.stopWatch (supervising : s.Supervising) : s.stopWatch.Supervising := by
  obtain ⟨c, here, signer⟩ := supervising.watched
  rw [stopWatch_eq here]
  have others (i : Nat) : (s.premises.scene.setParty s.watch (.control c.stop)
      s.premises.scene.exchange).control? i = if i = s.watch then some c.stop else s.premises.scene.control? i :=
    Scene.control?_setParty (Scene.parties_of_control? here) _ _ i
  refine ⟨⟨supervising.slot, supervising.here, supervising.held, supervising.lines, fun i c' there differs => ?_⟩,
    supervising.process, supervising.written, c.stop, ?_, signer⟩
  · have other : i ≠ s.watch := differs
    have before := (others i).symm.trans there
    rw [if_neg other] at before
    exact supervising.watches i c' before other
  · exact Scene.control?_setWatch here c.stop _

/-- Once its line has been stopped and let go of, no control line is running. -/
theorem Supervising.hangUp (supervising : s.Supervising) : s.hangUp.Supervising := by
  unfold Supervision.hangUp
  cases held : s.manager.control with
  | none => exact supervising
  | some line =>
    refine ⟨⟨supervising.slot, supervising.here, nofun, fun id control _ => ?_, supervising.watches⟩,
      supervising.process, supervising.written, supervising.watched⟩
    rw [Bool.eq_false_iff]
    intro running
    obtain ⟨differs, before⟩ := (s.premises.scene.exchange.alive_stopLine line id).mp running
    have stopped := supervising.lines id control (by rw [held]; exact fun same => differs (Option.some.inj same).symm)
    cases stopped.symm.trans before

theorem exchange_stopWatch (s : Supervision) :
    s.stopWatch.premises.scene.exchange = s.premises.scene.exchange := by
  unfold Supervision.stopWatch
  split <;> rfl

theorem manager_stopWatch (s : Supervision) : s.stopWatch.manager = s.manager := by
  unfold Supervision.stopWatch
  split <;> rfl

theorem watch_stopWatch (s : Supervision) : s.stopWatch.watch = s.watch := by
  unfold Supervision.stopWatch
  split <;> rfl

theorem manager_hangUp (s : Supervision) : s.hangUp.manager = { s.manager with control := none } := by
  unfold Supervision.hangUp
  split
  · rename_i none
    rw [← none]
  · rfl

theorem watch_hangUp (s : Supervision) : s.hangUp.watch = s.watch := by
  unfold Supervision.hangUp
  split <;> rfl

theorem control?_hangUp (s : Supervision) (i : Nat) :
    s.hangUp.premises.scene.control? i = s.premises.scene.control? i := by
  unfold Supervision.hangUp
  split <;> rfl

theorem unsent_hangUp (s : Supervision) : s.Unsent s.hangUp := by
  unfold Supervision.hangUp
  split
  · exact fun _ _ => rfl
  · exact fun id _ => s.premises.scene.exchange.sent_stopLine _ id

theorem Unsent.sent {t t' : Supervision} (same : t.Unsent t') (sent : s.Unsent t ∨ s.AskedOnce t) :
    s.Unsent t' ∨ s.AskedOnce t' := by
  refine sent.imp (fun before id control => (same id control).trans (before id control)) ?_
  rintro ⟨running, line, m, held, control, request, added, others⟩
  exact ⟨running, line, m, held, control, request, (same line control).trans added,
    fun id kind differs => (same id kind).trans (others id kind differs)⟩

theorem UnderWay.elsewhere {t : Supervision} {stage : Stage} (underWay : s.UnderWay t stage)
    (course : Premises.Course reads t.premises heard p) : s.UnderWay { t with premises := p } stage where
  supervising := underWay.supervising.course course
  watch := underWay.watch
  manager := underWay.manager
  told ends c there := by
    obtain ⟨before, here, later⟩ := course.scene.earlier there
    exact later.stopping.trans (underWay.told ends before here)
  joined ended c there := by
    obtain ⟨before, here, later⟩ := course.scene.earlier there
    exact later.loops_eq_nil (underWay.joined ended before here)
  running := underWay.running
  unsent early id control := (course.scene.sent control).trans (underWay.unsent early id control)
  sent := Unsent.sent (fun _ control => course.scene.sent control) underWay.sent
  outcome := underWay.outcome

/-- Where the exchange is left alone, and so are the manager and the watches. -/
theorem UnderWay.goOn {t : Supervision} {stage next : Stage} (underWay : s.UnderWay t stage)
    (told : next.told = true → stage.told = true) (hungUp : next.hungUp = stage.hungUp)
    (joined : next.joined = true → stage.joined = true)
    (later : next ≠ .asking) (outcome : next.outcome? ≠ some .notRunning) : s.UnderWay t next where
  supervising := underWay.supervising
  watch := underWay.watch
  manager := by rw [hungUp]; exact underWay.manager
  told ends := underWay.told (told ends)
  joined ended := underWay.joined (joined ended)
  running early := absurd early later
  unsent early := absurd early later
  sent := underWay.sent
  outcome := outcome

theorem UnderWay.step {t t' : Supervision} {stage stage' : Stage} {more : List (Moment Frame)}
    (underWay : s.UnderWay t stage) (step : Step lag reads t stage more t' stage') : s.UnderWay t' stage' := by
  have outcome := underWay.outcome
  cases step with
  | elsewhere course _ => exact underWay.elsewhere course
  | unopened _ => exact underWay.goOn nofun rfl nofun nofun nofun
  | refused _ refused =>
    cases sendRequest_refused refused
    exact underWay.goOn nofun rfl nofun nofun nofun
  | @sent line stamp scene held sent =>
    obtain ⟨x, m, same, request, -, alive, added, others⟩ := sendRequest_sent sent
    cases same
    have before := underWay.unsent rfl
    have manager : t.manager = s.manager := underWay.manager
    have control : line.kind = .control := underWay.supervising.held line held
    refine ⟨underWay.supervising.withExchange alive, underWay.watch, underWay.manager, nofun, nofun, nofun, nofun,
      Or.inr ⟨underWay.running rfl, line, m, manager ▸ held, control, request, ?_, fun id kind differs => ?_⟩,
      nofun⟩
    · rw [← before line control]
      exact added
    · exact (congrArg Line.sent (others id differs)).trans (before id kind)
  | timed => exact underWay.goOn nofun rfl nofun nofun nofun
  | agreed _ _ => exact underWay.goOn nofun rfl nofun nofun nofun
  | silent _ _ => exact underWay.goOn nofun rfl nofun nofun nofun
  | gaveUp _ => exact underWay.goOn nofun rfl nofun nofun nofun
  | paused _ => exact underWay.goOn nofun rfl nofun nofun nofun
  | told =>
    refine ⟨underWay.supervising.stopWatch, t.watch_stopWatch.trans underWay.watch,
      t.manager_stopWatch.trans underWay.manager, fun _ c there => ?_, nofun, nofun, nofun,
      Unsent.sent (fun id _ => by rw [exchange_stopWatch]) underWay.sent, outcome⟩
    obtain ⟨before, here, -⟩ := underWay.supervising.watched
    rw [watch_stopWatch, stopWatch_eq here] at there
    cases (Scene.control?_setWatch here before.stop _).symm.trans there
    rfl
  | hungUp =>
    have manager : t.manager = s.manager := underWay.manager
    refine ⟨underWay.supervising.hangUp, t.watch_hangUp.trans underWay.watch, ?_, fun _ c there => ?_, nofun, nofun,
      nofun, t.unsent_hangUp.sent underWay.sent, outcome⟩
    · rw [manager_hangUp, manager]
      rfl
    · rw [watch_hangUp, control?_hangUp] at there
      exact underWay.told rfl c there
  | joined ended =>
    exact ⟨underWay.supervising, underWay.watch, underWay.manager, fun _ => underWay.told rfl, fun _ => ended, nofun,
      nofun, underWay.sent, outcome⟩
  | spared _ => exact underWay.goOn id rfl id nofun outcome
  | @killed o child _ process =>
    have struck : Premises.Course reads t.premises [] (t.killProcess child).premises :=
      t.premises.course_onProcess child fun q => (q.kill (t.premises.now + killWait)).2
    exact (underWay.elsewhere struck).goOn id rfl id nofun outcome

theorem Shutdown.underWay {t : Supervision} {stage : Stage} {moments : List (Moment Frame)}
    (shutdown : Shutdown lag reads s moments t stage) (connected : s.Connected) : s.UnderWay t stage := by
  induction shutdown with
  | @called child process =>
    obtain ⟨q, here⟩ := process?_isSome (connected.here child process)
    have found : s.process? = some q := by rw [Supervision.process?, process]; exact here
    rw [found]
    cases exited : q.exited with
    | true =>
      have first : Stage.ofFarewell (Manager.farewell (some q)) = .ending .alreadyExited := by
        simp [Manager.farewell, exited, Stage.ofFarewell]
      rw [first]
      exact ⟨connected.toSupervising, rfl, rfl, nofun, nofun, nofun, nofun, Or.inl fun _ _ => rfl, nofun⟩
    | false =>
      have first : Stage.ofFarewell (Manager.farewell (some q)) = .asking := by
        simp [Manager.farewell, exited, Stage.ofFarewell]
      rw [first]
      exact ⟨connected.toSupervising, rfl, rfl, nofun, nofun, fun _ => ⟨q, found, exited⟩, fun _ _ _ => rfl,
        Or.inl fun _ _ => rfl, nofun⟩
  | next _ step ih => exact ih.step step

/-- A shutdown is never later than its lag when it is to look. -/
theorem Shutdown.punctual {t : Supervision} {stage : Stage} {moments : List (Moment Frame)}
    (shutdown : Shutdown lag reads s moments t stage) : stage.Punctual lag t.premises.now := by
  cases shutdown with
  | called =>
    cases Manager.farewell s.process? <;> trivial
  | next _ step =>
    cases step with
    | elsewhere _ punctual => exact punctual
    | timed => exact Nat.le_add_right ..
    | paused => exact Nat.le_trans (Nat.le_add_right ..) (Nat.le_add_right ..)
    | _ => trivial

/-- When the manager is about to let go of the process, nobody watches a control line any more. -/
theorem UnderWay.unwatched {t : Supervision} {o : ShutdownOutcome} (underWay : s.UnderWay t (.leaving o)) :
    t.Unwatched where
  toTidy := underWay.supervising.toTidy
  control := by
    rw [underWay.manager]
    rfl
  ended i c here := by
    by_cases last : i = t.watch
    · exact underWay.joined rfl c (last ▸ here)
    · exact underWay.supervising.watches i c here last

theorem Shutdown.hasKernel {t : Supervision} {stage : Stage} {moments : List (Moment Frame)}
    (shutdown : Shutdown lag reads s moments t stage) : s.manager.hasKernel = true := by
  induction shutdown with
  | called process =>
    rw [Manager.hasKernel, process]
    rfl
  | next _ _ ih => exact ih

/-- A shutdown that finds a process finds its control line as well. -/
theorem Shutdown.connected {t : Supervision} {stage : Stage} {moments : List (Moment Frame)}
    (shutdown : Shutdown lag reads s moments t stage) (settled : s.AtRest ∨ s.Connected) : s.Connected := by
  rcases settled with rest | connected
  · cases rest.hasKernel.symm.trans shutdown.hasKernel
  · exact connected

theorem Closes.atRest {o : ShutdownOutcome} {moments : List (Moment Frame)}
    (closes : Closes lag reads s o moments s') (settled : s.AtRest ∨ s.Connected) : s'.AtRest := by
  cases closes with
  | idle none =>
    rcases settled with rest | connected
    · exact rest.cleanup
    · have kernel := connected.process
      rw [Manager.hasKernel, none] at kernel
      cases kernel
  | left shutdown => exact (shutdown.underWay (shutdown.connected settled)).unwatched.letGo

/-- A launch that has succeeded has found no kernel, and has begun a watch. -/
theorem connected_of_start (settled : s.AtRest ∨ s.Connected) {extra : List String}
    (launched : s.start extra = (.ok (), s')) : s'.Connected ∧ s.Keeps s' ∧ s.NewlyWatched s' := by
  rcases settled with rest | connected
  · rcases rest.start extra with ⟨_, _, failed, -⟩ | ⟨_, done, news⟩
    · cases launched.symm.trans failed
    · cases launched.symm.trans done
      exact news
  · obtain ⟨_, _, failed, -⟩ := connected.toSupervising.start Scene.asArrived extra
    cases launched.symm.trans failed

/-- A launch that has failed leaves no kernel, or the one that was there before. -/
theorem of_start_failed (settled : s.AtRest ∨ s.Connected)
    (reads : Signer → Frame → Except Failure Message) {extra : List String} {failure : Failure}
    (failed : s.start extra = (.error failure, s')) :
    (s'.AtRest ∧ s.Keeps s') ∨
      s.Connected ∧ ∃ p, s' = { s with premises := p } ∧ Premises.Course reads s.premises [] p := by
  rcases settled with rest | connected
  · rcases rest.start extra with ⟨_, _, result, news⟩ | ⟨_, done, -⟩
    · cases failed.symm.trans result
      exact Or.inl news
    · cases failed.symm.trans done
  · obtain ⟨_, p, result, course⟩ := connected.toSupervising.start reads extra
    cases failed.symm.trans result
    exact Or.inr ⟨connected, p, rfl, course⟩

/-- Between the calls, a kernel is there whose control line is held and watched, or the manager is at rest. -/
theorem Tenure.settled {name : String} {spec : KernelSpec} {options : LaunchOptions}
    {trace : List (Moment Frame)} (tenure : Tenure lag reads name spec options trace s) :
    s.AtRest ∨ s.Connected := by
  induction tenure with
  | new => exact Or.inl ⟨⟨⟨rfl, nofun, nofun, fun _ _ _ => rfl, nofun⟩, rfl, nofun⟩, rfl⟩
  | elsewhere _ course ih =>
    exact ih.imp (·.course course) fun connected => ⟨connected.toSupervising.course course, connected.line⟩
  | launched _ result ih => exact Or.inr (connected_of_start ih result).1
  | failed _ result ih =>
    rcases of_start_failed ih reads result with ⟨rest, -⟩ | ⟨connected, p, rfl, course⟩
    · exact Or.inl rest
    · exact Or.inr ⟨connected.toSupervising.course course, connected.line⟩
  | closed _ closes ih => exact Or.inl (closes.atRest ih)

end Supervision
end KernelLink
