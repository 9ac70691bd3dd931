import KernelLink.Proofs.Connection.File
import KernelLink.Proofs.Exchange
import KernelLink.Proofs.Rehearsal.Children
import KernelLink.Rehearsal.Supervision
import Mathlib

namespace KernelLink

/-- What is told of a command line that names no program. -/
def Failure.noProgram : Failure := .processStart "No arguments provided"

/-- Writing a connection file never fails as a command line without a program does. -/
theorem WriteFailure.ne_noProgram {failure : Failure} (failed : WriteFailure failure) :
    failure ≠ .noProgram := by
  have begins {rest : String} (same : "Failed to pick " ++ rest = "No arguments provided") : False := by
    have head := congrArg (·.toList.head?) same
    simp at head
  cases failed with
  | transport name => nofun
  | address ip => nofun
  | scheme name => nofun
  | port portless =>
    cases portless with
    | exhausted label =>
      intro same
      rw [String.append_assoc] at same
      exact begins (Failure.processStart.inj same)
    | reserved label =>
      intro same
      have split : "Failed to pick unreserved " = "Failed to pick " ++ "unreserved " := rfl
      rw [split, String.append_assoc, String.append_assoc] at same
      exact begins (Failure.processStart.inj same)
  | io fault => nofun

/-- A watch that has just begun, with one loop that is about to look around. -/
def Control.begun (session : Session) (turn : Nat) (line : LineId) : Control :=
  { Control.new session with loops := [⟨turn, line, none⟩] }

namespace Manager

variable {m : Manager}

theorem hasKernel_eq_false_iff : m.hasKernel = false ↔ m.process = none := by
  rw [hasKernel, ← Bool.not_eq_true, Option.not_isSome_iff_eq_none]

theorem prepare_of_write (idle : m.hasKernel = false) (valid : m.file.validate = .ok ()) {disk after : Disk}
    {octets : Bytes} {info : ConnectionInfo} {path : Path} {written : Bool}
    (wrote : (m.file.generateKey octets).write disk = (.ok (), ⟨info, path, written⟩, after))
    (same : path = m.file.path) (inherited : List (String × String)) (extra : List String) :
    m.prepare disk octets inherited extra =
      (Command.build (m.commandLine extra) (Environment.resolve inherited [m.spec.env, m.options.env]),
        { m with file := ⟨info, path, written⟩ }, after) := by
  subst same
  unfold prepare
  rw [if_neg (by simp [idle]), valid]
  simp only [wrote]
  rfl

theorem prepare_of_write_error (idle : m.hasKernel = false) (valid : m.file.validate = .ok ()) {disk after : Disk}
    {octets : Bytes} {file : ConnectionFile} {failure : Failure}
    (failed : (m.file.generateKey octets).write disk = (.error failure, file, after))
    (inherited : List (String × String)) (extra : List String) :
    m.prepare disk octets inherited extra = (.error failure, { m with file := file }, after) := by
  simp only [prepare, idle, valid, failed, Bool.false_eq_true, if_false]

/-- How it may end what comes before the start of a program, if no kernel is there: no file is touched and a failure is
told; the connection file is cut short; or it is there, written now or before, and the command line is looked at. -/
inductive Preparation (m : Manager) (disk : Disk) (octets : Bytes) (inherited : List (String × String))
    (extra : List String) : Except Failure Command × Manager × Disk → Prop
  | refused {failure info asked} : WriteFailure failure →
      (∀ info asked place made, m.file.validate = .ok () →
        ¬(m.file.generateKey octets).Opened disk info asked place made) →
      (PortPicker.Valid disk.picker → m.file.info.Fits → info.Fits) →
      Preparation m disk octets inherited extra
        (.error failure, { m with file := { m.file with info := info } }, { disk with asked := asked })
  | torn {info asked place made fault tree} : m.file.validate = .ok () →
      (m.file.generateKey octets).Opened disk info asked place made →
      made.fill place [] info.fileText = (.error fault, tree) →
      (PortPicker.Valid disk.picker → m.file.info.Fits → info.Fits) →
      Preparation m disk octets inherited extra (.error (.json (.io fault.describe)),
        { m with file := { m.file with info := info } }, { disk with tree := tree, asked := asked })
  | ready {info after} : (∀ info asked place made fault tree, m.file.validate = .ok () →
        (m.file.generateKey octets).Opened disk info asked place made →
        made.fill place [] info.fileText ≠ (.error fault, tree)) →
      (PortPicker.Valid disk.picker → m.file.info.Fits → info.Fits) →
      (m.file.written = true ∧ disk.tree.hasNode m.file.path = true ∧ after = disk ∨
        ¬(m.file.written = true ∧ disk.tree.hasNode m.file.path = true) ∧
          after.tree.status m.file.path = .ok (.file info.fileText)) →
      Preparation m disk octets inherited extra
        (Command.build (m.commandLine extra) (Environment.resolve inherited [m.spec.env, m.options.env]),
          { m with file := ⟨info, m.file.path, true⟩ }, after)

theorem preparation_prepare (idle : m.hasKernel = false) (disk : Disk) (octets : Bytes)
    (inherited : List (String × String)) (extra : List String) :
    m.Preparation disk octets inherited extra (m.prepare disk octets inherited extra) := by
  cases valid : m.file.validate with
  | error failure =>
    have refused : m.prepare disk octets inherited extra = (.error failure, m, disk) := by
      simp [prepare, idle, valid]
    rw [refused]
    exact .refused (ConnectionFile.validate_failure valid) (fun _ _ _ _ fine => by cases valid.symm.trans fine)
      fun _ fits => fits
  | ok _ =>
    have ends := (m.file.generateKey octets).writing_write disk
    rcases wrote : (m.file.generateKey octets).write disk with ⟨result, file, after⟩
    rw [wrote] at ends
    cases ends with
    | again written there =>
      have kept : m.file.generateKey octets = ⟨(m.file.generateKey octets).info, m.file.path, true⟩ := by
        rw [← written]
        rfl
      have same := wrote.trans (congrArg (fun file => (Except.ok (), file, disk)) kept)
      rw [prepare_of_write idle valid same rfl]
      exact .ready (fun _ _ _ _ _ _ _ opened => opened.whole (congrArg Prod.fst wrote)) (fun _ fits => fits)
        (Or.inl ⟨written, there, rfl⟩)
    | refused due failed drafted =>
      rw [prepare_of_write_error idle valid wrote]
      exact .refused failed (fun _ _ _ _ _ opened => opened.not_refused (congrArg Prod.fst wrote) failed) drafted.fits
    | torn opened broken =>
      rw [prepare_of_write_error idle valid wrote]
      exact .torn valid opened broken opened.drafted.fits
    | written opened filled =>
      rw [prepare_of_write idle valid wrote rfl]
      exact .ready (fun _ _ _ _ _ _ _ opened => opened.whole (congrArg Prod.fst wrote)) opened.drafted.fits
        (Or.inr ⟨opened.due, FileTree.status_fill opened.opened filled⟩)

/-- A control line that has been opened is running, and it is watched under the session of the manager. Nothing
else of the manager changes, and no other line is started or stopped. -/
theorem openControl_cases (p : KernelProcess) (x : Exchange) (session : Session) :
    (∃ failure after, m.openControl p x session = (.error failure, m, after) ∧
      ∀ id, (after.line id).alive = (x.line id).alive) ∨
    ∃ turn serial after, m.openControl p x session =
        (.ok (.begun session turn ⟨.control, serial⟩), { m with control := some ⟨.control, serial⟩ }, after) ∧
      ∀ id, (after.line id).alive = true ↔ id = ⟨.control, serial⟩ ∨ (x.line id).alive = true := by
  unfold openControl takeControl
  split
  · exact Or.inl ⟨_, x, rfl, fun _ => rfl⟩
  · have asked := x.steady_create .control
    cases created : x.create .control with
    | mk opened after =>
      rw [created] at asked
      cases opened with
      | error failure => exact Or.inl ⟨failure, after, rfl, asked.lines⟩
      | ok serial =>
        refine Or.inr ⟨after.turns, serial, ((after.startLine ⟨.control, serial⟩).takeTurn).2, rfl, fun id => ?_⟩
        rw [← asked.lines id]
        exact after.alive_startLine ⟨.control, serial⟩ id

end Manager

namespace Supervision

variable {s s' : Supervision}

/-- A launch that has failed behind the making of the connection file: the process that it may have started has
ended, and the file is no longer there, if files may be removed. -/
structure CleanedUp (s s' : Supervision) : Prop where
  process : s'.manager.process = none
  file : s'.manager.file = { s.manager.file with written := false }
  away : s'.disk.tree.obstacles.remove = none → s'.disk.tree.isFile s.manager.file.path = false
  gone : ∀ c ∈ s'.premises.children.drop s.premises.children.length, c.Gone

/-- A launch that has succeeded: a process is there, and the watch over the control line has the key of the
connection file. -/
structure Launched (s s' : Supervision) : Prop where
  process : s'.manager.hasKernel = true
  file : s'.manager.file = s.manager.file
  watched : ∃ watch, s'.premises.scene.control? s'.watch = some watch ∧
    watch.session.signer = ⟨s.manager.file.info.keyBytes⟩

theorem letGo_eq (s : Supervision) : s.letGo.manager.process = none ∧
    s.letGo.manager.file = (s.manager.file.cleanup s.disk).1 ∧
    s.letGo.disk = (s.manager.file.cleanup s.disk).2 ∧ s.letGo.premises.children = s.premises.children :=
  ⟨rfl, rfl, rfl, rfl⟩

theorem letGo_cleanedUp {count : Nat} (written : s.manager.file.written = true)
    (gone : s.premises.Youngest count Child.Gone) (counts : s'.premises.children.length = count)
    (same : s.manager.file = s'.manager.file) : s'.CleanedUp s.letGo := by
  obtain ⟨process, file, disk, children⟩ := s.letGo_eq
  refine ⟨process, ?_, ?_, ?_⟩
  · rw [file, ConnectionFile.written_cleanup, same]
  · rw [disk, ← same]
    exact ConnectionFile.isFile_cleanup written
  · obtain ⟨c, only, known⟩ := gone
    rw [children, counts, only]
    simpa using known

/-- Once a process has been started the control line is opened, or the process is killed and waited for. -/
theorem settleLaunch_cases {child : Nat} (young : s.premises.Youngest child Child.Sound) :
    (∃ failure p, s.settleLaunch child = (.error failure, letGo { s with premises := p }) ∧
        p.Youngest child Child.Gone) ∨
      ∃ s', s.settleLaunch child = (.ok (), s') ∧ s'.manager.process = s.manager.process ∧
        s'.manager.file = s.manager.file ∧ ∃ watch, s'.premises.scene.control? s'.watch = some watch ∧
          watch.session.signer = ⟨s.manager.file.info.keyBytes⟩ := by
  -- time goes by before the control line is opened, and the process may end meanwhile
  have waited := young.await Child.steady_sound (fun p => (p.process? child).any (·.exited))
    s.manager.options.settleTime 1
  have still : (s.premises.await (fun p => (p.process? child).any (·.exited)) s.manager.options.settleTime
      1).2.identifier.2.Youngest child Child.Sound := waited
  unfold settleLaunch
  simp only
  generalize (s.premises.await _ _ _).2.identifier = identified at still ⊢
  obtain ⟨id, p⟩ := identified
  obtain ⟨c, here, -⟩ := still.process?
  simp only [here]
  rcases s.manager.openControl_cases c.process p.scene.exchange (s.manager.newSession id s.username) with
    ⟨failure, x, failed, -⟩ | ⟨turn, serial, x, opened, -⟩
  · have there : Premises.Youngest child Child.Sound { p with scene := { p.scene with exchange := x } } := still
    rw [failed]
    exact Or.inl ⟨failure, _, rfl, there.kill killWait⟩
  · rw [opened]
    refine Or.inr ⟨_, rfl, rfl, rfl, .begun (s.manager.newSession id s.username) turn ⟨.control, serial⟩, ?_, rfl⟩
    simp [Scene.control?]

/-- The part of a launch that comes once the command is known. -/
def launch (s : Supervision) (command : Command) : Except Failure Unit × Supervision :=
  let (spawned, p) := s.premises.spawn command
  let s := { s with premises := p }
  match s.manager.supervise s.disk spawned with
  | (.error failure, m, disk) => (.error failure, s.withDisk m disk)
  | (.ok child, m, disk) => (s.withDisk m disk).showProcess.settleLaunch child

/-- A program has just been started, and the manager takes its process for that of the kernel. -/
def takeCharge (s : Supervision) (program : Program) : Supervision :=
  showProcess { s with
    premises := { s.premises with children := s.premises.children ++ [⟨.started, program⟩] }
    manager := { s.manager with process := some s.premises.children.length } }

theorem youngest_takeCharge (s : Supervision) (program : Program) :
    (s.takeCharge program).premises.Youngest s.premises.children.length Child.Sound :=
  ⟨⟨.started, program⟩, List.drop_left, Child.sound_started program⟩

theorem launch_eq (s : Supervision) (command : Command) :
    s.launch command =
      match Program.start s.premises.disk.tree command s.premises.now with
      | .error fault => (.error (launchFailure s.manager.name fault), s.withDisk (s.manager.cleanup s.disk).1
          (s.manager.cleanup s.disk).2)
      | .ok program => (s.takeCharge program).settleLaunch s.premises.children.length := by
  unfold launch Premises.spawn
  cases Program.start s.premises.disk.tree command s.premises.now <;> rfl

/-- A launch whose program cannot be started leaves what stands in the way of files. -/
theorem launch_of_missing {command : Command} {fault : SystemFault}
    (missing : Program.start s.premises.disk.tree command s.premises.now = .error fault) :
    ∃ s', s.launch command = (.error (launchFailure s.manager.name fault), s') ∧
      s'.disk.tree.obstacles = s.disk.tree.obstacles := by
  rw [launch_eq, missing]
  exact ⟨_, rfl, s.manager.file.obstacles_cleanup s.disk⟩

theorem launch_cases (idle : s.manager.process = none) (written : s.manager.file.written = true)
    (command : Command) :
    (∃ failure s', s.launch command = (.error failure, s') ∧ s.CleanedUp s') ∨
      ∃ s', s.launch command = (.ok (), s') ∧ s.Launched s' := by
  rw [launch_eq]
  cases Program.start s.premises.disk.tree command s.premises.now with
  | error fault =>
    refine Or.inl ⟨_, _, rfl, idle, ?_, ?_, by simp [withDisk]⟩
    · exact ConnectionFile.written_cleanup _ _
    · exact ConnectionFile.isFile_cleanup written
  | ok program =>
    rcases settleLaunch_cases (s.youngest_takeCharge program) with
      ⟨failure, p, failed, gone⟩ | ⟨s', launched, process, file, watched⟩
    · exact Or.inl ⟨failure, _, failed, letGo_cleanedUp (s := { s.takeCharge program with premises := p })
        written gone rfl rfl⟩
    · exact Or.inr ⟨s', launched, by rw [Manager.hasKernel, process]; rfl, file, watched⟩

/-- What a launch has made before it starts a program. -/
def prepared (s : Supervision) (extra : List String) : Supervision :=
  let (_, m, disk) := s.manager.prepare s.disk (s.premises.draw.1.take keyLength) s.inherited extra
  withDisk { s with premises := s.premises.draw.2 } m disk

theorem start_of_prepare {extra : List String} {command : Except Failure Command} {m : Manager} {disk : Disk}
    (made : s.manager.prepare s.disk (s.premises.draw.1.take keyLength) s.inherited extra = (command, m, disk)) :
    s.prepared extra = withDisk { s with premises := s.premises.draw.2 } m disk ∧
      (∀ failure, command = .error failure → s.start extra = (.error failure, s.prepared extra)) ∧
      ∀ c, command = .ok c → s.start extra = (s.prepared extra).launch c := by
  have state : s.prepared extra = withDisk { s with premises := s.premises.draw.2 } m disk := by
    rw [prepared, made]
  -- drawing the key leaves the disk as it is
  have drawn : s.manager.prepare s.premises.draw.2.disk (s.premises.draw.1.take keyLength) s.inherited extra =
      (command, m, disk) := made
  refine ⟨state, ?_, ?_⟩
  · rintro failure rfl
    rw [state]
    simp only [start, Supervision.disk, drawn]
  · rintro c rfl
    rw [state]
    simp only [start, Supervision.disk, drawn]
    rfl

theorem prepared_of_write {info : ConnectionInfo} {disk : Disk} (idle : s.manager.hasKernel = false)
    (valid : s.manager.file.validate = .ok ())
    (wrote : (s.manager.file.generateKey (s.premises.draw.1.take keyLength)).write s.disk =
      (.ok (), ⟨info, s.manager.file.path, true⟩, disk)) (extra : List String) :
    s.prepared extra = withDisk { s with premises := s.premises.draw.2 }
        { s.manager with file := ⟨info, s.manager.file.path, true⟩ } disk ∧
      ∀ program args, s.manager.commandLine extra = program :: args → s.start extra = (s.prepared extra).launch
        ⟨program, args, Environment.resolve s.inherited [s.manager.spec.env, s.manager.options.env]⟩ := by
  obtain ⟨state, -, goesOn⟩ := start_of_prepare (Manager.prepare_of_write idle valid wrote rfl s.inherited extra)
  exact ⟨state, fun program args line => goesOn _ (by rw [line]; rfl)⟩

/-- A launch opens its connection file, so that it stands empty at its place: the settings are allowed, the file is due
to be written, it has all its ports, and the file system lets it be made. -/
def Opens (s : Supervision) (info : ConnectionInfo) (asked : Nat) (place : List String) (made : FileTree) : Prop :=
  s.manager.file.validate = .ok () ∧
    (s.manager.file.generateKey (s.premises.draw.1.take keyLength)).Opened s.disk info asked place made

/-- A launch opens its connection file, and writing to it breaks off. -/
def BreaksOff (s : Supervision) : Prop :=
  ∃ info asked place made fault tree, s.Opens info asked place made ∧
    made.fill place [] info.fileText = (.error fault, tree)

theorem Opens.due {info : ConnectionInfo} {asked : Nat} {place : List String} {made : FileTree}
    (opens : s.Opens info asked place made) :
    ¬(s.manager.file.written = true ∧ s.disk.tree.hasNode s.manager.file.path = true) := opens.2.due

/-- Nothing breaks off where all can be written. -/
theorem not_breaksOff (free : s.disk.tree.obstacles.write = none) : ¬s.BreaksOff := by
  rintro ⟨info, asked, place, made, fault, tree, opens, broken⟩
  obtain ⟨-, -, -, rfl⟩ := FileTree.create_eq opens.2.opened
  obtain done | ⟨room, other, -, known, -⟩ :=
    (s.disk.tree.put place (.file [])).fill_cases place [] info.fileText
  · cases done.symm.trans broken
  · rw [FileTree.obstacles_put, free] at known
    cases known

/-- No program has been started. The manager may have drawn a key and ports for its file. -/
structure Unlaunched (s s' : Supervision) : Prop where
  process : s'.manager.process = none
  path : s'.manager.file.path = s.manager.file.path
  fits : PortPicker.Valid s.disk.picker → s.manager.file.info.Fits → s'.manager.file.info.Fits
  children : s'.premises.children = s.premises.children

theorem Unlaunched.hasKernel (unlaunched : s.Unlaunched s') : s'.manager.hasKernel = false :=
  Manager.hasKernel_eq_false_iff.mpr unlaunched.process

theorem Unlaunched.gone (unlaunched : s.Unlaunched s') :
    ∀ c ∈ s'.premises.children.drop s.premises.children.length, c.Gone := by
  rw [unlaunched.children, List.drop_length]
  exact fun _ member => absurd member List.not_mem_nil

/-- No file has been opened. -/
structure Refused (s s' : Supervision) : Prop extends Unlaunched s s' where
  written : s'.manager.file.written = s.manager.file.written
  unopened : ∀ info asked place made, ¬s.Opens info asked place made
  tree : s'.disk.tree = s.disk.tree

/-- The connection file has been opened, and a part of it is there. The manager does not take it for written, unless
it has done so before. -/
structure Torn (s s' : Supervision) : Prop extends Unlaunched s s' where
  written : s'.manager.file.written = s.manager.file.written
  broken : s.BreaksOff
  there : s'.disk.tree.isFile s.manager.file.path = true

/-- The manager takes the connection file for written. -/
structure Prepared (s s' : Supervision) : Prop extends Unlaunched s s' where
  written : s'.manager.file.written = true
  whole : ¬s.BreaksOff
  /-- Either it stands there as it did before, or it has been written now. -/
  tree : s.manager.file.written = true ∧ s.disk.tree.hasNode s.manager.file.path = true ∧ s'.disk = s.disk ∨
    ¬(s.manager.file.written = true ∧ s.disk.tree.hasNode s.manager.file.path = true) ∧
      s'.disk.tree.status s.manager.file.path = .ok (.file s'.manager.file.info.fileText)

/-- How a launch goes, if no kernel is there. -/
theorem start_cases (idle : s.manager.hasKernel = false) (extra : List String) :
    (∃ failure, s.start extra = (.error failure, s.prepared extra) ∧
        (WriteFailure failure ∧ s.Refused (s.prepared extra) ∨
          (∃ reason, failure = .json reason) ∧ s.Torn (s.prepared extra))) ∨
      s.Prepared (s.prepared extra) ∧
        (s.manager.commandLine extra = [] ∧ s.start extra = (.error .noProgram, s.prepared extra) ∨
          ∃ program args, s.manager.commandLine extra = program :: args ∧
            s.start extra = (s.prepared extra).launch
              ⟨program, args, Environment.resolve s.inherited
                [s.manager.spec.env, s.manager.options.env]⟩) := by
  have absent := Manager.hasKernel_eq_false_iff.mp idle
  have ends := s.manager.preparation_prepare idle s.disk (s.premises.draw.1.take keyLength) s.inherited extra
  rcases made : s.manager.prepare s.disk (s.premises.draw.1.take keyLength) s.inherited extra with ⟨command, m, disk⟩
  rw [made] at ends
  obtain ⟨state, failed, goesOn⟩ := start_of_prepare made
  cases ends with
  | @refused failure info asked kind unopened fit =>
    refine Or.inl ⟨failure, failed failure rfl, Or.inl ⟨kind, ?_⟩⟩
    rw [state]
    exact ⟨⟨absent, rfl, fit, rfl⟩, rfl, fun _ _ _ _ opens => unopened _ _ _ _ opens.1 opens.2, rfl⟩
  | @torn info asked place made fault tree valid opened broken fit =>
    obtain ⟨room, -, there⟩ := FileTree.status_fill_error opened.opened broken
    refine Or.inl ⟨_, failed _ rfl, Or.inr ⟨⟨_, rfl⟩, ?_⟩⟩
    rw [state]
    exact ⟨⟨absent, rfl, fit, rfl⟩, rfl, ⟨_, _, _, _, _, _, ⟨valid, opened⟩, broken⟩,
      FileTree.isFile_of_status there⟩
  | @ready info after whole fit there =>
    have ready : s.Prepared (s.prepared extra) := by
      rw [state]
      refine ⟨⟨absent, rfl, fit, rfl⟩, rfl, ?_, there⟩
      rintro ⟨info, asked, place, made, fault, tree, ⟨valid, opened⟩, broken⟩
      exact whole info asked place made fault tree valid opened broken
    refine Or.inr ⟨ready, ?_⟩
    cases line : s.manager.commandLine extra with
    | nil => exact Or.inl ⟨rfl, failed .noProgram (by rw [line]; rfl)⟩
    | cons program args => exact Or.inr ⟨program, args, rfl, goesOn _ (by rw [line]; rfl)⟩

/-- The ways that a launch can go, if no kernel is there. -/
inductive Attempt (s : Supervision) (extra : List String) : Except Failure Unit → Supervision → Prop
  | refused {failure : Failure} {t : Supervision} : WriteFailure failure → s.Refused t →
      Attempt s extra (.error failure) t
  | torn {reason : Fault} {t : Supervision} : s.Torn t → Attempt s extra (.error (.json reason)) t
  | noProgram {t : Supervision} : s.Prepared t → s.manager.commandLine extra = [] →
      Attempt s extra (.error .noProgram) t
  | cleanedUp {failure : Failure} {t : Supervision} : s.Prepared (s.prepared extra) →
      s.manager.commandLine extra ≠ [] → (s.prepared extra).CleanedUp t → Attempt s extra (.error failure) t
  | launched {t : Supervision} : s.Prepared (s.prepared extra) → (s.prepared extra).Launched t →
      Attempt s extra (.ok ()) t

theorem attempt_start (idle : s.manager.hasKernel = false) (extra : List String) :
    s.Attempt extra (s.start extra).1 (s.start extra).2 := by
  rcases start_cases idle extra with ⟨failure, result, ⟨kind, refused⟩ | ⟨⟨reason, rfl⟩, torn⟩⟩ |
    ⟨ready, ⟨line, result⟩ | ⟨program, args, line, result⟩⟩
  · rw [result]
    exact .refused kind refused
  · rw [result]
    exact .torn torn
  · rw [result]
    exact .noProgram ready line
  · have named : s.manager.commandLine extra ≠ [] := by
      rw [line]
      exact List.cons_ne_nil program args
    rcases launch_cases ready.process ready.written _ with ⟨failure, s', ended, clean⟩ | ⟨s', ended, there⟩
    · rw [result, ended]
      exact .cleanedUp ready named clean
    · rw [result, ended]
      exact .launched ready there

/-- A failed call has left no connection file: a file that had been written is gone, or none has been opened and
nothing has changed. -/
def LeftNoFile (s s' : Supervision) : Prop :=
  s'.manager.file.written = false ∧ s'.disk.tree.isFile s.manager.file.path = false ∨
    (∀ info asked place made, ¬s.Opens info asked place made) ∧
      s'.manager.file.written = s.manager.file.written ∧ s'.disk.tree = s.disk.tree

theorem Refused.leftNoFile (refused : s.Refused s') : s.LeftNoFile s' :=
  Or.inr ⟨refused.unopened, refused.written, refused.tree⟩

theorem Torn.not_leftNoFile (torn : s.Torn s') : ¬s.LeftNoFile s' := by
  obtain ⟨info, asked, place, made, fault, tree, opens, -⟩ := torn.broken
  rintro (⟨-, away⟩ | ⟨unopened, -⟩)
  · cases torn.there.symm.trans away
  · exact unopened _ _ _ _ opens

/-- What has been made ready leaves no new file only if the old one has been kept. -/
theorem Prepared.leftNoFile_iff (ready : s.Prepared s') : s.LeftNoFile s' ↔
    s.manager.file.written = true ∧ s.disk.tree.hasNode s.manager.file.path = true := by
  rcases ready.tree with ⟨written, there, same⟩ | ⟨new, there⟩
  · exact iff_of_true (Or.inr ⟨fun _ _ _ _ opens => opens.due ⟨written, there⟩, ready.written.trans written.symm,
      congrArg Disk.tree same⟩) ⟨written, there⟩
  · refine iff_of_false ?_ new
    rintro (⟨unwritten, -⟩ | ⟨-, written, same⟩)
    · cases ready.written.symm.trans unwritten
    · refine new ⟨written.symm.trans ready.written, ?_⟩
      rw [FileTree.hasNode, ← same, there]
      rfl

theorem CleanedUp.leftNoFile {t : Supervision} (clean : t.CleanedUp s') (ready : s.Prepared t)
    (free : s'.disk.tree.obstacles.remove = none) : s.LeftNoFile s' := by
  have away := clean.away free
  rw [ready.path] at away
  exact Or.inl ⟨by rw [clean.file], away⟩

/-- A failed launch leaves no kernel and no process. Where files may be removed, it leaves no connection file either,
but in two cases: the command line names no program, and the file has been written before that is seen; or writing the
file breaks off once it has been opened. -/
theorem start_failed_leaves_nothing {extra : List String} {failure : Failure}
    (idle : s.manager.hasKernel = false) (failed : s.start extra = (.error failure, s')) :
    s'.manager.hasKernel = false ∧
      (∀ c ∈ s'.premises.children.drop s.premises.children.length, c.Gone) ∧
      (s'.disk.tree.obstacles.remove = none →
        (s.LeftNoFile s' ↔ ¬(s.manager.commandLine extra = [] ∧ failure = .noProgram ∧
          ¬(s.manager.file.written = true ∧ s.disk.tree.hasNode s.manager.file.path = true)) ∧ ¬s.BreaksOff)) := by
  have went := s.attempt_start idle extra
  rw [failed] at went
  cases went with
  | refused kind refused =>
    refine ⟨refused.hasKernel, refused.gone, fun _ => iff_of_true refused.leftNoFile ?_⟩
    refine ⟨fun left => kind.ne_noProgram left.2.1, ?_⟩
    rintro ⟨info, asked, place, made, fault, tree, opens, -⟩
    exact refused.unopened _ _ _ _ opens
  | torn torn =>
    exact ⟨torn.hasKernel, torn.gone,
      fun _ => iff_of_false torn.not_leftNoFile fun neither => neither.2 torn.broken⟩
  | noProgram ready line =>
    refine ⟨ready.hasKernel, ready.gone, fun _ => ?_⟩
    rw [ready.leftNoFile_iff]
    exact ⟨fun old => ⟨fun left => left.2.2 old, ready.whole⟩,
      fun neither => by_contra fun new => neither.1 ⟨line, rfl, new⟩⟩
  | cleanedUp ready line clean =>
    exact ⟨Manager.hasKernel_eq_false_iff.mpr clean.process, ready.children ▸ clean.gone,
      fun free => iff_of_true (clean.leftNoFile ready free) ⟨fun left => line left.1, ready.whole⟩⟩

/-- A manager that has done nothing yet, on premises that are empty. -/
def fresh (argv : List String) : Supervision where
  premises := .new .empty (fun n => some (9000 + n % 1000)) fun n => [UInt8.ofNat n]
  manager := .ofSpec "kernel" ⟨argv, "Kernel", "", none, [], none, "/kernel"⟩
    ⟨"127.0.0.1", "tcp", "/k", [], 0, 0, 1⟩
  watch := 0
  inherited := []
  username := "user"

/-- The connection that a fresh manager writes to its file. -/
def freshInfo : ConnectionInfo where
  shellPort := 9000
  iopubPort := 9001
  stdinPort := 9002
  hbPort := 9003
  controlPort := 9004
  ip := "127.0.0.1"
  key := "00"
  transport := "tcp"
  signatureScheme := "hmac-sha256"
  kernelName := "Kernel"

/-- The file that a fresh manager writes. -/
def freshTree : FileTree := { FileTree.empty with nodes := [(["k"], .file freshInfo.fileText)] }

/-- A file can be opened in the root of an empty tree. -/
theorem create_empty : FileTree.empty.create "/k" = .ok (["k"], FileTree.empty.put ["k"] (.file [])) := by
  have place : FileTree.empty.locate "/k" = .ok ["k"] := by cbv
  rw [FileTree.create, place]
  rfl

theorem validate_fresh (argv : List String) : (fresh argv).manager.file.validate = .ok () := by
  have here : isLocalAddress "127.0.0.1" = true := by cbv
  simp [ConnectionFile.validate, fresh, Manager.ofSpec, ConnectionFile.ofInfo, ConnectionInfo.default, here]

theorem write_fresh (argv : List String) :
    ((fresh argv).manager.file.generateKey [0]).write (fresh argv).disk =
      (.ok (), ⟨freshInfo, "/k", true⟩, { (fresh argv).disk with tree := freshTree, asked := 5 }) := by
  have key : keyText [0] = "00" := by cbv
  have assigned : Ports.assign (fresh argv).disk.picker ((fresh argv).manager.file.generateKey [0]).info
      (fresh argv).disk.asked = (.ok (), freshInfo, 5) := by
    rw [ConnectionFile.generateKey, key]
    rfl
  have opened : ((fresh argv).manager.file.generateKey [0]).Opened (fresh argv).disk freshInfo 5 ["k"]
      (FileTree.empty.put ["k"] (.file [])) :=
    ⟨fun both => Bool.false_ne_true both.1, validate_fresh argv, assigned, create_empty⟩
  exact ConnectionFile.write_anew opened rfl

/-- What a fresh manager has written is there. -/
theorem status_freshTree : freshTree.status "/k" = .ok (.file freshInfo.fileText) :=
  FileTree.status_put create_empty freshInfo.fileText

theorem prepared_fresh (argv extra : List String) :
    (fresh argv).prepared extra = withDisk { fresh argv with premises := (fresh argv).premises.draw.2 }
      { (fresh argv).manager with file := ⟨freshInfo, "/k", true⟩ }
      { (fresh argv).disk with tree := freshTree, asked := 5 } :=
  (prepared_of_write rfl (validate_fresh argv) (write_fresh argv) extra).1

/-- Nothing keeps a fresh manager from writing its connection file. -/
theorem fresh_start_cases (argv extra : List String) :
    (fresh argv).manager.commandLine extra = [] ∧
        (fresh argv).start extra = (.error .noProgram, (fresh argv).prepared extra) ∨
      ∃ program args, (fresh argv).manager.commandLine extra = program :: args ∧
        (fresh argv).start extra = ((fresh argv).prepared extra).launch ⟨program, args, []⟩ := by
  rcases start_cases (s := fresh argv) rfl extra with ⟨_, -, ⟨-, refused⟩ | ⟨-, torn⟩⟩ | ⟨-, started⟩
  · have written := refused.written
    rw [prepared_fresh] at written
    cases written
  · have written := torn.written
    rw [prepared_fresh] at written
    cases written
  · exact started

/-- A launch of a program that is not there fails, and leaves nothing behind. -/
theorem start_missing_leaves_nothing :
    (fresh ["/x"]).manager.hasKernel = false ∧
      ∃ failure s', (fresh ["/x"]).start [] = (.error failure, s') ∧ s'.disk.tree.obstacles.remove = none ∧
        s'.manager.hasKernel = false ∧ (fresh ["/x"]).LeftNoFile s' := by
  have line : (fresh ["/x"]).manager.commandLine [] = ["/x"] := by cbv
  obtain ⟨failure, s', failed, free⟩ : ∃ failure s', (fresh ["/x"]).start [] = (.error failure, s') ∧
      s'.disk.tree.obstacles.remove = none := by
    rcases fresh_start_cases ["/x"] [] with ⟨empty, -⟩ | ⟨program, args, same, result⟩
    · cases line.symm.trans empty
    · cases line.symm.trans same
      have missing (content : Bytes) (now : Nat) : Program.start
          { FileTree.empty with nodes := [(["k"], .file content)] } ⟨"/x", [], []⟩ now = .error .notFound := by cbv
      obtain ⟨s', failed, obstacles⟩ := @launch_of_missing ((fresh ["/x"]).prepared []) ⟨"/x", [], []⟩ .notFound
        (by rw [prepared_fresh]; exact missing _ _)
      refine ⟨_, s', result.trans failed, ?_⟩
      rw [obstacles, prepared_fresh]
      rfl
  obtain ⟨process, -, file⟩ := start_failed_leaves_nothing rfl failed
  refine ⟨rfl, failure, s', failed, free, process, (file free).mpr ⟨fun left => ?_, not_breaksOff rfl⟩⟩
  cases line.symm.trans left.1

/-- Without a program the launch fails as well, but its connection file stays and counts as written. -/
theorem start_noProgram_leaves_file :
    (fresh []).manager.hasKernel = false ∧
      ∃ s', (fresh []).start [] = (.error .noProgram, s') ∧ s'.manager.file.written = true ∧
        s'.disk.tree.isFile s'.manager.file.path = true ∧ ¬(fresh []).LeftNoFile s' := by
  obtain ⟨-, result⟩ | ⟨_, _, line, -⟩ := fresh_start_cases [] []
  · refine ⟨rfl, (fresh []).prepared [], result, ?_⟩
    rw [prepared_fresh]
    refine ⟨rfl, FileTree.isFile_of_status status_freshTree, ?_⟩
    rintro (⟨unwritten, -⟩ | ⟨-, written, -⟩)
    · cases unwritten
    · cases written
  · cases line

end Supervision
end KernelLink
