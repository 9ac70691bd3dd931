import KernelLink.Connection.File
import KernelLink.Launch.Command
import KernelLink.Launch.Environment
import KernelLink.Manager.Control
import KernelLink.Process.Basic
import KernelLink.Spec.Basic

namespace KernelLink

/-- Settings for launching a kernel. Times are in milliseconds. -/
structure LaunchOptions where
  ip : String
  transport : String
  connectionFile : Path
  /-- Variables for the kernel, beneath those that are inherited and those of its spec. -/
  env : Table String
  /-- How long a kernel is given to open its sockets. -/
  settleTime : Nat
  /-- How long the kernel may take to agree to a shutdown, and then to exit. -/
  shutdownWait : Nat
  shutdownPause : Nat

/-- How a shutdown went. -/
inductive ShutdownOutcome where
  /-- The kernel agreed. -/
  | acknowledged
  /-- The kernel did not agree in time, and was killed. -/
  | killed
  | alreadyExited
  | notRunning
  deriving DecidableEq, Repr

/-- How long a killed process is waited for, in milliseconds. -/
def killWait : Nat := 5000

/-- Launches a kernel and supervises it: the process, the connection file and the control line. -/
structure Manager where
  name : String
  spec : KernelSpec
  options : LaunchOptions
  file : ConnectionFile
  /-- The process that has been started and not yet been shut down. -/
  process : Option Nat
  /-- The line over which the kernel is asked to shut down. -/
  control : Option LineId

namespace Manager

/-- A manager for a kernel of that spec, which has not been started. -/
def ofSpec (name : String) (spec : KernelSpec) (options : LaunchOptions) : Manager where
  name := name
  spec := spec
  options := options
  file := .ofInfo
    { ConnectionInfo.default with
      ip := options.ip
      transport := options.transport
      kernelName := spec.displayName }
    options.connectionFile
  process := none
  control := none

/-- Whether a kernel has been started and not yet been shut down. -/
def hasKernel (m : Manager) : Bool := m.process.isSome

/-- The command line of the kernel. -/
def commandLine (m : Manager) (extra : List String) : List String :=
  KernelLink.commandLine m.spec.argv extra m.file.path m.spec.resourceDir

/-- What comes before the start of the program: a new key, the connection file and the command. An
address or a transport that is not allowed is refused before anything is changed. -/
def prepare (m : Manager) (disk : Disk) (octets : Bytes) (inherited : List (String × String))
    (extra : List String) : Except Failure Command × Manager × Disk :=
  if m.hasKernel then (.error (.config (.alreadyRunning m.name)), m, disk)
  else
    match m.file.validate with
    | .error failure => (.error failure, m, disk)
    | .ok () =>
      match (m.file.generateKey octets).write disk with
      | (.error failure, file, disk) => (.error failure, { m with file := file }, disk)
      | (.ok (), file, disk) =>
        let m := { m with file := file }
        let env := Environment.resolve inherited [m.spec.env, m.options.env]
        (Command.build (m.commandLine extra) env, m, disk)

/-- Removes the connection file if it was written here. -/
def cleanup (m : Manager) (disk : Disk) : Manager × Disk :=
  let (file, disk) := m.file.cleanup disk
  ({ m with file := file }, disk)

end Manager

/-- What is told when the program of a kernel cannot be started. -/
def launchFailure (kernel : String) (fault : SystemFault) : Failure :=
  .processStart ("Could not start kernel '" ++ kernel ++ "': " ++ fault.describe)

namespace Manager

/-- Takes charge of a process. If it could not be started, the connection file is removed. -/
def supervise (m : Manager) (disk : Disk) :
    Except SystemFault Nat → Except Failure Nat × Manager × Disk
  | .ok process => (.ok process, { m with process := some process }, disk)
  | .error fault =>
    let (m, disk) := m.cleanup disk
    (.error (launchFailure m.name fault), m, disk)

/-- The session of the manager with its kernel. -/
def newSession (m : Manager) (id username : String) : Session :=
  ⟨id, username, ⟨m.file.info.keyBytes⟩⟩

/-- Takes the line that has been opened to the control socket, and begins to watch it. -/
def takeControl (m : Manager) (x : Exchange) (session : Session) :
    Except Failure Nat → Except Failure Control × Manager × Exchange
  | .error failure => (.error failure, m, x)
  | .ok serial =>
    let line : LineId := ⟨.control, serial⟩
    let (_, watch, x) := (Control.new session).spawn (x.startLine line) line
    (.ok watch, { m with control := some line }, x)

/-- Opens the control line, unless the process has exited. -/
def openControl (m : Manager) (p : KernelProcess) (x : Exchange) (session : Session) :
    Except Failure Control × Manager × Exchange :=
  if p.exited then m.takeControl x session (.error (.kernelExited p.exitCode))
  else
    let (opened, x) := x.create .control
    m.takeControl x session opened

/-- Lets go of a process, and removes the connection file. -/
def letGo (m : Manager) (disk : Disk) : Manager × Disk :=
  let (m, disk) := m.cleanup disk
  ({ m with process := none }, disk)

/-- Ends the watch over the control line, and stops the line. -/
def endControl (m : Manager) (watch : Control) (x : Exchange) : Manager × Control × Exchange :=
  let watch := watch.stop.join
  match m.control with
  | some line => ({ m with control := none }, watch, x.stopLine line)
  | none => (m, watch, x)

/-- How a shutdown begins: nothing is left to be done if no kernel was started, and a kernel is only
asked if its process is running. -/
def farewell (p : Option KernelProcess) : ShutdownOutcome :=
  match p with
  | none => .notRunning
  | some p => if p.exited then .alreadyExited else .killed

/-- Whether a client can be made: a kernel has been started, and its process is running. -/
def mayConnect (m : Manager) (p : Option KernelProcess) : Except Failure Unit :=
  match p with
  | none => .error (.config (.notStarted m.name))
  | some p => if p.exited then .error (.kernelExited p.exitCode) else .ok ()

end Manager

/-- Tries to connect, at most so often. A setting that is not allowed, or the end of the process,
ends the attempts. The first argument tells after a failed attempt how the process ended, if it
has. -/
def connectWith {σ α : Type} (exit? : σ → Option ExitStatus)
    (attempt : σ → Except Failure (Option α) × σ) (total : Nat) :
    Nat → σ → Except Failure α × σ
  | 0, s => (.error (.connectionTimeout total), s)
  | left + 1, s =>
    let again (s : σ) : Except Failure α × σ :=
      match exit? s with
      | some status => (.error (.kernelExited status), s)
      | none => connectWith exit? attempt total left s
    match attempt s with
    | (.ok (some client), s) => (.ok client, s)
    | (.ok none, s) => again s
    | (.error failure, s) => if failure.isConfig then (.error failure, s) else again s

end KernelLink
