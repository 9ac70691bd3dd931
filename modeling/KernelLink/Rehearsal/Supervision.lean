import KernelLink.Manager.Basic
import KernelLink.Rehearsal.Premises

namespace KernelLink

/-- A manager on its premises. -/
structure Supervision where
  premises : Premises
  manager : Manager
  /-- The watch over the control line of the last launch, by its number among the parties. -/
  watch : Nat
  /-- What the programs inherit. -/
  inherited : List (String × String)
  username : String

namespace Supervision

/-- The disk as the manager sees it. -/
def disk (s : Supervision) : Disk := s.premises.disk

/-- Puts back what an act on the manager and the disk has left. -/
def withDisk (s : Supervision) (m : Manager) (disk : Disk) : Supervision :=
  { s with manager := m, premises := { s.premises with disk := disk } }

/-- The process that the manager supervises. -/
def process? (s : Supervision) : Option KernelProcess :=
  s.manager.process.bind s.premises.process?

/-- Makes the process of the manager the one that the clients ask for. -/
def showProcess (s : Supervision) : Supervision :=
  { s with premises := s.premises.setSlot s.manager.process }

/-- Lets go of the process, and removes the connection file. -/
def letGo (s : Supervision) : Supervision :=
  let (m, disk) := s.manager.letGo s.disk
  (s.withDisk m disk).showProcess

/-- The program has been started: waits until it has opened its sockets or has exited, and opens the
control line. A kernel whose control line cannot be opened is killed. -/
def settleLaunch (s : Supervision) (child : Nat) : Except Failure Unit × Supervision :=
  let exited (p : Premises) : Bool := (p.process? child).any (·.exited)
  let (_, p) := s.premises.await exited s.manager.options.settleTime 1
  let (id, p) := p.identifier
  let session := s.manager.newSession id s.username
  match p.process? child with
  | none => (.ok (), { s with premises := p })
  | some process =>
    match s.manager.openControl process p.scene.exchange session with
    | (.ok watch, m, x) =>
      let scene := { p.scene with exchange := x, parties := p.scene.parties ++ [.control watch] }
      (.ok (), { s with
        premises := { p with scene := scene }
        manager := m
        watch := p.scene.parties.length })
    | (.error failure, m, x) =>
      let p := { p with scene := { p.scene with exchange := x } }
      let (_, p) := p.kill child killWait
      (.error failure, ({ s with premises := p, manager := m } : Supervision).letGo)

/-- Launches the kernel and opens the control line. -/
def start (s : Supervision) (extra : List String) : Except Failure Unit × Supervision :=
  let (octets, p) := s.premises.draw
  let s := { s with premises := p }
  match s.manager.prepare s.disk (octets.take keyLength) s.inherited extra with
  | (.error failure, m, disk) => (.error failure, s.withDisk m disk)
  | (.ok command, m, disk) =>
    let s := s.withDisk m disk
    let (spawned, p) := s.premises.spawn command
    let s := { s with premises := p }
    match s.manager.supervise s.disk spawned with
    | (.error failure, m, disk) => (.error failure, s.withDisk m disk)
    | (.ok child, m, disk) => (s.withDisk m disk).showProcess.settleLaunch child

/-- Asks the kernel to shut down, and waits for it to agree. -/
def ask (s : Supervision) : Bool × Supervision :=
  match s.manager.control with
  | none => (false, s)
  | some line =>
    let (stamp, p) := s.premises.stamp
    match p.scene.sendRequest s.watch line stamp with
    | (false, scene) => (false, { s with premises := { p with scene := scene } })
    | (true, scene) =>
      let options := s.manager.options
      let (agreed, p) := ({ p with scene := scene } : Premises).await
        (fun p => p.scene.acknowledged s.watch) options.shutdownWait options.shutdownPause
      (agreed, { s with premises := p })

/-- Ends the watch over the control line. -/
def endControl (s : Supervision) : Supervision :=
  match s.premises.scene.control? s.watch with
  | none => s
  | some watch =>
    let (m, watch, x) := s.manager.endControl watch s.premises.scene.exchange
    let scene := s.premises.scene.setParty s.watch (.control watch) x
    { s with manager := m, premises := { s.premises with scene := scene } }

/-- Sees to it that a process exits: one that has been asked gets some time for it, and is killed
then. -/
def seeOff (s : Supervision) (child : Nat) (outcome : ShutdownOutcome) : Supervision :=
  let kill (p : Premises) : Premises := (p.kill child killWait).2
  let p :=
    match outcome with
    | .acknowledged =>
      match s.premises.waitForExit child s.manager.options.shutdownWait with
      | (true, p) => p
      | (false, p) => kill p
    | .killed => kill s.premises
    | .alreadyExited => s.premises
    | .notRunning => s.premises
  { s with premises := p }

/-- Shuts the kernel down: asks it, and kills it if it does not agree in time. -/
def shutdown (s : Supervision) : ShutdownOutcome × Supervision :=
  match s.manager.process with
  | none =>
    let (m, disk) := s.manager.cleanup s.disk
    (.notRunning, s.withDisk m disk)
  | some child =>
    let (outcome, s) : ShutdownOutcome × Supervision :=
      match Manager.farewell s.process? with
      | .killed =>
        match s.ask with
        | (true, s) => (.acknowledged, s)
        | (false, s) => (.killed, s)
      | outcome => (outcome, s)
    (outcome, (s.endControl.seeOff child outcome).letGo)

/-- Gives the manager up without a shutdown. A kernel that is running is killed, and nobody waits
for that; the control line is not stopped. -/
def abandon (s : Supervision) : Supervision :=
  let scene := s.premises.scene
  let scene :=
    match scene.control? s.watch with
    | some watch => scene.setParty s.watch (.control watch.stop) scene.exchange
    | none => scene
  let p := { s.premises with scene := scene }
  let p :=
    match s.manager.process with
    | some child => p.onProcess child fun q => if q.exited then q else q.requestKill
    | none => p
  ({ s with premises := p } : Supervision).letGo

/-- Makes a client and starts all its lines. If they cannot be started they are stopped. The answer
is the number of the client among the parties. -/
def createClient (s : Supervision) : Except Failure Nat × Supervision :=
  match s.manager.mayConnect s.process? with
  | .error failure => (.error failure, s)
  | .ok () =>
    let (id, p) := s.premises.identifier
    let (stamp, p) := p.stamp
    let c := Client.new (s.manager.newSession id s.username) true
    let place (c : Client) (x : Exchange) : Supervision :=
      let scene := { p.scene with exchange := x, parties := p.scene.parties ++ [.client c] }
      { s with premises := { p with scene := scene } }
    match c.start p.scene.exchange .all stamp with
    | (.ok (), c, x) => (.ok p.scene.parties.length, place c x)
    | (.error failure, c, x) =>
      let (c, x) := c.stop x
      (.error failure, place c x)

/-- Stops a client. -/
def stopClient (s : Supervision) (client : Nat) : Supervision :=
  let (_, scene) := s.premises.scene.withClient client fun c x =>
    let (c, x) := c.stop x
    (.ok (), c, x)
  { s with premises := { s.premises with scene := scene } }

/-- How often a client looks whether what it waits for is the case, in milliseconds. -/
def clientPause : Nat := 100

/-- Makes a client and waits until the kernel publishes something. A client that waits in vain is
stopped. -/
def attempt (wait : Nat) (s : Supervision) : Except Failure (Option Nat) × Supervision :=
  match s.createClient with
  | (.error failure, s) => (.error failure, s)
  | (.ok client, s) =>
    let connected (p : Premises) : Bool := (p.scene.client? client).any (·.connected)
    match s.premises.await connected wait clientPause with
    | (true, p) => (.ok (some client), { s with premises := p })
    | (false, p) => (.ok none, ({ s with premises := p } : Supervision).stopClient client)

/-- How the process ended, if it has. -/
def exit? (s : Supervision) : Option ExitStatus :=
  match s.process? with
  | some p => if p.exited then some p.exitCode else none
  | none => some none

/-- Makes a client that the kernel answers to, in some attempts. -/
def connect (s : Supervision) (attempts wait : Nat) : Except Failure Nat × Supervision :=
  connectWith exit? (attempt wait) (max attempts 1) (max attempts 1) s

end Supervision
end KernelLink
