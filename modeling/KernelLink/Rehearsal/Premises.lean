import KernelLink.Connection.File
import KernelLink.Rehearsal.Program
import KernelLink.Rehearsal.Scene
import KernelLink.Timestamp

namespace KernelLink

/-- A program that has been started, and its process as the owner sees it. -/
structure Child where
  process : KernelProcess
  program : Program

namespace Child

/-- Lets the task do what it can at this moment that waits for the program. It goes through seven
stages at most before it has to wait, and as many again once it has been called. -/
def reap (c : Child) : Nat → Child
  | 0 => c
  | fuel + 1 =>
    let (process, kills) := c.process.stepReaper
    let program := if kills then c.program.kill else c.program
    let process :=
      match program.status? with
      | some status => process.noticeEnd status
      | none => process
    reap ⟨process, program⟩ fuel

/-- Lets everybody who waits for the process do what they can at this moment. A watch that is told
of the exit takes three steps until it answers. -/
def settle (c : Child) (now : Nat) : Child :=
  let c := c.reap 16
  let process := (((c.process.stepWatches now).stepWatches now).stepWatches now)
  { c with process := process }

end Child

/-- Where kernels are launched: a scene with a file system and the programs that run on it. -/
structure Premises where
  scene : Scene
  disk : Disk
  children : List Child
  /-- The process that is being supervised. -/
  slot : Option Nat
  /-- Random octets, and how often they have been drawn. -/
  source : Nat → Bytes
  drawn : Nat

namespace Premises

def new (tree : FileTree) (picker : PortPicker) (source : Nat → Bytes) : Premises :=
  ⟨.new, ⟨tree, picker, 0⟩, [], none, source, 0⟩

def now (p : Premises) : Nat := p.scene.exchange.now

def process? (p : Premises) (child : Nat) : Option KernelProcess :=
  p.children[child]?.map (·.process)

/-- The process that is being supervised. -/
def supervised (p : Premises) : Option KernelProcess := p.slot.bind p.process?

/-- Whether a supervised process is running. -/
def isAlive (p : Premises) : Bool := p.supervised.any (·.isAlive)

/-- Lets the clients see whether the supervised process is running. -/
def inform (p : Premises) : Premises :=
  { p with scene := p.scene.onExchange fun x => { x with kernelAlive := p.isAlive } }

def setSlot (p : Premises) (slot : Option Nat) : Premises := { p with slot := slot }.inform

/-- Changes a process behind everybody's back. -/
def onProcess (p : Premises) (child : Nat) (f : KernelProcess → KernelProcess) : Premises :=
  { p with children := p.children.modify child fun c => { c with process := f c.process } }

/-- Random octets that have not been drawn before. -/
def draw (p : Premises) : Bytes × Premises :=
  (p.source p.drawn, { p with drawn := p.drawn + 1 })

/-- An identifier that has not been used before. -/
def identifier (p : Premises) : String × Premises :=
  let (octets, p) := p.draw
  (Uuid.ofBytes octets, p)

/-- The stamp of a message that is made now. -/
def stamp (p : Premises) : Stamp × Premises :=
  let (id, p) := p.identifier
  (⟨id, (Timestamp.mk p.now).text⟩, p)

/-- Starts the program of a command, and answers the number of its process. -/
def spawn (p : Premises) (c : Command) : Except SystemFault Nat × Premises :=
  match Program.start p.disk.tree c p.now with
  | .error fault => (.error fault, p)
  | .ok program =>
    (.ok p.children.length, { p with children := p.children ++ [⟨.started, program⟩] })

/-- Lets the programs do what they can at this moment, each in turn. -/
def runPrograms (p : Premises) : Premises :=
  let (children, tree) := p.children.foldl (fun (done, tree) c =>
    let (program, tree) := c.program.run tree p.now
    (done ++ [{ c with program := program }], tree)) ([], p.disk.tree)
  { p with children := children, disk := { p.disk with tree := tree } }

/-- Lets the owners of the processes see what has become of them. -/
def settleProcesses (p : Premises) : Premises :=
  ({ p with children := p.children.map fun c => c.settle p.now } : Premises).inform

/-- Does all that can be done at this moment. -/
def settle (p : Premises) : Premises :=
  let p := p.runPrograms.settleProcesses
  { p with scene := p.scene.settle }

/-- Lets a time pass, a millisecond after the other. -/
def pass (ms : Nat) (p : Premises) : Premises :=
  ms.repeat (fun p => ({ p with scene := p.scene.pass 1 } : Premises).settle) p

def clock : Clock Premises := ⟨now, pass⟩

/-- Waits for something for a time, and looks at it after every pause. -/
def await (p : Premises) (done : Premises → Bool) (budget pause : Nat) : Bool × Premises :=
  clock.await done budget pause p

/-- Waits for the answer of a watch, for a little longer than the watch itself waits. -/
def awaitWatch (p : Premises) (child watch budget : Nat) : Bool × Premises :=
  let answer (p : Premises) : Option Bool := (p.process? child).bind (·.answer? watch)
  let (_, p) := p.settleProcesses.await (fun p => (answer p).isSome) (budget + 1) 1
  ((answer p).getD false, p)

/-- Waits for a process to exit, for some time. -/
def waitForExit (p : Premises) (child budget : Nat) : Bool × Premises :=
  match p.process? child with
  | none => (true, p)
  | some process =>
    let (watch, process) := process.watch (some (p.now + budget))
    (p.onProcess child fun _ => process).awaitWatch child watch budget

/-- How long a wait without a limit is followed, in milliseconds. -/
private def longestWait : Nat := 600000

/-- Waits for a process to exit, for as long as it takes. -/
def awaitExit (p : Premises) (child : Nat) : Bool × Premises :=
  match p.process? child with
  | none => (true, p)
  | some process =>
    let (watch, process) := process.watch none
    (p.onProcess child fun _ => process).awaitWatch child watch longestWait

/-- Kills a process, and waits for some time until it is gone. -/
def kill (p : Premises) (child budget : Nat) : Bool × Premises :=
  match p.process? child with
  | none => (true, p)
  | some process =>
    match process.kill (p.now + budget) with
    | (none, _) => (true, p)
    | (some watch, process) => (p.onProcess child fun _ => process).awaitWatch child watch budget

end Premises
end KernelLink
