import KernelLink.CommandLine.Arguments
import KernelLink.CommandLine.Report
import KernelLink.Connection.Network
import KernelLink.Rehearsal.Supervision

namespace KernelLink

/-- Where the program is run. -/
structure Surroundings where
  tree : FileTree
  /-- The directory that relative paths start from. -/
  here : Path
  /-- The directory for temporary files. -/
  temporary : Path
  network : Network
  places : SpecSearch.Places
  /-- The log level that the environment asks for. -/
  logLevel : Option String
  inherited : List (String × String)
  username : String
  picker : PortPicker
  source : Nat → Bytes

/-- The path that a name stands for here. An empty name stands for none. -/
def Surroundings.path (w : Surroundings) (name : String) : Path :=
  if name = "" then "" else Path.join w.here name

namespace CommandLine

/-- Seconds in milliseconds. -/
def seconds (n : Nat) : Nat := n * 1000

/-- Makes the log file, if one is asked for. -/
def openLog (a : Arguments) (w : Surroundings) : Except Complaint FileTree :=
  match a.logFile with
  | none => .ok w.tree
  | some path =>
    match w.tree.create (w.path path) with
    | .ok (_, tree) => .ok tree
    | .error fault => .error (.aboutFault ("Failed to create log file " ++ path) fault)

/-- The blocks of code that are to be run, the one from a file last. -/
def blocks (a : Arguments) (w : Surroundings) : Except Complaint (List String) :=
  match a.file with
  | none => .ok a.code
  | some path =>
    let unreadable (fault : SystemFault) : Except Complaint (List String) :=
      .error (.aboutFault ("Failed to read " ++ path) fault)
    match w.tree.read (w.path path) with
    | .error fault => unreadable fault
    | .ok content =>
      match Bytes.toString? content with
      | some text => .ok (a.code ++ [text])
      | none => unreadable .notUtf8

/-- The settings that a kernel is launched with. -/
def launchOptions (a : Arguments) (w : Surroundings) : LaunchOptions where
  ip := "127.0.0.1"
  transport := "tcp"
  connectionFile :=
    match a.connectionFile with
    | some path => w.path path
    | none => Path.join w.temporary ("kernel-" ++ Uuid.ofBytes (w.source 0) ++ ".json")
  env := []
  settleTime := 500
  shutdownWait := 5000
  shutdownPause := 100

/-- How long a kernel may take to accept a connection. -/
def connectPatience : Duration := .ofMillis 10000

/-- A manager that works over a network: what the network refuses cannot be opened. -/
def supervision (m : Manager) (w : Surroundings) : Supervision :=
  let p := Premises.new w.tree w.picker fun n => w.source (n + 1)
  let refused := w.network.refused m.file.info connectPatience
  let exchange := { Exchange.new false with refused := refused }
  ⟨{ p with scene := { p.scene with exchange := exchange } }, m, 0, w.inherited, w.username⟩

/-- Sends blocks of code to the kernel, up to the first that cannot be sent. -/
def send (client : Nat) : List String → Supervision → Except Complaint Unit × Supervision
  | [], s => (.ok (), s)
  | block :: rest, s =>
    let (stamp, p) := s.premises.stamp
    let (sent, scene) := p.scene.withClient client fun c x => c.execute x stamp block
    let s := { s with premises := { p with scene := scene } }
    match sent with
    | some (.error failure) => (.error (.about "Failed to send code to the kernel" failure), s)
    | _ => send client rest s

/-- The log of a client. -/
def logOf (client : Nat) (s : Supervision) : ExecutionLog :=
  ((s.premises.scene.client? client).map (·.log)).getD .empty

/-- Runs code in the kernel, and tells what it has written. -/
def runCode (a : Arguments) (client : Nat) (code : List String) (s : Supervision) :
    Except Complaint String × Supervision :=
  match send client code s with
  | (.error complaint, s) => (.error complaint, s)
  | (.ok (), s) =>
    let idle (p : Premises) : Bool :=
      (p.scene.client? client).all fun c => !c.log.hasPending
    let (_, p) := s.premises.await idle (seconds a.waitTimeout) Supervision.clientPause
    let s := { s with premises := p }
    (.ok (String.join ((logOf client s).entries.map outputOf)), s)

/-- Launches the kernel, runs the code in it and shuts it down. -/
def runKernel (a : Arguments) (code : List String) (s : Supervision) : Report × Supervision :=
  match s.start a.kernelArgs with
  | (.error failure, s) => (.complaining (.ofFailure failure), s.abandon)
  | (.ok (), s) =>
    match s.connect a.attempts (seconds a.connectTimeout) with
    | (.error failure, s) => (.complaining (.ofFailure failure), s.shutdown.2)
    | (.ok client, s) =>
      let (result, s) := runCode a client code s
      let errors := withoutRepeats (logOf client s).errors
      let s := (s.stopClient client).shutdown.2
      match result with
      | .error complaint => (.complaining complaint, s)
      | .ok output => (⟨output, [], errors, failedCode errors⟩, s)

/-- What the program does behind the log: it lists the kernels, or runs code in one. -/
def act (a : Arguments) (w : Surroundings) : Report × FileTree :=
  let search := SpecSearch.standard w.places
  if a.list then (.saying (listing (search.find w.tree.view)), w.tree)
  else
    match blocks a w with
    | .error complaint => (.complaining complaint, w.tree)
    | .ok code =>
      match search.get w.tree.view a.kernel with
      | .error failure => (.complaining (.ofFailure failure), w.tree)
      | .ok spec =>
        let m := Manager.ofSpec a.kernel spec (launchOptions a w)
        let (report, s) := runKernel a code (supervision m w)
        (report, s.disk.tree)

/-- Runs the program, and answers what it says and what it leaves of the file system. -/
def run (a : Arguments) (w : Surroundings) : Report × FileTree :=
  let warnings := logWarnings ((a.logLevel.or w.logLevel).getD "info")
  match openLog a w with
  | .error complaint => ({ Report.complaining complaint with warnings := warnings }, w.tree)
  | .ok tree =>
    let (report, tree) := act a { w with tree := tree }
    ({ report with warnings := warnings }, tree)

end CommandLine
end KernelLink
