import KernelLink.Exchange.Basic
import KernelLink.ExecutionLog
import KernelLink.Message.Request
import KernelLink.Session

namespace KernelLink

/-- A poll that is under way: when it gives up, and its turn among all polls. -/
structure Poll where
  deadline : Nat
  turn : Nat
  deriving DecidableEq, Repr

/-- A task that polls a line. Between two polls it looks around whether to go on. -/
structure Loop where
  id : Nat
  line : LineId
  poll : Option Poll
  deriving DecidableEq, Repr

/-- How long a poll waits before the loop looks around again, in milliseconds. -/
def pollTime : Nat := 100

/-- A client of a kernel. -/
structure Client where
  session : Session
  /-- Whether somebody supervises the kernel process and knows if it runs. -/
  owned : Bool
  /-- The lines that the client holds, one for a socket at most. -/
  channels : List LineId
  pulse : Option Nat
  log : ExecutionLog
  loops : List Loop
  stopping : Bool
  /-- Whether anything has arrived on iopub. -/
  connected : Bool
  allowStdin : Bool

/-- The lines and the probe that are to be started. -/
structure StartOptions where
  shell : Bool
  iopub : Bool
  stdin : Bool
  heartbeat : Bool
  deriving DecidableEq, Repr

def StartOptions.all : StartOptions := ⟨true, true, true, true⟩

/-- The message lines of some options, in the order in which they are started. -/
def StartOptions.kinds (o : StartOptions) : List ChannelKind :=
  [(o.shell, ChannelKind.shell), (o.iopub, .iopub), (o.stdin, .stdin)].filterMap
    fun (wanted, kind) => if wanted then some kind else none

namespace Client

def new (session : Session) (owned : Bool) : Client where
  session := session
  owned := owned
  channels := []
  pulse := none
  log := .empty
  loops := []
  stopping := false
  connected := false
  allowStdin := false

/-- Whether the kernel is believed to be running. Until the probe is started it has no say. -/
def isAlive (c : Client) (x : Exchange) : Bool :=
  if c.owned then x.kernelAlive
  else
    match c.pulse with
    | some id => !(x.pulse id).alive || (x.pulse id).beating
    | none => true

/-- Whether a line or the probe that the client holds is running. -/
def isRunning (c : Client) (x : Exchange) : Bool :=
  (c.channels.any fun id => (x.line id).alive) || c.pulse.any fun id => (x.pulse id).alive

/-- Takes note of a terminal reply or an output for the request that it answers. -/
def record (log : ExecutionLog) (m : Message) : ExecutionLog :=
  match m.parentId with
  | none => log
  | some parent =>
    match m.classify with
    | .executeReply reply => (log.recordReply parent m reply.replyStatus reply.executionCount).1
    | .data => (log.recordOutput parent m).1
    | .shutdownReply _ => log
    | .status _ => log
    | .other => log

/-- Takes in a message from the kernel. -/
def handle (c : Client) (kind : ChannelKind) (m : Message) : Client :=
  { c with
    connected := c.connected || kind = .iopub
    session := (c.session.adopt m.header.session).1
    log := record c.log m }

/-- Ends a loop. Nothing more will arrive on its line, so every pending request is given up. -/
def leave (c : Client) (loop : Nat) : Client :=
  { c with
    loops := c.loops.filter (·.id ≠ loop)
    log := c.log.abandonPending.1 }

/-- Marks what a loop is doing. -/
def setPoll (c : Client) (loop : Nat) (poll : Option Poll) : Client :=
  { c with loops := c.loops.map fun l => if l.id = loop then { l with poll := poll } else l }

/-- Takes in what a loop has received: a message, or a failure that ends the loop. -/
def receive (c : Client) (loop : Loop) : Except Failure Message → Client
  | .ok m => (c.handle loop.line.kind m).setPoll loop.id none
  | .error _ => c.leave loop.id

/-- Whether a loop may go on polling. -/
def mayPoll (c : Client) (x : Exchange) (loop : Loop) : Bool :=
  !c.stopping && (x.line loop.line).alive && c.isAlive x

/-- A loop that is between two polls looks around: it begins a poll or ends. -/
def lookAround (c : Client) (x : Exchange) (loop : Loop) : Client × Exchange :=
  if c.mayPoll x loop then
    let (turn, x) := x.takeTurn
    (c.setPoll loop.id (some ⟨x.now + pollTime, turn⟩), x)
  else (c.leave loop.id, x)

/-- A loop in a poll takes what has arrived first on its line. -/
def takeArrival (c : Client) (x : Exchange) (loop : Loop) : Client × Exchange :=
  match x.take loop.line with
  | (none, x) => (c, x)
  | (some a, x) => (c.receive loop a, x)

end Client
end KernelLink
