import KernelLink.Failure
import KernelLink.Message.Basic

namespace KernelLink

/-- Which line to a kernel is meant: the socket that it leads to, and its number among those that
have been opened to it. -/
structure LineId where
  kind : ChannelKind
  serial : Nat
  deriving DecidableEq, Repr

/-- A line over which messages go to a kernel and come back. -/
structure Line where
  alive : Bool
  /-- What has arrived and nobody has taken yet: messages, and frames that were rejected. -/
  inbox : List (Except Failure Message)
  sent : List Message
  /-- The failure of every send, while there is one. -/
  sendFault : Option Failure
  /-- What the kernel answers at once: the type of a request, the type of the answer, and its
  content. -/
  answers : List (String × String × Payload)

/-- A line that nobody has started. -/
def Line.idle : Line := ⟨false, [], [], none, []⟩

/-- A probe that tells whether a kernel still answers. -/
structure Pulse where
  alive : Bool
  beating : Bool
  deriving DecidableEq, Repr

def Pulse.idle : Pulse := ⟨false, false⟩

/-- What clients share: the clock in milliseconds, the lines and probes, and the kernel process. -/
structure Exchange where
  now : Nat
  lines : List (LineId × Line)
  pulses : List (Nat × Pulse)
  /-- Whether one line for each socket, and one probe, is handed out again and again. -/
  reuses : Bool
  /-- The sockets that cannot be reached, and what comes of trying. -/
  refused : List (ChannelKind × Failure)
  /-- How often a line or a probe has been asked for. -/
  created : Nat
  /-- Whether the kernel process is running. -/
  kernelAlive : Bool
  /-- How many polls have begun; who began first is served first. -/
  turns : Nat

namespace Exchange

/-- An exchange at which nothing has happened yet. -/
def new (reuses : Bool) : Exchange := ⟨0, [], [], reuses, [], 0, true, 0⟩

def line (x : Exchange) (id : LineId) : Line := (x.lines.lookup id).getD .idle

def setLine (x : Exchange) (id : LineId) (l : Line) : Exchange :=
  { x with lines := (id, l) :: x.lines.filter (·.1 ≠ id) }

def pulse (x : Exchange) (id : Nat) : Pulse := (x.pulses.lookup id).getD .idle

def setPulse (x : Exchange) (id : Nat) (p : Pulse) : Exchange :=
  { x with pulses := (id, p) :: x.pulses.filter (·.1 ≠ id) }

/-- Counts a request for a line or a probe, and answers its number unless it is refused. -/
def create (x : Exchange) (kind : ChannelKind) : Except Failure Nat × Exchange :=
  let asked := { x with created := x.created + 1 }
  match x.refused.lookup kind with
  | some failure => (.error failure, asked)
  | none => (.ok (if x.reuses then 0 else x.created), asked)

def startLine (x : Exchange) (id : LineId) : Exchange :=
  x.setLine id { x.line id with alive := true }

def stopLine (x : Exchange) (id : LineId) : Exchange :=
  x.setLine id { x.line id with alive := false }

def startPulse (x : Exchange) (id : Nat) : Exchange := x.setPulse id ⟨true, true⟩

def stopPulse (x : Exchange) (id : Nat) : Exchange :=
  x.setPulse id { x.pulse id with alive := false }

/-- Lets something arrive on a line. -/
def arrive (x : Exchange) (id : LineId) (a : Except Failure Message) : Exchange :=
  let l := x.line id
  x.setLine id { l with inbox := l.inbox ++ [a] }

/-- What a kernel answers to a request at once. -/
def answersTo (l : Line) (m : Message) : List (Except Failure Message) :=
  l.answers.filterMap fun (asked, answer, content) =>
    if asked = m.msgType then
      some (.ok (Message.replyTo (.new { Header.blank with msgType := answer } content) m))
    else none

/-- Sends a message over a line, and tells whether the line took it. -/
def send (x : Exchange) (id : LineId) (m : Message) : Except Failure Bool × Exchange :=
  let l := x.line id
  if !l.alive then (.ok false, x)
  else
    match l.sendFault with
    | some failure => (.error failure, x)
    | none =>
      (.ok true, x.setLine id
        { l with sent := l.sent ++ [m], inbox := l.inbox ++ answersTo l m })

/-- Takes what has arrived first on a line. -/
def take (x : Exchange) (id : LineId) : Option (Except Failure Message) × Exchange :=
  let l := x.line id
  match l.inbox with
  | [] => (none, x)
  | a :: rest => (some a, x.setLine id { l with inbox := rest })

/-- The turn of a poll that begins now. -/
def takeTurn (x : Exchange) : Nat × Exchange := (x.turns, { x with turns := x.turns + 1 })

end Exchange
end KernelLink
