import KernelLink.Client.Basic

namespace KernelLink

/-- The watch over a control line: whether the kernel has agreed to shut down, whether the watch is
to end, and the loops that poll. -/
structure Control where
  session : Session
  acknowledged : Bool
  stopping : Bool
  loops : List Loop

namespace Control

def new (session : Session) : Control := ⟨session, false, false, []⟩

def leave (c : Control) (loop : Nat) : Control :=
  { c with loops := c.loops.filter (·.id ≠ loop) }

def setPoll (c : Control) (loop : Nat) (poll : Option Poll) : Control :=
  { c with loops := c.loops.map fun l => if l.id = loop then { l with poll := poll } else l }

/-- Takes in a message from the kernel. -/
def handle (c : Control) (m : Message) : Control :=
  { c with
    session := (c.session.adopt m.header.session).1
    acknowledged := c.acknowledged ||
      match m.classify with
      | .shutdownReply _ => true
      | _ => false }

/-- Takes in what a loop has received: a message, or a failure that ends the loop. -/
def receive (c : Control) (loop : Loop) : Except Failure Message → Control
  | .ok m => (c.handle m).setPoll loop.id none
  | .error _ => c.leave loop.id

/-- Whether a loop may go on polling. -/
def mayPoll (c : Control) (x : Exchange) (loop : Loop) : Bool :=
  !c.stopping && (x.line loop.line).alive && x.kernelAlive

/-- A loop that is between two polls looks around: it begins a poll or ends. -/
def lookAround (c : Control) (x : Exchange) (loop : Loop) : Control × Exchange :=
  if c.mayPoll x loop then
    let (turn, x) := x.takeTurn
    (c.setPoll loop.id (some ⟨x.now + pollTime, turn⟩), x)
  else (c.leave loop.id, x)

/-- A loop in a poll takes what has arrived first on its line. -/
def takeArrival (c : Control) (x : Exchange) (loop : Loop) : Control × Exchange :=
  match x.take loop.line with
  | (none, x) => (c, x)
  | (some a, x) => (c.receive loop a, x)

/-- Starts one more loop on a line, and answers its id. -/
def spawn (c : Control) (x : Exchange) (line : LineId) : Nat × Control × Exchange :=
  let (id, x) := x.takeTurn
  (id, { c with loops := c.loops ++ [⟨id, line, none⟩] }, x)

/-- Tells the watch to end: every loop that is in a poll ends at once, and the others as soon as
they look around. -/
def stop (c : Control) : Control :=
  { c with stopping := true, loops := c.loops.filter (·.poll.isNone) }

/-- Waits until the loops, which have been told to end, have ended. -/
def join (c : Control) : Control := c.loops.foldl (fun c l => c.leave l.id) c

/-- The request to shut down. -/
def request (c : Control) (stamp : Stamp) : Message :=
  c.session.newMessage stamp "shutdown_request" shutdownContent

end Control
end KernelLink
