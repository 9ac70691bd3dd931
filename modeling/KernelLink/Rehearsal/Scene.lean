import KernelLink.Client.Operations
import KernelLink.Manager.Control
import KernelLink.Rehearsal.Clock

namespace KernelLink

/-- Somebody who waits for one arrival on a line for as long as it is running. -/
structure Reader where
  waiting : Option Loop
  received : Option (Except Failure Message)

/-- Those who poll lines. -/
inductive Party where
  | client (c : Client)
  | control (c : Control)
  | reader (r : Reader)

namespace Party

def loops : Party → List Loop
  | .client c => c.loops
  | .control c => c.loops
  | .reader r => r.waiting.toList

def lookAround (p : Party) (x : Exchange) (loop : Loop) : Party × Exchange :=
  match p with
  | .client c =>
    let (c, x) := c.lookAround x loop
    (.client c, x)
  | .control c =>
    let (c, x) := c.lookAround x loop
    (.control c, x)
  | .reader r =>
    if (x.line loop.line).alive then
      let (turn, x) := x.takeTurn
      (.reader { r with waiting := some { loop with poll := some ⟨x.now + pollTime, turn⟩ } }, x)
    else (.reader { r with waiting := none }, x)

def takeArrival (p : Party) (x : Exchange) (loop : Loop) : Party × Exchange :=
  match p with
  | .client c =>
    let (c, x) := c.takeArrival x loop
    (.client c, x)
  | .control c =>
    let (c, x) := c.takeArrival x loop
    (.control c, x)
  | .reader _ =>
    let (a, x) := x.take loop.line
    (.reader ⟨none, a⟩, x)

/-- Ends the polls whose time is over. -/
def expire (p : Party) (now : Nat) : Party :=
  let ended (l : Loop) : Loop :=
    { l with poll := l.poll.filter fun poll => now < poll.deadline }
  match p with
  | .client c => .client { c with loops := c.loops.map ended }
  | .control c => .control { c with loops := c.loops.map ended }
  | .reader r => .reader { r with waiting := r.waiting.map ended }

end Party

/-- Clients, the watches over control lines and a kernel that answers from memory, on a clock that
moves only when everybody waits. -/
structure Scene where
  exchange : Exchange
  parties : List Party
  /-- What will arrive: when, on which line, and what. -/
  arrivals : List (Nat × LineId × Except Failure Message)

namespace Scene

def new : Scene := ⟨.new true, [], []⟩

/-- Every loop with the party that it belongs to. -/
def loops (s : Scene) : List (Nat × Party × Loop) :=
  s.parties.zipIdx.flatMap fun (p, i) => p.loops.map fun l => (i, p, l)

/-- The loops that are in a poll and can take something, those first that began first. -/
def served (s : Scene) : Option (Nat × Party × Loop) :=
  let able := s.loops.filterMap fun (i, p, l) =>
    match l.poll with
    | some poll =>
      if (s.exchange.line l.line).inbox.isEmpty then none else some (poll.turn, i, p, l)
    | none => none
  match able with
  | [] => none
  | first :: rest =>
    some (rest.foldl (fun best next => if next.1 < best.1 then next else best) first).2

/-- One thing that can be done at this moment, and what comes of it. -/
def step (s : Scene) : Option Scene :=
  match s.served with
  | some (i, p, l) =>
    let (p, x) := p.takeArrival s.exchange l
    some { s with exchange := x, parties := s.parties.set i p }
  | none =>
    match s.loops.find? fun (_, _, l) => l.poll.isNone with
    | some (i, p, l) =>
      let (p, x) := p.lookAround s.exchange l
      some { s with exchange := x, parties := s.parties.set i p }
    | none => none

/-- Does what can be done at this moment, at most so many things. -/
def settleWith : Nat → Scene → Scene
  | 0, s => s
  | fuel + 1, s =>
    match s.step with
    | some s => settleWith fuel s
    | none => s

/-- Does all that can be done at this moment. Every arrival is taken once, and a loop looks around
once more than it takes. -/
def settle (s : Scene) : Scene :=
  let waiting := s.exchange.lines.foldl (fun n (_, l) => n + l.inbox.length) 0
  settleWith (2 * waiting + s.loops.length + 1) s

/-- Lets everything arrive that is due. -/
def deliver (s : Scene) : Scene :=
  let (due, later) := s.arrivals.partition fun (due, _) => due ≤ s.exchange.now
  { s with
    exchange := due.foldl (fun x (_, id, a) => x.arrive id a) s.exchange
    arrivals := later }

/-- The next moment, up to a limit, at which something happens by itself. -/
def nextMoment (s : Scene) (limit : Nat) : Option Nat :=
  let deadlines := s.loops.filterMap fun (_, _, l) => l.poll.map (·.deadline)
  let moments := (deadlines ++ s.arrivals.map (·.1)).filter (· ≤ limit)
  moments.min?

/-- Moves the clock on from moment to moment, at most so many times. -/
def runWith : Nat → Nat → Scene → Scene
  | 0, _, s => s
  | fuel + 1, limit, s =>
    let s := s.settle
    match s.nextMoment limit with
    | none => { s with exchange := { s.exchange with now := max s.exchange.now limit } }
    | some t =>
      let x := { s.exchange with now := max s.exchange.now t }
      let s : Scene := { s with exchange := x, parties := s.parties.map (Party.expire · x.now) }
      runWith fuel limit s.deliver

/-- Lets a time pass. All that happens by itself lies on whole milliseconds, and each later than
the one before. -/
def pass (s : Scene) (ms : Nat) : Scene :=
  (runWith (ms + s.arrivals.length + 2) (s.exchange.now + ms) s).settle

/-- The clock of a scene. -/
def clock : Clock Scene := ⟨(·.exchange.now), fun ms s => s.pass ms⟩

/-- Waits for something for a time, and looks at it after every pause. -/
def await (s : Scene) (done : Scene → Bool) (budget pause : Nat) : Bool × Scene :=
  clock.await done budget pause s

def client? (s : Scene) (i : Nat) : Option Client :=
  match s.parties[i]? with
  | some (.client c) => some c
  | _ => none

def control? (s : Scene) (i : Nat) : Option Control :=
  match s.parties[i]? with
  | some (.control c) => some c
  | _ => none

def setParty (s : Scene) (i : Nat) (p : Party) (x : Exchange) : Scene :=
  { s with exchange := x, parties := s.parties.set i p }

/-- Lets a client do something. -/
def withClient {α : Type} (s : Scene) (i : Nat)
    (act : Client → Exchange → Except Failure α × Client × Exchange) :
    Option (Except Failure α) × Scene :=
  match s.client? i with
  | none => (none, s)
  | some c =>
    let (r, c, x) := act c s.exchange
    (some r, s.setParty i (.client c) x)

/-- Changes the exchange behind everybody's back. -/
def onExchange (s : Scene) (f : Exchange → Exchange) : Scene := { s with exchange := f s.exchange }

/-- Changes a line behind everybody's back. -/
def onLine (s : Scene) (id : LineId) (f : Line → Line) : Scene :=
  s.onExchange fun x => x.setLine id (f (x.line id))

/-- Waits for one arrival on a line for as long as the line is running, and at most so long. -/
def receive (s : Scene) (id : LineId) (patience : Nat) :
    Option (Except Failure Message) × Scene :=
  let index := s.parties.length
  let (turn, x) := s.exchange.takeTurn
  let s := { s with
    exchange := x
    parties := s.parties ++ [Party.reader ⟨some ⟨turn, id, none⟩, none⟩] }
  let waiting (s : Scene) : Bool :=
    match s.parties[index]? with
    | some (.reader r) => r.waiting.isSome
    | _ => false
  let (_, s) := s.settle.await (fun s => !waiting s) patience 1
  let received :=
    match s.parties[index]? with
    | some (.reader r) => r.received
    | _ => none
  (received, { s with parties := s.parties.eraseIdx index })

/-- Sends the request to shut down, and tells whether the line took it. -/
def sendRequest (s : Scene) (i : Nat) (id : LineId) (stamp : Stamp) : Bool × Scene :=
  match s.control? i with
  | none => (false, s)
  | some c =>
    match s.exchange.send id (c.request stamp) with
    | (.ok taken, x) => (taken, { s with exchange := x })
    | (.error _, x) => (false, { s with exchange := x })

/-- Whether the kernel has agreed to shut down. -/
def acknowledged (s : Scene) (i : Nat) : Bool := (s.control? i).any (·.acknowledged)

/-- Asks over a control line for a shutdown, and waits for the kernel to agree. -/
def requestShutdown (s : Scene) (i : Nat) (id : LineId) (stamp : Stamp) (budget pause : Nat) :
    Bool × Scene :=
  match s.sendRequest i id stamp with
  | (true, s) => s.await (·.acknowledged i) budget pause
  | (false, s) => (false, s)

end Scene
end KernelLink
