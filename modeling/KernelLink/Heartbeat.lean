import KernelLink.Bytes

namespace KernelLink

/-- How long a monitor rests between two pings, and how long an answer may take, in milliseconds. -/
structure HeartbeatTiming where
  period : Nat
  timeToDead : Nat
  deriving DecidableEq, Repr

/-- What the monitor of a heartbeat is about to do, or waits for. -/
inductive Monitor where
  | pinging
  /-- It is about to look whether to wait for an answer. -/
  | looking (deadline : Nat)
  /-- It waits for an answer, and looked at the clock last at some moment. -/
  | listening (deadline since : Nat)
  /-- The socket has failed, and is left alone for a while. -/
  | backingOff (deadline resume : Nat)
  /-- The answer has come, and it is about to look whether to go on. -/
  | answered
  | resting (resume : Nat)
  deriving DecidableEq, Repr

/-- A probe of whether a kernel still answers. -/
structure Heartbeat where
  timing : HeartbeatTiming
  alive : Bool
  /-- Whether every ping has been answered in time. -/
  beating : Bool
  /-- Whether the socket is still held. -/
  held : Bool
  monitor : Option Monitor
  deriving DecidableEq, Repr

/-- What is sent to a kernel, and has to come back as the only frame. -/
def pingFrame : Bytes := Bytes.ofString "ping"

def isPong (reply : List Bytes) : Bool := reply = [pingFrame]

/-- How long a socket is left alone that has failed, in milliseconds. -/
def errorPause : Nat := 50

namespace Heartbeat

/-- A heartbeat that is connected and has not been started. -/
def connected (timing : HeartbeatTiming) : Heartbeat := ⟨timing, false, false, true, none⟩

/-- Starts a monitor, unless the heartbeat is alive. -/
def start (h : Heartbeat) : Heartbeat :=
  if h.alive then h
  else { h with alive := true, beating := true, monitor := some .pinging }

def withMonitor (h : Heartbeat) (monitor : Option Monitor) : Heartbeat :=
  { h with monitor := monitor }

/-- A ping has not been answered in time: the monitor ends, and takes the kernel for dead. -/
def miss (h : Heartbeat) : Heartbeat := { h with beating := false, monitor := none }

/-- What the monitor does next, and whether it sends a ping. -/
def stepMonitor (h : Heartbeat) (now : Nat) : Heartbeat × Bool :=
  match h.monitor with
  | none => (h, false)
  | some .pinging =>
    if h.held then (h.withMonitor (some (.looking (now + h.timing.timeToDead))), true)
    else (h.withMonitor none, false)
  | some (.looking deadline) =>
    if deadline ≤ now then (h.miss, false)
    else if h.alive then (h.withMonitor (some (.listening deadline now)), false)
    else (h.withMonitor none, false)
  | some (.listening deadline _) => if deadline ≤ now then (h.miss, false) else (h, false)
  | some (.backingOff deadline resume) =>
    if resume ≤ now then (h.withMonitor (some (.looking deadline)), false) else (h, false)
  | some .answered =>
    if h.alive then (h.withMonitor (some (.resting (now + h.timing.period))), false)
    else (h.withMonitor none, false)
  | some (.resting resume) =>
    if resume ≤ now then (h.withMonitor (some .pinging), false) else (h, false)

/-- Takes in a reply, and tells whether a ping is sent once more because it is not the one that was
asked for. -/
def hear (h : Heartbeat) (reply : List Bytes) : Heartbeat × Bool :=
  match h.monitor with
  | some (.listening deadline _) =>
    if isPong reply then (h.withMonitor (some .answered), false)
    else (h.withMonitor (some (.looking deadline)), true)
  | _ => (h, false)

/-- Takes in that the socket has failed. -/
def hearFault (h : Heartbeat) (now : Nat) : Heartbeat :=
  match h.monitor with
  | some (.listening deadline since) =>
    h.withMonitor (some (.backingOff deadline (now + min errorPause (deadline - since))))
  | _ => h

/-- Marks the heartbeat as stopped. -/
def lower (h : Heartbeat) : Heartbeat := { h with alive := false }

/-- Calls the monitor. One that waits for an answer or rests ends at once. -/
def call (h : Heartbeat) : Heartbeat :=
  let monitor :=
    match h.monitor with
    | some (.listening _ _) => none
    | some (.resting _) => none
    | other => other
  { h with monitor := monitor }

/-- Tells the monitor to end. One that is not called ends as soon as it looks. -/
def beginStop (h : Heartbeat) : Heartbeat := h.lower.call

def release (h : Heartbeat) : Heartbeat := { h with held := false }

/-- Lets go of the socket once the monitor has ended. -/
def finishStop (h : Heartbeat) : Heartbeat := if h.monitor.isNone then h.release else h

end Heartbeat
end KernelLink
