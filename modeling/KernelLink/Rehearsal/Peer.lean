import KernelLink.Channel
import KernelLink.Heartbeat
import KernelLink.Rehearsal.Clock

namespace KernelLink

/-- A heartbeat and a peer that answers some of its pings. -/
structure HeartbeatScene where
  heartbeat : Heartbeat
  now : Nat
  /-- How many pings the peer has got. -/
  pings : Nat
  /-- What the peer answers to each ping, if anything. -/
  answers : Nat → Option (List Bytes)
  /-- The answers that are on their way. -/
  replies : List (List Bytes)

namespace HeartbeatScene

def new (timing : HeartbeatTiming) (answers : Nat → Option (List Bytes)) : HeartbeatScene :=
  ⟨.connected timing, 0, 0, answers, []⟩

/-- Lets a ping reach the peer, if one has been sent. -/
def deliver (s : HeartbeatScene) (sent : Bool) : HeartbeatScene :=
  if sent then
    { s with pings := s.pings + 1, replies := s.replies ++ (s.answers s.pings).toList }
  else s

/-- One thing that can be done at this moment. -/
def step (s : HeartbeatScene) : HeartbeatScene :=
  match s.heartbeat.monitor, s.replies with
  | some (.listening _ _), reply :: rest =>
    let (heartbeat, sent) := s.heartbeat.hear reply
    ({ s with heartbeat := heartbeat, replies := rest } : HeartbeatScene).deliver sent
  | _, _ =>
    let (heartbeat, sent) := s.heartbeat.stepMonitor s.now
    ({ s with heartbeat := heartbeat } : HeartbeatScene).deliver sent

/-- How much is done within a millisecond at most. -/
def pace : Nat := 64

/-- Does what can be done at this moment. -/
def settle (s : HeartbeatScene) : HeartbeatScene := pace.repeat step s

def pass (ms : Nat) (s : HeartbeatScene) : HeartbeatScene :=
  ms.repeat (fun s => ({ s with now := s.now + 1 } : HeartbeatScene).settle) s.settle

def clock : Clock HeartbeatScene := ⟨now, pass⟩

def start (s : HeartbeatScene) : HeartbeatScene := { s with heartbeat := s.heartbeat.start }

/-- Stops the heartbeat, and waits for its monitor to end. -/
def stop (s : HeartbeatScene) : HeartbeatScene :=
  let s := { s with heartbeat := s.heartbeat.beginStop }
  let (_, s) := clock.await (·.heartbeat.monitor.isNone) (errorPause + 1) 1 s.settle
  { s with heartbeat := s.heartbeat.finishStop }

end HeartbeatScene

/-- A channel and the peer at the other end of its transport. -/
structure ChannelScene where
  channel : Channel
  /-- The identity by which the peer knows the channel, if it has given one. -/
  identity : Option Bytes
  pipe : Pipe
  /-- How many messages the peer has taken. -/
  taken : Nat

namespace ChannelScene

def new (kind : ChannelKind) (signer : Signer) (session : String) : ChannelScene :=
  ⟨.connected kind signer, routingIdentity? session, ⟨[], []⟩, 0⟩

def send (s : ChannelScene) (m : Message) : Except Failure Bool × ChannelScene :=
  let (r, pipe) := s.channel.send s.pipe m
  (r, { s with pipe := pipe })

def tryReceive (s : ChannelScene) : Except Failure (Option Message) × ChannelScene :=
  let (r, pipe) := s.channel.tryReceive s.pipe
  (r, { s with pipe := pipe })

/-- Takes what the channel has sent, if the peer has not taken it before. -/
def peerTake (s : ChannelScene) : Option (List Bytes) × ChannelScene :=
  match s.pipe.sent[s.taken]? with
  | some parts => (some parts, { s with taken := s.taken + 1 })
  | none => (none, s)

/-- Lets a message of the peer arrive. -/
def peerSend (s : ChannelScene) (parts : List Bytes) : ChannelScene :=
  { s with pipe := { s.pipe with arrived := s.pipe.arrived ++ [parts] } }

end ChannelScene
end KernelLink
