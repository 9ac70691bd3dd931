import KernelLink.Wire

namespace KernelLink

/-- A transport that hands on messages in the order in which they were put on it. -/
structure Pipe where
  sent : List (List Bytes)
  /-- What has arrived and has not been taken. -/
  arrived : List (List Bytes)
  deriving DecidableEq, Repr

/-- A message channel over a transport. -/
structure Channel where
  kind : ChannelKind
  signer : Signer
  alive : Bool
  /-- Whether the socket is still held. -/
  held : Bool
  deriving DecidableEq, Repr

/-- The identity by which a kernel knows a socket: the session id, if it has a length that will
do. -/
def routingIdentity? (session : String) : Option Bytes :=
  let octets := Bytes.ofString session
  if octets = [] ∨ 255 < octets.length then none else some octets

namespace Channel

/-- A channel that is connected and has not been started. -/
def connected (kind : ChannelKind) (signer : Signer) : Channel := ⟨kind, signer, false, true⟩

def start (c : Channel) : Channel := { c with alive := true }

/-- Stops the channel and lets go of its socket. -/
def stop (c : Channel) : Channel := { c with alive := false, held := false }

/-- Signs a message and puts it on the transport, and tells whether it did. -/
def send (c : Channel) (p : Pipe) (m : Message) : Except Failure Bool × Pipe :=
  if !c.alive then (.ok false, p)
  else
    match transmittable (m.encode c.signer) with
    | .error failure => (.error failure, p)
    | .ok parts =>
      if !c.held then (.ok false, p)
      else if c.kind = .iopub then (.error (.protocol (.receiveOnly c.kind)), p)
      else (.ok true, { p with sent := p.sent ++ [parts] })

/-- Takes what has arrived first. What cannot be verified or read is a failure. -/
def tryReceive (c : Channel) (p : Pipe) : Except Failure (Option Message) × Pipe :=
  if !c.alive || !c.held then (.ok none, p)
  else
    match p.arrived with
    | [] => (.ok none, p)
    | parts :: rest =>
      match Message.decode c.signer parts with
      | .ok m => (.ok (some m), { p with arrived := rest })
      | .error failure => (.error failure, { p with arrived := rest })

end Channel
end KernelLink
