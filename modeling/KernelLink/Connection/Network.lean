import KernelLink.Connection.Endpoint
import KernelLink.Connection.Info

namespace KernelLink

/-- What comes of an attempt to connect. -/
inductive Reach where
  | connected
  /-- Nobody listens there, now or later. -/
  | silent
  | failed (fault : SystemFault)
  deriving DecidableEq, Repr

/-- A network: what comes of connecting to an endpoint. -/
abbrev Network := Endpoint → Reach

/-- The port of a socket. -/
def ConnectionInfo.portOf (i : ConnectionInfo) : ChannelKind → Nat
  | .shell => i.shellPort
  | .control => i.controlPort
  | .stdin => i.stdinPort
  | .iopub => i.iopubPort
  | .heartbeat => i.hbPort

namespace Network

/-- Connects to an address for one of the sockets, and tells whether somebody listens. -/
def connect (net : Network) (kind : ChannelKind) (address : String) : Except Failure Bool :=
  match Endpoint.parse address with
  | .error fault => .error (.transport kind fault)
  | .ok endpoint =>
    match net endpoint with
    | .connected => .ok true
    | .silent => .ok false
    | .failed fault => .error (.transport kind (.network fault))

/-- Connects a message channel. The heartbeat is none. -/
def connectChannel (net : Network) (kind : ChannelKind) (address : String) : Except Failure Bool :=
  if kind = .heartbeat then .error (.config .heartbeatIsNoMessageChannel)
  else net.connect kind address

/-- Waits for a connection for as long as the patience lasts. -/
def bounded (kind : ChannelKind) (patience : Duration) : Except Failure Bool → Except Failure Unit
  | .ok true => .ok ()
  | .ok false => .error (.connectTimeout kind patience)
  | .error failure => .error failure

/-- Opens a message channel to a kernel. -/
def openChannel (net : Network) (i : ConnectionInfo) (patience : Duration) (kind : ChannelKind) :
    Except Failure Unit :=
  bounded kind patience (net.connectChannel kind (i.endpoint (i.portOf kind)))

/-- Opens the heartbeat of a kernel. -/
def openHeartbeat (net : Network) (i : ConnectionInfo) (patience : Duration) :
    Except Failure Unit :=
  bounded .heartbeat patience (net.connect .heartbeat (i.endpoint i.hbPort))

/-- The sockets of a kernel that cannot be reached, and what comes of trying. -/
def refused (net : Network) (i : ConnectionInfo) (patience : Duration) :
    List (ChannelKind × Failure) :=
  let results := [ChannelKind.shell, .control, .stdin, .iopub].map fun kind =>
    (kind, net.openChannel i patience kind)
  (results ++ [(ChannelKind.heartbeat, net.openHeartbeat i patience)]).filterMap fun
    | (_, .ok ()) => none
    | (kind, .error failure) => some (kind, failure)

end Network

/-- The longest path of a socket in the file system, in octets. -/
private def longestSocketPath : Nat := 107

/-- The network of a machine that is cut off: no host can be reached, and no socket lies in its
file system. -/
def Network.cutOff (tree : FileTree) : Network
  | .tcp _ _ => .failed .networkUnreachable
  | .ipc path =>
    if longestSocketPath < (Bytes.ofString path).length then
      .failed (.other "path must be shorter than SUN_LEN")
    else
      match tree.status path with
      | .error fault => .failed fault
      | .ok _ => .failed (.other "Connection refused (os error 111)")

end KernelLink
