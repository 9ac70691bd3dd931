import KernelLink.Connection.Address
import KernelLink.Json.Decoder

namespace KernelLink

/-- Where a kernel listens and how messages to it are signed. A port of zero is not assigned. -/
structure ConnectionInfo where
  shellPort : Nat
  iopubPort : Nat
  stdinPort : Nat
  hbPort : Nat
  controlPort : Nat
  ip : String
  key : String
  transport : String
  signatureScheme : String
  kernelName : String
  deriving DecidableEq, Repr

/-- The address of an endpoint. A transport that is not `tcp` names a path, which the port is
joined to with a dash. -/
def endpointUrl (transport ip : String) (port : Nat) : String :=
  if transport = "tcp" then transport ++ "://" ++ ip ++ ":" ++ toString port
  else transport ++ "://" ++ ip ++ "-" ++ toString port

namespace ConnectionInfo

/-- A local kernel without ports and without a key. -/
def default : ConnectionInfo where
  shellPort := 0
  iopubPort := 0
  stdinPort := 0
  hbPort := 0
  controlPort := 0
  ip := "127.0.0.1"
  key := ""
  transport := "tcp"
  signatureScheme := "hmac-sha256"
  kernelName := ""

def record : Record ConnectionInfo where
  title := "ConnectionInfo"
  blank := default
  fields := [
    .of "shell_port" .required .port fun i n => { i with shellPort := n },
    .of "iopub_port" .required .port fun i n => { i with iopubPort := n },
    .of "stdin_port" .required .port fun i n => { i with stdinPort := n },
    .of "hb_port" .required .port fun i n => { i with hbPort := n },
    .of "control_port" .required .port fun i n => { i with controlPort := n },
    .of "ip" .required .text fun i s => { i with ip := s },
    .of "key" .required .text fun i s => { i with key := s },
    .of "transport" .required .text fun i s => { i with transport := s },
    .of "signature_scheme" .required .text fun i s => { i with signatureScheme := s },
    .of "kernel_name" .defaulted .text fun i s => { i with kernelName := s }]

/-- The fields by their names, in the order of declaration. -/
def members (i : ConnectionInfo) : List (String × Json) :=
  [("shell_port", .ofNat i.shellPort), ("iopub_port", .ofNat i.iopubPort),
    ("stdin_port", .ofNat i.stdinPort), ("hb_port", .ofNat i.hbPort),
    ("control_port", .ofNat i.controlPort), ("ip", .text i.ip), ("key", .text i.key),
    ("transport", .text i.transport), ("signature_scheme", .text i.signatureScheme),
    ("kernel_name", .text i.kernelName)]

/-- A member on a line of its own. -/
def line (member : String × Json) : Bytes :=
  Bytes.ofString "  " ++ quotedText member.1 ++ Bytes.ofString ": " ++ member.2.write

def lines : List (String × Json) → Bytes
  | [] => []
  | [last] => line last ++ [octet '\n']
  | member :: rest => line member ++ octet ',' :: octet '\n' :: lines rest

/-- The text of a connection file: an object with a member on each line. -/
def fileText (i : ConnectionInfo) : Bytes :=
  octet '\x7b' :: octet '\n' :: lines i.members ++ [octet '\x7d']

/-- The octets of the signing key. -/
def keyBytes (i : ConnectionInfo) : Bytes := Bytes.ofString i.key

def endpoint (i : ConnectionInfo) (port : Nat) : String := endpointUrl i.transport i.ip port

def ports (i : ConnectionInfo) : List Nat :=
  [i.shellPort, i.iopubPort, i.stdinPort, i.hbPort, i.controlPort]

def portsAssigned (i : ConnectionInfo) : Bool := i.ports.all (· ≠ 0)

end ConnectionInfo
end KernelLink
