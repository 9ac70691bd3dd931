import KernelLink.ChannelKind
import KernelLink.Duration
import KernelLink.Json.Fault

namespace KernelLink

/-- What a kernel manager refuses to do. -/
inductive Refusal where
  | transport (name : String)
  | address (ip : String)
  | scheme (name : String)
  | alreadyRunning (kernel : String)
  | notStarted (kernel : String)
  | heartbeatIsNoMessageChannel
  | other (detail : String)
  deriving DecidableEq, Repr

/-- How frames or their use break the protocol. -/
inductive Violation where
  | noDelimiter
  | tooFewFrames (count : Nat)
  | header (fault : Fault)
  | parentHeader (fault : Fault)
  | noFrames
  | receiveOnly (channel : ChannelKind)
  | other (detail : String)
  deriving DecidableEq, Repr

/-- What the system answers when a file, a program or a network is out of reach. -/
inductive SystemFault where
  | notFound
  | permissionDenied
  | notDirectory
  | isDirectory
  | networkUnreachable
  | notUtf8
  | other (detail : String)
  deriving DecidableEq, Repr

/-- Why an endpoint could not be used. -/
inductive TransportFault where
  | network (fault : SystemFault)
  | noTransport
  | noHostAndPort
  | portOutOfRange
  | unknownTransport (name : String)
  | noMessage
  deriving DecidableEq, Repr

/-- Everything that can go wrong between a client and its kernel. -/
inductive Failure where
  | config (refusal : Refusal)
  | noSuchKernel (name : String)
  | invalidSpec (name reason : String)
  | protocol (violation : Violation)
  | signature (msgType : String)
  | transport (channel : ChannelKind) (fault : TransportFault)
  | json (fault : Fault)
  | io (fault : SystemFault)
  | channelNotAlive (channel : ChannelKind)
  | processStart (reason : String)
  | connectionTimeout (attempts : Nat)
  | connectTimeout (channel : ChannelKind) (wait : Duration)
  | kernelExited (code : Option Int)
  deriving DecidableEq, Repr

def Refusal.describe : Refusal → String
  | .transport name => "transport '" ++ name ++ "' is not supported; only 'tcp' is"
  | .address ip => "can only launch a kernel on the local machine, not on '" ++ ip ++ "'"
  | .scheme name => "signature scheme '" ++ name ++ "' is not supported"
  | .alreadyRunning kernel => "kernel '" ++ kernel ++ "' is already running"
  | .notStarted kernel => "kernel '" ++ kernel ++ "' has not been started"
  | .heartbeatIsNoMessageChannel => "the heartbeat is not a message channel"
  | .other detail => detail

def Violation.describe : Violation → String
  | .noDelimiter => "message has no <IDS|MSG> delimiter"
  | .tooFewFrames count =>
    "expected a signature and 4 message frames after the delimiter, got " ++ toString count ++
      " frames"
  | .header fault => "invalid message header: " ++ fault.describe
  | .parentHeader fault => "invalid parent header: " ++ fault.describe
  | .noFrames => "cannot send message: Unable to construct an empty ZmqMessage"
  | .receiveOnly channel =>
    "cannot send on the " ++ channel.name ++ " channel; it only receives"
  | .other detail => detail

def SystemFault.describe : SystemFault → String
  | .notFound => "No such file or directory (os error 2)"
  | .permissionDenied => "Permission denied (os error 13)"
  | .notDirectory => "Not a directory (os error 20)"
  | .isDirectory => "Is a directory (os error 21)"
  | .networkUnreachable => "Network is unreachable (os error 101)"
  | .notUtf8 => "stream did not contain valid UTF-8"
  | .other detail => detail

/-- What lies behind a transport fault: the fault of the system, or what is wrong with the
endpoint. -/
def TransportFault.cause : TransportFault → Option String
  | .network fault => some fault.describe
  | .noTransport => some "Invalid Syntax: Could not parse transport"
  | .noHostAndPort => some "Invalid Syntax: Could not parse host and port"
  | .portOutOfRange => some "Invalid Syntax: Port must be a u16 but was out of range"
  | .unknownTransport name => some ("Unknown transport type " ++ name)
  | .noMessage => none

def TransportFault.describe (f : TransportFault) : String :=
  match f, f.cause with
  | .network _, some cause => "Network Error: " ++ cause
  | _, some cause => "Endpoint Error: " ++ cause
  | _, none => "No message received"

namespace Failure

/-- The number by which a kind of failure is known. -/
def code : Failure → Nat
  | .config _ => 1
  | .noSuchKernel _ => 2
  | .invalidSpec _ _ => 3
  | .protocol _ => 4
  | .signature _ => 5
  | .transport _ _ => 6
  | .json _ => 7
  | .io _ => 8
  | .channelNotAlive _ => 9
  | .processStart _ => 10
  | .connectionTimeout _ => 11
  | .connectTimeout _ _ => 12
  | .kernelExited _ => 13

/-- Whether the caller asked for something that the settings do not allow. -/
def isConfig : Failure → Bool
  | .config _ => true
  | _ => false

def describe : Failure → String
  | .config refusal => "Invalid configuration: " ++ refusal.describe
  | .noSuchKernel name => "No such kernel named '" ++ name ++ "'"
  | .invalidSpec name reason => "Kernel spec '" ++ name ++ "' could not be loaded: " ++ reason
  | .protocol violation => "Protocol violation: " ++ violation.describe
  | .signature msgType => "Signature mismatch on '" ++ msgType ++ "' message"
  | .transport channel fault =>
    "Transport failure on " ++ channel.name ++ " channel: " ++ fault.describe
  | .json fault => "Invalid JSON: " ++ fault.describe
  | .io fault => "I/O error: " ++ fault.describe
  | .channelNotAlive channel => "The " ++ channel.name ++ " channel is not alive"
  | .processStart reason => "Failed to start kernel process: " ++ reason
  | .connectionTimeout attempts =>
    "Kernel did not connect after " ++ toString attempts ++ " attempt" ++
      (if attempts = 1 then "" else "s")
  | .connectTimeout channel wait =>
    "Could not connect to the " ++ channel.name ++ " channel within " ++ wait.text
  | .kernelExited (some code) => "Kernel exited during startup with code " ++ toString code
  | .kernelExited none => "Kernel exited during startup"

/-- The line that is shown for a failure. -/
def message (f : Failure) : String := "Error KM-" ++ toString f.code ++ ": " ++ f.describe

/-- The message of the failure beneath this one, if there is one. -/
def source : Failure → Option String
  | .transport _ fault => some fault.describe
  | .json fault => some fault.describe
  | .io fault => some fault.describe
  | .processStart reason => some reason
  | _ => none

/-- The messages of all failures beneath this one, the nearest first. -/
def causes (f : Failure) : List String :=
  match f with
  | .transport _ fault => fault.describe :: fault.cause.toList
  | _ => f.source.toList

end Failure
end KernelLink
