import KernelLink.Message.Basic

namespace KernelLink

/-- What matters of an `execute_reply`, or of an `error`, for tracking an execution. -/
structure ExecuteReply where
  status : Option String
  executionCount : Option Int
  ename : Option String
  evalue : Option String
  deriving DecidableEq, Repr

namespace ExecuteReply

def blank : ExecuteReply := ⟨none, none, none, none⟩

def record : Record ExecuteReply where
  title := "JupyterExecuteReply"
  blank := blank
  fields := [
    .of "status" .defaulted (.optional .text) fun r s => { r with status := s },
    .of "execution_count" .defaulted (.optional (.integer (-Nat.pow 2 63) (Nat.pow 2 63 - 1) "i64"))
      fun r n => { r with executionCount := n },
    .of "ename" .defaulted (.optional .text) fun r s => { r with ename := s },
    .of "evalue" .defaulted (.optional .text) fun r s => { r with evalue := s }]

def replyStatus (r : ExecuteReply) : Option ReplyStatus := r.status.map ReplyStatus.ofName

end ExecuteReply

/-- The content of a `shutdown_reply`. -/
structure ShutdownReply where
  status : Option String
  restart : Bool
  deriving DecidableEq, Repr

namespace ShutdownReply

def blank : ShutdownReply := ⟨none, false⟩

def record : Record ShutdownReply where
  title := "JupyterShutdownReply"
  blank := blank
  fields := [
    .of "status" .defaulted (.optional .text) fun r s => { r with status := s },
    .of "restart" .defaulted .boolean fun r b => { r with restart := b }]

end ShutdownReply

/-- What a kernel says that it is doing. -/
inductive ExecutionState where
  | busy
  | idle
  | starting
  deriving DecidableEq, Repr

namespace ExecutionState

def known : List (String × ExecutionState) :=
  [("busy", .busy), ("idle", .idle), ("starting", .starting)]

/-- The content of a `status` message. -/
def record : Record ExecutionState where
  title := "JupyterStatus"
  blank := .idle
  fields := [.of "execution_state" .required (.variant known) fun _ s => s]

end ExecutionState

/-- The kinds of messages that a client tells apart. -/
inductive Classified where
  /-- An `execute_reply`, or an `error` on iopub: both end an execution. -/
  | executeReply (reply : ExecuteReply)
  /-- Output of an execution. -/
  | data
  | shutdownReply (reply : ShutdownReply)
  | status (state : ExecutionState)
  | other
  deriving DecidableEq, Repr

/-- The content as a record, or the record's defaults where the content is not one. -/
def Record.takeOrBlank {σ : Type} (r : Record σ) (content : Payload) : σ :=
  match r.decoder.take content.json with
  | .ok s => s
  | .error _ => r.blank

namespace Message

def isTerminal (m : Message) : Bool := m.msgType = "execute_reply" || m.msgType = "error"

def isOutput (m : Message) : Bool :=
  m.msgType = "display_data" || m.msgType = "stream" || m.msgType = "execute_result"

/-- What a message is, judged by its type and the content that the type calls for. -/
def classify (m : Message) : Classified :=
  if m.isTerminal then .executeReply (ExecuteReply.record.takeOrBlank m.content)
  else if m.isOutput then .data
  else if m.msgType = "shutdown_reply" then
    .shutdownReply (ShutdownReply.record.takeOrBlank m.content)
  else if m.msgType = "status" then
    match ExecutionState.record.decoder.take m.content.json with
    | .ok state => .status state
    | .error _ => .other
  else .other

end Message
end KernelLink
