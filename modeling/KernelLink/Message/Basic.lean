import KernelLink.Json.Decoder

namespace KernelLink

/-- The header of a message. -/
structure Header where
  msgId : String
  username : String
  session : String
  msgType : String
  version : String
  date : String
  deriving DecidableEq, Repr

namespace Header

def blank : Header := ⟨"", "", "", "", "", ""⟩

def record : Record Header where
  title := "JupyterMessageHeader"
  blank := blank
  fields := [
    .of "msg_id" .required .text fun h s => { h with msgId := s },
    .of "username" .defaulted .text fun h s => { h with username := s },
    .of "session" .defaulted .text fun h s => { h with session := s },
    .of "msg_type" .required .text fun h s => { h with msgType := s },
    .of "version" .defaulted .text fun h s => { h with version := s },
    .of "date" .defaulted .text fun h s => { h with date := s }]

def decoder : Decoder Header := record.decoder

/-- The header as JSON, its fields in the order of declaration. -/
def toJson (h : Header) : Json :=
  .object [("msg_id", .text h.msgId), ("username", .text h.username), ("session", .text h.session),
    ("msg_type", .text h.msgType), ("version", .text h.version), ("date", .text h.date)]

end Header

/-- The `status` of a reply. -/
inductive ReplyStatus where
  | ok
  | error
  | abort
  | aborted
  | other (name : String)
  deriving DecidableEq, Repr

namespace ReplyStatus

def ofName (name : String) : ReplyStatus :=
  if name = "ok" then .ok
  else if name = "error" then .error
  else if name = "abort" then .abort
  else if name = "aborted" then .aborted
  else .other name

/-- Whether the kernel gave the request up rather than ran it. -/
def isAbort : ReplyStatus → Bool
  | .abort => true
  | .aborted => true
  | _ => false

end ReplyStatus

/-- A message as it is exchanged with a kernel. -/
structure Message where
  header : Header
  /-- The header of the message that this one answers. -/
  parentHeader : Option Header
  metadata : Payload
  content : Payload
  /-- The routing identities in front of the delimiter. -/
  identities : List Bytes
  /-- The signature that the message arrived with. -/
  signature : Option Bytes

namespace Message

/-- A message that nobody has sent yet. -/
def new (header : Header) (content : Payload) : Message where
  header := header
  parentHeader := none
  metadata := .empty
  content := content
  identities := []
  signature := none

def msgId (m : Message) : String := m.header.msgId

def msgType (m : Message) : String := m.header.msgType

/-- The id of the message that this one answers. -/
def parentId (m : Message) : Option String := m.parentHeader.map (·.msgId)

/-- The message as an answer: it takes the session and the routing identities of its parent. -/
def replyTo (m parent : Message) : Message :=
  { m with
    header := { m.header with session := parent.header.session }
    parentHeader := some parent.header
    identities := parent.identities }

def field? (m : Message) (key : String) : Option Json := m.content.json.field? key

def text? (m : Message) (key : String) : Option String := (m.field? key).bind Json.text?

def status (m : Message) : Option ReplyStatus := (m.text? "status").map ReplyStatus.ofName

def ename (m : Message) : Option String := m.text? "ename"

def evalue (m : Message) : Option String := m.text? "evalue"

def executionCount (m : Message) : Option Int := (m.field? "execution_count").bind Json.signed64?

/-- The part of the content's data that is of the given media type. -/
def data? (m : Message) (mediaType : String) : Option Json :=
  (m.field? "data").bind fun bundle => bundle.field? mediaType

/-- The error that the message tells of. -/
def errorSummary (m : Message) : Option String :=
  match m.ename, m.evalue with
  | some name, some value => some (name ++ ": " ++ value)
  | some name, none => some name
  | none, value => value

end Message
end KernelLink
