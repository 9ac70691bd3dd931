import KernelLink.Message.Basic
import KernelLink.Signer

namespace KernelLink

/-- The version of the protocol that messages are marked with. -/
def protocolVersion : String := "5.3"

/-- What makes one message of a session differ from the next: its id and its date. -/
structure Stamp where
  id : String
  date : String
  deriving DecidableEq, Repr

/-- The user that messages are sent for, named by the environment. -/
def defaultUsername (user username : Option String) : String :=
  (user.or username).getD "username"

/-- Who sends messages: a session id, a user and the key that signs. -/
structure Session where
  id : String
  username : String
  signer : Signer
  deriving DecidableEq, Repr

namespace Session

/-- Takes over a session id if there is none yet. -/
def adopt (s : Session) (id : String) : Session × Bool :=
  if s.id ≠ "" ∨ id = "" then (s, false) else ({ s with id := id }, true)

/-- A message of the session. -/
def newMessage (s : Session) (stamp : Stamp) (msgType : String) (content : Payload) : Message :=
  .new ⟨stamp.id, s.username, s.id, msgType, protocolVersion, stamp.date⟩ content

end Session
end KernelLink
