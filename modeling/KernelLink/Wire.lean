import KernelLink.Failure
import KernelLink.Message.Basic
import KernelLink.Signer

namespace KernelLink

/-- The frame between the routing identities and the signed body. -/
def delimiter : Bytes := Bytes.ofString "<IDS|MSG>"

/-- The four signed frames of a message. -/
structure Frames where
  header : Bytes
  parentHeader : Bytes
  metadata : Bytes
  content : Bytes
  deriving DecidableEq, Repr

namespace Frames

def toList (f : Frames) : List Bytes := [f.header, f.parentHeader, f.metadata, f.content]

end Frames

def emptyObject : Bytes := (Json.object []).write

/-- A payload as a frame; null is written as an empty object. -/
def Payload.frame (p : Payload) : Bytes :=
  match p.json with
  | .null => emptyObject
  | j => j.write

namespace Message

def frames (m : Message) : Frames where
  header := m.header.toJson.write
  parentHeader :=
    match m.parentHeader with
    | some h => h.toJson.write
    | none => emptyObject
  metadata := m.metadata.frame
  content := m.content.frame

/-- The message on the wire: identities, delimiter, signature and the four signed frames. -/
def encode (m : Message) (signer : Signer) : List Bytes :=
  m.identities ++ delimiter :: signer.sign m.frames.toList :: m.frames.toList

end Message

/-- The header in a parent frame; null and the empty object are none. -/
def parseParent (frame : Bytes) : Except Failure (Option Header) :=
  match Payload.parse frame with
  | .error fault => .error (.json fault)
  | .ok p =>
    match p.json with
    | .null => .ok none
    | .object [] => .ok none
    | j =>
      match Header.decoder.take j with
      | .ok h => .ok (some h)
      | .error fault => .error (.protocol (.parentHeader fault))

/-- The payload in a frame. -/
def parsePayload (frame : Bytes) : Except Failure Payload :=
  match Payload.parse frame with
  | .ok p => .ok p
  | .error fault => .error (.json fault)

/-- The message that a signature and four frames carry. -/
def Frames.decode (f : Frames) (signer : Signer) (identities : List Bytes) (signature : Bytes) :
    Except Failure Message := do
  let header ←
    match Header.decoder.parse f.header with
    | .ok h => .ok h
    | .error fault => .error (.protocol (.header fault))
  if !signer.verify f.toList signature then .error (.signature header.msgType)
  let parentHeader ← parseParent f.parentHeader
  let metadata ← parsePayload f.metadata
  let content ← parsePayload f.content
  .ok ⟨header, parentHeader, metadata, content, identities, some signature⟩

namespace Message

/-- The message that some frames carry. Frames past the content are left alone. -/
def decode (signer : Signer) (parts : List Bytes) : Except Failure Message :=
  let identities := parts.takeWhile (· ≠ delimiter)
  match parts.dropWhile (· ≠ delimiter) with
  | [] => .error (.protocol .noDelimiter)
  | _ :: signature :: header :: parentHeader :: metadata :: content :: _ =>
    Frames.decode ⟨header, parentHeader, metadata, content⟩ signer identities signature
  | _ :: body => .error (.protocol (.tooFewFrames body.length))

end Message

/-- The frames as a socket takes them: it takes one at least. -/
def transmittable (parts : List Bytes) : Except Failure (List Bytes) :=
  if parts = [] then .error (.protocol .noFrames) else .ok parts

end KernelLink
