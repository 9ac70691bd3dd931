import KernelLink.Digest.Hmac

namespace KernelLink

/-- Signs and verifies frames with a key. Without a key nothing is signed and anything passes. -/
structure Signer where
  key : Bytes
  deriving DecidableEq, Repr

namespace Signer

def signing (s : Signer) : Bool := s.key ≠ []

/-- The keyed digest of some frames, which it takes in one by one; there is none without a key. -/
def digest? (s : Signer) (frames : List Bytes) : Option Bytes :=
  if s.signing then some (frames.foldl Hmac.Running.update (.start s.key)).finish else none

/-- The signature over some frames: their digest in hexadecimal digits, and nothing where there is
none. -/
def sign (s : Signer) (frames : List Bytes) : Bytes :=
  match s.digest? frames with
  | some digest => digest.hex
  | none => []

/-- Whether a signature in hexadecimal digits of either case is that of the frames. -/
def verify (s : Signer) (frames : List Bytes) (signature : Bytes) : Bool :=
  match s.digest? frames with
  | some digest =>
    match Bytes.unhex? signature with
    | some claimed => claimed == digest
    | none => false
  | none => true

end Signer
end KernelLink
