import KernelLink.Digest.Sha256

namespace KernelLink
namespace Hmac

/-- A key filled with zeros to the length of a block; a longer one is replaced by its digest. -/
def blockKey (key : Bytes) : Bytes :=
  let short := if 64 < key.length then Sha256.digest key else key
  short ++ List.replicate (64 - short.length) 0

/-- The keyed digest of a text. -/
def digest (key text : Bytes) : Bytes :=
  let block := blockKey key
  Sha256.digest (block.map (· ^^^ 0x5c) ++
    Sha256.digest (block.map (· ^^^ 0x36) ++ text))

/-- The keyed digest of a text that comes in piece by piece. -/
structure Running where
  /-- The key, as long as a block. -/
  block : Bytes
  inner : Sha256.Running

namespace Running

def start (key : Bytes) : Running :=
  ⟨blockKey key, Sha256.Running.start.update ((blockKey key).map (· ^^^ 0x36))⟩

def update (r : Running) (piece : Bytes) : Running := { r with inner := r.inner.update piece }

def finish (r : Running) : Bytes := Sha256.digest (r.block.map (· ^^^ 0x5c) ++ r.inner.finish)

end Running

theorem length_digest (key text : Bytes) : (digest key text).length = 32 :=
  Sha256.length_digest _

end Hmac
end KernelLink
