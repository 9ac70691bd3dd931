import KernelLink.Bytes

namespace KernelLink
namespace Sha256

/-- The eight words that the digest of a text is made of. -/
structure Words where
  a : UInt32
  b : UInt32
  c : UInt32
  d : UInt32
  e : UInt32
  f : UInt32
  g : UInt32
  h : UInt32
  deriving DecidableEq, Repr

def initial : Words :=
  ⟨0x6a09e667, 0xbb67ae85, 0x3c6ef372, 0xa54ff53a, 0x510e527f, 0x9b05688c, 0x1f83d9ab, 0x5be0cd19⟩

def constants : List UInt32 := [
  0x428a2f98, 0x71374491, 0xb5c0fbcf, 0xe9b5dba5, 0x3956c25b, 0x59f111f1, 0x923f82a4, 0xab1c5ed5,
  0xd807aa98, 0x12835b01, 0x243185be, 0x550c7dc3, 0x72be5d74, 0x80deb1fe, 0x9bdc06a7, 0xc19bf174,
  0xe49b69c1, 0xefbe4786, 0x0fc19dc6, 0x240ca1cc, 0x2de92c6f, 0x4a7484aa, 0x5cb0a9dc, 0x76f988da,
  0x983e5152, 0xa831c66d, 0xb00327c8, 0xbf597fc7, 0xc6e00bf3, 0xd5a79147, 0x06ca6351, 0x14292967,
  0x27b70a85, 0x2e1b2138, 0x4d2c6dfc, 0x53380d13, 0x650a7354, 0x766a0abb, 0x81c2c92e, 0x92722c85,
  0xa2bfe8a1, 0xa81a664b, 0xc24b8b70, 0xc76c51a3, 0xd192e819, 0xd6990624, 0xf40e3585, 0x106aa070,
  0x19a4c116, 0x1e376c08, 0x2748774c, 0x34b0bcb5, 0x391c0cb3, 0x4ed8aa4a, 0x5b9cca4f, 0x682e6ff3,
  0x748f82ee, 0x78a5636f, 0x84c87814, 0x8cc70208, 0x90befffa, 0xa4506ceb, 0xbef9a3f7, 0xc67178f2]

def rotate (x k : UInt32) : UInt32 := (x >>> k) ||| (x <<< (32 - k))

def bigSigma0 (x : UInt32) : UInt32 := rotate x 2 ^^^ rotate x 13 ^^^ rotate x 22
def bigSigma1 (x : UInt32) : UInt32 := rotate x 6 ^^^ rotate x 11 ^^^ rotate x 25
def smallSigma0 (x : UInt32) : UInt32 := rotate x 7 ^^^ rotate x 18 ^^^ (x >>> 3)
def smallSigma1 (x : UInt32) : UInt32 := rotate x 17 ^^^ rotate x 19 ^^^ (x >>> 10)
def choose (x y z : UInt32) : UInt32 := (x &&& y) ^^^ (~~~x &&& z)
def majority (x y z : UInt32) : UInt32 := (x &&& y) ^^^ (x &&& z) ^^^ (y &&& z)

/-- The words of a block, the most significant octet of each first. -/
def blockWords : Bytes → List UInt32
  | a :: b :: c :: d :: rest =>
    (a.toUInt32 <<< 24 ||| b.toUInt32 <<< 16 ||| c.toUInt32 <<< 8 ||| d.toUInt32) :: blockWords rest
  | _ => []

/-- Appends words to a schedule that is held in reverse. -/
def extend : Nat → List UInt32 → List UInt32
  | 0, words => words
  | n + 1, words =>
    let past (k : Nat) : UInt32 := words.getD (k - 1) 0
    extend n ((smallSigma1 (past 2) + past 7 + smallSigma0 (past 15) + past 16) :: words)

/-- The sixty-four words that the rounds of a block take. -/
def schedule (block : Bytes) : List UInt32 := (extend 48 (blockWords block).reverse).reverse

def round (s : Words) (k w : UInt32) : Words :=
  let t1 := s.h + bigSigma1 s.e + choose s.e s.f s.g + k + w
  let t2 := bigSigma0 s.a + majority s.a s.b s.c
  ⟨t1 + t2, s.a, s.b, s.c, s.d + t1, s.e, s.f, s.g⟩

def add (s t : Words) : Words :=
  ⟨s.a + t.a, s.b + t.b, s.c + t.c, s.d + t.d, s.e + t.e, s.f + t.f, s.g + t.g, s.h + t.h⟩

/-- Takes one block of sixty-four octets into the words. -/
def compress (s : Words) (block : Bytes) : Words :=
  add s ((constants.zip (schedule block)).foldl (fun t (k, w) => round t k w) s)

/-- The octets of a number, the most significant first. -/
def bigEndian : Nat → Nat → Bytes
  | 0, _ => []
  | width + 1, n => UInt8.ofNat (n / Nat.pow 256 width) :: bigEndian width n

/-- The mark, the zeros and the length in bits that fill the last block of a text of so many octets. -/
def filling (length : Nat) : Bytes :=
  0x80 :: List.replicate ((119 - length % 64) % 64) 0 ++ bigEndian 8 (8 * length)

def pad (text : Bytes) : Bytes := text ++ filling text.length

/-- Takes the blocks of a padded text in turn. -/
def absorb : Nat → Words → Bytes → Words
  | 0, s, _ => s
  | n + 1, s, text => absorb n (compress s (text.take 64)) (text.drop 64)

def Words.octets (s : Words) : Bytes :=
  [s.a, s.b, s.c, s.d, s.e, s.f, s.g, s.h].flatMap fun w => bigEndian 4 w.toNat

/-- The thirty-two octets of the digest. -/
def digest (text : Bytes) : Bytes :=
  let padded := pad text
  (absorb (padded.length / 64) initial padded).octets

/-- The digest of a text that comes in piece by piece: the words of the blocks so far, the octets that
do not fill a block yet, and the length of all that has come. -/
structure Running where
  words : Words
  pending : Bytes
  length : Nat

namespace Running

def start : Running := ⟨initial, [], 0⟩

/-- Takes in the next piece. -/
def update (r : Running) (piece : Bytes) : Running :=
  let pending := r.pending ++ piece
  let blocks := pending.length / 64
  ⟨absorb blocks r.words pending, pending.drop (64 * blocks), r.length + piece.length⟩

/-- The digest of all that has come. -/
def finish (r : Running) : Bytes :=
  let last := r.pending ++ filling r.length
  (absorb (last.length / 64) r.words last).octets

end Running

theorem length_bigEndian (width n : Nat) : (bigEndian width n).length = width := by
  induction width with
  | zero => rfl
  | succ width ih => simp only [bigEndian, List.length_cons, ih]

theorem length_digest (text : Bytes) : (digest text).length = 32 := by
  simp [digest, Words.octets, length_bigEndian]

end Sha256
end KernelLink
