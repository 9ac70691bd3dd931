import KernelLink.Digest.Sha256
import KernelLink.Session
import KernelLink.Timestamp
import KernelLink.Uuid

namespace KernelLink
namespace Chance

/-- Octets that show no pattern, the n-th of their kind. -/
def octets (n count : Nat) : Bytes :=
  ((List.range (count / 32 + 1)).flatMap fun i =>
    Sha256.digest (Bytes.ofString (toString n ++ "/" ++ toString i))).take count

/-- The n-th identifier of a series in which all differ. -/
def identifier (n : Nat) : String := Uuid.ofBytes (octets n 16)

/-- The moment of the n-th message of a series. -/
def moment (n : Nat) : Timestamp := ⟨1704164645678 + n⟩

/-- The n-th stamp of a series in which all differ. -/
def stamp (n : Nat) : Stamp := ⟨identifier n, (moment n).text⟩

end Chance
end KernelLink
