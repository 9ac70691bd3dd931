namespace KernelLink

/-- Frames, files and texts on their way in or out are sequences of octets. -/
abbrev Bytes := List UInt8

/-- The octet of an ASCII character. -/
def octet (c : Char) : UInt8 := c.val.toUInt8

namespace Bytes

/-- The UTF-8 form of a text. -/
def ofString (s : String) : Bytes := s.toUTF8.data.toList

/-- The text whose UTF-8 form these octets are, if there is one. -/
def toString? (b : Bytes) : Option String := String.fromUTF8? ⟨b.toArray⟩

/-- The lower-case hexadecimal digit of a value below sixteen. -/
def hexDigit (n : Nat) : UInt8 :=
  if n < 10 then UInt8.ofNat (48 + n) else UInt8.ofNat (87 + n)

/-- The value of a hexadecimal digit of either case. -/
def hexValue (d : UInt8) : Option Nat :=
  if 48 ≤ d.toNat ∧ d.toNat ≤ 57 then some (d.toNat - 48)
  else if 97 ≤ d.toNat ∧ d.toNat ≤ 102 then some (d.toNat - 87)
  else if 65 ≤ d.toNat ∧ d.toNat ≤ 70 then some (d.toNat - 55)
  else none

/-- Two lower-case hexadecimal digits for each octet, the high half first. -/
def hex : Bytes → Bytes
  | [] => []
  | b :: rest => hexDigit (b.toNat / 16) :: hexDigit (b.toNat % 16) :: hex rest

/-- The octets that pairs of hexadecimal digits stand for. -/
def unhex? : Bytes → Option Bytes
  | [] => some []
  | [_] => none
  | high :: low :: rest =>
    match hexValue high, hexValue low with
    | some h, some l => (unhex? rest).map (UInt8.ofNat (16 * h + l) :: ·)
    | _, _ => none

/-- The hexadecimal digits of the octets as a text. -/
def hexText (b : Bytes) : String :=
  String.ofList (b.hex.map fun d => Char.ofNat d.toNat)

end Bytes

end KernelLink
