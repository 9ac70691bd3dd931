import KernelLink.Bytes

namespace KernelLink
namespace Uuid

/-- The version 4 form of sixteen octets: the octet that holds the version and the one that holds
the variant are set, the others are kept. -/
def ofBytes (octets : Bytes) : String :=
  let marked := octets.mapIdx fun i b =>
    if i = 6 then (b &&& 0x0f) ||| 0x40 else if i = 8 then (b &&& 0x3f) ||| 0x80 else b
  let part (start count : Nat) : String := Bytes.hexText ((marked.drop start).take count)
  "-".intercalate [part 0 4, part 4 2, part 6 2, part 8 2, part 10 6]

private def lowerHex (c : Char) : Bool := c.isDigit || ('a' ≤ c && c ≤ 'f')

/-- Whether a text is a random identifier in lower case. -/
def isVersion4 (s : String) : Bool :=
  s.length = 36 && (s.toList.zipIdx.all fun (c, i) =>
    if i = 8 || i = 13 || i = 18 || i = 23 then c == '-'
    else if i = 14 then c == '4'
    else if i = 19 then c == '8' || c == '9' || c == 'a' || c == 'b'
    else lowerHex c)

end Uuid

/-- A signing key: octets as hexadecimal digits, with a dash behind the first eight digits if there
are more. -/
def keyText (octets : Bytes) : String :=
  let digits := Bytes.hexText octets
  if digits.length ≤ 8 then digits
  else
    let chars := digits.toList
    String.ofList (chars.take 8 ++ '-' :: chars.drop 8)

end KernelLink
