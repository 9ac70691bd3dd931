namespace KernelLink
namespace Address

/-- The value of a digit to a base of at most sixteen. -/
def digitValue (base : Nat) (c : Char) : Option Nat :=
  let value :=
    if c.isDigit then some (c.toNat - 48)
    else if 'a' ≤ c ∧ c ≤ 'f' then some (c.toNat - 87)
    else if 'A' ≤ c ∧ c ≤ 'F' then some (c.toNat - 55)
    else none
  value.filter (· < base)

/-- A number of at most `count` digits, and the text behind it. All digits that stand there belong
to it. -/
def number (base count : Nat) (leadingZeros : Bool) (cs : List Char) : Option (Nat × List Char) :=
  let digits := (cs.takeWhile fun c => (digitValue base c).isSome).filterMap (digitValue base)
  let rest := cs.dropWhile fun c => (digitValue base c).isSome
  if digits = [] ∨ count < digits.length then none
  else if !leadingZeros ∧ digits.head? = some 0 ∧ 1 < digits.length then none
  else some (digits.foldl (fun n d => n * base + d) 0, rest)

def char (c : Char) : List Char → Option (List Char)
  | [] => none
  | d :: rest => if d = c then some rest else none

/-- A separator in front of every part but the first. -/
def separator (c : Char) (first : Bool) (cs : List Char) : Option (List Char) :=
  if first then some cs else char c cs

/-- An octet in decimal digits without leading zeros. -/
def octet (cs : List Char) : Option (Nat × List Char) := do
  let (n, rest) ← number 10 3 false cs
  if n ≤ 255 then some (n, rest) else none

/-- Four octets with points between them. -/
def quad (cs : List Char) : Option ((Nat × Nat × Nat × Nat) × List Char) := do
  let (a, cs) ← octet cs
  let (b, cs) ← octet (← char '.' cs)
  let (c, cs) ← octet (← char '.' cs)
  let (d, cs) ← octet (← char '.' cs)
  some ((a, b, c, d), cs)

/-- Up to `room` groups with colons between them, of which a quad may take the last two; also
whether one did. -/
def groups : Nat → Bool → List Char → List Nat × Bool × List Char
  | 0, _, cs => ([], false, cs)
  | room + 1, first, cs =>
    let asQuad := if room = 0 then none else (separator ':' first cs).bind quad
    match asQuad with
    | some ((a, b, c, d), rest) => ([a * 256 + b, c * 256 + d], true, rest)
    | none =>
      match (separator ':' first cs).bind (number 16 4 true) with
      | some (n, rest) =>
        let (others, ended, rest) := groups room false rest
        (n :: others, ended, rest)
      | none => ([], false, cs)

/-- The eight groups of a long address; a double colon stands for the zeros that are missing, one
group of them at least. -/
def long (cs : List Char) : Option (List Nat × List Char) :=
  let (head, quadded, rest) := groups 8 true cs
  if head.length = 8 then some (head, rest)
  else if quadded then none
  else do
    let rest ← char ':' rest
    let rest ← char ':' rest
    let (tail, _, rest) := groups (7 - head.length) true rest
    some (head ++ List.replicate (8 - head.length - tail.length) 0 ++ tail, rest)

/-- Whether a text is the numeric address of this machine: a quad that begins with 127, or the long
address one. -/
def isLoopback (cs : List Char) : Bool :=
  match quad cs with
  | some ((a, _), rest) => a = 127 && rest.isEmpty
  | none =>
    match long cs with
    | some (parts, rest) => parts = [0, 0, 0, 0, 0, 0, 0, 1] && rest.isEmpty
    | none => false

end Address

/-- Whether an address names this machine. -/
def isLocalAddress (ip : String) : Bool :=
  ip.toLower = "localhost" || Address.isLoopback ip.toList

end KernelLink
