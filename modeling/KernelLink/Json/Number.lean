import KernelLink.Bytes
import KernelLink.Json.Shortest

namespace KernelLink

/-- A JSON number: integers from `-2 ^ 63` up to `2 ^ 64 - 1` are kept, all others are doubles. -/
inductive Number where
  | integer (value : Int)
  | double (value : Double)
  deriving DecidableEq, Repr

namespace Number

def text : Number → String
  | .integer i => toString i
  | .double d => d.text

end Number

/-- A numeral as it is written: the sign and the decimal digits of its parts. -/
structure Numeral where
  negative : Bool
  whole : List Nat
  fraction : Option (List Nat)
  exponent : Option (Bool × List Nat)
  deriving DecidableEq, Repr

namespace Numeral

/-- Appends digits to a significand of 64 bits for as long as they fit. -/
def absorb (significand : Nat) : List Nat → Nat × List Nat
  | [] => (significand, [])
  | d :: rest =>
    if significand * 10 + d < Nat.pow 2 64 then absorb (significand * 10 + d) rest
    else (significand, d :: rest)

/-- The natural number that decimal digits spell. -/
def natural (digits : List Nat) : Nat := digits.foldl (fun n d => n * 10 + d) 0

/-- The significand of a numeral and the power of ten that its digits leave to it. Digits of the
whole part that do not fit count as a power each, digits of the fraction that do not fit are
lost. -/
def significand (n : Numeral) : Nat × Int :=
  let (whole, left) := absorb 0 n.whole
  match n.fraction with
  | none => (whole, left.length)
  | some digits =>
    let (all, lost) := absorb whole digits
    (all, (left.length : Int) - ((digits.length : Int) - lost.length))

/-- The number that a numeral stands for, none if it is beyond the finite doubles. -/
def value (n : Numeral) : Option Number :=
  let (significand, exponent) := n.significand
  let double (m : Nat) : Number := .double ⟨n.negative, m⟩
  match n.fraction, n.exponent with
  | none, none =>
    if exponent ≠ 0 then (Double.ofDecimal significand exponent).map double
    else if !n.negative then some (.integer significand)
    else if significand = 0 ∨ Nat.pow 2 63 < significand then
      some (double (Double.ofNat significand))
    else some (.integer (-significand))
  | _, none => (Double.ofDecimal significand exponent).map double
  | _, some (down, digits) =>
    let power := natural digits
    if Nat.pow 2 31 ≤ power then
      if significand ≠ 0 ∧ !down then none else some (double 0)
    else
      let total := if down then exponent - power else exponent + power
      (Double.ofDecimal significand total).map double

end Numeral

end KernelLink
