import KernelLink.Json.Double

namespace KernelLink

/-- Decimal digits, without a zero at either end, and the place of the decimal point counted from
their start. -/
structure Decimal where
  digits : List Char
  point : Int
  deriving DecidableEq, Repr

namespace Decimal

/-- The decimal of `c * 10 ^ exponent`. -/
def ofScaled (c : Nat) (exponent : Int) : Decimal :=
  let digits := Nat.toDigits 10 c
  ⟨(digits.reverse.dropWhile (· == '0')).reverse, digits.length + exponent⟩

end Decimal

namespace Double

/-- `c * 10 ^ exponent` units-of-one as a quotient of naturals, in units. -/
def gridPoint (c : Nat) (exponent : Int) : Nat × Nat :=
  if exponent < 0 then (c * one, Nat.pow 10 exponent.natAbs)
  else (c * Nat.pow 10 exponent.natAbs * one, 1)

/-- Whether `c * 10 ^ exponent` rounds to the magnitude `u`. -/
def readsBack (u c : Nat) (exponent : Int) : Bool :=
  let (num, den) := gridPoint c exponent
  nearest num den == u

/-- How many times a magnitude below one is multiplied by ten before it reaches one. -/
def placesBelow : Nat → Nat → Nat
  | 0, _ => 0
  | n + 1, u => if one ≤ u then 0 else placesBelow n (u * 10) + 1

/-- The exponent of the leading decimal digit of a magnitude that is not zero. -/
def magnitude (u : Nat) : Int :=
  if one ≤ u then ((Nat.toDigits 10 (u / one)).length : Int) - 1 else -(placesBelow 324 u : Int)

/-- The neighbour of `u` on the grid of multiples of `10 ^ exponent` that rounds to `u`: the nearer
one where both do, the even one where they are equally near. -/
def onGrid (u : Nat) (exponent : Int) : Option Nat :=
  let (num, den) :=
    if exponent < 0 then (u * Nat.pow 10 exponent.natAbs, one)
    else (u, one * Nat.pow 10 exponent.natAbs)
  let low := num / den
  let rest := num % den
  match readsBack u low exponent, readsBack u (low + 1) exponent with
  | true, true =>
    if 2 * rest < den ∨ (2 * rest = den ∧ low % 2 = 0) then some low else some (low + 1)
  | true, false => some low
  | false, true => some (low + 1)
  | false, false => none

/-- The first grid, from `count` digits on, that holds a decimal which rounds to `u`. -/
def firstGrid (u : Nat) (leading : Int) : Nat → Nat → Decimal
  | 0, count => Decimal.ofScaled u (leading + 1 - count)
  | n + 1, count =>
    let exponent := leading + 1 - count
    match onGrid u exponent with
    | some c => Decimal.ofScaled c exponent
    | none => firstGrid u leading n (count + 1)

/-- The decimal with the fewest digits that rounds to the magnitude `u`; seventeen always do. -/
def shortest (u : Nat) : Decimal := firstGrid u (magnitude u) 17 1

/-- A decimal with a point is written for magnitudes from `1e-5` up to `1e16`, one with an exponent
and its sign otherwise. -/
def magnitudeText (u : Nat) : List Char :=
  if u = 0 then ['0', '.', '0']
  else
    let d := shortest u
    let count := d.digits.length
    if 0 < d.point ∧ d.point ≤ 16 then
      let point := d.point.toNat
      if count ≤ point then d.digits ++ List.replicate (point - count) '0' ++ ['.', '0']
      else d.digits.take point ++ '.' :: d.digits.drop point
    else if -5 < d.point ∧ d.point ≤ 0 then
      '0' :: '.' :: List.replicate d.point.natAbs '0' ++ d.digits
    else
      let exponent := d.point - 1
      let sign := if exponent < 0 then '-' else '+'
      let power := sign :: Nat.toDigits 10 exponent.natAbs
      match d.digits with
      | [single] => single :: 'e' :: power
      | first :: others => first :: '.' :: others ++ 'e' :: power
      | [] => 'e' :: power

/-- The fewest digits that read back. -/
def text (x : Double) : String :=
  String.ofList (if x.negative then '-' :: magnitudeText x.units else magnitudeText x.units)

end Double

end KernelLink
