namespace KernelLink

/-- A finite number of binary64: its sign and its magnitude in units of `2 ^ -1074`. -/
structure Double where
  negative : Bool
  units : Nat
  deriving DecidableEq, Repr

namespace Double

/-- The number of units in one. -/
def one : Nat := Nat.pow 2 1074

/-- The least magnitude beyond the finite ones. -/
def limit : Nat := Nat.pow 2 2098

/-- The quotient of two naturals rounded to 53 significant bits; a half goes to the even
neighbour. -/
def nearest (num den : Nat) : Nat :=
  let scale := Nat.pow 2 ((num / den).log2 + 1 - 53)
  let step := den * scale
  let low := num / step
  let rest := num % step
  if step < 2 * rest ∨ (2 * rest = step ∧ low % 2 = 1) then (low + 1) * scale else low * scale

/-- The magnitude nearest to a natural number. -/
def ofNat (n : Nat) : Nat := nearest (n * one) 1

/-- The magnitude nearest to a power of ten. -/
def powerOfTen (k : Nat) : Nat := nearest (Nat.pow 10 k * one) 1

/-- A magnitude times a power of ten, none if that leaves the finite range. -/
def scaleUp (m k : Nat) : Option Nat :=
  if m = 0 then some 0
  else if 308 < k then none
  else
    let product := nearest (m * powerOfTen k) one
    if product < limit then some product else none

/-- A magnitude divided by a power of ten. No power beyond the 308th is finite, so a greater one
is divided by in parts, and each part rounds. -/
def scaleDown (m k : Nat) : Nat :=
  if k ≤ 308 then nearest (m * one) (powerOfTen k)
  else if m = 0 then 0
  else scaleDown (nearest (m * one) (powerOfTen 308)) (k - 308)
termination_by k

/-- The magnitude of `significand * 10 ^ exponent`: the significand is rounded first, the scaled
value again. -/
def ofDecimal (significand : Nat) (exponent : Int) : Option Nat :=
  if exponent < 0 then some (scaleDown (ofNat significand) exponent.natAbs)
  else scaleUp (ofNat significand) exponent.natAbs

end Double

end KernelLink
