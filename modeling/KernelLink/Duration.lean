namespace KernelLink

/-- A span of time in nanoseconds. -/
structure Duration where
  nanos : Nat
  deriving DecidableEq, Repr

namespace Duration

def ofMillis (n : Nat) : Duration := ⟨n * 1000000⟩

/-- `nanos` in units of `10 ^ places`, with no more decimals than there are. -/
private def decimal (nanos places : Nat) : String :=
  let whole := nanos / Nat.pow 10 places
  let digits := Nat.toDigits 10 (nanos % Nat.pow 10 places)
  let decimals := (List.replicate (places - digits.length) '0' ++ digits).reverse
  match (decimals.dropWhile (· == '0')).reverse with
  | [] => toString whole
  | shown => toString whole ++ "." ++ String.ofList shown

/-- The span in the greatest unit that it fills. -/
def text (d : Duration) : String :=
  if Nat.pow 10 9 ≤ d.nanos then decimal d.nanos 9 ++ "s"
  else if Nat.pow 10 6 ≤ d.nanos then decimal d.nanos 6 ++ "ms"
  else if Nat.pow 10 3 ≤ d.nanos then decimal d.nanos 3 ++ "µs"
  else toString d.nanos ++ "ns"

end Duration
end KernelLink
