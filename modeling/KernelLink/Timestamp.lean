namespace KernelLink

/-- A moment in milliseconds from the beginning of 1970, UTC. -/
structure Timestamp where
  millis : Nat
  deriving DecidableEq, Repr

namespace Timestamp

private def padded (width n : Nat) : String :=
  let digits := Nat.toDigits 10 n
  String.ofList (List.replicate (width - digits.length) '0' ++ digits)

/-- The year, month and day of a day counted from the beginning of 1970. Years run from March, and
four hundred of them have 146097 days. -/
private def civil (day : Nat) : Nat × Nat × Nat :=
  let shifted := day + 719468
  let era := shifted / 146097
  let ofEra := shifted % 146097
  let yearOfEra := (ofEra - ofEra / 1460 + ofEra / 36524 - ofEra / 146096) / 365
  let ofYear := ofEra - (365 * yearOfEra + yearOfEra / 4 - yearOfEra / 100)
  let fromMarch := (5 * ofYear + 2) / 153
  let dayOfMonth := ofYear - (153 * fromMarch + 2) / 5 + 1
  let month := if fromMarch < 10 then fromMarch + 3 else fromMarch - 9
  let year := yearOfEra + era * 400 + (if month ≤ 2 then 1 else 0)
  (year, month, dayOfMonth)

/-- Date and time to the millisecond. -/
def text (t : Timestamp) : String :=
  let seconds := t.millis / 1000
  let (year, month, day) := civil (seconds / 86400)
  let clock := seconds % 86400
  padded 4 year ++ "-" ++ padded 2 month ++ "-" ++ padded 2 day ++ "T" ++
    padded 2 (clock / 3600) ++ ":" ++ padded 2 (clock / 60 % 60) ++ ":" ++ padded 2 (clock % 60) ++
    "." ++ padded 3 (t.millis % 1000) ++ "Z"

/-- Whether a text has the form of a date and time to the millisecond. -/
def isText (s : String) : Bool :=
  let form := "0000-00-00T00:00:00.000Z".toList
  s.length = form.length && ((s.toList.zip form).all fun (c, f) =>
    if f = '0' then c.isDigit else c == f)

end Timestamp
end KernelLink
