import RecordSql.Text.Numeral

/-!
# Lengths of time

A length of time is a number of nanoseconds.  It is shown in the largest of the units s, ms, µs and ns
in which its whole part is not zero, with as many decimals as are needed.
-/

namespace RecordSql

/-- A length of time. -/
structure Duration where
  nanoseconds : Nat
deriving DecidableEq, Repr

namespace Duration

/-- `n` milliseconds. -/
def ofMilliseconds (n : Nat) : Duration :=
  ⟨n * 1000000⟩

/-- `n` seconds and `nanos` nanoseconds. -/
def ofSeconds (n nanos : Nat) : Duration :=
  ⟨n * 1000000000 + nanos⟩

/-- The least number of milliseconds that is not shorter. -/
def ceilMilliseconds (d : Duration) : Nat :=
  (d.nanoseconds + 999999) / 1000000

/-- The decimals of `part / 10^places`, without trailing zeros. -/
def decimals (places part : Nat) : List Char :=
  let digits := Nat.toDigits 10 part
  let padded := List.replicate (places - digits.length) '0' ++ digits
  (padded.reverse.dropWhile (· == '0')).reverse

/-- The number `n / 10^places` followed by `unit`. -/
def inUnit (n places : Nat) (unit : String) : String :=
  let whole := Text.showNat (n / Nat.pow 10 places)
  let fraction := decimals places (n % Nat.pow 10 places)
  if fraction.isEmpty then whole ++ unit else whole ++ "." ++ String.ofList fraction ++ unit

/-- The text of a length of time. -/
def display (d : Duration) : String :=
  let n := d.nanoseconds
  if 1000000000 ≤ n then inUnit n 9 "s"
  else if 1000000 ≤ n then inUnit n 6 "ms"
  else if 1000 ≤ n then inUnit n 3 "µs"
  else inUnit n 0 "ns"

end Duration

end RecordSql
