/-! # Lengths of time

A length of time in nanoseconds. Its text takes the largest unit of which it holds at least one,
with the exact fraction. -/

namespace CommandLink

structure Duration where
  nanos : Nat
  deriving DecidableEq

namespace Duration

def ofMillis (n : Nat) : Duration := ⟨n * 1000000⟩

def ofSeconds (n : Nat) : Duration := ⟨n * 1000000000⟩

/-- The digits of `n`, a fraction of `10 ^ places`, without trailing zeros. -/
def fractionDigits (n places : Nat) : List Char :=
  match places with
  | 0 => []
  | k + 1 =>
    if n = 0 then []
    else Char.ofNat (48 + n / 10 ^ k) :: fractionDigits (n % 10 ^ k) k

/-- A number of units with its fraction of `10 ^ places`. -/
def decimalText (whole fraction places : Nat) (unit : String) : String :=
  let digits := fractionDigits fraction places
  let point := if digits.isEmpty then "" else "." ++ String.ofList digits
  toString whole ++ point ++ unit

/-- The text of a length of time, such as `1.5s`, `20ms` and `999ns`. -/
def text (d : Duration) : String :=
  let n := d.nanos
  if 1000000000 ≤ n then decimalText (n / 1000000000) (n % 1000000000) 9 "s"
  else if 1000000 ≤ n then decimalText (n / 1000000) (n % 1000000) 6 "ms"
  else if 1000 ≤ n then decimalText (n / 1000) (n % 1000) 3 "µs"
  else decimalText n 0 0 "ns"

end Duration
end CommandLink
