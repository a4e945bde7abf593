/-! # Numbers and white space in text -/

namespace CommandLink

/-! ## White space

The characters that have the white space property, and what is left of a text without those at its
ends. The white space of hexadecimal text is narrower: five ASCII characters. -/

/-- Whether a character is white space. -/
def isBlank (c : Char) : Bool :=
  let n := c.toNat
  (9 ≤ n && n ≤ 13) || n == 0x20 || n == 0x85 || n == 0xA0 || n == 0x1680
    || (0x2000 ≤ n && n ≤ 0x200A) || n == 0x2028 || n == 0x2029 || n == 0x202F || n == 0x205F
    || n == 0x3000

/-- A text without the white space at its ends. -/
def trimBlanks (text : List Char) : List Char :=
  ((text.dropWhile isBlank).reverse.dropWhile isBlank).reverse

/-- Whether an octet is ASCII white space: space, tab, line feed, form feed or carriage return. -/
def isAsciiBlank (b : UInt8) : Bool :=
  b == 0x20 || b == 0x09 || b == 0x0A || b == 0x0C || b == 0x0D

/-! ## Whole numbers

Decimal digits with an optional plus sign; for integers a minus sign is allowed too. -/

/-- The value of a decimal digit. -/
def decimalDigit? (c : Char) : Option Nat :=
  if '0' ≤ c ∧ c ≤ '9' then some (c.toNat - 48) else none

/-- The number that digits write after those of `acc`. -/
def digitsValue? (acc : Nat) : List Char → Option Nat
  | [] => some acc
  | c :: rest =>
    match decimalDigit? c with
    | some d => digitsValue? (10 * acc + d) rest
    | none => none

/-- The number that one or more digits write. -/
def number? : List Char → Option Nat
  | [] => none
  | digits => digitsValue? 0 digits

/-- The number below `bound` that a text writes. -/
def unsigned? (bound : Nat) (text : List Char) : Option Nat :=
  let value := match text with
    | '+' :: digits => number? digits
    | digits => number? digits
  value.filter (· < bound)

/-- The number that a text writes with either sign. -/
def signed? : List Char → Option Int
  | '+' :: digits => (number? digits).map Int.ofNat
  | '-' :: digits => (number? digits).map fun n => -Int.ofNat n
  | digits => (number? digits).map Int.ofNat

end CommandLink
