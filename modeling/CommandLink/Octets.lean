/-! # Octet strings

Octet strings, the words in them, their hexadecimal text, and access by position. -/

namespace CommandLink

/-- A string of octets, as it travels over a link. -/
abbrev Octets := List UInt8

namespace Octets

/-! ## Words

A word is written low octet first; `word16_ofWord16` and `word32_ofWord32` say that reading gives
back what was written. -/

/-- The two octets of a 16-bit word. -/
def ofWord16 (w : UInt16) : Octets :=
  [w.toUInt8, UInt8.ofNat (w.toNat / 256)]

/-- The 16-bit word of a low and a high octet. -/
def word16 (lo hi : UInt8) : UInt16 :=
  UInt16.ofNat (lo.toNat + 256 * hi.toNat)

/-- The four octets of a 32-bit word. -/
def ofWord32 (w : UInt32) : Octets :=
  [w.toUInt8, UInt8.ofNat (w.toNat / 256), UInt8.ofNat (w.toNat / 65536),
    UInt8.ofNat (w.toNat / 16777216)]

/-- The 32-bit word of four octets, lowest first. -/
def word32 (a b c d : UInt8) : UInt32 :=
  UInt32.ofNat (a.toNat + 256 * b.toNat + 65536 * c.toNat + 16777216 * d.toNat)

@[simp] theorem length_ofWord16 (w : UInt16) : (ofWord16 w).length = 2 := rfl

@[simp] theorem length_ofWord32 (w : UInt32) : (ofWord32 w).length = 4 := rfl

theorem word16_ofWord16 (w : UInt16) :
    word16 w.toUInt8 (UInt8.ofNat (w.toNat / 256)) = w := by
  apply UInt16.toNat_inj.mp
  have := w.toNat_lt
  simp [word16, UInt16.toNat_ofNat']
  omega

theorem word32_ofWord32 (w : UInt32) :
    word32 w.toUInt8 (UInt8.ofNat (w.toNat / 256)) (UInt8.ofNat (w.toNat / 65536))
      (UInt8.ofNat (w.toNat / 16777216)) = w := by
  apply UInt32.toNat_inj.mp
  have := w.toNat_lt
  simp [word32, UInt32.toNat_ofNat']
  omega

theorem eq_ofNat_of_toNat {x : UInt8} {n : Nat} (h : n % 256 = x.toNat) : UInt8.ofNat n = x := by
  apply UInt8.toNat_inj.mp
  rw [UInt8.toNat_ofNat', h]

theorem ofWord16_word16 (lo hi : UInt8) : ofWord16 (word16 lo hi) = [lo, hi] := by
  have := lo.toNat_lt
  have := hi.toNat_lt
  have value : (word16 lo hi).toNat = lo.toNat + 256 * hi.toNat := by
    simp [word16]
    omega
  have low : (word16 lo hi).toUInt8 = lo := by
    apply UInt8.toNat_inj.mp
    rw [UInt16.toNat_toUInt8, value]
    omega
  rw [ofWord16, low, eq_ofNat_of_toNat (x := hi) (by omega)]

theorem ofWord32_word32 (a b c d : UInt8) : ofWord32 (word32 a b c d) = [a, b, c, d] := by
  have := a.toNat_lt
  have := b.toNat_lt
  have := c.toNat_lt
  have := d.toNat_lt
  have value : (word32 a b c d).toNat =
      a.toNat + 256 * b.toNat + 65536 * c.toNat + 16777216 * d.toNat := by
    simp [word32]
    omega
  have low : (word32 a b c d).toUInt8 = a := by
    apply UInt8.toNat_inj.mp
    rw [UInt32.toNat_toUInt8, value]
    omega
  rw [ofWord32, low, eq_ofNat_of_toNat (x := b) (by omega), eq_ofNat_of_toNat (x := c) (by omega),
    eq_ofNat_of_toNat (x := d) (by omega)]

end Octets

/-! ## Hexadecimal text

Two lower-case digits an octet, high digit first. -/

/-- The lower-case digit of a number below 16. -/
def hexDigit (n : Nat) : Char :=
  if n < 10 then Char.ofNat (48 + n) else Char.ofNat (87 + n)

/-- The value of a hexadecimal digit of either case. -/
def hexDigitValue? (c : Char) : Option Nat :=
  if '0' ≤ c ∧ c ≤ '9' then some (c.toNat - 48)
  else if 'a' ≤ c ∧ c ≤ 'f' then some (c.toNat - 87)
  else if 'A' ≤ c ∧ c ≤ 'F' then some (c.toNat - 55)
  else none

namespace Octets

/-- The two digits of an octet. -/
def hexPair (b : UInt8) : List Char :=
  [hexDigit (b.toNat / 16), hexDigit (b.toNat % 16)]

/-- The digits of an octet string. -/
def toHex (octets : Octets) : String :=
  String.ofList (octets.flatMap hexPair)

/-! ## Slices by position

Reading and writing the octets between two positions of a string. A position outside the string is
not rounded to its end: the access fails. -/

/-- The octets from one position up to another. -/
def slice? (octets : Octets) (first last : Nat) : Option Octets :=
  if first ≤ last ∧ last ≤ octets.length then some ((octets.take last).drop first) else none

/-- The string with other octets in the place of those from a position on. -/
def overwrite? (octets : Octets) (first : Nat) (others : Octets) : Option Octets :=
  if first + others.length ≤ octets.length then
    some (octets.take first ++ others ++ octets.drop (first + others.length))
  else none

theorem slice?_eq {octets : Octets} {first last : Nat} (ordered : first ≤ last)
    (within : last ≤ octets.length) :
    octets.slice? first last = some ((octets.take last).drop first) := if_pos ⟨ordered, within⟩

theorem overwrite?_eq {octets others : Octets} {first : Nat}
    (within : first + others.length ≤ octets.length) :
    octets.overwrite? first others =
      some (octets.take first ++ others ++ octets.drop (first + others.length)) := if_pos within

end Octets
end CommandLink
