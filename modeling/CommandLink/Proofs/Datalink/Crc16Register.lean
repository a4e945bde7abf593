import Mathlib.Data.List.GetD
import Mathlib.Logic.Function.Iterate
import CommandLink.Datalink.Crc16

/-! # The checksum, bit by bit

The register takes an octet as it would take its bits one after the other, most significant first
(`Crc16.register_eq_foldl`). Taking bits loses nothing: the generator has a constant term, so the
bit that a shift drops can be seen in what it leaves (`Crc16.shift_injective`), and registers that
differ still differ after the same bits (`Crc16.foldl_feed_injective`). A shift is linear, so up to
sixteen bits may as well be put into the register all at once and then shifted
(`Crc16.foldl_feed`); hence different bits, as many as the register holds, leave it different
(`Crc16.foldl_feed_ne`). -/

namespace CommandLink

/-! ## Bits -/

namespace Octets

/-- The bits of an octet, most significant first. -/
def bitsOf (b : UInt8) : List Bool := (List.range 8).map b.toBitVec.getMsbD

/-- The bits of an octet string, in each octet the most significant first. -/
def bits (octets : Octets) : List Bool := octets.flatMap bitsOf

theorem length_bitsOf (b : UInt8) : (bitsOf b).length = 8 := rfl

end Octets

namespace Crc16

/-! ## Shifts -/

/-- What a shift puts in for the bit that it drops. -/
def carry (dropped : Bool) : BitVec 16 := if dropped then generator else 0

theorem carry_xor (b c : Bool) : carry (b ^^ c) = carry b ^^^ carry c := by
  cases b <;> cases c <;> rfl

/-- The generator has a constant term. -/
theorem getMsbD_carry (b : Bool) : (carry b).getMsbD 15 = b := by
  cases b <;> rfl

theorem shift_eq (r : BitVec 16) : shift r = r <<< 1 ^^^ carry r.msb := by
  unfold shift carry
  split
  · rfl
  · exact BitVec.xor_zero.symm

theorem shift_xor (r s : BitVec 16) : shift (r ^^^ s) = shift r ^^^ shift s := by
  calc shift (r ^^^ s)
      = (r <<< 1 ^^^ s <<< 1) ^^^ (carry r.msb ^^^ carry s.msb) := by
        rw [shift_eq, BitVec.msb_xor, BitVec.shiftLeft_xor_distrib, carry_xor]
    _ = (r <<< 1 ^^^ carry r.msb) ^^^ (s <<< 1 ^^^ carry s.msb) := by ac_rfl
    _ = shift r ^^^ shift s := by rw [← shift_eq, ← shift_eq]

/-- The bit that a shift drops can be seen in what it leaves. -/
theorem getMsbD_shift (r : BitVec 16) : (shift r).getMsbD 15 = r.msb := by
  rw [shift_eq, BitVec.getMsbD_xor, BitVec.getMsbD_shiftLeft, getMsbD_carry,
    BitVec.getMsbD_of_ge r 16 (Nat.le_refl 16), Bool.false_xor]

theorem shift_injective : Function.Injective shift := by
  intro r s same
  -- Both dropped the same bit, so both put in the same for it.
  have top : r.msb = s.msb := by rw [← getMsbD_shift, same, getMsbD_shift]
  have rest : r <<< 1 = s <<< 1 := by
    rw [shift_eq, shift_eq, top] at same
    exact (BitVec.xor_left_inj _).mp same
  apply BitVec.eq_of_getMsbD_eq
  intro i _
  cases i with
  | zero => rwa [← BitVec.msb_eq_getMsbD_zero, ← BitVec.msb_eq_getMsbD_zero]
  | succ i => rw [← BitVec.getMsbD_shiftLeft, rest, BitVec.getMsbD_shiftLeft]

/-- A shift takes back a move to the right that dropped no bit. -/
theorem shift_ushiftRight {r : BitVec 16} (even : r.getMsbD 15 = false) : shift (r >>> 1) = r := by
  have top : (r >>> 1).msb = false := by
    rw [BitVec.msb_eq_getMsbD_zero, BitVec.getMsbD_ushiftRight]
    rfl
  have back : r >>> 1 <<< 1 = r := by
    apply BitVec.eq_of_getMsbD_eq
    intro i inside
    rw [BitVec.getMsbD_shiftLeft, BitVec.getMsbD_ushiftRight]
    by_cases last : i = 15
    · rw [last, even]
      rfl
    · have inner : i + 1 < 16 := by omega
      simp [inner]
  rw [shift_eq, top, back]
  exact BitVec.xor_zero

/-! ## Bits taken into the register -/

/-- A bit at the top of an empty register. -/
def atTop (b : Bool) : BitVec 16 := if b then 0x8000 else 0

theorem getMsbD_atTop_succ (b : Bool) (i : Nat) : (atTop b).getMsbD (i + 1) = false := by
  cases b with
  | false => exact BitVec.getMsbD_zero
  | true =>
    show (BitVec.intMin 16).getMsbD (i + 1) = false
    rw [BitVec.getMsbD_intMin]
    simp

/-- Takes one bit into the register. -/
def feed (r : BitVec 16) (b : Bool) : BitVec 16 := shift (r ^^^ atTop b)

theorem feed_injective (b : Bool) : Function.Injective (feed · b) := by
  intro r s same
  exact (BitVec.xor_left_inj _).mp (shift_injective same)

/-- Registers that differ still differ after the same bits. -/
theorem foldl_feed_injective (w : List Bool) :
    Function.Injective fun r => w.foldl feed r := by
  induction w with
  | nil => exact Function.injective_id
  | cons b w ih => exact ih.comp (feed_injective b)

/-- Bits put into an empty register from the top. -/
def preload : List Bool → BitVec 16
  | [] => 0
  | b :: w => atTop b ^^^ preload w >>> 1

theorem getMsbD_preload (w : List Bool) {i : Nat} (inside : i < 16) :
    (preload w).getMsbD i = w.getD i false := by
  induction w generalizing i with
  | nil => simp [preload]
  | cons b w ih =>
    rw [preload, BitVec.getMsbD_xor, BitVec.getMsbD_ushiftRight]
    cases i with
    | zero => cases b <;> rfl
    | succ i =>
      rw [getMsbD_atTop_succ b i, Nat.add_sub_cancel, ih (Nat.lt_of_succ_lt inside)]
      simp [inside]

/-- A register holds sixteen bits without loss. -/
theorem preload_injective {w w' : List Bool} (same : w.length = w'.length) (fits : w.length ≤ 16)
    (loaded : preload w = preload w') : w = w' := by
  apply List.ext_getElem same
  intro i h h'
  have inside : i < 16 := Nat.lt_of_lt_of_le h fits
  have bit : w.getD i false = w'.getD i false := by
    rw [← getMsbD_preload w inside, loaded, getMsbD_preload w' inside]
  rwa [List.getD_eq_getElem _ _ h, List.getD_eq_getElem _ _ h'] at bit

/-- Bits taken one after the other are bits put in at once and shifted. -/
theorem foldl_feed (w : List Bool) (fits : w.length ≤ 16) (r : BitVec 16) :
    w.foldl feed r = shift^[w.length] (r ^^^ preload w) := by
  induction w generalizing r with
  | nil => exact BitVec.xor_zero.symm
  | cons b w ih =>
    rw [List.length_cons] at fits
    -- The last place is still free, so the bits behind can be moved down by one and shifted back.
    have even : (preload w).getMsbD 15 = false := by
      rw [getMsbD_preload w (by decide), List.getD_eq_default _ _ (by omega)]
    calc (b :: w).foldl feed r
        = shift^[w.length] (shift (r ^^^ atTop b) ^^^ preload w) := ih (by omega) _
      _ = shift^[w.length] (shift (r ^^^ preload (b :: w))) := by
          rw [preload, ← BitVec.xor_assoc, shift_xor (r ^^^ atTop b), shift_ushiftRight even]
      _ = shift^[(b :: w).length] (r ^^^ preload (b :: w)) := by
          rw [List.length_cons, Function.iterate_succ_apply]

/-- Different bits leave the register different, if it can hold them. -/
theorem foldl_feed_ne {w w' : List Bool} (same : w.length = w'.length) (fits : w.length ≤ 16)
    (differ : w ≠ w') (r : BitVec 16) : w.foldl feed r ≠ w'.foldl feed r := by
  intro equal
  rw [foldl_feed w fits, foldl_feed w' (same ▸ fits), same] at equal
  have loaded := (BitVec.xor_right_inj r).mp (shift_injective.iterate w'.length equal)
  exact differ (preload_injective same fits loaded)

/-! ## Octets taken into the register -/

theorem preload_bitsOf (b : UInt8) :
    preload (Octets.bitsOf b) = b.toBitVec.setWidth 16 <<< 8 := by
  apply BitVec.eq_of_getMsbD_eq
  intro i inside
  rw [getMsbD_preload _ inside, BitVec.getMsbD_shiftLeft, BitVec.getMsbD_setWidth]
  by_cases front : i < 8
  · rw [List.getD_eq_getElem _ _ (by rwa [Octets.length_bitsOf])]
    simp [Octets.bitsOf]
  · rw [List.getD_eq_default _ _ (by rw [Octets.length_bitsOf]; omega)]
    rw [BitVec.getMsbD_of_ge _ _ (by omega), Bool.and_false]

theorem step_eq_foldl (r : BitVec 16) (b : UInt8) :
    step r b = (Octets.bitsOf b).foldl feed r := by
  rw [foldl_feed _ (by rw [Octets.length_bitsOf]; decide), preload_bitsOf, Octets.length_bitsOf]
  rfl

/-- The register takes octets as it takes their bits. -/
theorem register_eq_foldl (octets : Octets) :
    register octets = (Octets.bits octets).foldl feed 0 := by
  rw [Octets.bits, List.foldl_flatMap]
  simp only [← step_eq_foldl]
  rfl

end Crc16
end CommandLink
