import CommandLink.Octets

/-! # The 16-bit checksum of a packet

A cyclic redundancy check with generator x¹⁶ + x¹² + x⁵ + 1, most significant bit first, from a
register of zero, without reflection or final inversion. -/

namespace CommandLink
namespace Crc16

/-- The generator without its leading term. -/
def generator : BitVec 16 := 0x1021

/-- Shifts the register by one bit, dividing by the generator. -/
def shift (r : BitVec 16) : BitVec 16 :=
  if r.msb then (r <<< 1) ^^^ generator else r <<< 1

/-- The register after eight shifts. -/
def shift8 (r : BitVec 16) : BitVec 16 :=
  shift (shift (shift (shift (shift (shift (shift (shift r)))))))

/-- Takes one octet into the register. -/
def step (r : BitVec 16) (b : UInt8) : BitVec 16 :=
  shift8 (r ^^^ (b.toBitVec.setWidth 16 <<< 8))

/-- The register after an octet string. -/
def register (octets : Octets) : BitVec 16 := octets.foldl step 0

/-- The checksum of an octet string. -/
def checksum (octets : Octets) : UInt16 := ⟨register octets⟩

/-- The check value of the code, taken over the digits from 1 to 9. -/
example : checksum [0x31, 0x32, 0x33, 0x34, 0x35, 0x36, 0x37, 0x38, 0x39] = 0x31C3 := by
  decide +kernel

end Crc16
end CommandLink
