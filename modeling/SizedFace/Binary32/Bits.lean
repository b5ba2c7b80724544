import SizedFace.Binary32.Basic

namespace SizedFace.Binary32

def ofBits (bits : Nat) : Binary32 :=
  let negative := bits.testBit 31
  let exponent := bits / 0x800000 % 0x100
  let fraction := bits % 0x800000
  if exponent = 255 then if fraction = 0 then .infinite negative else .nan
  else if exponent = 0 then ofUnits negative fraction 1
  else ofUnits negative ((0x800000 + fraction) * twoPow (exponent - 1)) 1

def toBits? : Binary32 → Option Nat
  | .nan => none
  | .infinite s => some (s.toNat * 0x80000000 + 255 * 0x800000)
  | .finite s u _ =>
    let magnitude := if u < 0x800000 then u
      else (u.log2 - 23 + 1) * 0x800000 + (u / unitStep u - 0x800000)
    some (s.toNat * 0x80000000 + magnitude)

end SizedFace.Binary32
