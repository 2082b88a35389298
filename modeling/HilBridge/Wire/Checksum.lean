/-!
# `HilBridge.Wire.Checksum` — the cyclic redundancy check of frames

The check is the one of sixteen bits with the polynomial `x¹⁶ + x¹² + x⁵ + 1`, lowest bit first, that starts
from all ones and is not complemented at the end.
-/

namespace HilBridge.Wire

/-- Takes in one bit: the lowest bit leaves, and if it was set the polynomial is subtracted. -/
def shiftBit (crc : UInt16) : UInt16 :=
  if crc &&& 1 = 1 then (crc >>> 1) ^^^ 0x8408 else crc >>> 1

/-- Takes in one byte. -/
def updateChecksum (crc : UInt16) (byte : UInt8) : UInt16 :=
  (List.range 8).foldl (fun crc _ => shiftBit crc) (crc ^^^ byte.toUInt16)

/-- The check of some bytes. -/
def checksum (bytes : List UInt8) : UInt16 :=
  bytes.foldl updateChecksum 0xffff

end HilBridge.Wire
