import MembershipGrid.Text.Utf8

/-!
# Checksums

The cyclic redundancy check that closes a chunk and the Adler sum that closes a compressed stream.
-/

namespace MembershipGrid.Png

/-- One step of the division by the polynomial of the cyclic redundancy check. -/
def crcBit (remainder : UInt32) : UInt32 :=
  if remainder &&& 1 = 1 then (remainder >>> 1) ^^^ 0xedb88320 else remainder >>> 1

def crcByte (remainder : UInt32) (byte : UInt8) : UInt32 :=
  Nat.repeat crcBit 8 (remainder ^^^ byte.toUInt32)

def crc (bytes : Bytes) : UInt32 := (bytes.foldl crcByte 0xffffffff) ^^^ 0xffffffff

/-- Takes a byte into the two sums of the Adler checksum. -/
def adlerByte (sums : Nat × Nat) (byte : UInt8) : Nat × Nat :=
  let low := (sums.1 + byte.toNat) % 65521
  (low, (sums.2 + low) % 65521)

def adler (bytes : Bytes) : Nat :=
  let sums := bytes.foldl adlerByte (1, 0)
  sums.2 * 65536 + sums.1

end MembershipGrid.Png
