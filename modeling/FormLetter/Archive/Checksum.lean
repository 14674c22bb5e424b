/-!
# Checksums

The sum that an archive keeps for the content of each entry. It is the remainder of the content,
read as a polynomial over the two-element field, by one fixed polynomial of degree 32. The bits of
every byte are taken from the least significant one on, so the polynomial is written in reverse.
-/

namespace FormLetter.Archive

/-- The polynomial without its highest term, in reverse. -/
def polynomial : UInt32 := 0xEDB88320

/-- The sum after one more zero bit. -/
def addBit (sum : UInt32) : UInt32 :=
  if sum &&& 1 == 0 then sum >>> 1 else (sum >>> 1) ^^^ polynomial

/-- The sum after one more byte. -/
def addByte (sum : UInt32) (byte : UInt8) : UInt32 :=
  Nat.repeat addBit 8 (sum ^^^ byte.toUInt32)

/-- The sum of some bytes. It begins with all bits set and is inverted at the end, so that zero
bytes at either end count. -/
def checksum (bytes : ByteArray) : UInt32 :=
  bytes.foldl addByte 0xFFFFFFFF ^^^ 0xFFFFFFFF

end FormLetter.Archive
