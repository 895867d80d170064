import QueryKernel.Error

/-!
Contract: the packed header of a string literal.

A header word carries the payload's offset in its upper half and the payload's
length in its lower half. Kernel code takes it apart with the same masks and
shift that are stated here.

Owns: packing, unpacking, and the masks.
-/

namespace QueryKernel.Literal

def offsetMask : UInt32 := 0xFFFF0000

def offsetShift : UInt32 := 16

def lengthMask : UInt32 := 0x0000FFFF

/-- Pack an offset and a length. Each must fit the half of a word; the offset is
checked first. -/
def packHeader (offset length : Nat) : Except Error UInt32 :=
  if maximalStringField < offset then
    .error (.bound (.payloadOffset offset))
  else if maximalStringField < length then
    .error (.bound (.payloadLength length))
  else
    .ok (UInt32.ofNat offset <<< offsetShift ||| UInt32.ofNat length)

def unpackHeader (header : UInt32) : UInt16 × UInt16 :=
  (((header &&& offsetMask) >>> offsetShift).toUInt16, (header &&& lengthMask).toUInt16)

end QueryKernel.Literal
