import QueryKernel.Literal.Header

/-!
Contract: the literals of one device and the bytes a kernel reads them from.

Literals lie in registration order, each at the least offset after its
predecessor that is a multiple of its own width. A string occupies a header in
this region; its bytes follow behind the region, in registration order.

Owns:
- literals, their widths and their slots;
- registration without duplicates;
- the byte image.

Does not own: which literal a constant becomes, or the code that reads it.
-/

namespace QueryKernel

open QueryKernel.Number (Real32 Real64 littleEndian)

/-- A value in a literal region. Floats are told apart by their bits, so a NaN
is found again and the two zeros are different literals. -/
inductive Literal where
  | bool (value : Bool)
  | int8 (value : Int8)
  | int16 (value : Int16)
  | int32 (value : Int32)
  | int64 (value : Int64)
  | float (value : Real32)
  | double (value : Real64)
  | text (value : String)
deriving DecidableEq, Repr

namespace Literal

/-- Bytes a literal occupies in the region, which is also its alignment. -/
def width : Literal → Nat
  | .bool _ | .int8 _ => 1
  | .int16 _ => 2
  | .int32 _ | .float _ | .text _ => 4
  | .int64 _ | .double _ => 8

/-- Bytes a literal places behind the region. -/
def payload : Literal → List UInt8
  | .text value => value.toUTF8.data.toList
  | _ => []

def payloadSize : Literal → Nat
  | .text value => value.utf8ByteSize
  | _ => 0

def payloadsSize : List Literal → Nat
  | [] => 0
  | literal :: rest => literal.payloadSize + payloadsSize rest

/-- The bytes of a literal's slot, given where its payload begins. -/
def slot (payloadOffset : Nat) : Literal → Except Error (List UInt8)
  | .bool value => .ok [if value then 1 else 0]
  | .int8 value => .ok (littleEndian 1 value.toUInt8.toNat)
  | .int16 value => .ok (littleEndian 2 value.toUInt16.toNat)
  | .int32 value => .ok (littleEndian 4 value.toUInt32.toNat)
  | .int64 value => .ok (littleEndian 8 value.toUInt64.toNat)
  | .float value => .ok (littleEndian 4 value.bits.toNat)
  | .double value => .ok (littleEndian 8 value.bits.toNat)
  | .text value => do
      let header ← packHeader payloadOffset value.utf8ByteSize
      return littleEndian 4 header.toNat

/-- The end of a slot of `alignment` bytes that is placed after `offset`, at a
multiple of its size. -/
def alignedEnd (offset alignment : Nat) : Nat :=
  (if offset % alignment = 0 then offset else offset + (alignment - offset % alignment)) +
    alignment

/-- The end of an aligned slot, where the size allows alignment at all and the end
fits a 64-bit word. -/
def alignedEnd? (offset alignment : Nat) : Option Nat :=
  let stop := alignedEnd offset alignment
  if alignment = 0 ∨ 2 ^ 64 ≤ stop then none else some stop

/-- Literals with the offsets of their slots, for a region filled up to
`filled`. -/
def place (filled : Nat) : List Literal → List (Nat × Literal)
  | [] => []
  | literal :: rest =>
      let stop := alignedEnd filled literal.width
      (stop - literal.width, literal) :: place stop rest

/-- The slot offset of a literal that is already in the region. -/
def offsetAfter (filled : Nat) (sought : Literal) : List Literal → Option Nat
  | [] => none
  | literal :: rest =>
      let stop := alignedEnd filled literal.width
      if literal = sought then some (stop - literal.width)
      else offsetAfter stop sought rest

/-- The bytes of a region from `filled` on, and the payloads behind it from
`cursor` on. The first string whose header cannot be packed decides the
failure. -/
def image (filled cursor : Nat) :
    List Literal → Except Error (List UInt8 × List UInt8)
  | [] => .ok ([], [])
  | literal :: rest => do
      let stop := alignedEnd filled literal.width
      let padding := List.replicate (stop - literal.width - filled) 0
      let slot ← literal.slot cursor
      let (region, payloads) ← image stop (cursor + literal.payload.length) rest
      return (padding ++ slot ++ region, literal.payload ++ payloads)

/-- The number of bytes that one allocation of a 64-bit machine can hold. -/
def maximalImage : Nat := 2 ^ 63 - 1

/-- The literals registered for one device. -/
structure Buffer where
  literals : List Literal := []
  watermark : Nat := 0
deriving DecidableEq, Repr

namespace Buffer

/-- The slot offset of a literal, which is registered behind the others if it
is new. -/
def add (buffer : Buffer) (literal : Literal) : Nat × Buffer :=
  match offsetAfter 0 literal buffer.literals with
  | some offset => (offset, buffer)
  | none =>
      let stop := alignedEnd buffer.watermark literal.width
      (stop - literal.width, ⟨buffer.literals ++ [literal], stop⟩)

def entries (buffer : Buffer) : List (Nat × Literal) :=
  place 0 buffer.literals

/-- Number of bytes of the image: the region and the string payloads. -/
def imageSize (buffer : Buffer) : Nat :=
  buffer.watermark + payloadsSize buffer.literals

/-- The bytes a kernel reads: the region, then the string payloads. Room for all of
them is requested before the first one is written. -/
def serialize (buffer : Buffer) : Except Error (Array UInt8) := do
  if maximalImage < buffer.imageSize then
    .error .overrun
  else
    let (region, payloads) ← image 0 buffer.watermark buffer.literals
    return (region ++ payloads).toArray

end Buffer

end Literal

end QueryKernel
