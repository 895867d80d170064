/-!
Contract: integers of a given width inside 64-bit words.

A word of width `w` is kept sign-extended: it is the representative of its
residue modulo `2 ^ w` that lies in `[-2 ^ (w - 1), 2 ^ (w - 1))`. Width one is
a truth value and is kept as zero or one. Width zero and the widths from 64 up
leave the word as it is.

Owns: sign extension, the unsigned pattern of a word, and the operations on
words of one width.
-/

namespace QueryKernel.Number

-- Powers are those of the core library, also where other monoids are known.
@[default_instance 30000]
instance (priority := 5000) naturalPower : Pow Nat Nat := instPowNat

@[default_instance 20000]
instance (priority := 5000) integerPower : Pow Int Nat := instPowNat

/-- Sign extension at a width. The low bits are shifted up until the highest of them
is the sign of the word, and back with that sign. -/
def signExtend (width : Nat) (value : Int64) : Int64 :=
  -- A single bit is a truth value and has no sign.
  if width = 1 then
    (value.toUInt64 &&& 1).toInt64
  else if width = 0 ∨ 64 ≤ width then
    value
  else
    let distance := 64 - width
    (value.toUInt64 <<< UInt64.ofNat distance).toInt64 >>> Int64.ofNat distance

/-- The word whose low bits are ones, as many as the width has. -/
def widthMask (width : Nat) : UInt64 :=
  if 64 ≤ width then 0xFFFFFFFFFFFFFFFF else (1 <<< UInt64.ofNat width) - 1

/-- The low bits of a word, read as an unsigned number. -/
def unsignedPattern (width : Nat) (value : Int64) : UInt64 :=
  value.toUInt64 &&& widthMask width

def wordAnd (width : Nat) (left right : Int64) : Int64 :=
  signExtend width (left &&& right)

/-- Logical shift to the right at a width: zeros enter from above. Amounts count
modulo 64. -/
def wordShiftRight (width : Nat) (value amount : Int64) : Int64 :=
  signExtend width (unsignedPattern width value >>> amount.toUInt64).toInt64

def wordGreater (left right : Int64) : Int64 :=
  if right < left then 1 else 0

/-- A natural number as bytes, least significant first. -/
def littleEndian : Nat → Nat → List UInt8
  | 0, _ => []
  | count + 1, n => UInt8.ofNat (n % 256) :: littleEndian count (n / 256)

def ofLittleEndian : List UInt8 → Nat
  | [] => 0
  | byte :: rest => byte.toNat + 256 * ofLittleEndian rest

end QueryKernel.Number
