import QueryKernel.Number.Shortest

/-!
Contract: floating words as bits, their comparison, and their decimal text.

Owns:
- the two word types, which keep every bit of every NaN;
- the interchange layout (sign, biased exponent, fraction) and its decoding;
- comparison by value, in which a NaN differs from itself and the zeros agree;
- the two decimal texts, plain and marked.

Does not own: arithmetic. No operation of the library computes with reals.
-/

namespace QueryKernel.Number

/-- A float of 32 bits, known by its bits. -/
structure Real32 where
  bits : UInt32
deriving DecidableEq, Repr

structure Real64 where
  bits : UInt64
deriving DecidableEq, Repr

/-- Widths of the fields of an interchange layout, below the sign bit. -/
structure RealLayout where
  fractionBits : Nat
  exponentBits : Nat
deriving DecidableEq, Repr

/-- The layout of 32 bits. -/
def RealLayout.single : RealLayout := ⟨23, 8⟩

/-- The layout of 64 bits. -/
def RealLayout.wide : RealLayout := ⟨52, 11⟩

/-- What a word denotes: a finite magnitude is `significand × 2 ^ exponent`. -/
inductive RealValue where
  | nan
  | infinite (negative : Bool)
  | finite (negative : Bool) (significand : Nat) (exponent : Int) (lowest : Bool)
deriving DecidableEq, Repr

/-- Decode a word. `lowest` marks the first word of a binade above the least
one, whose lower neighbour is only half a step away. -/
def RealLayout.decode (layout : RealLayout) (word : Nat) : RealValue :=
  let fraction := word % 2 ^ layout.fractionBits
  let biased := word / 2 ^ layout.fractionBits % 2 ^ layout.exponentBits
  let negative := word / 2 ^ (layout.fractionBits + layout.exponentBits) % 2 == 1
  let bias : Int := 2 ^ (layout.exponentBits - 1) - 1 + layout.fractionBits
  if biased = 2 ^ layout.exponentBits - 1 then
    if fraction = 0 then .infinite negative else .nan
  else if biased = 0 then
    .finite negative fraction (1 - bias) false
  else
    .finite negative (2 ^ layout.fractionBits + fraction) (biased - bias)
      (fraction == 0 && 1 < biased)

/-- The reals that round to `significand × 2 ^ exponent`. -/
def neighbourhood (significand : Nat) (exponent : Int) (lowest : Bool) : Neighbourhood :=
  let quarters := exponent - 2
  let scale := 2 ^ quarters.toNat
  { lower := (4 * significand - if lowest then 1 else 2) * scale
    value := 4 * significand * scale
    upper := (4 * significand + 2) * scale
    denominator := 2 ^ (-quarters).toNat
    closed := significand % 2 == 0 }

/-- How the digits of a real are laid out. -/
structure RealStyle where
  /-- Whole numbers keep a point and a zero. -/
  keepsPoint : Bool
  /-- Leading exponents that are written without an exponent part. -/
  positional : Int → Bool

/-- All digits in place, whole numbers without a point. -/
def RealStyle.plain : RealStyle := ⟨false, fun _ => true⟩

/-- A point in every number, and an exponent part outside `[10⁻⁴, 10¹⁶)`. -/
def RealStyle.marked : RealStyle := ⟨true, fun leading => -4 ≤ leading && leading < 16⟩

/-- Digits with the decimal point in its place. -/
def Decimal.positionalText (keepsPoint : Bool) (number : Decimal) : String :=
  let digits := Nat.toDigits 10 number.coefficient
  let shift := (-number.exponent).toNat
  if 0 ≤ number.exponent then
    String.ofList (digits ++ List.replicate number.exponent.toNat '0') ++
      if keepsPoint then ".0" else ""
  else if shift < digits.length then
    String.ofList (digits.take (digits.length - shift)) ++ "." ++
      String.ofList (digits.drop (digits.length - shift))
  else
    "0." ++ String.ofList (List.replicate (shift - digits.length) '0' ++ digits)

/-- One digit before the point, and the exponent of that digit. -/
def Decimal.scientificText (number : Decimal) : String :=
  let digits := Nat.toDigits 10 number.coefficient
  let leading := number.exponent + digits.length - 1
  let rest := digits.drop 1
  String.ofList (digits.take 1) ++
    (if rest.isEmpty then "" else "." ++ String.ofList rest) ++
    "e" ++ toString leading

def Decimal.text (style : RealStyle) (number : Decimal) : String :=
  if style.positional (number.exponent + digitCount number.coefficient - 1) then
    number.positionalText style.keepsPoint
  else
    number.scientificText

/-- The text of a decoded word. The sign of a zero is written, that of a NaN is
not. -/
def RealValue.text (style : RealStyle) : RealValue → String
  | .nan => "NaN"
  | .infinite negative => if negative then "-inf" else "inf"
  | .finite negative significand exponent lowest =>
      (if negative then "-" else "") ++
        if significand = 0 then
          if style.keepsPoint then "0.0" else "0"
        else
          (neighbourhood significand exponent lowest).shortest.text style

/-- Equality by value: no NaN equals anything, and the two zeros are equal. -/
def RealLayout.sameValue (layout : RealLayout) (left right : Nat) : Bool :=
  match layout.decode left, layout.decode right with
  | .nan, _ => false
  | _, .nan => false
  | .finite _ 0 _ _, .finite _ 0 _ _ => true
  | _, _ => left == right

namespace Real32

def text (real : Real32) : String :=
  (RealLayout.single.decode real.bits.toNat).text .plain

def markedText (real : Real32) : String :=
  (RealLayout.single.decode real.bits.toNat).text .marked

def sameValue (left right : Real32) : Bool :=
  RealLayout.single.sameValue left.bits.toNat right.bits.toNat

end Real32

namespace Real64

def text (real : Real64) : String :=
  (RealLayout.wide.decode real.bits.toNat).text .plain

def markedText (real : Real64) : String :=
  (RealLayout.wide.decode real.bits.toNat).text .marked

def sameValue (left right : Real64) : Bool :=
  RealLayout.wide.sameValue left.bits.toNat right.bits.toNat

end Real64

end QueryKernel.Number
