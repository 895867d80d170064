import QueryKernel.Literal.Header
import QueryKernel.Proofs.Number.Shifts

/-!
Contract: stored words read back.

Owns:
- the inverse of writing a number as bytes;
- sign extension of a word that was stored in 8, 16, 32 or 64 bits, or that fits the width;
- the masks and the shift of kernel code on a packed header, for every header.

Does not own: where in an image a word lies.
-/

namespace QueryKernel.Number

/-! ### Bytes -/

@[simp] theorem littleEndian_length (count value : Nat) :
    (littleEndian count value).length = count := by
  induction count generalizing value with
  | zero => rfl
  | succ count inductionHypothesis => simp [littleEndian, inductionHypothesis]

theorem ofLittleEndian_littleEndian (count value : Nat) :
    ofLittleEndian (littleEndian count value) = value % 256 ^ count := by
  induction count generalizing value with
  | zero => simp [littleEndian, ofLittleEndian, Nat.mod_one]
  | succ count inductionHypothesis =>
      have lowest : (UInt8.ofNat (value % 256)).toNat = value % 256 := by simp
      rw [littleEndian, ofLittleEndian, inductionHypothesis, lowest, Nat.pow_succ,
        Nat.mul_comm (256 ^ count), Nat.mod_mul]

/-- A number that fits the bytes it is written in is read back. -/
theorem ofLittleEndian_littleEndian_of_lt {count value : Nat} (fits : value < 256 ^ count) :
    ofLittleEndian (littleEndian count value) = value := by
  rw [ofLittleEndian_littleEndian, Nat.mod_eq_of_lt fits]

theorem ofLittleEndian_lt (bytes : List UInt8) : ofLittleEndian bytes < 256 ^ bytes.length := by
  induction bytes with
  | nil => exact Nat.one_pos
  | cons byte rest inductionHypothesis =>
      have low : byte.toNat < 256 := byte.toNat_lt
      rw [ofLittleEndian, List.length_cons, Nat.pow_succ]
      omega

/-- Bytes that are read as a number are the bytes that the number is written in. -/
theorem littleEndian_ofLittleEndian (bytes : List UInt8) :
    littleEndian bytes.length (ofLittleEndian bytes) = bytes := by
  induction bytes with
  | nil => rfl
  | cons byte rest inductionHypothesis =>
      have low : byte.toNat < 256 := byte.toNat_lt
      have lowest : (byte.toNat + 256 * ofLittleEndian rest) % 256 = byte.toNat := by omega
      have others : (byte.toNat + 256 * ofLittleEndian rest) / 256 = ofLittleEndian rest := by omega
      rw [List.length_cons, ofLittleEndian, littleEndian, lowest, others, inductionHypothesis,
        UInt8.ofNat_toNat]

/-! ### Sign extension -/

theorem toInt_ofNat_of_lt_two_pow {width value : Nat} (narrow : width < 64)
    (fits : value < 2 ^ width) : (Int64.ofNat value).toInt = value := by
  have bound : (2 : Nat) ^ width ≤ 2 ^ 63 := Nat.pow_le_pow_right (by decide) (by omega)
  exact Int64.toInt_ofNat_of_lt (by omega)

/-- The signed reading of a pattern of fewer than 64 bits. -/
theorem signExtend_pattern {width : Nat} (wide : 1 < width) (narrow : width < 64)
    (pattern : BitVec width) :
    signExtend width (Int64.ofNat pattern.toNat) = Int64.ofInt pattern.toInt := by
  have value : (Int64.ofNat pattern.toNat).toInt = (pattern.toNat : Int) :=
    toInt_ofNat_of_lt_two_pow narrow pattern.isLt
  rw [← Int64.ofInt_toInt (signExtend width _), toInt_signExtend wide narrow, value,
    BitVec.toInt_eq_toNat_bmod]

theorem signExtend_int8 (value : Int8) :
    signExtend 8 (Int64.ofNat value.toUInt8.toNat) = value.toInt64 := by
  have reading : signExtend 8 (Int64.ofNat value.toUInt8.toNat) = Int64.ofInt value.toInt :=
    signExtend_pattern (by decide) (by decide) value.toBitVec
  rw [reading, ← Int8.toInt_toInt64, Int64.ofInt_toInt]

theorem signExtend_int16 (value : Int16) :
    signExtend 16 (Int64.ofNat value.toUInt16.toNat) = value.toInt64 := by
  have reading : signExtend 16 (Int64.ofNat value.toUInt16.toNat) = Int64.ofInt value.toInt :=
    signExtend_pattern (by decide) (by decide) value.toBitVec
  rw [reading, ← Int16.toInt_toInt64, Int64.ofInt_toInt]

theorem signExtend_int32 (value : Int32) :
    signExtend 32 (Int64.ofNat value.toUInt32.toNat) = value.toInt64 := by
  have reading : signExtend 32 (Int64.ofNat value.toUInt32.toNat) = Int64.ofInt value.toInt :=
    signExtend_pattern (by decide) (by decide) value.toBitVec
  rw [reading, ← Int32.toInt_toInt64, Int64.ofInt_toInt]

theorem signExtend_int64 (value : Int64) :
    signExtend 64 (Int64.ofNat value.toUInt64.toNat) = value := by
  rw [signExtend, if_neg (by decide), if_pos (by decide)]
  refine Int64.toBitVec.inj ?_
  change BitVec.ofNat 64 value.toBitVec.toNat = value.toBitVec
  rw [BitVec.ofNat_toNat, BitVec.setWidth_eq]

/-- A number that fits a width is its own representative around zero. -/
theorem bmod_of_fits {value : Int} {width : Nat} (positive : 0 < width)
    (lower : -2 ^ (width - 1) ≤ value) (upper : value ≤ 2 ^ (width - 1) - 1) :
    value.bmod (2 ^ width) = value := by
  have cast : ((2 ^ (width - 1) : Nat) : Int) = 2 ^ (width - 1) := by simp
  rw [two_pow_eq_double positive]
  exact Int.bmod_eq_of_le (by omega) (by omega)

/-- A word that fits a width is its own sign extension. -/
theorem signExtend_of_fits {value : Int64} {width : Nat} (wide : 1 < width)
    (lower : -2 ^ (width - 1) ≤ value.toInt) (upper : value.toInt ≤ 2 ^ (width - 1) - 1) :
    signExtend width value = value := by
  by_cases narrow : width < 64
  · rw [← Int64.toInt_inj, toInt_signExtend wide narrow, bmod_of_fits (by omega) lower upper]
  · exact signExtend_of_outer (.inr (by omega)) value

/-- A small natural number is its own sign extension. -/
theorem signExtend_ofNat {width value : Nat} (wide : 1 < width) (narrow : width ≤ 64)
    (fits : value < 2 ^ (width - 1)) :
    signExtend width (Int64.ofNat value) = Int64.ofNat value := by
  have exact : (Int64.ofNat value).toInt = (value : Int) :=
    @toInt_ofNat_of_lt_two_pow (width - 1) value (by omega) fits
  have bounded : (value : Int) < 2 ^ (width - 1) := by exact_mod_cast fits
  exact signExtend_of_fits wide (by omega) (by omega)

/-- Sign extension keeps the low bits. -/
theorem unsignedPattern_signExtend {width : Nat} (wide : 1 < width) (narrow : width < 64)
    (value : Int64) :
    unsignedPattern width (signExtend width value) = unsignedPattern width value := by
  have bits : ((signExtend width value).toBitVec.toNat % 2 ^ width : Nat) =
      ((value.toBitVec.toNat % 2 ^ width : Nat) : Int) := by
    rw [← toInt_emod_two_pow (by omega), toInt_signExtend wide narrow, Int.bmod_emod,
      toInt_emod_two_pow (by omega)]
  apply UInt64.toNat_inj.mp
  rw [unsignedPattern_eq_mod (by omega), unsignedPattern_eq_mod (by omega)]
  exact_mod_cast bits

end QueryKernel.Number

namespace QueryKernel.Literal

open QueryKernel.Number

/-! ### Packed headers -/

/-- Packing keeps the offset in the upper half and the length in the lower half. -/
theorem packHeader_toNat {offset length : Nat} {header : UInt32}
    (packed : packHeader offset length = .ok header) :
    offset ≤ maximalStringField ∧ length ≤ maximalStringField ∧
      header.toNat = offset * 2 ^ 16 + length := by
  unfold packHeader at packed
  split at packed
  · contradiction
  split at packed
  · contradiction
  rename_i offsetFits lengthFits
  simp only [maximalStringField, not_lt] at offsetFits lengthFits
  cases packed
  refine ⟨offsetFits, lengthFits, ?_⟩
  have shifted : (UInt32.ofNat offset <<< offsetShift).toNat = offset <<< 16 := by
    have small : offset <<< 16 < 2 ^ 32 := by rw [Nat.shiftLeft_eq]; omega
    rw [UInt32.toNat_shiftLeft,
      UInt32.toNat_ofNat_of_lt' (Nat.lt_of_le_of_lt offsetFits (by decide))]
    exact Nat.mod_eq_of_lt small
  rw [UInt32.toNat_or, shifted,
    UInt32.toNat_ofNat_of_lt' (Nat.lt_of_le_of_lt lengthFits (by decide)),
    ← Nat.shiftLeft_add_eq_or_of_lt (by omega), Nat.shiftLeft_eq]

private theorem masked_upper {word : Nat} (bound : word < 2 ^ 32) :
    (word &&& 4294901760) >>> 16 = word / 2 ^ 16 := by
  have ones : (4294901760 : Nat) >>> 16 = 2 ^ 16 - 1 := by decide
  rw [Nat.shiftRight_and_distrib, Nat.shiftRight_eq_div_pow, ones,
    Nat.and_two_pow_sub_one_eq_mod, Nat.mod_eq_of_lt (by omega)]

theorem unpackHeader_toNat (header : UInt32) :
    (unpackHeader header).1.toNat = header.toNat / 2 ^ 16 ∧
      (unpackHeader header).2.toNat = header.toNat % 2 ^ 16 := by
  have bound := header.toNat_lt
  have lower : header.toNat &&& 65535 = header.toNat % 2 ^ 16 :=
    Nat.and_two_pow_sub_one_eq_mod header.toNat 16
  constructor
  · rw [unpackHeader, UInt32.toNat_toUInt16, UInt32.toNat_shiftRight, UInt32.toNat_and]
    change (header.toNat &&& 4294901760) >>> 16 % 2 ^ 16 = _
    rw [masked_upper bound, Nat.mod_eq_of_lt (by omega)]
  · rw [unpackHeader, UInt32.toNat_toUInt16, UInt32.toNat_and]
    change (header.toNat &&& 65535) % 2 ^ 16 = _
    rw [lower, Nat.mod_mod]

/-- Unpacking undoes packing. -/
theorem unpackHeader_packHeader {offset length : Nat} {header : UInt32}
    (packed : packHeader offset length = .ok header) :
    (unpackHeader header).1.toNat = offset ∧ (unpackHeader header).2.toNat = length := by
  obtain ⟨offsetFits, lengthFits, word⟩ := packHeader_toNat packed
  obtain ⟨upper, lower⟩ := unpackHeader_toNat header
  simp only [maximalStringField] at offsetFits lengthFits
  rw [upper, lower, word]
  omega

/-- Packing succeeds where both parts fit a half of a word. -/
theorem packHeader_eq_ok_iff {offset length : Nat} :
    (∃ header, packHeader offset length = .ok header) ↔
      offset ≤ maximalStringField ∧ length ≤ maximalStringField := by
  constructor
  · rintro ⟨header, packed⟩
    rcases packHeader_toNat packed with ⟨offsetFits, lengthFits, -⟩
    exact ⟨offsetFits, lengthFits⟩
  · rintro ⟨offsetFits, lengthFits⟩
    rw [packHeader, if_neg (Nat.not_lt.mpr offsetFits), if_neg (Nat.not_lt.mpr lengthFits)]
    exact ⟨_, rfl⟩

/-- Packing undoes unpacking, for every header. -/
theorem packHeader_unpackHeader (header : UInt32) :
    packHeader (unpackHeader header).1.toNat (unpackHeader header).2.toNat = .ok header := by
  have fits : ∀ part : UInt16, part.toNat ≤ maximalStringField := by
    intro part
    exact Nat.le_of_lt_succ part.toNat_lt
  rcases packHeader_eq_ok_iff.mpr ⟨fits (unpackHeader header).1, fits (unpackHeader header).2⟩ with
    ⟨again, packed⟩
  rcases packHeader_toNat packed with ⟨-, -, word⟩
  rcases unpackHeader_toNat header with ⟨upper, lower⟩
  have same : again.toNat = header.toNat := by
    rw [word, upper, lower]
    exact Nat.div_add_mod' header.toNat (2 ^ 16)
  rw [packed, UInt32.toNat_inj.mp same]

/-- A header as kernel code loads it: a word of 32 bits with its sign. -/
def loadedHeader (header : UInt32) : Int64 := signExtend 32 (Int64.ofNat header.toNat)

theorem loadedHeader_pattern (header : UInt32) :
    (loadedHeader header).toBitVec.toNat % 2 ^ 32 = header.toNat := by
  have bound := header.toNat_lt
  have stored : (Int64.ofNat header.toNat).toBitVec.toNat = header.toNat := by
    change header.toNat % 2 ^ 64 = header.toNat
    exact Nat.mod_eq_of_lt (by omega)
  rw [← unsignedPattern_eq_mod (by decide), loadedHeader,
    unsignedPattern_signExtend (by decide) (by decide), unsignedPattern_eq_mod (by decide), stored,
    Nat.mod_eq_of_lt bound]

theorem toBitVec_toNat_and (left right : Int64) :
    (left &&& right).toBitVec.toNat = left.toBitVec.toNat &&& right.toBitVec.toNat := by
  rw [Int64.toBitVec_and, BitVec.toNat_and]

/-- The mask and the shift of kernel code take the offset out of every header, also out
of one whose top bit is set. -/
theorem header_distance (header : UInt32) :
    wordShiftRight 32
        (wordAnd 32 (loadedHeader header) (signExtend 32 (Int64.ofNat offsetMask.toNat)))
        (signExtend 32 (Int64.ofNat offsetShift.toNat)) =
      Int64.ofNat (unpackHeader header).1.toNat := by
  have mask : signExtend 32 (Int64.ofNat offsetMask.toNat) = -65536 := by decide
  have shift : (signExtend 32 (Int64.ofNat offsetShift.toNat)).toUInt64.toNat % 64 = 16 := by decide
  have bound := header.toNat_lt
  have kept : (loadedHeader header &&& -65536).toBitVec.toNat % 2 ^ 32 =
      header.toNat &&& 4294901760 := by
    rw [toBitVec_toNat_and, Nat.and_mod_two_pow, loadedHeader_pattern]
    rfl
  rw [wordShiftRight_eq, wordAnd, mask, shift, unsignedPattern_signExtend (by decide) (by decide),
    unsignedPattern_eq_mod (by decide), kept, masked_upper bound, (unpackHeader_toNat header).1,
    signExtend_ofNat (by decide) (by decide) (by omega)]

/-- The mask of kernel code takes the length out of every header. -/
theorem header_length (header : UInt32) :
    wordAnd 32 (loadedHeader header) (signExtend 32 (Int64.ofNat lengthMask.toNat)) =
      Int64.ofNat (unpackHeader header).2.toNat := by
  have mask : signExtend 32 (Int64.ofNat lengthMask.toNat) = 65535 := by decide
  have low : ((2 ^ 16 : Nat)) ∣ 2 ^ 32 := by decide
  have kept : loadedHeader header &&& 65535 = Int64.ofNat (header.toNat % 2 ^ 16) := by
    refine Int64.toBitVec.inj (BitVec.eq_of_toNat_eq ?_)
    have masked : (loadedHeader header).toBitVec.toNat &&& (65535 : Int64).toBitVec.toNat =
        (loadedHeader header).toBitVec.toNat % 2 ^ 16 := Nat.and_two_pow_sub_one_eq_mod _ 16
    rw [toBitVec_toNat_and, masked, ← Nat.mod_mod_of_dvd _ low, loadedHeader_pattern]
    exact (Nat.mod_eq_of_lt (by omega)).symm
  rw [wordAnd, mask, kept, (unpackHeader_toNat header).2,
    signExtend_ofNat (by decide) (by decide) (by omega)]

end QueryKernel.Literal
