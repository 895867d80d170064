import QueryKernel.Proofs.Attempt
import QueryKernel.Proofs.Literal.Image

/-!
Contract: the byte image of a buffer is a faithful code of the buffer.

Owns:
- buffers that are filled by registrations only;
- the images of a list of literals and of its parts;
- when an image exists: the condition on the strings, and the failure without it;
- the main statement: a buffer is serialized exactly when its strings fit their headers, and the
  image gives back every literal, has its payloads behind the region, one behind the other and
  without a gap, and is zero where no slot is.

Does not own: how kernel code reads a slot.
-/

namespace QueryKernel.Literal

open QueryKernel.Number (littleEndian ofLittleEndian)

/-! ### Scalars -/

/-- The bits of a literal that has no payload, as a number. -/
def scalarBits : Literal → Option Nat
  | .bool value => some value.toNat
  | .int8 value => some value.toUInt8.toNat
  | .int16 value => some value.toUInt16.toNat
  | .int32 value => some value.toUInt32.toNat
  | .int64 value => some value.toUInt64.toNat
  | .float value => some value.bits.toNat
  | .double value => some value.bits.toNat
  | .text _ => none

/-- The slot of a scalar holds its bits. -/
theorem slot_of_scalar {literal : Literal} {bits : Nat} (scalar : literal.scalarBits = some bits)
    (cursor : Nat) :
    ∃ slot, literal.slot cursor = .ok slot ∧ ofLittleEndian slot = bits := by
  have stored : ∀ {count value : Nat}, value < 256 ^ count →
      ofLittleEndian (littleEndian count value) = value :=
    Number.ofLittleEndian_littleEndian_of_lt
  cases literal with
  | bool value =>
      cases scalar
      cases value <;> exact ⟨_, rfl, rfl⟩
  | int8 value =>
      cases scalar
      exact ⟨_, rfl, stored (UInt8.toNat_lt _)⟩
  | int16 value =>
      cases scalar
      exact ⟨_, rfl, stored (UInt16.toNat_lt _)⟩
  | int32 value =>
      cases scalar
      exact ⟨_, rfl, stored (UInt32.toNat_lt _)⟩
  | int64 value =>
      cases scalar
      exact ⟨_, rfl, stored (UInt64.toNat_lt _)⟩
  | float value =>
      cases scalar
      exact ⟨_, rfl, stored (UInt32.toNat_lt _)⟩
  | double value =>
      cases scalar
      exact ⟨_, rfl, stored (UInt64.toNat_lt _)⟩
  | text value => contradiction

/-! ### Slots and payloads of the parts of a list -/

theorem payloadsSize_append (front back : List Literal) :
    payloadsSize (front ++ back) = payloadsSize front + payloadsSize back := by
  induction front with
  | nil => rw [List.nil_append, payloadsSize, Nat.zero_add]
  | cons literal rest inductionHypothesis =>
      rw [List.cons_append, payloadsSize, payloadsSize, inductionHypothesis, Nat.add_assoc]

/-- The offset of a slot that is placed behind some literals. -/
def slotBehind (filled : Nat) (front : List Literal) (literal : Literal) : Nat :=
  alignedEnd (regionEnd filled front) literal.width - literal.width

/-- A slot is placed behind the literals before its own. -/
theorem mem_place_iff {filled offset : Nat} {literal : Literal} {literals : List Literal} :
    (offset, literal) ∈ place filled literals ↔
      ∃ front back, literals = front ++ literal :: back ∧
        offset = slotBehind filled front literal := by
  constructor
  · intro member
    induction literals generalizing filled with
    | nil => contradiction
    | cons head rest inductionHypothesis =>
        rcases List.mem_cons.mp member with here | later
        · cases here
          exact ⟨[], rest, rfl, rfl⟩
        · rcases inductionHypothesis later with ⟨front, back, rfl, rfl⟩
          exact ⟨head :: front, back, rfl, rfl⟩
  · rintro ⟨front, back, rfl, rfl⟩
    rw [place_append]
    exact List.mem_append_right _ List.mem_cons_self

/-- The image of two parts is made of the images of the parts. -/
theorem image_append {filled cursor : Nat} {front back : List Literal}
    {region payloads : List UInt8}
    (written : image filled cursor (front ++ back) = .ok (region, payloads)) :
    ∃ frontRegion frontPayloads backRegion backPayloads,
      image filled cursor front = .ok (frontRegion, frontPayloads) ∧
      image (regionEnd filled front) (cursor + payloadsSize front) back =
        .ok (backRegion, backPayloads) ∧
      region = frontRegion ++ backRegion ∧ payloads = frontPayloads ++ backPayloads := by
  induction front generalizing filled cursor region payloads with
  | nil => exact ⟨[], [], region, payloads, rfl, written, rfl, rfl⟩
  | cons literal rest inductionHypothesis =>
      rcases image_cons written with ⟨slot, others, behind, slotEq, restEq, rfl, rfl⟩
      rcases inductionHypothesis restEq with
        ⟨frontRegion, frontPayloads, backRegion, backPayloads, frontEq, backEq, rfl, rfl⟩
      refine ⟨_, _, backRegion, backPayloads, ?_, ?_, (List.append_assoc _ _ _).symm,
        (List.append_assoc _ _ _).symm⟩
      · rw [image, slotEq, frontEq]
        rfl
      · rw [payloadsSize, ← Nat.add_assoc, ← payload_length]
        exact backEq

theorem image_payloads_length {filled cursor : Nat} {literals : List Literal}
    {region payloads : List UInt8}
    (written : image filled cursor literals = .ok (region, payloads)) :
    payloads.length = payloadsSize literals := by
  induction literals generalizing filled cursor region payloads with
  | nil =>
      cases written
      rfl
  | cons literal rest inductionHypothesis =>
      rcases image_cons written with ⟨slot, others, behind, slotEq, restEq, -, rfl⟩
      rw [List.length_append, payload_length, inductionHypothesis restEq, payloadsSize]

/-- A literal in the middle has its slot and its payload in the middle. -/
theorem image_at {filled cursor : Nat} {front back : List Literal} {literal : Literal}
    {region payloads : List UInt8}
    (written : image filled cursor (front ++ literal :: back) = .ok (region, payloads)) :
    ∃ slot, literal.slot (cursor + payloadsSize front) = .ok slot ∧
      OccursAt region (slotBehind filled front literal - filled) slot ∧
      OccursAt payloads (payloadsSize front) literal.payload := by
  rcases image_append written with
    ⟨frontRegion, frontPayloads, backRegion, backPayloads, frontEq, backEq, rfl, rfl⟩
  rcases image_cons backEq with ⟨slot, others, behind, slotEq, -, rfl, rfl⟩
  have stop := image_region_length frontEq
  have room := le_alignedEnd (regionEnd filled front) literal.width
  refine ⟨slot, slotEq, ?_, frontPayloads, behind, (List.append_assoc _ _ _).symm,
    image_payloads_length frontEq⟩
  refine ⟨frontRegion ++ List.replicate (alignedEnd (regionEnd filled front) literal.width -
    literal.width - regionEnd filled front) 0, others, by simp only [List.append_assoc], ?_⟩
  rw [List.length_append, List.length_replicate, slotBehind]
  omega

/-- The bytes of a region that belong to no slot are zero. -/
theorem image_padding {filled cursor index : Nat} {literals : List Literal}
    {region payloads : List UInt8}
    (written : image filled cursor literals = .ok (region, payloads))
    (inside : index < region.length)
    (unused : ∀ offset literal, (offset, literal) ∈ place filled literals →
      filled + index < offset ∨ offset + literal.width ≤ filled + index) :
    region[index]? = some 0 := by
  induction literals generalizing filled cursor index region payloads with
  | nil =>
      cases written
      contradiction
  | cons literal rest inductionHypothesis =>
      rcases image_cons written with ⟨slot, others, behind, slotEq, restEq, rfl, -⟩
      have room := le_alignedEnd filled literal.width
      have outside := unused _ _ List.mem_cons_self
      set padding := alignedEnd filled literal.width - literal.width - filled with paddingEq
      rcases Nat.lt_or_ge index padding with early | late
      · rw [List.append_assoc, List.getElem?_append_left (by simpa using early)]
        exact List.getElem?_replicate_of_lt early
      · have whole : (List.replicate padding 0 ++ slot).length =
            alignedEnd filled literal.width - filled := by
          rw [List.length_append, List.length_replicate, slot_length slotEq]
          omega
        rw [List.length_append, whole] at inside
        rw [List.getElem?_append_right (by omega), whole]
        apply inductionHypothesis restEq (by omega)
        intro offset other member
        have distance : alignedEnd filled literal.width +
            (index - (alignedEnd filled literal.width - filled)) = filled + index := by
          omega
        rw [distance]
        exact unused offset other (List.mem_cons_of_mem _ member)

/-- Of two places in a list one comes before the other, unless they are the same. -/
theorem split_cases {literals front back otherFront otherBack : List Literal}
    {literal other : Literal} (split : literals = front ++ literal :: back)
    (otherSplit : literals = otherFront ++ other :: otherBack) :
    front = otherFront ∧ literal = other ∨
      (∃ middle, otherFront = front ++ literal :: middle) ∨
      ∃ middle, front = otherFront ++ other :: middle := by
  rcases List.append_eq_append_iff.mp (split.symm.trans otherSplit) with
    ⟨between, later, rest⟩ | ⟨between, later, rest⟩
  · cases between with
    | nil => exact .inl ⟨by rw [later, List.append_nil], (List.cons.inj rest).1⟩
    | cons head middle =>
        rw [(List.cons.inj rest).1]
        exact .inr (.inl ⟨middle, later⟩)
  · cases between with
    | nil => exact .inl ⟨by rw [later, List.append_nil], (List.cons.inj rest).1.symm⟩
    | cons head middle =>
        rw [(List.cons.inj rest).1]
        exact .inr (.inr ⟨middle, later⟩)

/-! ### When there is an image -/

/-- The string literals, with their payloads one behind the other from `cursor` on, fit their
headers. -/
def StringsFit (cursor : Nat) (literals : List Literal) : Prop :=
  ∀ front value back, literals = front ++ .text value :: back →
    value.utf8ByteSize ≤ maximalStringField ∧ cursor + payloadsSize front ≤ maximalStringField

/-- A slot can be written when a header can be packed. -/
theorem slot_cases (literal : Literal) (cursor : Nat) :
    (∃ slot, literal.slot cursor = .ok slot) ∧
        (∀ value, literal = .text value →
          value.utf8ByteSize ≤ maximalStringField ∧ cursor ≤ maximalStringField) ∨
      (∃ cause, literal.slot cursor = .error (.bound cause)) ∧
        ∃ value, literal = .text value ∧
          ¬ (value.utf8ByteSize ≤ maximalStringField ∧ cursor ≤ maximalStringField) := by
  cases literal with
  | text value =>
      simp only [Literal.slot, packHeader]
      split
      · rename_i far
        exact .inr ⟨⟨_, rfl⟩, value, rfl, fun fits => Nat.not_le_of_lt far fits.2⟩
      · rename_i near
        split
        · rename_i long
          exact .inr ⟨⟨_, rfl⟩, value, rfl, fun fits => Nat.not_le_of_lt long fits.1⟩
        · rename_i short
          refine .inl ⟨⟨_, rfl⟩, ?_⟩
          intro other same
          cases same
          exact ⟨Nat.le_of_not_lt short, Nat.le_of_not_lt near⟩
  | _ =>
      refine .inl ⟨⟨_, rfl⟩, fun value impossible => ?_⟩
      contradiction

theorem StringsFit.cons_iff {cursor : Nat} {literal : Literal} {rest : List Literal} :
    StringsFit cursor (literal :: rest) ↔
      (∀ value, literal = .text value →
        value.utf8ByteSize ≤ maximalStringField ∧ cursor ≤ maximalStringField) ∧
      StringsFit (cursor + literal.payload.length) rest := by
  constructor
  · intro fits
    constructor
    · rintro value rfl
      exact fits [] value rest rfl
    · rintro front value back rfl
      have later := fits (literal :: front) value back rfl
      rw [payloadsSize, ← Nat.add_assoc, ← payload_length] at later
      exact later
  · rintro ⟨first, others⟩ front value back split
    cases front with
    | nil =>
        cases split
        exact first value rfl
    | cons head front =>
        cases split
        rw [payloadsSize, ← Nat.add_assoc, ← payload_length]
        exact others front value back rfl

/-- Strings that fit end within two headers' reach. -/
theorem StringsFit.bound {cursor : Nat} {literals : List Literal}
    (fits : StringsFit cursor literals) :
    payloadsSize literals = 0 ∨ cursor + payloadsSize literals ≤ 2 * maximalStringField := by
  induction literals generalizing cursor with
  | nil => exact .inl rfl
  | cons literal rest inductionHypothesis =>
      rcases StringsFit.cons_iff.mp fits with ⟨first, others⟩
      have behind := inductionHypothesis others
      rw [payload_length] at behind
      rw [payloadsSize]
      cases literal with
      | text value =>
          have here := first value rfl
          change _ ∨ cursor + value.utf8ByteSize + _ ≤ _ at behind
          change value.utf8ByteSize + _ = 0 ∨ cursor + (value.utf8ByteSize + _) ≤ _
          omega
      | _ =>
          change _ ∨ cursor + 0 + _ ≤ _ at behind
          change 0 + _ = 0 ∨ cursor + (0 + _) ≤ _
          omega

/-- Literals have an image exactly when their strings fit, and otherwise a bound is reported. -/
theorem image_cases (filled cursor : Nat) (literals : List Literal) :
    (∃ region payloads, image filled cursor literals = .ok (region, payloads)) ∧
        StringsFit cursor literals ∨
      (∃ cause, image filled cursor literals = .error (.bound cause)) ∧
        ¬ StringsFit cursor literals := by
  induction literals generalizing filled cursor with
  | nil =>
      refine .inl ⟨⟨[], [], rfl⟩, ?_⟩
      intro front value back split
      cases front <;> contradiction
  | cons literal rest inductionHypothesis =>
      rw [StringsFit.cons_iff]
      rcases slot_cases literal cursor with
        ⟨⟨slot, slotEq⟩, fits⟩ | ⟨⟨cause, failed⟩, value, rfl, long⟩
      · rcases inductionHypothesis (alignedEnd filled literal.width)
          (cursor + literal.payload.length) with
          ⟨⟨region, payloads, restEq⟩, others⟩ | ⟨⟨cause, failed⟩, tooLong⟩
        · let padding := alignedEnd filled literal.width - literal.width - filled
          refine .inl ⟨⟨List.replicate padding 0 ++ slot ++ region,
            literal.payload ++ payloads, ?_⟩, fits, others⟩
          rw [image, slotEq, restEq]
          rfl
        · refine .inr ⟨⟨cause, ?_⟩, fun both => tooLong both.2⟩
          rw [image, slotEq, failed]
          rfl
      · refine .inr ⟨⟨cause, ?_⟩, fun both => long (both.1 value rfl)⟩
        rw [image, failed]
        rfl

namespace Buffer

/-- The buffer behind registrations. -/
def register (literals : List Literal) : Buffer :=
  literals.foldl (fun buffer literal => (buffer.add literal).2) {}

theorem register_wellFormed (literals : List Literal) : (register literals).WellFormed := by
  have kept : ∀ buffer : Buffer, buffer.WellFormed →
      (literals.foldl (fun buffer literal => (buffer.add literal).2) buffer).WellFormed := by
    induction literals with
    | nil => exact fun buffer wellFormed => wellFormed
    | cons literal rest inductionHypothesis =>
        intro buffer wellFormed
        exact inductionHypothesis _ (add_spec wellFormed literal).1
  exact kept {} .empty

/-- The literals of a buffer are those that were registered. -/
theorem mem_register {literals : List Literal} {literal : Literal} :
    literal ∈ (register literals).literals ↔ literal ∈ literals := by
  have behind : ∀ buffer : Buffer,
      literal ∈ (literals.foldl (fun buffer literal => (buffer.add literal).2) buffer).literals ↔
        literal ∈ buffer.literals ∨ literal ∈ literals := by
    induction literals with
    | nil => simp
    | cons head rest inductionHypothesis =>
        intro buffer
        rw [List.foldl_cons, inductionHypothesis, mem_add, List.mem_cons, or_assoc]
  rw [register, behind {}]
  simp

/-! ### Reading an image -/

/-- The begin and the length of a payload, as the header at an offset tells them. -/
def spanAt (bytes : Array UInt8) (offset : Nat) : Nat × Nat :=
  let word := UInt32.ofNat (ofLittleEndian (bytes.extract offset (offset + 4)).toList)
  ((unpackHeader word).1.toNat, (unpackHeader word).2.toNat)

/-- Bytes are an image from which a buffer can be read. -/
structure Decodes (buffer : Buffer) (bytes : Array UInt8) : Prop where
  size : bytes.size = buffer.watermark + payloadsSize buffer.literals
  slots : ∀ offset literal, (offset, literal) ∈ buffer.entries →
    offset + literal.width ≤ buffer.watermark
  scalars : ∀ offset literal bits, (offset, literal) ∈ buffer.entries →
    literal.scalarBits = some bits →
    ofLittleEndian (bytes.extract offset (offset + literal.width)).toList = bits
  texts : ∀ offset value, (offset, .text value) ∈ buffer.entries →
    buffer.watermark ≤ (spanAt bytes offset).1 ∧
      (spanAt bytes offset).1 + (spanAt bytes offset).2 ≤ bytes.size ∧
      bytes.extract (spanAt bytes offset).1
        ((spanAt bytes offset).1 + (spanAt bytes offset).2) = value.toUTF8.data
  disjoint : ∀ first firstValue second secondValue,
    (first, .text firstValue) ∈ buffer.entries → (second, .text secondValue) ∈ buffer.entries →
    (first, firstValue) ≠ (second, secondValue) →
    (spanAt bytes first).1 + (spanAt bytes first).2 ≤ (spanAt bytes second).1 ∨
      (spanAt bytes second).1 + (spanAt bytes second).2 ≤ (spanAt bytes first).1
  filled : ∀ index, buffer.watermark ≤ index → index < bytes.size →
    ∃ offset value, (offset, .text value) ∈ buffer.entries ∧
      (spanAt bytes offset).1 ≤ index ∧
      index < (spanAt bytes offset).1 + (spanAt bytes offset).2
  padding : ∀ index, index < buffer.watermark →
    (∀ offset literal, (offset, literal) ∈ buffer.entries →
      index < offset ∨ offset + literal.width ≤ index) →
    bytes[index]? = some 0

/-- The part that stands at an offset is extracted. -/
theorem extract_of_occursAt {bytes : Array UInt8} {part : List UInt8} {offset : Nat}
    (occurs : OccursAt bytes.toList offset part) :
    (bytes.extract offset (offset + part.length)).toList = part := by
  rcases occurs with ⟨front, back, contents, rfl⟩
  rw [Array.toList_extract, contents]
  simp [List.extract_eq_take_drop]

/-- A payload byte belongs to one of the strings. -/
theorem exists_payload_at {literals : List Literal} {index : Nat}
    (inside : index < payloadsSize literals) :
    ∃ front value back, literals = front ++ .text value :: back ∧ payloadsSize front ≤ index ∧
      index < payloadsSize front + value.utf8ByteSize := by
  induction literals generalizing index with
  | nil => contradiction
  | cons literal rest inductionHypothesis =>
      rw [payloadsSize] at inside
      rcases Nat.lt_or_ge index literal.payloadSize with here | later
      · cases literal with
        | text value =>
            refine ⟨[], value, rest, rfl, Nat.zero_le _, ?_⟩
            rw [payloadsSize, Nat.zero_add]
            exact here
        | _ => exact absurd here (Nat.not_lt_zero index)
      · have behind : index - literal.payloadSize < payloadsSize rest := by omega
        rcases inductionHypothesis behind with ⟨front, value, back, rfl, above, below⟩
        refine ⟨literal :: front, value, back, rfl, ?_, ?_⟩
        · rw [payloadsSize]
          omega
        · rw [payloadsSize]
          omega

section Serialized

variable {buffer : Buffer} {bytes : Array UInt8}

/-- The slot of a string has a header, which tells that the payload begins behind the region and the
payloads of the literals before it. There the payload stands. -/
theorem header_of_split (wellFormed : buffer.WellFormed)
    (serialized : buffer.serialize = .ok bytes) {front back : List Literal} {value : String}
    (split : buffer.literals = front ++ .text value :: back) :
    ∃ header : UInt32,
      OccursAt bytes.toList (slotBehind 0 front (.text value))
        (Number.littleEndian 4 header.toNat) ∧
      (unpackHeader header).1.toNat = buffer.watermark + payloadsSize front ∧
      (unpackHeader header).2.toNat = value.utf8ByteSize ∧
      OccursAt bytes.toList (buffer.watermark + payloadsSize front) value.toUTF8.data.toList := by
  rcases serialize_cases serialized with ⟨-, region, payloads, written, contents⟩
  have regionLength := image_region_length written
  rw [← wellFormed.watermark_eq, Nat.zero_add] at regionLength
  rw [split] at written
  rcases image_at written with ⟨slot, slotEq, inRegion, inPayloads⟩
  have behind := inPayloads.append_left region
  rw [regionLength, ← contents] at behind
  simp only [Literal.slot] at slotEq
  rcases bind_eq_ok.mp slotEq with ⟨header, packed, same⟩
  cases same
  rcases unpackHeader_packHeader packed with ⟨beginning, length⟩
  exact ⟨header, contents ▸ inRegion.append_right payloads, beginning, length, behind⟩

/-- The header of a string spans its payload. -/
theorem spanAt_of_split (wellFormed : buffer.WellFormed)
    (serialized : buffer.serialize = .ok bytes) {front back : List Literal} {value : String}
    (split : buffer.literals = front ++ .text value :: back) :
    spanAt bytes (slotBehind 0 front (.text value)) =
        (buffer.watermark + payloadsSize front, value.utf8ByteSize) ∧
      OccursAt bytes.toList (buffer.watermark + payloadsSize front) value.toUTF8.data.toList := by
  rcases header_of_split wellFormed serialized split with
    ⟨header, inSlot, beginning, length, behind⟩
  have stored := extract_of_occursAt inSlot
  rw [Number.littleEndian_length] at stored
  refine ⟨?_, behind⟩
  rw [spanAt, stored, Number.ofLittleEndian_littleEndian_of_lt header.toNat_lt, UInt32.ofNat_toNat]
  exact Prod.ext beginning length

/-- A buffer can be read from the image that it is serialized to. -/
theorem decodes_of_serialize (wellFormed : buffer.WellFormed)
    (serialized : buffer.serialize = .ok bytes) : Decodes buffer bytes := by
  rcases serialize_cases serialized with ⟨-, region, payloads, written, contents⟩
  have regionLength := image_region_length written
  rw [← wellFormed.watermark_eq, Nat.zero_add] at regionLength
  have size : bytes.size = buffer.watermark + payloadsSize buffer.literals := by
    rw [← Array.length_toList, contents, List.length_append, regionLength,
      image_payloads_length written]
  have total : ∀ {front back value}, buffer.literals = front ++ .text value :: back →
      payloadsSize buffer.literals =
        payloadsSize front + (value.utf8ByteSize + payloadsSize back) := by
    intro front back value split
    rw [split, payloadsSize_append, payloadsSize]
    rfl
  constructor
  · exact size
  · intro offset literal member
    exact wellFormed.entry_bound member
  · intro offset literal bits member scalar
    rcases serialize_stores wellFormed serialized member with ⟨cursor, slot, slotEq, inside, -⟩
    rcases slot_of_scalar scalar cursor with ⟨found, foundEq, value⟩
    cases slotEq.symm.trans foundEq
    rw [← slot_length slotEq, extract_of_occursAt inside]
    exact value
  · intro offset value member
    rcases mem_place_iff.mp member with ⟨front, back, split, rfl⟩
    rcases spanAt_of_split wellFormed serialized split with ⟨span, occurs⟩
    have payload : value.toUTF8.data.toList.length = value.utf8ByteSize :=
      payload_length (.text value)
    have extracted := extract_of_occursAt occurs
    rw [payload] at extracted
    have bound := total split
    rw [span]
    refine ⟨Nat.le_add_right _ _, ?_, Array.ext' extracted⟩
    rw [size]
    omega
  · intro first firstValue second secondValue firstMember secondMember different
    rcases mem_place_iff.mp firstMember with ⟨firstFront, firstBack, firstSplit, rfl⟩
    rcases mem_place_iff.mp secondMember with ⟨secondFront, secondBack, secondSplit, rfl⟩
    rw [(spanAt_of_split wellFormed serialized firstSplit).1,
      (spanAt_of_split wellFormed serialized secondSplit).1]
    rcases split_cases firstSplit secondSplit with
      ⟨sameFront, same⟩ | ⟨middle, later⟩ | ⟨middle, later⟩
    · cases same
      exact absurd (by rw [sameFront]) different
    · left
      rw [later, payloadsSize_append, payloadsSize, payloadSize]
      omega
    · right
      rw [later, payloadsSize_append, payloadsSize, payloadSize]
      omega
  · intro index above below
    have behind : index - buffer.watermark < payloadsSize buffer.literals := by omega
    rcases exists_payload_at behind with ⟨front, value, back, split, beginning, stop⟩
    refine ⟨slotBehind 0 front (.text value), value,
      mem_place_iff.mpr ⟨front, back, split, rfl⟩, ?_⟩
    rw [(spanAt_of_split wellFormed serialized split).1]
    constructor
    · change buffer.watermark + payloadsSize front ≤ index
      omega
    · change index < buffer.watermark + payloadsSize front + value.utf8ByteSize
      omega
  · intro index inside unused
    rw [← Array.getElem?_toList, contents, List.getElem?_append_left (regionLength ▸ inside)]
    apply image_padding written (regionLength ▸ inside)
    intro offset literal member
    rw [Nat.zero_add]
    exact unused offset literal member

end Serialized

theorem serialize_eq_ok_iff (buffer : Buffer) :
    (∃ bytes, buffer.serialize = .ok bytes) ↔
      buffer.watermark ≤ maximalImage ∧ StringsFit buffer.watermark buffer.literals := by
  constructor
  · rintro ⟨bytes, serialized⟩
    rcases serialize_cases serialized with ⟨fits, region, payloads, written, -⟩
    refine ⟨Nat.le_trans (Nat.le_add_right _ _) fits, ?_⟩
    rcases image_cases 0 buffer.watermark buffer.literals with ⟨-, short⟩ | ⟨⟨cause, failed⟩, -⟩
    · exact short
    · rw [written] at failed
      contradiction
  · rintro ⟨room, short⟩
    have fits : buffer.imageSize ≤ maximalImage := by
      rcases short.bound with none | near
      · rw [imageSize, none]
        exact room
      · exact Nat.le_trans near (by decide)
    rcases image_cases 0 buffer.watermark buffer.literals with
      ⟨⟨region, payloads, written⟩, -⟩ | ⟨-, long⟩
    · refine ⟨(region ++ payloads).toArray, ?_⟩
      rw [serialize, if_neg (Nat.not_lt_of_le fits), written]
      rfl
    · exact absurd short long

/-- An image that fits the memory can fail to be written only for a string. -/
theorem serialize_error {buffer : Buffer} (fits : buffer.imageSize ≤ maximalImage)
    {failure : Error} (failed : buffer.serialize = .error failure) :
    ∃ cause, failure = .bound cause := by
  rw [serialize, if_neg (Nat.not_lt_of_le fits)] at failed
  rcases image_cases 0 buffer.watermark buffer.literals with
    ⟨⟨region, payloads, written⟩, -⟩ | ⟨⟨cause, written⟩, -⟩
  · rw [written] at failed
    contradiction
  · rw [written] at failed
    cases failed
    exact ⟨cause, rfl⟩

/-- A buffer that is filled by registrations has entries for the registered literals. It is
serialized exactly if its region fits the memory and its strings fit their headers, and it can then
be read from the image. A string that does not fit is reported as an exceeded bound. -/
theorem serialize_registered (literals : List Literal) :
    let buffer := register literals
    (∀ literal, (∃ offset, (offset, literal) ∈ buffer.entries) ↔ literal ∈ literals) ∧
    ((∃ bytes, buffer.serialize = .ok bytes) ↔
      buffer.watermark ≤ maximalImage ∧ StringsFit buffer.watermark buffer.literals) ∧
    (∀ failure, buffer.serialize = .error failure →
      maximalImage < buffer.imageSize ∨ ∃ cause, failure = .bound cause) ∧
    ∀ bytes, buffer.serialize = .ok bytes → Decodes buffer bytes := by
  intro buffer
  refine ⟨?_, serialize_eq_ok_iff buffer, ?_, ?_⟩
  · intro literal
    rw [← mem_register]
    constructor
    · rintro ⟨offset, member⟩
      exact mem_of_mem_place member
    · exact exists_place_of_mem 0
  · intro failure failed
    rcases Nat.lt_or_ge maximalImage buffer.imageSize with large | fits
    · exact .inl large
    · exact .inr (serialize_error fits failed)
  · intro bytes serialized
    exact decodes_of_serialize (register_wellFormed literals) serialized

end Buffer

end QueryKernel.Literal
