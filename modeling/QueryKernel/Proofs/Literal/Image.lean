import QueryKernel.Ir.Run
import QueryKernel.Proofs.Literal.Layout
import QueryKernel.Proofs.Number.Words

/-!
Contract: the byte image of a buffer holds every literal at its slot.

Owns:
- parts of a byte string at an offset, and slices that read them;
- the bytes of a region and of the payloads behind it;
- the main statement: an image stores each registered literal at its offset.

Does not own: how kernel code reads a slot.
-/

namespace QueryKernel.Literal

/-! ### Parts of a byte string -/

/-- `part` stands in `bytes` from `offset` on. -/
def OccursAt (bytes : List UInt8) (offset : Nat) (part : List UInt8) : Prop :=
  ∃ front back, bytes = front ++ part ++ back ∧ front.length = offset

theorem OccursAt.bound {bytes part : List UInt8} {offset : Nat}
    (occurs : OccursAt bytes offset part) : offset + part.length ≤ bytes.length := by
  obtain ⟨front, back, rfl, rfl⟩ := occurs
  simp only [List.length_append]
  omega

theorem OccursAt.append_right {bytes part : List UInt8} {offset : Nat}
    (occurs : OccursAt bytes offset part) (more : List UInt8) :
    OccursAt (bytes ++ more) offset part := by
  obtain ⟨front, back, rfl, length⟩ := occurs
  exact ⟨front, back ++ more, by simp only [List.append_assoc], length⟩

theorem OccursAt.append_left {bytes part : List UInt8} {offset : Nat}
    (occurs : OccursAt bytes offset part) (before : List UInt8) :
    OccursAt (before ++ bytes) (before.length + offset) part := by
  obtain ⟨front, back, rfl, rfl⟩ := occurs
  exact ⟨before ++ front, back, by simp only [List.append_assoc], List.length_append⟩

theorem occursAt_length (front part back : List UInt8) :
    OccursAt (front ++ part ++ back) front.length part :=
  ⟨front, back, rfl, rfl⟩

/-- A slice reads the part that stands at its offset. -/
theorem slice_eq_of_occursAt {bytes : Array UInt8} {part : List UInt8} {offset length : Nat}
    (occurs : OccursAt bytes.toList offset part) (size : part.length = length) :
    Ir.slice bytes offset length = .ok part := by
  have bound := occurs.bound
  obtain ⟨front, back, contents, rfl⟩ := occurs
  subst size
  rw [Ir.slice, if_pos (by simpa using bound), Array.toList_extract, contents]
  simp [List.extract_eq_take_drop]

/-! ### Region and payloads -/

theorem payload_length (literal : Literal) : literal.payload.length = literal.payloadSize := by
  cases literal with
  | text value =>
      rw [payload, payloadSize, Array.length_toList, ← String.size_toByteArray]
      rfl
  | _ => rfl

theorem slot_length {literal : Literal} {cursor : Nat} {slot : List UInt8}
    (written : literal.slot cursor = .ok slot) : slot.length = literal.width := by
  cases literal with
  | text value =>
      simp only [Literal.slot] at written
      cases packed : packHeader cursor value.utf8ByteSize with
      | error failure => rw [packed] at written; contradiction
      | ok header =>
          rw [packed] at written
          cases written
          exact Number.littleEndian_length 4 _
  | _ =>
      cases written
      simp [Literal.width]

/-- The parts of a successful image of at least one literal. -/
theorem image_cons {filled cursor : Nat} {literal : Literal} {rest : List Literal}
    {region payloads : List UInt8}
    (written : image filled cursor (literal :: rest) = .ok (region, payloads)) :
    ∃ slot others behind,
      literal.slot cursor = .ok slot ∧
      image (alignedEnd filled literal.width) (cursor + literal.payload.length) rest =
        .ok (others, behind) ∧
      region = List.replicate (alignedEnd filled literal.width - literal.width - filled) 0 ++
        slot ++ others ∧
      payloads = literal.payload ++ behind := by
  simp only [image] at written
  cases slotEq : literal.slot cursor with
  | error failure => rw [slotEq] at written; contradiction
  | ok slot =>
      cases restEq : image (alignedEnd filled literal.width) (cursor + literal.payload.length)
          rest with
      | error failure => rw [slotEq, restEq] at written; contradiction
      | ok parts =>
          obtain ⟨others, behind⟩ := parts
          rw [slotEq, restEq] at written
          cases written
          exact ⟨slot, others, behind, rfl, rfl, rfl, rfl⟩

theorem image_region_length {filled cursor : Nat} {literals : List Literal}
    {region payloads : List UInt8}
    (written : image filled cursor literals = .ok (region, payloads)) :
    filled + region.length = regionEnd filled literals := by
  induction literals generalizing filled cursor region payloads with
  | nil =>
      cases written
      rfl
  | cons literal rest inductionHypothesis =>
      obtain ⟨slot, others, behind, slotEq, restEq, rfl, -⟩ := image_cons written
      have room := le_alignedEnd filled literal.width
      have tail := inductionHypothesis restEq
      rw [regionEnd_cons, ← tail]
      simp only [List.length_append, List.length_replicate, slot_length slotEq]
      omega

/-- Every literal of a region has its slot written at its offset and its payload at the
place that the slot was written with. -/
theorem image_stores {filled cursor offset : Nat} {literal : Literal} {literals : List Literal}
    {region payloads : List UInt8}
    (written : image filled cursor literals = .ok (region, payloads))
    (member : (offset, literal) ∈ place filled literals) :
    ∃ at' slot, literal.slot (cursor + at') = .ok slot ∧
      OccursAt region (offset - filled) slot ∧ OccursAt payloads at' literal.payload := by
  induction literals generalizing filled cursor region payloads with
  | nil => contradiction
  | cons head rest inductionHypothesis =>
      obtain ⟨slot, others, behind, slotEq, restEq, rfl, rfl⟩ := image_cons written
      have room := le_alignedEnd filled head.width
      let padding : List UInt8 :=
        List.replicate (alignedEnd filled head.width - head.width - filled) 0
      have paddingLength : padding.length = alignedEnd filled head.width - head.width - filled :=
        List.length_replicate
      rcases List.mem_cons.mp member with here | later
      · obtain ⟨rfl, rfl⟩ := Prod.mk.inj here
        refine ⟨0, slot, slotEq, ?_, ⟨[], behind, rfl, rfl⟩⟩
        have here := occursAt_length padding slot others
        rw [paddingLength] at here
        exact here
      · obtain ⟨place', found, foundEq, inRegion, inPayloads⟩ := inductionHypothesis restEq later
        have bounds := (place_bounds later).1
        have headLength := slot_length slotEq
        refine ⟨head.payload.length + place', found, ?_, ?_, inPayloads.append_left head.payload⟩
        · rw [← Nat.add_assoc]
          exact foundEq
        · have moved := inRegion.append_left (padding ++ slot)
          rw [List.length_append, paddingLength, headLength] at moved
          have same : alignedEnd filled head.width - head.width - filled + head.width +
              (offset - alignedEnd filled head.width) = offset - filled := by omega
          rw [same] at moved
          exact moved

/-! ### Images -/

/-- The image holds the literal's slot at the offset, and its payload where the slot
says. -/
def StoredAt (image : Array UInt8) (offset : Nat) (literal : Literal) : Prop :=
  ∃ cursor slot, literal.slot cursor = .ok slot ∧ OccursAt image.toList offset slot ∧
    OccursAt image.toList cursor literal.payload

/-- A slot can be sliced out of the image. -/
theorem StoredAt.slice_slot {image : Array UInt8} {offset : Nat} {literal : Literal}
    (stored : StoredAt image offset literal) :
    ∃ cursor slot, literal.slot cursor = .ok slot ∧
      Ir.slice image offset literal.width = .ok slot ∧
      Ir.slice image cursor literal.payload.length = .ok literal.payload := by
  obtain ⟨cursor, slot, slotEq, inRegion, behind⟩ := stored
  exact ⟨cursor, slot, slotEq, slice_eq_of_occursAt inRegion (slot_length slotEq),
    slice_eq_of_occursAt behind rfl⟩

namespace Buffer

/-- The parts of a successful serialization. -/
theorem serialize_cases {buffer : Buffer} {bytes : Array UInt8}
    (serialized : buffer.serialize = .ok bytes) :
    buffer.imageSize ≤ maximalImage ∧
      ∃ region payloads, image 0 buffer.watermark buffer.literals = .ok (region, payloads) ∧
        bytes.toList = region ++ payloads := by
  unfold Buffer.serialize at serialized
  split at serialized
  · contradiction
  rename_i fits
  cases written : image 0 buffer.watermark buffer.literals with
  | error failure => rw [written] at serialized; contradiction
  | ok parts =>
      obtain ⟨region, payloads⟩ := parts
      rw [written] at serialized
      cases serialized
      exact ⟨Nat.le_of_not_lt fits, region, payloads, rfl, List.toList_toArray⟩

/-- The image stores each registered literal at its offset. -/
theorem serialize_stores {buffer : Buffer} (wellFormed : buffer.WellFormed)
    {bytes : Array UInt8} (serialized : buffer.serialize = .ok bytes)
    {offset : Nat} {literal : Literal} (member : (offset, literal) ∈ buffer.entries) :
    StoredAt bytes offset literal := by
  obtain ⟨-, region, payloads, written, contents⟩ := serialize_cases serialized
  obtain ⟨distance, slot, slotEq, inRegion, inPayloads⟩ := image_stores written member
  have regionLength : region.length = buffer.watermark := by
    have := image_region_length written
    rw [wellFormed.watermark_eq]
    omega
  have behind := inPayloads.append_left region
  rw [regionLength] at behind
  refine ⟨buffer.watermark + distance, slot, slotEq, ?_, ?_⟩
  · rw [contents]
    exact inRegion.append_right payloads
  · rw [contents]
    exact behind

/-- Offsets of a buffer that serializes fit a signed word of 64 bits. -/
theorem offset_lt_of_serialize {buffer : Buffer} (wellFormed : buffer.WellFormed)
    {bytes : Array UInt8} (serialized : buffer.serialize = .ok bytes)
    {offset : Nat} {literal : Literal} (member : (offset, literal) ∈ buffer.entries) :
    offset < 2 ^ 63 := by
  have inside := wellFormed.entry_bound member
  have size := (serialize_cases serialized).1
  have positive := width_pos literal
  unfold imageSize maximalImage at size
  omega

end Buffer

end QueryKernel.Literal
