import Mathlib.Data.List.Induction
import Mathlib.Order.Bounds.Defs
import QueryKernel.Proofs.Literal.Serialization

/-!
Contract: where registrations put their literals.

Owns:
- the least aligned offset behind the end of a region;
- entries without a gap that alignment does not force;
- literals that are told apart by their variant and their bits;
- the main statement: registrations leave the distinct literals in the order of their first
  registration, packed up to the watermark, and an offset that was returned is the offset of its
  literal for ever.

Does not own: the bytes in the slots.
-/

namespace QueryKernel.Literal

/-! ### Aligned offsets -/

/-- Behind the end of a region a slot takes the least offset that its width divides. -/
theorem alignedEnd_isLeast (filled : Nat) {width : Nat} (positive : 0 < width) :
    IsLeast {offset | filled ≤ offset ∧ width ∣ offset} (alignedEnd filled width - width) := by
  have split := Nat.div_add_mod filled width
  have below := Nat.mod_lt filled positive
  have start : alignedEnd filled width - width =
      if filled % width = 0 then filled else filled + (width - filled % width) := by
    rw [alignedEnd, Nat.add_sub_cancel]
  rw [start]
  by_cases aligned : filled % width = 0
  · rw [if_pos aligned]
    exact ⟨⟨Nat.le_refl filled, Nat.dvd_of_mod_eq_zero aligned⟩, fun other inside => inside.1⟩
  · rw [if_neg aligned]
    have next : filled + (width - filled % width) = width * (filled / width + 1) := by
      rw [Nat.mul_add, Nat.mul_one]
      omega
    refine ⟨⟨Nat.le_add_right _ _, next ▸ Nat.dvd_mul_right _ _⟩, ?_⟩
    rintro other ⟨above, multiple, rfl⟩
    -- A smaller multiple would not lie behind the region.
    rw [next]
    apply Nat.mul_le_mul_left
    by_contra small
    have before : width * multiple ≤ width * (filled / width) :=
      Nat.mul_le_mul_left width (by omega)
    omega

/-! ### Packed entries -/

/-- The end of the last slot among entries. -/
def lastStop (entries : List (Nat × Literal)) : Nat :=
  (entries.getLast?.map fun entry => entry.1 + entry.2.width).getD 0

/-- Slots that are aligned and disjoint, each as early as its predecessor allows, and that fill a
region up to its end. -/
structure Packed (entries : List (Nat × Literal)) (stop : Nat) : Prop where
  aligned : ∀ entry ∈ entries, entry.2.width ∣ entry.1
  increasing : entries.Pairwise fun earlier later => earlier.1 < later.1
  disjoint : entries.Pairwise fun earlier later => earlier.1 + earlier.2.width ≤ later.1
  earliest : ∀ front entry back, entries = front ++ entry :: back →
    IsLeast {offset | lastStop front ≤ offset ∧ entry.2.width ∣ offset} entry.1
  stops : lastStop entries = stop

theorem place_singleton (filled : Nat) (literal : Literal) :
    place filled [literal] = [(alignedEnd filled literal.width - literal.width, literal)] := rfl

theorem lastStop_place (literals : List Literal) :
    lastStop (place 0 literals) = regionEnd 0 literals := by
  induction literals using List.reverseRecOn with
  | nil => rfl
  | append_singleton literals literal _ =>
      have room := le_alignedEnd (regionEnd 0 literals) literal.width
      rw [place_append, place_singleton, lastStop, List.getLast?_concat, regionEnd_append]
      change alignedEnd (regionEnd 0 literals) literal.width - literal.width + literal.width =
        alignedEnd (regionEnd 0 literals) literal.width
      omega

theorem place_disjoint (filled : Nat) (literals : List Literal) :
    (place filled literals).Pairwise fun earlier later =>
      earlier.1 + earlier.2.width ≤ later.1 := by
  induction literals generalizing filled with
  | nil => exact List.Pairwise.nil
  | cons literal rest inductionHypothesis =>
      have room := le_alignedEnd filled literal.width
      refine List.pairwise_cons.mpr ⟨fun later member => ?_, inductionHypothesis _⟩
      have behind := (place_bounds member).1
      show alignedEnd filled literal.width - literal.width + literal.width ≤ later.1
      omega

/-- The entries of a list are those of its parts. -/
theorem place_split {literals : List Literal} {front back : List (Nat × Literal)}
    {entry : Nat × Literal} (split : place 0 literals = front ++ entry :: back) :
    ∃ others, front = place 0 others ∧
      entry.1 = alignedEnd (regionEnd 0 others) entry.2.width - entry.2.width := by
  have names := place_map_snd 0 literals
  rw [split, List.map_append, List.map_cons] at names
  rw [← names, place_append] at split
  have length : (place 0 (front.map Prod.snd)).length = front.length := by
    rw [← List.length_map Prod.snd, place_map_snd, List.length_map]
  obtain ⟨same, rest⟩ := List.append_inj split length
  refine ⟨front.map Prod.snd, same.symm, ?_⟩
  exact (congrArg Prod.fst (List.cons.inj rest).1).symm

theorem place_packed (literals : List Literal) :
    Packed (place 0 literals) (regionEnd 0 literals) where
  aligned entry member := by
    obtain ⟨front, back, -, same⟩ := mem_place_iff.mp (show (entry.1, entry.2) ∈ _ from member)
    rw [same]
    exact (alignedEnd_isLeast _ (width_pos entry.2)).1.2
  increasing := by
    refine (place_disjoint 0 literals).imp fun {earlier later} behind => ?_
    have positive := width_pos earlier.2
    omega
  disjoint := place_disjoint 0 literals
  earliest front entry back split := by
    obtain ⟨others, rfl, same⟩ := place_split split
    rw [lastStop_place, same]
    exact alignedEnd_isLeast _ (width_pos entry.2)
  stops := lastStop_place literals

/-! ### Equal literals -/

/-- A literal is known by its variant, its bits and its payload. -/
theorem eq_of_same_bits {left right : Literal} (variant : left.ctorIdx = right.ctorIdx)
    (bits : left.scalarBits = right.scalarBits) (payload : left.payload = right.payload) :
    left = right := by
  cases left <;> cases right <;> cases variant
  case bool.bool.refl value other => cases value <;> cases other <;> first | rfl | contradiction
  case int8.int8.refl =>
    have words := UInt8.toNat_inj.mp (Option.some.inj bits)
    exact congrArg (fun word => Literal.int8 (.ofUInt8 word)) words
  case int16.int16.refl =>
    have words := UInt16.toNat_inj.mp (Option.some.inj bits)
    exact congrArg (fun word => Literal.int16 (.ofUInt16 word)) words
  case int32.int32.refl =>
    have words := UInt32.toNat_inj.mp (Option.some.inj bits)
    exact congrArg (fun word => Literal.int32 (.ofUInt32 word)) words
  case int64.int64.refl =>
    have words := UInt64.toNat_inj.mp (Option.some.inj bits)
    exact congrArg (fun word => Literal.int64 (.ofUInt64 word)) words
  case float.float.refl =>
    have words := UInt32.toNat_inj.mp (Option.some.inj bits)
    exact congrArg (fun word => Literal.float ⟨word⟩) words
  case double.double.refl =>
    have words := UInt64.toNat_inj.mp (Option.some.inj bits)
    exact congrArg (fun word => Literal.double ⟨word⟩) words
  case text.text.refl value other =>
    have bytes : value.toUTF8 = other.toUTF8 := ByteArray.ext (Array.toList_inj.mp payload)
    exact congrArg Literal.text (String.toByteArray_inj.mp bytes)

namespace Buffer

/-! ### Registrations -/

theorem register_append (literals : List Literal) (literal : Literal) :
    register (literals ++ [literal]) = ((register literals).add literal).2 :=
  List.foldl_append

/-- A buffer holds the distinct literals that were registered, in order. -/
theorem literals_register (added : List Literal) :
    (register added).literals = added.eraseDups := by
  induction added using List.reverseRecOn with
  | nil => rfl
  | append_singleton added literal inductionHypothesis =>
      rw [register_append, List.eraseDups_append, ← inductionHypothesis]
      by_cases known : literal ∈ added
      · obtain ⟨offset, entry⟩ := exists_place_of_mem 0 (mem_register.mpr known)
        rw [add_of_mem (register_wellFormed added) entry]
        simp [List.removeAll, known]
      · have absent := mt mem_register.mp known
        obtain ⟨offset, same, -⟩ := add_of_not_mem (register_wellFormed added) absent
        rw [same]
        simp [List.removeAll, known, List.eraseDups_cons]

theorem register_grows (front back : List Literal) :
    Grows (register front) (register (front ++ back)) := by
  induction back using List.reverseRecOn with
  | nil =>
      rw [List.append_nil]
      exact Grows.refl _
  | append_singleton back literal inductionHypothesis =>
      rw [← List.append_assoc, register_append]
      exact inductionHypothesis.trans (add_grows _ literal)

/-- A literal that was registered has one entry, at the offset that was returned for it first, and
registering it again gives this offset and changes nothing. -/
theorem register_stable (added : List Literal) (literal : Literal) (later : List Literal) :
    let offset := ((register added).add literal).1
    let grown := register (added ++ literal :: later)
    (∀ other, (other, literal) ∈ grown.entries ↔ other = offset) ∧
      grown.add literal = (offset, grown) := by
  intro offset grown
  have wellFormed := register_wellFormed (added ++ literal :: later)
  have grows := register_grows (added ++ [literal]) later
  rw [List.append_assoc, List.singleton_append, register_append] at grows
  have entry : (offset, literal) ∈ grown.entries :=
    grows.mem_entries (add_spec (register_wellFormed added) literal).2
  refine ⟨fun other => ⟨fun member => ?_, ?_⟩, add_of_mem wellFormed entry⟩
  · exact offset_unique wellFormed.distinct member entry
  · rintro rfl
    exact entry

/-- After any registrations a buffer has entries for the distinct literals that were registered, in
the order of their first registration, and their slots are packed up to the watermark. Registering
one of them again changes nothing; two of them have one offset if and only if they are of one
variant and have the same bits. The offset that a registration returns is the only one under which
its literal is listed from then on, and is returned for it whenever it is registered again. -/
theorem registrations_are_packed (added : List Literal) :
    let buffer := register added
    buffer.literals = added.eraseDups ∧
    buffer.entries.map Prod.snd = buffer.literals ∧
    Packed buffer.entries buffer.watermark ∧
    (∀ literal ∈ added, (buffer.add literal).2 = buffer) ∧
    (∀ left ∈ added, ∀ right ∈ added,
      (buffer.add left).1 = (buffer.add right).1 ↔ left.ctorIdx = right.ctorIdx ∧
        left.scalarBits = right.scalarBits ∧ left.payload = right.payload) ∧
    ∀ literal later,
      let grown := register (added ++ literal :: later)
      (∀ offset, (offset, literal) ∈ grown.entries ↔ offset = (buffer.add literal).1) ∧
        grown.add literal = ((buffer.add literal).1, grown) := by
  intro buffer
  have wellFormed := register_wellFormed added
  have listed : ∀ literal ∈ added, ∃ offset, (offset, literal) ∈ buffer.entries ∧
      buffer.add literal = (offset, buffer) := by
    intro literal member
    obtain ⟨offset, entry⟩ := exists_place_of_mem 0 (mem_register.mpr member)
    exact ⟨offset, entry, add_of_mem wellFormed entry⟩
  refine ⟨literals_register added, place_map_snd 0 _, ?_, ?_, ?_, register_stable added⟩
  · rw [wellFormed.watermark_eq]
    exact place_packed buffer.literals
  · intro literal member
    obtain ⟨offset, -, again⟩ := listed literal member
    rw [again]
  · intro left leftMember right rightMember
    obtain ⟨leftOffset, leftEntry, leftAgain⟩ := listed left leftMember
    obtain ⟨rightOffset, rightEntry, rightAgain⟩ := listed right rightMember
    rw [leftAgain, rightAgain]
    constructor
    · intro same
      change leftOffset = rightOffset at same
      rw [same] at leftEntry
      rw [place_unique leftEntry rightEntry]
      exact ⟨rfl, rfl, rfl⟩
    · rintro ⟨variant, bits, payload⟩
      obtain rfl := eq_of_same_bits variant bits payload
      exact offset_unique wellFormed.distinct leftEntry rightEntry

/-- Slots of one, eight, two and four bytes, with padding before the wide ones. Zeros of different
sign are different literals. -/
example : (register [.bool true, .double ⟨0⟩, .int16 7, .double ⟨0x8000000000000000⟩, .text "a",
    .int16 7]).entries.map Prod.fst = [0, 8, 16, 24, 32] := by decide

end Buffer

end QueryKernel.Literal
