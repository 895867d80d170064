import Mathlib.Data.List.Nodup
import QueryKernel.Literal.Buffer

/-!
Contract: the layout of a literal region.

Owns:
- the end of a region, and the slots of its literals: aligned, in order, disjoint;
- well-formed buffers, which hold no literal twice and end where their last slot ends;
- the effect of registering a literal, on a literal that is there and on a new one.

Does not own: the bytes in the slots.
-/

namespace QueryKernel.Literal

/-! ### Aligned slots -/

theorem width_pos (literal : Literal) : 0 < literal.width := by
  cases literal <;> simp [width]

/-- A slot begins no earlier than the region before it ends. -/
theorem le_alignedEnd (offset alignment : Nat) :
    offset + alignment ≤ alignedEnd offset alignment := by
  unfold alignedEnd
  split <;> omega

/-- The end of a region that is filled with literals from `filled` on. -/
def regionEnd (filled : Nat) (literals : List Literal) : Nat :=
  literals.foldl (fun stop literal => alignedEnd stop literal.width) filled

@[simp] theorem regionEnd_nil (filled : Nat) : regionEnd filled [] = filled := rfl

@[simp] theorem regionEnd_cons (filled : Nat) (literal : Literal) (rest : List Literal) :
    regionEnd filled (literal :: rest) = regionEnd (alignedEnd filled literal.width) rest := rfl

theorem regionEnd_append (filled : Nat) (front back : List Literal) :
    regionEnd filled (front ++ back) = regionEnd (regionEnd filled front) back := by
  simp [regionEnd, List.foldl_append]

theorem le_regionEnd (filled : Nat) (literals : List Literal) :
    filled ≤ regionEnd filled literals := by
  induction literals generalizing filled with
  | nil => exact Nat.le_refl filled
  | cons literal rest inductionHypothesis =>
      have first := le_alignedEnd filled literal.width
      have others := inductionHypothesis (alignedEnd filled literal.width)
      rw [regionEnd_cons]
      omega

/-! ### Slots -/

theorem place_append (filled : Nat) (front back : List Literal) :
    place filled (front ++ back) = place filled front ++ place (regionEnd filled front) back := by
  induction front generalizing filled with
  | nil => rfl
  | cons literal rest inductionHypothesis => simp [place, inductionHypothesis]

theorem place_map_snd (filled : Nat) (literals : List Literal) :
    (place filled literals).map Prod.snd = literals := by
  induction literals generalizing filled with
  | nil => rfl
  | cons literal rest inductionHypothesis => simp [place, inductionHypothesis]

theorem mem_of_mem_place {filled offset : Nat} {literal : Literal} {literals : List Literal}
    (member : (offset, literal) ∈ place filled literals) : literal ∈ literals := by
  rw [← place_map_snd filled literals]
  exact List.mem_map_of_mem member

theorem exists_place_of_mem {literal : Literal} {literals : List Literal} (filled : Nat)
    (member : literal ∈ literals) : ∃ offset, (offset, literal) ∈ place filled literals := by
  rw [← place_map_snd filled literals] at member
  obtain ⟨⟨offset, found⟩, inside, rfl⟩ := List.mem_map.mp member
  exact ⟨offset, inside⟩

/-- Slots lie inside the region. -/
theorem place_bounds {filled offset : Nat} {literal : Literal} {literals : List Literal}
    (member : (offset, literal) ∈ place filled literals) :
    filled ≤ offset ∧ offset + literal.width ≤ regionEnd filled literals := by
  induction literals generalizing filled with
  | nil => contradiction
  | cons head rest inductionHypothesis =>
      have first := le_alignedEnd filled head.width
      have others := le_regionEnd (alignedEnd filled head.width) rest
      rw [regionEnd_cons]
      rcases List.mem_cons.mp member with here | later
      · obtain ⟨rfl, rfl⟩ := Prod.mk.inj here
        omega
      · have bounds := inductionHypothesis later
        omega

/-- An offset belongs to one slot. -/
theorem place_unique {filled offset : Nat} {left right : Literal} {literals : List Literal}
    (leftMember : (offset, left) ∈ place filled literals)
    (rightMember : (offset, right) ∈ place filled literals) : left = right := by
  induction literals generalizing filled with
  | nil => contradiction
  | cons head rest inductionHypothesis =>
      have first := le_alignedEnd filled head.width
      have positive := width_pos head
      rcases List.mem_cons.mp leftMember with leftHere | leftLater
      · rcases List.mem_cons.mp rightMember with rightHere | rightLater
        · exact (Prod.mk.inj (leftHere.trans rightHere.symm)).2
        · have := (place_bounds rightLater).1
          have := (Prod.mk.inj leftHere).1
          omega
      · rcases List.mem_cons.mp rightMember with rightHere | rightLater
        · have := (place_bounds leftLater).1
          have := (Prod.mk.inj rightHere).1
          omega
        · exact inductionHypothesis leftLater rightLater

/-- The slot that is found first is a slot of the literal. -/
theorem place_of_offsetAfter {filled offset : Nat} {literal : Literal} {literals : List Literal}
    (found : offsetAfter filled literal literals = some offset) :
    (offset, literal) ∈ place filled literals := by
  induction literals generalizing filled with
  | nil => contradiction
  | cons head rest inductionHypothesis =>
      simp only [offsetAfter] at found
      split at found
      · rename_i same
        cases same
        cases found
        exact List.mem_cons_self
      · exact List.mem_cons_of_mem _ (inductionHypothesis found)

theorem offsetAfter_eq_none_iff {filled : Nat} {literal : Literal} {literals : List Literal} :
    offsetAfter filled literal literals = none ↔ literal ∉ literals := by
  induction literals generalizing filled with
  | nil => simp [offsetAfter]
  | cons head rest inductionHypothesis =>
      simp only [offsetAfter]
      by_cases same : head = literal
      · simp [same]
      · simp [same, inductionHypothesis, Ne.symm same]

/-- In a region without duplicates a literal has one slot. -/
theorem offset_unique {filled left right : Nat} {literal : Literal} {literals : List Literal}
    (distinct : literals.Nodup)
    (leftMember : (left, literal) ∈ place filled literals)
    (rightMember : (right, literal) ∈ place filled literals) : left = right := by
  induction literals generalizing filled with
  | nil => contradiction
  | cons head rest inductionHypothesis =>
      obtain ⟨absent, restDistinct⟩ := List.nodup_cons.mp distinct
      rcases List.mem_cons.mp leftMember with leftHere | leftLater
      · rcases List.mem_cons.mp rightMember with rightHere | rightLater
        · exact (Prod.mk.inj (leftHere.trans rightHere.symm)).1
        · have same := (Prod.mk.inj leftHere).2
          exact absurd (same ▸ mem_of_mem_place rightLater) absent
      · rcases List.mem_cons.mp rightMember with rightHere | rightLater
        · have same := (Prod.mk.inj rightHere).2
          exact absurd (same ▸ mem_of_mem_place leftLater) absent
        · exact inductionHypothesis restDistinct leftLater rightLater

namespace Buffer

/-! ### Registration -/

/-- What every operation on a buffer keeps: no literal twice, and the watermark at
the end of the last slot. -/
structure WellFormed (buffer : Buffer) : Prop where
  distinct : buffer.literals.Nodup
  watermark_eq : buffer.watermark = regionEnd 0 buffer.literals

/-- A buffer grows when literals are registered behind its own. -/
def Grows (before after : Buffer) : Prop := before.literals <+: after.literals

theorem WellFormed.empty : WellFormed {} := ⟨List.nodup_nil, rfl⟩

theorem Grows.refl (buffer : Buffer) : Grows buffer buffer := List.prefix_refl _

theorem Grows.trans {first second third : Buffer} (front : Grows first second)
    (back : Grows second third) : Grows first third := List.IsPrefix.trans front back

/-- Growth keeps every slot. -/
theorem Grows.entries {before after : Buffer} (grows : Grows before after) :
    before.entries <+: after.entries := by
  obtain ⟨added, same⟩ := grows
  rw [Buffer.entries, Buffer.entries, ← same, place_append]
  exact List.prefix_append _ _

theorem Grows.mem_entries {before after : Buffer} (grows : Grows before after)
    {entry : Nat × Literal} (member : entry ∈ before.entries) : entry ∈ after.entries :=
  grows.entries.subset member

theorem WellFormed.entry_bound {buffer : Buffer} (wellFormed : buffer.WellFormed) {offset : Nat}
    {literal : Literal} (member : (offset, literal) ∈ buffer.entries) :
    offset + literal.width ≤ buffer.watermark := by
  rw [wellFormed.watermark_eq]
  exact (place_bounds member).2

/-- A literal that is registered stays where it is. -/
theorem add_of_mem {buffer : Buffer} (wellFormed : buffer.WellFormed) {offset : Nat}
    {literal : Literal} (member : (offset, literal) ∈ buffer.entries) :
    buffer.add literal = (offset, buffer) := by
  unfold Buffer.add
  split
  · rename_i found foundEq
    rw [offset_unique wellFormed.distinct (place_of_offsetAfter foundEq) member]
  · rename_i missing
    exact absurd (mem_of_mem_place member) (offsetAfter_eq_none_iff.mp missing)

/-- A new literal takes the slot behind the others. -/
theorem add_of_not_mem {buffer : Buffer} (wellFormed : buffer.WellFormed) {literal : Literal}
    (absent : literal ∉ buffer.literals) :
    ∃ offset,
      buffer.add literal =
        (offset, ⟨buffer.literals ++ [literal], offset + literal.width⟩) ∧
      buffer.watermark ≤ offset ∧
      place 0 (buffer.literals ++ [literal]) = buffer.entries ++ [(offset, literal)] ∧
      regionEnd 0 (buffer.literals ++ [literal]) = offset + literal.width := by
  have room := le_alignedEnd buffer.watermark literal.width
  have restored : alignedEnd buffer.watermark literal.width - literal.width + literal.width =
      alignedEnd buffer.watermark literal.width := by omega
  refine ⟨alignedEnd buffer.watermark literal.width - literal.width, ?_, by omega, ?_, ?_⟩
  · unfold Buffer.add
    rw [offsetAfter_eq_none_iff.mpr absent, restored]
  · rw [place_append, ← wellFormed.watermark_eq]
    rfl
  · rw [regionEnd_append, ← wellFormed.watermark_eq, restored]
    rfl

theorem add_grows (buffer : Buffer) (literal : Literal) : Grows buffer (buffer.add literal).2 := by
  unfold Buffer.add
  split
  · exact Grows.refl buffer
  · exact List.prefix_append _ _

/-- Registration adds one literal at most. -/
theorem mem_add {buffer : Buffer} {added literal : Literal} :
    literal ∈ (buffer.add added).2.literals ↔ literal ∈ buffer.literals ∨ literal = added := by
  unfold Buffer.add
  split
  · rename_i offset found
    have member := mem_of_mem_place (place_of_offsetAfter found)
    constructor
    · exact .inl
    · rintro (inside | rfl)
      · exact inside
      · exact member
  · simp

/-- Registration changes nothing exactly when the literal is there already. -/
theorem add_eq_self_iff {buffer : Buffer} {literal : Literal} :
    (buffer.add literal).2 = buffer ↔ literal ∈ buffer.literals := by
  constructor
  · intro same
    have member : literal ∈ (buffer.add literal).2.literals := mem_add.mpr (.inr rfl)
    rw [same] at member
    exact member
  · intro member
    unfold Buffer.add
    split
    · rfl
    · rename_i missing
      exact absurd member (offsetAfter_eq_none_iff.mp missing)

/-- After registration the literal has a slot at the returned offset. -/
theorem add_spec {buffer : Buffer} (wellFormed : buffer.WellFormed) (literal : Literal) :
    (buffer.add literal).2.WellFormed ∧
      ((buffer.add literal).1, literal) ∈ (buffer.add literal).2.entries := by
  by_cases member : literal ∈ buffer.literals
  · obtain ⟨offset, entry⟩ := exists_place_of_mem 0 member
    rw [add_of_mem wellFormed entry]
    exact ⟨wellFormed, entry⟩
  · obtain ⟨offset, added, -, slots, stop⟩ := add_of_not_mem wellFormed member
    rw [added]
    refine ⟨⟨?_, stop.symm⟩, ?_⟩
    · exact List.nodup_append.mpr ⟨wellFormed.distinct, List.nodup_singleton literal,
        fun other inside _ single => by
          rw [List.mem_singleton.mp single]
          rintro rfl
          exact member inside⟩
    · change (offset, literal) ∈ place 0 (buffer.literals ++ [literal])
      rw [slots]
      simp

/-- Registration moves the watermark forward, if at all. -/
theorem watermark_le_add {buffer : Buffer} (wellFormed : buffer.WellFormed) (literal : Literal) :
    buffer.watermark ≤ (buffer.add literal).2.watermark := by
  by_cases member : literal ∈ buffer.literals
  · apply Nat.le_of_eq
    rw [add_eq_self_iff.mpr member]
  · rcases add_of_not_mem wellFormed member with ⟨offset, added, later, -⟩
    rw [added]
    exact Nat.le_trans later (Nat.le_add_right offset literal.width)

/-- A new literal is given no offset that another one has. -/
theorem add_elsewhere {buffer : Buffer} (wellFormed : buffer.WellFormed) {literal : Literal}
    (absent : literal ∉ buffer.literals) {entry : Nat × Literal} (member : entry ∈ buffer.entries) :
    entry.1 ≠ (buffer.add literal).1 := by
  rcases add_of_not_mem wellFormed absent with ⟨offset, added, later, -⟩
  have bound := wellFormed.entry_bound member
  have positive := width_pos entry.2
  rw [added]
  show entry.1 ≠ offset
  omega

/-- The watermark tells a new literal from a registered one. -/
theorem add_watermark_eq_iff {buffer : Buffer} (wellFormed : buffer.WellFormed)
    (literal : Literal) :
    (buffer.add literal).2.watermark = buffer.watermark ↔ literal ∈ buffer.literals := by
  constructor
  · intro same
    by_contra absent
    obtain ⟨offset, added, later, -⟩ := add_of_not_mem wellFormed absent
    have positive := width_pos literal
    rw [added] at same
    simp only at same
    omega
  · intro member
    obtain ⟨offset, entry⟩ := exists_place_of_mem 0 member
    rw [add_of_mem wellFormed entry]

end Buffer

end QueryKernel.Literal
