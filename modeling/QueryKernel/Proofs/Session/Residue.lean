import QueryKernel.Proofs.Literal.Allocation
import QueryKernel.Proofs.Session.Refusal

/-!
Contract: what a refused hoisting call means for later calls.

The literals that it leaves are on the first devices only, and no code decodes them. A later call
takes the first device's literal for one that has been decoded, or finds that the devices disagree.

Owns:
- how a literal is used, whatever the buffers hold;
- the later calls that a literal on a device leaves alone, and those that it breaks;
- the main statement: a refused call leaves the literals in front of the refused constant, and
  exactly the constants that these leave alone can be hoisted as before.
-/

namespace QueryKernel

open QueryKernel.Ir (Operand)
open QueryKernel.Sql (Constant DataType)
open QueryKernel.Dictionary (Registry)

open Literal (Buffer)

namespace Session

/-! ### Uses of a literal -/

section Uses

variable (session : Session) (buffers : List Buffer) (type : DataType) (offset : Nat)
  (isText : Bool)

theorem reload_buffers :
    { session with buffers }.reload offset isText =
      (session.reload offset isText).map fun result => (result.1, { result.2 with buffers }) := by
  unfold reload
  cases session.table.get? offset with
  | none => rfl
  | some globals => cases globals <;> cases isText <;> rfl

theorem materialize_buffers :
    { session with buffers }.materialize type offset isText =
      ((session.materialize type offset isText).1,
        { (session.materialize type offset isText).2 with buffers }) := by
  simp only [materialize]
  split
  · rfl
  · rfl

/-- How a literal is used does not depend on the buffers. -/
theorem use_buffers (new : Bool) :
    { session with buffers }.use type offset isText new =
      ((session.use type offset isText new).1,
        { (session.use type offset isText new).2 with buffers }) := by
  cases new with
  | true =>
      simp only [use, if_true, materialize_buffers]
      split
      · rfl
      · rw [reload_buffers]
        cases (session.materialize type offset isText).2.reload offset isText <;> rfl
  | false =>
      simp only [use, Bool.false_eq_true, if_false, reload_buffers]
      cases session.reload offset isText <;> rfl

end Uses

/-- A literal that is decoded with success was not in the table before. -/
theorem unknown_of_use {session after : Session} {type : DataType} {offset : Nat} {isText : Bool}
    {operands : List Operand}
    (used : session.use type offset isText true = (.ok operands, after)) :
    session.table.get? offset = none := by
  simp only [use, if_true] at used
  split at used
  · cases used
  · rename_i materialized
    simp only [materialize] at materialized
    split at materialized
    · contradiction
    · cases known : session.table.get? offset with
      | none => rfl
      | some globals =>
          simp only [MaterializedTable.insert, known] at materialized
          contradiction

end Session

/-! ### Later calls -/

namespace Literal.Buffer

/-- Registering `added` on a device leaves the offset of `literal` alone, and whether it is new on
the first device: one of the two was there before, or they are one and the device is another one. -/
def Spares (device : Nat) (buffer : Buffer) (added literal : Literal) : Prop :=
  literal ∈ buffer.literals ∨ added ∈ buffer.literals ∨ device ≠ 0 ∧ added = literal

/-- A literal that is there keeps its offset when others are registered. -/
theorem add_add_of_mem {buffer : Buffer} (wellFormed : buffer.WellFormed) {literal : Literal}
    (member : literal ∈ buffer.literals) (added : Literal) :
    ((buffer.add added).2.add literal).1 = (buffer.add literal).1 := by
  obtain ⟨offset, entry⟩ := exists_place_of_mem 0 member
  have grown := (add_grows buffer added).mem_entries entry
  rw [add_of_mem wellFormed entry, add_of_mem (add_spec wellFormed added).1 grown]

theorem Spares.add_fst {device : Nat} {buffer : Buffer} {added literal : Literal}
    (wellFormed : buffer.WellFormed) (spares : Spares device buffer added literal) :
    ((buffer.add added).2.add literal).1 = (buffer.add literal).1 := by
  rcases spares with member | member | ⟨-, rfl⟩
  · exact add_add_of_mem wellFormed member added
  · rw [add_eq_self_iff.mpr member]
  · obtain ⟨grown, entry⟩ := add_spec wellFormed added
    rw [add_of_mem grown entry]

/-- On the first device the literal is new if it was new before. -/
theorem Spares.mem_iff {buffer : Buffer} {added literal : Literal}
    (spares : Spares 0 buffer added literal) :
    literal ∈ (buffer.add added).2.literals ↔ literal ∈ buffer.literals := by
  rcases spares with member | member | ⟨first, -⟩
  · exact iff_of_true (mem_add.mpr (.inl member)) member
  · rw [add_eq_self_iff.mpr member]
  · contradiction

/-- The slot of a new literal is placed at the watermark, and moves it to the end of the slot. -/
theorem add_eq_of_not_mem {buffer : Buffer} {literal : Literal}
    (absent : literal ∉ buffer.literals) :
    (buffer.add literal).1 = alignedEnd buffer.watermark literal.width - literal.width ∧
      (buffer.add literal).2.watermark = alignedEnd buffer.watermark literal.width := by
  rw [add, offsetAfter_eq_none_iff.mpr absent]
  exact ⟨rfl, rfl⟩

/-- Another new literal of the same width takes the offset away. -/
theorem add_add_of_not_mem {buffer : Buffer} {added literal : Literal}
    (absent : literal ∉ buffer.literals) (addedAbsent : added ∉ buffer.literals)
    (different : added ≠ literal) (sameWidth : added.width = literal.width) :
    ((buffer.add added).2.add literal).1 ≠ (buffer.add literal).1 := by
  have still : literal ∉ (buffer.add added).2.literals := by
    rw [mem_add]
    rintro (member | same)
    · exact absent member
    · exact different same.symm
  have room := le_alignedEnd (alignedEnd buffer.watermark literal.width) literal.width
  have before := le_alignedEnd buffer.watermark literal.width
  have positive := width_pos literal
  rw [(add_eq_of_not_mem still).1, (add_eq_of_not_mem addedAbsent).2, sameWidth,
    (add_eq_of_not_mem absent).1]
  omega

end Literal.Buffer

/-- Literals of constants of one type have one width. -/
theorem Session.Fits.width_eq {type : DataType} {left right : Literal} {isText : Bool}
    (leftFits : Fits type left isText) (rightFits : Fits type right isText) :
    left.width = right.width := by
  have width : ∀ {literal : Literal} {value : Ir.RuntimeValue}, literal.loaded? = some value →
      literal.width = match value.type with
        | .int bits => bits / 8
        | .double => 8
        | _ => 4 := by
    intro literal value loaded
    cases literal <;> first | (cases loaded; rfl) | contradiction
  cases leftFits with
  | text value =>
      cases rightFits with
      | text other => rfl
  | scalar leftWidth leftLoaded leftType =>
      cases rightFits with
      | scalar rightWidth rightLoaded rightType =>
          rw [leftWidth] at rightWidth
          cases rightWidth
          rw [width leftLoaded, width rightLoaded, leftType, rightType]

namespace Workspace

/-- Whether a constant can be hoisted for all devices. -/
def CanHoist (workspace : Workspace) (constant : Constant) (encoding : StringEncoding) : Prop :=
  ∃ operands after, workspace.generate constant encoding true = (.ok operands, after)

end Workspace

section Later

variable {session : Session} {registry known : Registry} {constant : Constant}
  {encoding : StringEncoding} {literal : Literal}

/-- A constant can be hoisted for all devices if they give its literal one offset, where it can be
used. -/
theorem canHoist_iff {first : Buffer} {others : List Buffer}
    (buffers : session.buffers = first :: others) (wellFormed : first.WellFormed)
    (made : literalOf constant encoding registry = .ok (literal, known)) :
    Workspace.CanHoist ⟨session, registry⟩ constant encoding ↔
      (∀ buffer ∈ session.buffers, (buffer.add literal).1 = (first.add literal).1) ∧
      ∃ operands after, session.use constant.type (first.add literal).1
        (Session.isUnencoded constant.type encoding) (decide (literal ∉ first.literals)) =
          (.ok operands, after) := by
  have alike := Workspace.hoist_alike buffers made
  have fresh : Session.isNew session
      { session with buffers := session.buffers.map fun buffer => (buffer.add literal).2 } =
        decide (literal ∉ first.literals) := by
    rw [Bool.eq_iff_iff, decide_eq_true_iff]
    exact Session.isNew_iff wellFormed (by rw [buffers]; rfl) (by rw [buffers]; rfl)
  simp only [fresh, Session.use_buffers] at alike
  constructor
  · rintro ⟨operands, after, succeeded⟩
    rw [Workspace.generate, if_pos rfl] at succeeded
    by_cases agree : ∀ buffer ∈ session.buffers, (buffer.add literal).1 = (first.add literal).1
    · rw [alike.1 agree] at succeeded
      exact ⟨agree, operands, _, Prod.ext (Prod.mk.inj succeeded).1 rfl⟩
    · obtain ⟨cause, failed⟩ := alike.2 agree
      rw [succeeded] at failed
      contradiction
  · rintro ⟨agree, operands, after, used⟩
    have succeeded := alike.1 agree
    rw [used] at succeeded
    exact ⟨operands, _, succeeded⟩

variable {literals : List Literal}

/-- A session for which a constant can be hoisted has a device. -/
theorem buffers_of_canHoist
    (possible : Workspace.CanHoist ⟨session, registry⟩ constant encoding) :
    ∃ first others, session.buffers = first :: others := by
  cases buffers : session.buffers with
  | cons first others => exact ⟨first, others, rfl⟩
  | nil =>
      obtain ⟨operands, after, succeeded⟩ := possible
      rw [Workspace.generate, if_pos rfl, Session.devices, buffers] at succeeded
      cases succeeded

/-- A constant can still be hoisted if no device stands in the way of its literal. -/
theorem canHoist_of_spared (wellFormed : session.BuffersWellFormed)
    (possible : Workspace.CanHoist ⟨session, registry⟩ constant encoding)
    (made : literalOf constant encoding registry = .ok (literal, known))
    (spared : ∀ (device : Nat) (buffer : Buffer) (added : Literal),
      session.buffers[device]? = some buffer → literals[device]? = some added →
        buffer.Spares device added literal) :
    Workspace.CanHoist ⟨session.addEach literals, registry⟩ constant encoding := by
  obtain ⟨first, others, buffers⟩ := buffers_of_canHoist possible
  have firstFound : session.buffers[0]? = some first := by rw [buffers]; rfl
  have firstWellFormed := wellFormed 0 first firstFound
  obtain ⟨agree, operands, after, used⟩ := (canHoist_iff buffers firstWellFormed made).mp possible
  cases literals with
  | nil =>
      rw [Session.addEach, Buffer.addEach_nil]
      exact possible
  | cons added rest =>
      have ahead := spared 0 first added firstFound rfl
      have sameOffset := ahead.add_fst firstWellFormed
      have grown : (session.addEach (added :: rest)).buffers =
          (first.add added).2 :: Buffer.addEach others rest := by
        rw [Session.addEach, buffers, Buffer.addEach_cons]
      refine (canHoist_iff grown (Buffer.add_spec firstWellFormed added).1 made).mpr ⟨?_, ?_⟩
      · intro buffer member
        obtain ⟨device, found⟩ := List.mem_iff_getElem?.mp member
        rw [Session.addEach, Buffer.getElem?_addEach, Option.map_eq_some_iff] at found
        obtain ⟨before, stored, rfl⟩ := found
        have common := agree before (List.mem_of_getElem? stored)
        rw [sameOffset]
        split
        · rename_i other listed
          rw [(spared device before other stored listed).add_fst (wellFormed device before stored),
            common]
        · exact common
      · simp only [sameOffset, ahead.mem_iff]
        rw [Session.addEach, Session.use_buffers, used]
        exact ⟨operands, _, rfl⟩

/-- Devices that give a literal different offsets cannot hoist it. -/
theorem breach_of_disagreement (made : literalOf constant encoding registry = .ok (literal, known))
    {left right : Buffer} (leftMember : left ∈ session.buffers)
    (rightMember : right ∈ session.buffers)
    (different : (left.add literal).1 ≠ (right.add literal).1) :
    ∃ cause, (Workspace.generate ⟨session, registry⟩ constant encoding true).1 =
      .error (.breach cause) := by
  cases buffers : session.buffers with
  | nil =>
      rw [buffers] at leftMember
      contradiction
  | cons first others =>
      refine (Workspace.hoist_alike buffers made).2 fun agree => different ?_
      rw [agree left leftMember, agree right rightMember]

/-- A literal that the first device holds and that was never decoded cannot be hoisted. -/
theorem breach_of_undecoded {first : Buffer} {others : List Buffer}
    (buffers : session.buffers = first :: others) (wellFormed : first.WellFormed)
    (made : literalOf constant encoding registry = .ok (literal, known))
    (member : literal ∈ first.literals)
    (unknown : session.table.get? (first.add literal).1 = none) :
    ∃ cause, (Workspace.generate ⟨session, registry⟩ constant encoding true).1 =
      .error (.breach cause) := by
  have alike := Workspace.hoist_alike buffers made
  by_cases agree : ∀ buffer ∈ session.buffers, (buffer.add literal).1 = (first.add literal).1
  · have old : Session.isNew session
        { session with buffers := session.buffers.map fun buffer => (buffer.add literal).2 } =
          false := by
      rw [Bool.eq_false_iff, ne_eq, Session.isNew_iff wellFormed (by rw [buffers]; rfl)
        (by rw [buffers]; rfl), not_not]
      exact member
    refine ⟨.neverMaterialized (first.add literal).1, ?_⟩
    rw [Workspace.generate, if_pos rfl, alike.1 agree, old, Session.use_buffers]
    simp only [Session.use, Bool.false_eq_true, if_false, Session.reload, unknown]
  · exact alike.2 agree

/-- The first device takes a literal that it was left with for one that has been decoded. -/
theorem breach_of_left {first : Buffer} {others : List Buffer}
    (buffers : session.buffers = first :: others) (wellFormed : first.WellFormed)
    (possible : Workspace.CanHoist ⟨session, registry⟩ constant encoding)
    (made : literalOf constant encoding registry = .ok (literal, known))
    (absent : literal ∉ first.literals) :
    ∃ cause, (Workspace.generate ⟨session.addEach (literal :: literals), registry⟩ constant encoding
      true).1 = .error (.breach cause) := by
  obtain ⟨-, operands, after, used⟩ := (canHoist_iff buffers wellFormed made).mp possible
  have spec := Buffer.add_spec wellFormed literal
  have again := Buffer.add_of_mem spec.1 spec.2
  have grown : (session.addEach (literal :: literals)).buffers =
      (first.add literal).2 :: Buffer.addEach others literals := by
    rw [Session.addEach, buffers, Buffer.addEach_cons]
  apply breach_of_undecoded grown spec.1 made (Buffer.mem_add.mpr (.inr rfl))
  rw [again]
  rw [decide_eq_true absent] at used
  show session.table.get? (first.add literal).1 = none
  exact Session.unknown_of_use used

/-- A device that was left with another literal has moved on, and the one behind the last of them
has not. -/
theorem breach_of_moved (made : literalOf constant encoding registry = .ok (literal, known))
    (agree : ∀ left ∈ session.buffers, ∀ right ∈ session.buffers,
      (left.add literal).1 = (right.add literal).1)
    (few : literals.length < session.devices) {device : Nat} {buffer : Buffer} {added : Literal}
    (found : session.buffers[device]? = some buffer) (listed : literals[device]? = some added)
    (absent : literal ∉ buffer.literals) (addedAbsent : added ∉ buffer.literals)
    (different : added ≠ literal) (sameWidth : added.width = literal.width) :
    ∃ cause, (Workspace.generate ⟨session.addEach literals, registry⟩ constant encoding true).1 =
      .error (.breach cause) := by
  have moved : (session.addEach literals).buffers[device]? = some (buffer.add added).2 := by
    rw [Session.addEach, Buffer.getElem?_addEach, found, Option.map_some, listed]
  obtain ⟨idle, idleFound⟩ : ∃ idle, session.buffers[literals.length]? = some idle :=
    ⟨_, List.getElem?_eq_getElem few⟩
  have stayed : (session.addEach literals).buffers[literals.length]? = some idle := by
    rw [Session.addEach, Buffer.getElem?_addEach, idleFound, Option.map_some,
      List.getElem?_eq_none (Nat.le_refl _)]
  apply breach_of_disagreement made (List.mem_of_getElem? moved) (List.mem_of_getElem? stayed)
  rw [agree idle (List.mem_of_getElem? idleFound) buffer (List.mem_of_getElem? found)]
  exact Buffer.add_add_of_not_mem absent addedAbsent different sameWidth

/-- Where a device stands in the way of its literal, the constant cannot be hoisted any more, if
there is a device that has registered nothing. -/
theorem breach_of_not_spared (wellFormed : session.BuffersWellFormed)
    (possible : Workspace.CanHoist ⟨session, registry⟩ constant encoding)
    (made : literalOf constant encoding registry = .ok (literal, known))
    (few : literals.length < session.devices)
    (widths : ∀ added ∈ literals, added.width = literal.width) {device : Nat} {buffer : Buffer}
    {added : Literal} (found : session.buffers[device]? = some buffer)
    (listed : literals[device]? = some added) (blocked : ¬ buffer.Spares device added literal) :
    ∃ cause, (Workspace.generate ⟨session.addEach literals, registry⟩ constant encoding true).1 =
      .error (.breach cause) := by
  obtain ⟨first, others, buffers⟩ := buffers_of_canHoist possible
  have firstFound : session.buffers[0]? = some first := by rw [buffers]; rfl
  have firstWellFormed := wellFormed 0 first firstFound
  obtain ⟨absent, addedAbsent, distinct⟩ : literal ∉ buffer.literals ∧ added ∉ buffer.literals ∧
      (device ≠ 0 → added ≠ literal) := by
    unfold Buffer.Spares at blocked
    tauto
  by_cases same : added = literal
  · subst same
    obtain rfl : device = 0 := by
      by_contra other
      exact distinct other rfl
    cases firstFound.symm.trans found
    cases literals with
    | nil => contradiction
    | cons head rest =>
        cases listed
        exact breach_of_left buffers firstWellFormed possible made absent
  · have agree := ((canHoist_iff buffers firstWellFormed made).mp possible).1
    apply breach_of_moved made _ few found listed absent addedAbsent same
      (widths added (List.mem_of_getElem? listed))
    intro left leftMember right rightMember
    rw [agree left leftMember, agree right rightMember]

end Later

/-! ### Refused calls -/

open Workspace

namespace Session

/-- No device that registers its literal stands in the way of another one. -/
def Spares (session : Session) (literals : List Literal) (literal : Literal) : Prop :=
  ∀ (device : Nat) (buffer : Buffer) (added : Literal),
    session.buffers[device]? = some buffer → literals[device]? = some added →
      buffer.Spares device added literal

/-- Devices in lockstep hold the literals that they give one offset if the first one holds its
own. -/
theorem Lockstep.holdsEach {session : Session} {devices offset : Nat} {buffer : Buffer}
    (lockstep : session.Lockstep devices buffer) (wellFormed : buffer.WellFormed)
    {literal : Literal} {rest : List Literal} (member : literal ∈ buffer.literals)
    (inhabited : 0 < devices)
    (offsets : ∀ (device : Nat) (stored : Buffer) (added : Literal),
      session.buffers[device]? = some stored → (literal :: rest)[device]? = some added →
        (stored.add added).1 = offset) : session.HoldsEach (literal :: rest) := by
  intro device stored added found listed
  have placed := offsets 0 buffer literal (lockstep.buffer_at inhabited) rfl
  have sameOffset := offsets device stored added found listed
  obtain rfl := lockstep.buffer_eq found
  obtain ⟨place, entry⟩ := Literal.exists_place_of_mem 0 member
  have bound := wellFormed.entry_bound entry
  have positive := Literal.width_pos literal
  rw [Buffer.add_of_mem wellFormed entry] at placed
  by_contra absent
  -- A new literal would lie behind the watermark.
  obtain ⟨behind, again, above, -⟩ := Buffer.add_of_not_mem wellFormed absent
  rw [again] at sameOffset
  change place = offset at placed
  change behind = offset at sameOffset
  omega

end Session

/-- What can be hoisted has a literal. -/
theorem literalOf_of_canHoist {session : Session} {registry : Registry} {constant : Constant}
    {encoding : StringEncoding} (possible : CanHoist ⟨session, registry⟩ constant encoding) :
    ∃ literal known, literalOf constant encoding registry = .ok (literal, known) := by
  obtain ⟨first, others, buffers⟩ := buffers_of_canHoist possible
  obtain ⟨operands, after, succeeded⟩ := possible
  cases made : literalOf constant encoding registry with
  | ok result => exact ⟨result.1, result.2, rfl⟩
  | error failure =>
      rw [generate, if_pos rfl, Session.devices, buffers, List.length_cons,
        hoist_error session others.length made] at succeeded
      cases succeeded

section Refused

variable {session : Session} {registry known : Registry} {encoding : StringEncoding}
  {type : DataType} {front : List Constant} {literals : List Literal}

/-- The literals that one call registers have one width. -/
theorem width_of_made
    (made : List.Forall₂ (fun constant literal => constant.type = type ∧
      literalOf constant encoding registry = .ok (literal, registry)) front literals)
    {constant : Constant} (sameType : constant.type = type) {literal : Literal}
    (ofConstant : literalOf constant encoding registry = .ok (literal, known)) :
    ∀ added ∈ literals, added.width = literal.width := by
  intro added member
  obtain ⟨source, otherType, ofSource⟩ := Session.exists_of_forall₂ made.flip member
  have fits := Session.literalOf_fits ofSource
  rw [otherType, ← sameType] at fits
  exact fits.width_eq (Session.literalOf_fits ofConstant)

/-- From a session in lockstep, the constants in front of a refused one can be hoisted as before
only if nothing was left. -/
theorem holdsEach_of_kept {count : Nat} {buffer : Buffer}
    (lockstep : session.Lockstep (count + 1) buffer) (wellFormed : buffer.WellFormed)
    (made : List.Forall₂ (fun constant literal => constant.type = type ∧
      literalOf constant encoding registry = .ok (literal, registry)) front literals)
    (few : literals.length < session.devices)
    (offsets : ∃ offset, ∀ (device : Nat) (buffer : Buffer) (added : Literal),
      session.buffers[device]? = some buffer → literals[device]? = some added →
        (buffer.add added).1 = offset)
    (kept : ∀ constant ∈ front, CanHoist ⟨session, registry⟩ constant encoding →
      CanHoist ⟨session.addEach literals, registry⟩ constant encoding) :
    session.HoldsEach literals := by
  cases made with
  | nil => exact fun device buffer added _ listed => by simp at listed
  | @cons constant literal others rest first made =>
      obtain ⟨offset, offsets⟩ := offsets
      obtain ⟨operands, next, hoisted, -⟩ := lockstep.hoist_ok wellFormed first.2
      have succeeded : Workspace.generate ⟨session, registry⟩ constant encoding true =
          (.ok operands, ⟨next, registry⟩) := by
        rw [generate, if_pos rfl, lockstep.devices_eq]
        exact hoisted
      have possible : CanHoist ⟨session, registry⟩ constant encoding := ⟨operands, _, succeeded⟩
      have firstFound := lockstep.buffer_at (Nat.succ_pos count)
      have buffersWellFormed : session.BuffersWellFormed := by
        intro device other found
        rw [lockstep.buffer_eq found]
        exact wellFormed
      refine lockstep.holdsEach wellFormed ?_ (Nat.succ_pos count) offsets
      by_contra absent
      have blocked : ¬ buffer.Spares 0 literal literal := by
        rintro (member | member | ⟨other, -⟩)
        · exact absent member
        · exact absent member
        · contradiction
      obtain ⟨cause, failed⟩ := breach_of_not_spared buffersWellFormed possible first.2 few
        (width_of_made (.cons first made) first.1 first.2) firstFound rfl blocked
      obtain ⟨again, after, succeeded⟩ := kept constant List.mem_cons_self possible
      rw [succeeded] at failed
      contradiction

end Refused

/-- A hoisting call with one constant for each device that is refused one of them for a reportable
reason leaves the literals of the constants in front of it in the buffers of their devices, and
nothing else; nothing at all is left if and only if those devices held the literals before. A
constant of the call that could be hoisted for all devices before can still be hoisted if no device
stands in the way of its literal, and is a breach otherwise. After any history of calls of the code
generator, all constants of the call can be hoisted as before if and only if nothing was left. -/
theorem refused_hoisting_leaves_literals {session : Session} {registry : Registry}
    {constants : List Constant} {encoding : StringEncoding} {failure : Error} {after : Workspace}
    (filled : ∀ buffer ∈ session.buffers, ∃ added, buffer = Buffer.register added)
    (devices : constants.length = session.devices)
    (failed : hoist ⟨session, registry⟩ constants encoding = (.error failure, after))
    (reportable : failure.isFatal = false) :
    ∃ front refused back literals,
      constants = front ++ refused :: back ∧
      literalOf refused encoding registry = .error failure ∧
      List.Forall₂ (fun constant literal => constant.type = refused.type ∧
        literalOf constant encoding registry = .ok (literal, registry)) front literals ∧
      after = ⟨session.addEach literals, registry⟩ ∧
      (after = ⟨session, registry⟩ ↔ session.HoldsEach literals) ∧
      (∀ constant ∈ constants, constant.type = refused.type →
        CanHoist ⟨session, registry⟩ constant encoding →
        ∃ literal known, literalOf constant encoding registry = .ok (literal, known) ∧
          (session.Spares literals literal → after.CanHoist constant encoding) ∧
          (¬ session.Spares literals literal →
            ∃ cause, (after.generate constant encoding true).1 = .error (.breach cause))) ∧
      ∀ name first calls, Session.start name session.devices = .ok first →
        session = first.afterCalls calls →
        ((∀ constant ∈ constants, CanHoist ⟨session, registry⟩ constant encoding →
          after.CanHoist constant encoding) ↔ after = ⟨session, registry⟩) := by
  obtain ⟨front, refused, back, literals, rfl, refusal, made, offsets, rfl⟩ :=
    refused_hoist failed reportable
  have wellFormed : session.BuffersWellFormed := by
    intro device buffer found
    obtain ⟨added, rfl⟩ := filled buffer (List.mem_of_getElem? found)
    exact Buffer.register_wellFormed added
  have few : literals.length < session.devices := by
    rw [← devices, ← made.length_eq, List.length_append, List.length_cons]
    omega
  have unchanged : (⟨session.addEach literals, registry⟩ : Workspace) = ⟨session, registry⟩ ↔
      session.HoldsEach literals := by
    rw [Workspace.mk.injEq, and_iff_left rfl, Session.addEach_eq_self_iff]
  refine ⟨front, refused, back, literals, rfl, refusal, made, rfl, unchanged, ?_, ?_⟩
  · intro constant member sameType possible
    obtain ⟨literal, known, ofConstant⟩ := literalOf_of_canHoist possible
    refine ⟨literal, known, ofConstant, canHoist_of_spared wellFormed possible ofConstant, ?_⟩
    intro stands
    simp only [Session.Spares, not_forall] at stands
    obtain ⟨device, buffer, added, found, listed, blocked⟩ := stands
    exact breach_of_not_spared wellFormed possible ofConstant few
      (width_of_made made sameType ofConstant) found listed blocked
  · intro name first calls started reached
    obtain ⟨inhabited, rfl⟩ := Session.start_eq_ok started
    obtain ⟨count, sized⟩ : ∃ count, session.devices = count + 1 :=
      ⟨session.devices - 1, by omega⟩
    rw [sized] at reached
    obtain ⟨buffer, bufferWellFormed, lockstep⟩ :=
      (Session.Lockstep.empty name (count + 1)).afterCalls Buffer.WellFormed.empty calls
    rw [← reached] at lockstep
    constructor
    · intro kept
      refine unchanged.mpr (holdsEach_of_kept lockstep bufferWellFormed made few offsets ?_)
      exact fun constant member => kept constant (List.mem_append_left _ member)
    · intro same constant _ possible
      rw [same]
      exact possible

theorem refused_hoisting_leaves_literals_three_devices :
    let first : Session := { code := { name := "kernel" }, buffers := [{}, {}, {}] }
    let calls : List Session.Call := [⟨.int 7, {}, true, {}⟩]
    let session := first.afterCalls calls
    let null : Constant := .null (.ofKind .text)
    let constants : List Constant := [null, null, .ofString "five"]
    let encoding : StringEncoding := ⟨.dictionary, 3⟩
    let attempt := hoist ⟨session, {}⟩ constants encoding
    (∀ buffer ∈ session.buffers, ∃ added, buffer = Buffer.register added) ∧
      constants.length = session.devices ∧ attempt.1 = .error (.noDictionary 3) ∧
      ¬ ∀ constant ∈ constants, CanHoist ⟨session, {}⟩ constant encoding →
        attempt.2.CanHoist constant encoding := by
  intro first calls session null constants encoding attempt
  have buffers : session.buffers = List.replicate 3 (Buffer.register [.int32 7]) := by
    decide +kernel
  have filled : ∀ buffer ∈ session.buffers, ∃ added, buffer = Buffer.register added := by
    rw [buffers]
    exact fun buffer member => ⟨_, List.eq_of_mem_replicate member⟩
  have sized : session.devices = 3 := by decide +kernel
  have given : constants.length = session.devices := sized.symm
  have refused : attempt.1 = .error (.noDictionary 3) := by decide +kernel
  refine ⟨filled, given, refused, fun kept => ?_⟩
  obtain ⟨front, other, back, literals, -, -, -, -, -, -, keeps⟩ :=
    refused_hoisting_leaves_literals filled given
      (Prod.ext refused rfl : attempt = (_, attempt.2)) rfl
  have started : Session.start "kernel" session.devices = .ok first := by
    rw [sized]
    rfl
  have unchanged : attempt.2 = ⟨session, {}⟩ := (keeps "kernel" first calls started rfl).mp kept
  exact absurd unchanged (by decide +kernel)

/-- A null that could be hoisted cannot be hoisted any more once it stood in front of a string whose
dictionary does not exist. -/
theorem refused_hoisting_poisons :
    let session : Session := { code := { name := "m" }, buffers := [{}, {}] }
    let null : Constant := .null (.ofKind .text)
    let encoding : StringEncoding := ⟨.dictionary, 3⟩
    let attempt := hoist ⟨session, {}⟩ [null, .ofString "five"] encoding
    Session.start "m" 2 = .ok session ∧ attempt.1 = .error (.noDictionary 3) ∧
      Error.isFatal (.noDictionary 3) = false ∧
      attempt.2.session.buffers = [Buffer.register [.int32 Sql.nullId], {}] ∧
      (Workspace.generate ⟨session, {}⟩ null encoding true).1 = .ok [.result 3 (.int 32)] ∧
      (attempt.2.generate null encoding true).1 = .error (.breach (.neverMaterialized 0)) := by
  decide +kernel

end QueryKernel
