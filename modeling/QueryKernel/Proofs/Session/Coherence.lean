import QueryKernel.Proofs.Session.Materialization

/-!
Contract: sessions whose code, table and buffers belong together.

Owns:
- coherent sessions: the globals are those of the table, in order, each is stored by the
  entry block, and every device holds a literal at each offset of the table;
- frames that solve the code of a session on the image of a device and hold its decoded
  literals;
- steps of a session, which keep both; registration, materialization and reloads are steps.

Does not own: calls that put these steps together.
-/

namespace QueryKernel

open QueryKernel.Ir (Module Operand Frame RuntimeValue Ty)
open QueryKernel.Sql (Constant DataType)
open QueryKernel.Dictionary (Registry)

namespace Session

/-! ### Invariants -/

/-- What every call of the code generator keeps of a session. -/
structure Coherent (session : Session) : Prop where
  wellFormed : session.BuffersWellFormed
  ordered : session.code.Ordered
  names : session.code.globals.toList.map Ir.Global.name =
    session.table.entries.flatMap fun entry => globalNames entry.1 entry.2.isText
  stored : ∀ offset globals, session.table.get? offset = some globals →
    ∀ global ∈ globals.globals, session.code.Stores global
  held : ∀ offset globals, session.table.get? offset = some globals →
    ∀ device < session.devices, ∃ literal, session.Holds device offset literal

/-- An image that holds all literals of a device. -/
def Reads (session : Session) (device : Nat) (image : Array UInt8) : Prop :=
  ∀ offset literal, session.Holds device offset literal →
    literal.StoredAt image offset ∧ offset < 2 ^ 63

/-- A solution of the code of a session on an image of a device: the globals of the table
hold the decoded literals of the device. -/
structure Sound (session : Session) (device : Nat) (image : Array UInt8) (frame : Frame) :
    Prop where
  solves : frame.Solves session.code image
  decodes : ∀ offset globals, session.table.get? offset = some globals →
    ∀ literal, session.Holds device offset literal → ∃ contents,
      literal.Decodes image (globals.globals.map session.code.globalType) contents ∧
      List.Forall₂ (fun global content => frame.globals[global]? = some (some content))
        globals.globals contents

/-- Every image of a device has a frame. -/
def HasFrames (session : Session) : Prop :=
  ∀ device image, device < session.devices → session.Reads device image →
    ∃ frame, session.Sound device image frame

/-- Operands in the body that reload the literal of an offset. -/
def Available (session : Session) (offset : Nat) (operands : List Operand) : Prop :=
  ∃ globals, session.table.get? offset = some globals ∧
    session.code.Loads operands globals.globals

/-- What a step of code generation keeps. -/
structure Leads (before after : Session) : Prop where
  devices : after.devices = before.devices
  grows : Module.Extends before.code after.code
  holds : ∀ device offset literal, before.Holds device offset literal →
    after.Holds device offset literal
  table : ∀ offset globals, before.table.get? offset = some globals →
    after.table.get? offset = some globals
  coherent : before.Coherent → after.Coherent
  sound : before.Coherent → ∀ device image, device < before.devices →
    after.Reads device image →
    (∃ frame, before.Sound device image frame) → ∃ frame, after.Sound device image frame

theorem Leads.refl (session : Session) : Leads session session :=
  ⟨rfl, .refl _, fun _ _ _ holds => holds, fun _ _ known => known, id, fun _ _ _ _ _ sound => sound⟩

theorem Reads.of_leads {before after : Session} (leads : before.Leads after) {device : Nat}
    {image : Array UInt8} (reads : after.Reads device image) : before.Reads device image :=
  fun offset literal holds => reads offset literal (leads.holds device offset literal holds)

theorem Leads.trans {first second third : Session} (front : Leads first second)
    (back : Leads second third) : Leads first third where
  devices := back.devices.trans front.devices
  grows := front.grows.trans back.grows
  holds device offset literal holds :=
    back.holds device offset literal (front.holds device offset literal holds)
  table offset globals known := back.table offset globals (front.table offset globals known)
  coherent := back.coherent ∘ front.coherent
  sound coherent device image inside reads sound :=
    back.sound (front.coherent coherent) device image (front.devices ▸ inside) reads
      (front.sound coherent device image inside (reads.of_leads back) sound)

theorem HasFrames.leads {before after : Session} (frames : before.HasFrames)
    (coherent : before.Coherent) (leads : before.Leads after) : after.HasFrames := by
  intro device image inside reads
  have insideBefore : device < before.devices := leads.devices ▸ inside
  exact leads.sound coherent device image insideBefore reads
    (frames device image insideBefore (reads.of_leads leads))

theorem Available.leads {before after : Session} (leads : before.Leads after) {offset : Nat}
    {operands : List Operand} (available : before.Available offset operands) :
    after.Available offset operands := by
  obtain ⟨globals, known, loads⟩ := available
  exact ⟨globals, leads.table offset globals known, loads.mono leads.grows⟩

/-! ### Coherent sessions -/

theorem start_eq_ok {name : String} {devices : Nat} {session : Session}
    (started : Session.start name devices = .ok session) :
    0 < devices ∧
      session = { code := { name }, buffers := List.replicate devices {} } := by
  unfold Session.start at started
  split at started
  · contradiction
  · split at started
    · contradiction
    · cases started
      exact ⟨by omega, rfl⟩

/-- Whether a session starts does not depend on its name. -/
theorem start_other {name : String} {devices : Nat} {session : Session}
    (started : Session.start name devices = .ok session) (other : String) :
    Session.start other devices =
      .ok { code := { name := other }, buffers := List.replicate devices {} } := by
  unfold Session.start at started ⊢
  split at started
  · contradiction
  · rename_i inhabited
    split at started
    · contradiction
    · rename_i bounded
      rw [if_neg inhabited, if_neg bounded]

theorem exists_of_forall₂ {α β : Type} {relation : α → β → Prop} {left : List α} {right : List β}
    (related : List.Forall₂ relation left right) {element : α} (member : element ∈ left) :
    ∃ other, relation element other := by
  induction related with
  | nil => contradiction
  | cons first _ inductionHypothesis =>
      rcases List.mem_cons.mp member with rfl | later
      · exact ⟨_, first⟩
      · exact inductionHypothesis later

theorem Holds.unique {session : Session} {device offset : Nat} {left right : Literal}
    (leftHolds : session.Holds device offset left)
    (rightHolds : session.Holds device offset right) : left = right := by
  obtain ⟨buffer, found, leftMember⟩ := leftHolds
  obtain ⟨other, otherFound, rightMember⟩ := rightHolds
  rw [found] at otherFound
  cases otherFound
  exact Literal.place_unique leftMember rightMember

/-- The names of an offset that is not in the table are new. -/
theorem Coherent.fresh {session : Session} (coherent : session.Coherent) {offset : Nat}
    (unknown : session.table.get? offset = none) (isText : Bool) :
    Fresh session.code offset isText := by
  intro name member global found same
  have listed : name ∈ session.code.globals.toList.map Ir.Global.name :=
    List.mem_map.mpr ⟨global, Array.mem_toList_iff.mpr found, same⟩
  rw [coherent.names] at listed
  obtain ⟨entry, inTable, ofEntry⟩ := List.mem_flatMap.mp listed
  have key := globalNames_unique ofEntry member
  have absent := List.lookup_eq_none_iff.mp unknown entry inTable
  simp [key] at absent

theorem Coherent.global_lt {session : Session} (coherent : session.Coherent) {offset : Nat}
    {globals : Materialized} (known : session.table.get? offset = some globals) {global : Nat}
    (member : global ∈ globals.globals) : global < session.code.globals.size := by
  obtain ⟨place, value, atPlace⟩ := coherent.stored offset globals known global member
  exact ((coherent.ordered.admitted place _ _ atPlace).stores value global rfl).2

theorem globalType_of_extends {before after : Module} (grows : Module.Extends before after)
    {global : Nat} (inside : global < before.globals.size) :
    after.globalType global = before.globalType global := by
  have here := Array.getElem?_eq_getElem inside
  rw [Module.globalType, Module.globalType, here, grows.globals global _ here]

/-- The types of known globals stay. -/
theorem Coherent.globalTypes {session : Session} (coherent : session.Coherent) {offset : Nat}
    {globals : Materialized} (known : session.table.get? offset = some globals) {after : Module}
    (grows : Module.Extends session.code after) :
    globals.globals.map after.globalType = globals.globals.map session.code.globalType :=
  List.map_congr_left fun _ member =>
    globalType_of_extends grows (coherent.global_lt known member)

/-- Known literals stay decoded in a larger frame for larger code. -/
theorem Sound.decodes_mono {session : Session} (coherent : session.Coherent) {device : Nat}
    {image : Array UInt8} {frame next : Frame} (sound : session.Sound device image frame)
    {after : Module} (grows : Module.Extends session.code after)
    (kept : ∀ (place : Nat) (found : Option RuntimeValue), frame.globals[place]? = some found →
      next.globals[place]? = some found)
    {offset : Nat} {globals : Materialized}
    (known : session.table.get? offset = some globals) {literal : Literal}
    (holds : session.Holds device offset literal) :
    ∃ contents, literal.Decodes image (globals.globals.map after.globalType) contents ∧
      List.Forall₂ (fun global content => next.globals[global]? = some (some content))
        globals.globals contents := by
  obtain ⟨contents, decodes, filled⟩ := sound.decodes offset globals known literal holds
  rw [coherent.globalTypes known grows]
  exact ⟨contents, decodes, filled.imp fun global _ atGlobal => kept global _ atGlobal⟩

/-! ### Steps -/

/-- Registration changes neither code nor table. -/
theorem Registers.leads {before after : Session} (registers : before.Registers after) :
    before.Leads after where
  devices := registers.devices
  grows := registers.code ▸ .refl _
  holds device offset literal holds := holds.registers registers
  table offset globals known := registers.table ▸ known
  coherent coherent := by
    refine ⟨registers.wellFormed coherent.wellFormed, registers.code ▸ coherent.ordered, ?_, ?_, ?_⟩
    · rw [registers.code, registers.table]
      exact coherent.names
    · rw [registers.code, registers.table]
      exact coherent.stored
    · rw [registers.table]
      intro offset globals known device inside
      have inside : device < before.devices := Nat.lt_of_lt_of_eq inside registers.devices
      obtain ⟨literal, holds⟩ := coherent.held offset globals known device inside
      exact ⟨literal, holds.registers registers⟩
  sound coherent device image inside reads := by
    rintro ⟨frame, sound⟩
    refine ⟨frame, registers.code ▸ sound.solves, ?_⟩
    rw [registers.code, registers.table]
    intro offset globals known literal holds
    -- The device held a literal there before, and it is still the same.
    obtain ⟨earlier, earlierHolds⟩ := coherent.held offset globals known device inside
    obtain rfl := (earlierHolds.registers registers).unique holds
    exact sound.decodes offset globals known earlier earlierHolds

/-- More lines over the same globals. -/
theorem leads_of_code {session : Session} {code : Module}
    (grows : Module.Extends session.code code)
    (globals : code.globals = session.code.globals)
    (ordered : session.code.Ordered → code.Ordered)
    (solves : session.Coherent → ∀ device image frame, device < session.devices →
      session.Sound device image frame → ∃ next, frame.Continues next code image) :
    session.Leads { session with code } where
  devices := rfl
  grows := grows
  holds _ _ _ holds := holds
  table _ _ known := known
  coherent coherent := {
    wellFormed := coherent.wellFormed
    ordered := ordered coherent.ordered
    names := globals ▸ coherent.names
    stored := fun offset found known global member =>
      (coherent.stored offset found known global member).mono grows
    held := coherent.held }
  sound coherent device image inside reads := by
    rintro ⟨frame, sound⟩
    obtain ⟨next, continues⟩ := solves coherent device image frame inside sound
    refine ⟨next, continues.solves, fun offset found known literal holds => ?_⟩
    exact sound.decodes_mono coherent grows
      (fun place value atPlace => continues.globals ▸ atPlace) known holds

/-- A reload appends body lines. -/
theorem reload_leads {session after : Session} {offset : Nat} {isText : Bool}
    {operands : List Operand} (coherent : session.Coherent)
    (reloaded : session.reload offset isText = .ok (operands, after)) :
    session.Leads after ∧ after.Available offset operands := by
  obtain ⟨globals, known, -, rfl, rfl⟩ := reload_eq_ok reloaded
  obtain ⟨lengthened, loads⟩ := Module.loadAll_loads (coherent.stored offset globals known)
  refine ⟨leads_of_code lengthened.grows lengthened.globals lengthened.ordered ?_,
    globals, known, loads⟩
  intro _ device image frame inside sound
  obtain ⟨literal, holds⟩ := coherent.held offset globals known device inside
  obtain ⟨contents, -, filled⟩ := sound.decodes offset globals known literal holds
  refine Frame.loadAll_solves sound.solves fun global member => ?_
  obtain ⟨content, atGlobal⟩ := exists_of_forall₂ filled member
  exact ⟨content, atGlobal⟩

/-- A string in the pool changes no line. -/
theorem addString_leads (session : Session) (value : String) :
    session.Leads { session with code := (session.code.addString value).2 } := by
  have grows := Module.Extends.addString session.code value
  have same := Module.addString_recorded session.code value
  refine leads_of_code grows (Module.addString_globals session.code value)
    (fun ordered => ordered.of_same_lines grows same) ?_
  intro _ device image frame _ sound
  exact ⟨frame, .refl frame, sound.solves.addString value, rfl⟩

/-! ### Materialization -/

theorem map_name_zipWith {names : List String} {types : List Ty}
    (sameLength : types.length = names.length) :
    (List.zipWith Ir.Global.mk names types).map Ir.Global.name = names := by
  induction names generalizing types with
  | nil => rfl
  | cons name names inductionHypothesis =>
      cases types with
      | nil => contradiction
      | cons type types =>
          rw [List.zipWith_cons_cons, List.map_cons,
            inductionHypothesis (by simpa using sameLength)]

/-- The contents of new globals are found behind those of the old ones. -/
theorem filled_range {before after : Array (Option RuntimeValue)} {contents : List RuntimeValue}
    (appended : after.toList = before.toList ++ contents.map some) :
    List.Forall₂ (fun global content => after[global]? = some (some content))
      (List.range' before.size contents.length) contents := by
  rw [List.forall₂_iff_get]
  refine ⟨List.length_range', fun place inRange inContents => ?_⟩
  have below : place < contents.length := inContents
  rw [← Array.getElem?_toList, appended]
  simp [below]

/-- The types of the globals of a decoded literal are those of its shape. -/
theorem Decoded.globalTypes {type : DataType} {offset : Nat} {isText : Bool}
    {before after : Module} {globals : Materialized} {types : List Ty}
    (decoded : Decoded type offset isText before after globals types) :
    globals.globals.map after.globalType = types := by
  rw [decoded.places]
  refine List.ext_getElem (by simp) fun place inside _ => ?_
  have below : place < types.length := by simpa using inside
  have named : place < (globalNames offset isText).length := decoded.length ▸ below
  have added : after.globals[before.globals.size + place]? =
      some ⟨(globalNames offset isText)[place], types[place]⟩ := by
    have inBoth : place < (List.zipWith Ir.Global.mk (globalNames offset isText) types).length := by
      rw [List.length_zipWith]
      omega
    rw [← Array.getElem?_toList, decoded.defines.globals,
      List.getElem?_append_right (by simp), Array.length_toList, Nat.add_sub_cancel_left,
      List.getElem?_eq_getElem inBoth, List.getElem_zipWith]
  simp [Module.globalType, added]

/-- A literal that every device holds at a new offset is materialized. -/
theorem materialize_leads {session : Session} {type : DataType} {offset : Nat} {isText : Bool}
    (coherent : session.Coherent) (inhabited : 0 < session.devices)
    (unknown : session.table.get? offset = none)
    (held : ∀ device < session.devices, ∃ literal, session.Holds device offset literal ∧
      Fits type literal isText) :
    ∃ globals after, session.materialize type offset isText = (.ok (), after) ∧
      session.Leads after ∧ after.buffers = session.buffers ∧
      after.table = session.table.extended offset globals ∧ globals.isText = isText ∧
      globals.globals.map after.code.globalType = decodedTypes type isText := by
  obtain ⟨first, -, firstFits⟩ := held 0 inhabited
  obtain ⟨globals, code, success, decoded⟩ :=
    materialize_eq unknown (coherent.fresh unknown isText) firstFits
  have known := MaterializedTable.get?_extended unknown globals
  refine ⟨globals, _, success, ?_, rfl, rfl, decoded.shape, decoded.globalTypes⟩
  refine ⟨rfl, decoded.defines.grows, fun _ _ _ holds => holds, ?_, ?_, ?_⟩
  · intro other found foundAt
    rw [known, if_neg]
    · exact foundAt
    · rintro rfl
      rw [unknown] at foundAt
      contradiction
  · intro _
    refine ⟨coherent.wellFormed, decoded.defines.ordered coherent.ordered, ?_, ?_, ?_⟩
    · simp only [MaterializedTable.extended, List.flatMap_append, List.flatMap_singleton,
        decoded.defines.globals, List.map_append, coherent.names]
      rw [map_name_zipWith decoded.length, decoded.shape]
    · intro other found foundAt global member
      rw [known] at foundAt
      split at foundAt
      · cases foundAt
        rw [decoded.places, List.mem_range'_1] at member
        obtain ⟨place, rfl⟩ := Nat.exists_eq_add_of_le member.1
        have below : place < (globalNames offset isText).length := by
          rw [← decoded.length]
          omega
        exact decoded.defines.stores place (by simp [decoded.length, below])
      · exact (coherent.stored other found foundAt global member).mono decoded.defines.grows
    · intro other found foundAt device inside
      rw [known] at foundAt
      split at foundAt
      · rename_i same
        obtain ⟨literal, holds, -⟩ := held device inside
        exact ⟨literal, same ▸ holds⟩
      · exact coherent.held other found foundAt device inside
  · intro _ device image inside reads
    rintro ⟨frame, sound⟩
    obtain ⟨literal, holds, fits⟩ := held device inside
    obtain ⟨stored, small⟩ := reads offset literal holds
    obtain ⟨next, contents, nextSolves, decodes, filled⟩ :=
      decoded.solves sound.solves fits stored small
    refine ⟨next, nextSolves, fun other found foundAt someLiteral someHolds => ?_⟩
    rw [known] at foundAt
    split at foundAt
    · rename_i same
      subst same
      cases foundAt
      obtain rfl := Holds.unique someHolds holds
      have sizes : contents.length = (decodedTypes type isText).length := decodes.length_eq
      refine ⟨contents, decoded.globalTypes ▸ decodes, ?_⟩
      rw [decoded.places, ← sizes, ← sound.solves.globals_size]
      exact filled_range filled
    · refine sound.decodes_mono coherent decoded.defines.grows (fun place value atPlace => ?_)
        foundAt someHolds
      have inside := (Array.getElem?_eq_some_iff.mp atPlace).1
      rw [← Array.getElem?_toList, filled, List.getElem?_append_left (by simpa using inside),
        Array.getElem?_toList]
      exact atPlace

/-! ### Types of decoded literals -/

/-- The globals of each offset have the types that are assigned to the literals there. -/
def TypedBy (session : Session) (types : Literal → List Ty) : Prop :=
  ∀ offset globals, session.table.get? offset = some globals →
    ∀ device literal, session.Holds device offset literal →
      globals.globals.map session.code.globalType = types literal

/-- The globals of each offset have the types that the literals there have by themselves. A
null boolean without nulls breaks this: it is a byte, but decoded to a truth value. -/
def Faithful (session : Session) : Prop :=
  ∀ offset globals, session.table.get? offset = some globals →
    ∀ device literal, session.Holds device offset literal →
      globals.globals.map session.code.globalType = literal.ownTypes

section TypedBy

variable {types : Literal → List Ty}

theorem TypedBy.registers {before after : Session} (registers : before.Registers after)
    (coherent : before.Coherent) (typed : before.TypedBy types) : after.TypedBy types := by
  unfold TypedBy
  rw [registers.code, registers.table]
  intro offset globals known device literal holds
  have inside : device < before.devices := by
    obtain ⟨grown, found, -⟩ := holds
    obtain ⟨buffer, earlier, -⟩ := registers.buffer_of_after found
    exact (List.getElem?_eq_some_iff.mp earlier).1
  obtain ⟨earlier, earlierHolds⟩ := coherent.held offset globals known device inside
  obtain rfl := (earlierHolds.registers registers).unique holds
  exact typed offset globals known device earlier earlierHolds

theorem TypedBy.of_code {session : Session} (coherent : session.Coherent)
    (typed : session.TypedBy types) {code : Module} (grows : Module.Extends session.code code) :
    TypedBy { session with code } types := by
  intro offset globals known device literal holds
  rw [coherent.globalTypes known grows]
  exact typed offset globals known device literal holds

theorem TypedBy.extended {session after : Session} (coherent : session.Coherent)
    (typed : session.TypedBy types) (leads : session.Leads after)
    (buffers : after.buffers = session.buffers) {offset : Nat} {globals : Materialized}
    (unknown : session.table.get? offset = none)
    (table : after.table = session.table.extended offset globals)
    (added : ∀ device literal, session.Holds device offset literal →
      globals.globals.map after.code.globalType = types literal) : after.TypedBy types := by
  intro other found foundAt device literal holds
  have heldBefore : session.Holds device other literal := by
    obtain ⟨buffer, bufferFound, member⟩ := holds
    exact ⟨buffer, buffers ▸ bufferFound, member⟩
  rw [table, MaterializedTable.get?_extended unknown] at foundAt
  split at foundAt
  · rename_i same
    subst same
    cases foundAt
    exact added device literal heldBefore
  · rw [coherent.globalTypes foundAt leads.grows]
    exact typed other found foundAt device literal heldBefore

/-- Types may be assigned otherwise to literals that no device holds. -/
theorem TypedBy.congr {session : Session} {others : Literal → List Ty}
    (typed : session.TypedBy types)
    (same : ∀ device offset literal, session.Holds device offset literal →
      types literal = others literal) : session.TypedBy others := by
  intro offset globals known device literal holds
  rw [← same device offset literal holds]
  exact typed offset globals known device literal holds

end TypedBy

theorem Faithful.of_code {session : Session} (coherent : session.Coherent)
    (faithful : session.Faithful) {code : Module} (grows : Module.Extends session.code code) :
    Faithful { session with code } :=
  TypedBy.of_code coherent faithful grows

end Session

end QueryKernel
