import QueryKernel.Proofs.Ir.Execution
import QueryKernel.Proofs.Session.Hoisting
import QueryKernel.Proofs.Session.Meaning

/-!
Contract: hoisted literals read back on every device.

The constants of a call may differ between the devices, so the buffers of the devices may
come apart, and a failing call may leave literals on some of them. None of this reaches the
values of a successful call.

Owns:
- histories of hoisting calls on a new session;
- the frame of a coherent session on the image of a device, and the values of operands in
  it;
- the main statement.
-/

namespace QueryKernel

open QueryKernel.Ir (Module Operand Frame RuntimeValue Ty)
open QueryKernel.Sql (Constant)
open QueryKernel.Dictionary (Registry)

namespace Session

/-! ### Values of operands -/

/-- What holds at the end of every history: the session is coherent, its globals have the
types of their literals, and every image of a device has a frame. -/
structure Readable (session : Session) : Prop where
  coherent : session.Coherent
  faithful : session.Faithful
  sound : ∀ device image, device < session.devices → session.Reads device image →
    ∃ frame, session.Sound device image frame

theorem Readable.start (name : String) (devices : Nat) :
    Readable { code := { name }, buffers := List.replicate devices {} } := by
  have unknown : ∀ offset, MaterializedTable.get? {} offset = none := fun _ => rfl
  refine ⟨⟨?_, .empty name, rfl, ?_, ?_⟩, ?_, ?_⟩
  · intro device buffer found
    rw [List.eq_of_mem_replicate (List.mem_of_getElem? found)]
    exact Literal.Buffer.WellFormed.empty
  · intro offset globals known
    rw [unknown] at known
    contradiction
  · intro offset globals known
    rw [unknown] at known
    contradiction
  · intro offset globals known
    rw [unknown] at known
    contradiction
  · intro device image _ _
    refine ⟨⟨#[], #[]⟩, .empty name image, fun offset globals known => ?_⟩
    rw [unknown] at known
    contradiction

theorem Readable.leads {before after : Session} (readable : before.Readable)
    (leads : before.Leads after) (faithful : after.Faithful) : after.Readable where
  coherent := leads.coherent readable.coherent
  faithful := faithful
  sound := HasFrames.leads readable.sound readable.coherent leads

/-- An image that a device serialized holds all of its literals. -/
theorem reads_of_serialize {session : Session} (wellFormed : session.BuffersWellFormed)
    {images : List (Array UInt8)} (serialized : session.serialize = .ok images) {device : Nat}
    {image : Array UInt8} (found : images[device]? = some image) : session.Reads device image := by
  intro offset literal holds
  obtain ⟨buffer, bufferFound, member⟩ := holds
  have all := mapM_eq_ok.mp serialized
  obtain ⟨inside, rfl⟩ := List.getElem?_eq_some_iff.mp bufferFound
  obtain ⟨insideImages, rfl⟩ := List.getElem?_eq_some_iff.mp found
  have written := (List.forall₂_iff_get.mp all).2 device inside insideImages
  have bufferWellFormed := wellFormed device _ bufferFound
  exact ⟨Literal.Buffer.serialize_stores bufferWellFormed written member,
    Literal.Buffer.offset_lt_of_serialize bufferWellFormed written member⟩

/-- Where a session serializes, its code has a frame on the image of every device. -/
theorem frame_of_serialize {session : Session} (coherent : session.Coherent)
    (frames : session.HasFrames) {images : List (Array UInt8)}
    (serialized : session.serialize = .ok images) {device : Nat}
    (inside : device < session.devices) :
    ∃ image frame, images[device]? = some image ∧ session.Sound device image frame := by
  have written : device < images.length := by
    rw [← (mapM_eq_ok.mp serialized).length_eq]
    exact inside
  have imageAt := List.getElem?_eq_getElem written
  have reads := reads_of_serialize coherent.wellFormed serialized imageAt
  rcases frames device _ inside reads with ⟨frame, sound⟩
  exact ⟨_, frame, imageAt, sound⟩

/-- The operands of an offset evaluate to the values that the literal is decoded to there. -/
theorem evaluate_decodes {session : Session} (coherent : session.Coherent)
    {types : Literal → List Ty} (typed : session.TypedBy types) {device : Nat}
    {image : Array UInt8} {frame : Frame} (sound : session.Sound device image frame) {offset : Nat}
    {literal : Literal} (holds : session.Holds device offset literal) {operands : List Operand}
    (available : session.Available offset operands) :
    ∃ values, session.code.evaluate image operands = .ok values ∧
      literal.Decodes image (types literal) values := by
  obtain ⟨globals, known, loads⟩ := available
  obtain ⟨contents, decodes, filled⟩ := sound.decodes offset globals known literal holds
  rw [typed offset globals known device literal holds] at decodes
  exact ⟨contents,
    Module.evaluate_eq_ok sound.solves coherent.ordered (sound.solves.resolve_loads loads filled),
    decodes⟩

/-- The operands of an offset evaluate to the meaning of the literal that the device holds
there. -/
theorem Readable.evaluate {session : Session} (readable : session.Readable) {device : Nat}
    {image : Array UInt8} (reads : session.Reads device image) {offset : Nat}
    {literal : Literal} (holds : session.Holds device offset literal) {operands : List Operand}
    (available : session.Available offset operands) :
    ∃ values, session.code.evaluate image operands = .ok values ∧
      literal.meaning.ReadBy session.code image values := by
  have inside : device < session.devices := by
    obtain ⟨buffer, found, -⟩ := holds
    exact (List.getElem?_eq_some_iff.mp found).1
  obtain ⟨frame, sound⟩ := readable.sound device image inside reads
  obtain ⟨values, evaluated, decodes⟩ :=
    evaluate_decodes readable.coherent readable.faithful sound holds available
  exact ⟨values, evaluated, decodes.readBy session.code⟩

/-! ### Histories -/

/-- One hoisting call, with one constant per device and the dictionaries that it finds. -/
structure HoistingCall where
  constants : List Constant
  encoding : StringEncoding
  registry : Registry

/-- A call that a session of some devices can receive: one constant per device, none of them
a null of a boolean type without nulls. -/
def HoistingCall.Regular (call : HoistingCall) (devices : Nat) : Prop :=
  call.constants.length = devices ∧ ∀ constant ∈ call.constants, constant.isNullTruth = false

def hoistingCall (session : Session) (call : HoistingCall) : Attempt Workspace (List Operand) :=
  Workspace.hoist ⟨session, call.registry⟩ call.constants call.encoding

/-- The session behind a history of calls, whether they succeed or fail. -/
def afterHoisting (session : Session) (calls : List HoistingCall) : Session :=
  calls.foldl (fun session call => (session.hoistingCall call).2.session) session

theorem Readable.hoistingCall {session : Session} (readable : session.Readable)
    {call : HoistingCall} (regular : call.Regular session.devices) :
    session.Leads (session.hoistingCall call).2.session ∧
      (session.hoistingCall call).2.session.Readable := by
  obtain ⟨leads, -, keeps, -⟩ := @Workspace.hoist_leads ⟨session, call.registry⟩ _ call.constants
    call.encoding _ readable.coherent regular.1 rfl
  exact ⟨leads, readable.leads leads (keeps regular.2 readable.faithful)⟩

theorem Readable.afterHoisting {session : Session} (readable : session.Readable)
    {calls : List HoistingCall} (regular : ∀ call ∈ calls, call.Regular session.devices) :
    session.Leads (session.afterHoisting calls) ∧ (session.afterHoisting calls).Readable := by
  induction calls generalizing session with
  | nil => exact ⟨.refl session, readable⟩
  | cons call rest inductionHypothesis =>
      obtain ⟨leads, next⟩ := readable.hoistingCall (regular call List.mem_cons_self)
      obtain ⟨restLeads, last⟩ := inductionHypothesis next fun other member => by
        rw [leads.devices]
        exact regular other (List.mem_cons_of_mem _ member)
      exact ⟨leads.trans restLeads, last⟩

/-- If the buffers serialize after a history of hoisting calls on a new session, then the
values of every call that succeeded evaluate on each device to the constant of the device. -/
theorem hoisted_literals_read_back (name : String) (devices : Nat) {session : Session}
    (started : Session.start name devices = .ok session) (front back : List HoistingCall)
    (call : HoistingCall) (regular : ∀ other ∈ front ++ call :: back, other.Regular devices)
    {operands : List Operand} {after : Workspace}
    (succeeded : (session.afterHoisting front).hoistingCall call = (.ok operands, after))
    {images : List (Array UInt8)}
    (serialized : (session.afterHoisting (front ++ call :: back)).serialize = .ok images) :
    ∀ device < devices, ∃ constant image meaning values,
      call.constants[device]? = some constant ∧ images[device]? = some image ∧
      constant.meaning? call.encoding after.registry = some meaning ∧
      (session.afterHoisting (front ++ call :: back)).code.evaluate image operands = .ok values ∧
      meaning.ReadBy (session.afterHoisting (front ++ call :: back)).code image values := by
  obtain ⟨-, rfl⟩ := start_eq_ok started
  let first : Session := { code := { name }, buffers := List.replicate devices {} }
  have sized : first.devices = devices := List.length_replicate
  rw [← sized] at regular
  -- The history before the call, the call, and the history behind it.
  obtain ⟨frontLeads, frontReadable⟩ := (Readable.start name devices).afterHoisting
    fun other member => regular other (List.mem_append_left _ member)
  have callRegular : call.Regular (first.afterHoisting front).devices := by
    rw [frontLeads.devices]
    exact regular call (List.mem_append_right _ List.mem_cons_self)
  obtain ⟨callLeads, -, -, provides⟩ :=
    Workspace.hoist_leads frontReadable.coherent callRegular.1 succeeded
  have callReadable := (frontReadable.hoistingCall callRegular).2
  rw [succeeded] at callReadable
  have sizedAfter : after.session.devices = first.devices :=
    callLeads.devices.trans frontLeads.devices
  obtain ⟨backLeads, lastReadable⟩ := callReadable.afterHoisting fun other member => by
    rw [sizedAfter]
    exact regular other (List.mem_append_right _ (List.mem_cons_of_mem _ member))
  have whole : first.afterHoisting (front ++ call :: back) = after.session.afterHoisting back := by
    simp only [afterHoisting, List.foldl_append, List.foldl_cons] at succeeded ⊢
    rw [succeeded]
  rw [whole] at serialized ⊢
  intro device inside
  have listed : device < call.constants.length := by
    rw [callRegular.1, frontLeads.devices, sized]
    exact inside
  have written : device < images.length := by
    rw [← (mapM_eq_ok.mp serialized).length_eq]
    change device < (after.session.afterHoisting back).devices
    rw [backLeads.devices, sizedAfter, sized]
    exact inside
  have imageAt := List.getElem?_eq_getElem written
  have constantAt := List.getElem?_eq_getElem listed
  obtain ⟨offset, available, held⟩ := provides operands rfl
  obtain ⟨literal, made, holds⟩ := held device _ constantAt
  obtain ⟨values, evaluated, reads⟩ := lastReadable.evaluate
    (reads_of_serialize lastReadable.coherent.wellFormed serialized imageAt)
    (backLeads.holds device offset literal holds) (available.leads backLeads)
  exact ⟨_, _, literal.meaning, values, constantAt, imageAt,
    literalOf_meaning (callRegular.2 _ (List.getElem_mem listed)) made, evaluated, reads⟩

theorem hoisted_literals_read_back_two_devices :
    let first : Session := { code := { name := "kernel" }, buffers := [{}, {}] }
    let front : List HoistingCall := [⟨[.ofString "five", .int 6], ⟨.dictionary, 3⟩, {}⟩]
    let call : HoistingCall := ⟨[.smallInt 7, .smallInt 8], {}, {}⟩
    let back : List HoistingCall := [⟨[.smallInt 8, .smallInt 8], {}, {}⟩]
    ∃ operands after images,
      (first.afterHoisting front).hoistingCall call = (.ok operands, after) ∧
      (first.afterHoisting (front ++ call :: back)).serialize = .ok images ∧
      ∀ device < 2, ∃ constant image meaning values,
        call.constants[device]? = some constant ∧ images[device]? = some image ∧
        constant.meaning? call.encoding after.registry = some meaning ∧
        (first.afterHoisting (front ++ call :: back)).code.evaluate image operands = .ok values ∧
        meaning.ReadBy (first.afterHoisting (front ++ call :: back)).code image values := by
  intro first front call back
  have regular : ∀ other ∈ front ++ call :: back, other.Regular 2 := by
    simp only [front, call, back, List.cons_append, List.nil_append, List.forall_mem_cons]
    exact ⟨⟨rfl, by decide⟩, ⟨rfl, by decide⟩, ⟨rfl, by decide⟩, by simp⟩
  have serialized : Session.serialize (Session.afterHoisting
      { code := { name := "kernel" }, buffers := [{}, {}] } (front ++ call :: back)) =
      .ok [#[7, 0, 8, 0], #[8, 0]] := by decide +kernel
  have outcome : ((first.afterHoisting front).hoistingCall call).1 =
      .ok [.result 3 (.int 16)] := by decide +kernel
  have succeeded : (first.afterHoisting front).hoistingCall call =
      (.ok [.result 3 (.int 16)], ((first.afterHoisting front).hoistingCall call).2) :=
    Prod.ext outcome rfl
  exact ⟨_, _, _, succeeded, serialized,
    hoisted_literals_read_back "kernel" 2 rfl front back call regular succeeded serialized⟩

end Session

end QueryKernel
