import QueryKernel.Proofs.Session.Lockstep
import QueryKernel.Proofs.Session.Readback

/-!
Contract: immediates say the same as hoisted literals.

Owns:
- operands that mean something on every device, whether they are loads of a literal or
  immediates;
- the immediates of a constant, wherever the constant has a literal: they succeed, change the
  dictionaries alike, and have the literal's meaning;
- one call in both ways, side by side.
-/

namespace QueryKernel

open QueryKernel.Ir (Module Operand Frame RuntimeValue)
open QueryKernel.Number
open QueryKernel.Sql (Constant DataType)
open QueryKernel.Dictionary (Registry)

/-! ### Operands with a meaning -/

theorem Meaning.ReadBy.mono {before after : Module} (grows : Module.Extends before after)
    {image : Array UInt8} {meaning : Meaning} {values : List RuntimeValue}
    (reads : meaning.ReadBy before image values) : meaning.ReadBy after image values := by
  cases meaning with
  | scalar value => exact reads
  | text value =>
      obtain ⟨address, same, read⟩ := reads
      exact ⟨address, same, Module.readBytes_mono grows read⟩

/-- Immediates whose values read as a meaning on every image. -/
def Ir.Module.States (code : Module) (operands : List Operand) (meaning : Meaning) : Prop :=
  ∃ values, (∀ frame : Frame, operands.mapM frame.resolve = .ok values) ∧
    ∀ image, meaning.ReadBy code image values

namespace Session

/-- Operands that mean the same on every device: loads of literals, or immediates. -/
inductive Expresses (session : Session) (operands : List Operand) (meaning : Meaning) : Prop where
  | loads {offset : Nat} (available : session.Available offset operands)
      (held : ∀ device < session.devices, ∃ literal, session.Holds device offset literal ∧
        literal.meaning = meaning)
  | immediates (states : session.code.States operands meaning)

theorem Expresses.leads {before after : Session} (leads : before.Leads after)
    {operands : List Operand} {meaning : Meaning} (expresses : before.Expresses operands meaning) :
    after.Expresses operands meaning := by
  cases expresses with
  | loads available held =>
      refine .loads (available.leads leads) fun device inside => ?_
      obtain ⟨literal, holds, same⟩ := held device (leads.devices ▸ inside)
      exact ⟨literal, leads.holds device _ literal holds, same⟩
  | immediates states =>
      obtain ⟨values, resolved, reads⟩ := states
      exact .immediates ⟨values, resolved, fun image => (reads image).mono leads.grows⟩

/-- In a frame of a session, operands resolve to values that read as their meaning. -/
theorem Readable.resolve {session : Session} (readable : session.Readable) {device : Nat}
    {image : Array UInt8} (inside : device < session.devices) {frame : Frame}
    (sound : session.Sound device image frame) {operands : List Operand} {meaning : Meaning}
    (expresses : session.Expresses operands meaning) :
    ∃ values, operands.mapM frame.resolve = .ok values ∧
      meaning.ReadBy session.code image values := by
  cases expresses with
  | loads available held =>
      obtain ⟨literal, holds, rfl⟩ := held device inside
      obtain ⟨globals, known, loads⟩ := available
      obtain ⟨contents, decodes, filled⟩ := sound.decodes _ globals known literal holds
      rw [readable.faithful _ globals known device literal holds] at decodes
      exact ⟨contents, sound.solves.resolve_loads loads filled, decodes.readBy session.code⟩
  | immediates states =>
      obtain ⟨values, resolved, reads⟩ := states
      exact ⟨values, resolved frame, reads image⟩

theorem Readable.resolveAll {session : Session} (readable : session.Readable) {device : Nat}
    {image : Array UInt8} (inside : device < session.devices) {frame : Frame}
    (sound : session.Sound device image frame) {outputs : List (List Operand)}
    {meanings : List Meaning} (express : List.Forall₂ session.Expresses outputs meanings) :
    ∃ results, outputs.mapM (fun operands => operands.mapM frame.resolve) = .ok results ∧
      List.Forall₂ (fun (meaning : Meaning) values =>
        meaning.ReadBy session.code image values) meanings results := by
  induction express with
  | nil => exact ⟨[], rfl, .nil⟩
  | cons first _ inductionHypothesis =>
      obtain ⟨values, resolved, reads⟩ := readable.resolve inside sound first
      obtain ⟨others, othersResolved, othersRead⟩ := inductionHypothesis
      exact ⟨values :: others,
        mapM_eq_ok.mpr (.cons resolved (mapM_eq_ok.mp othersResolved)), .cons reads othersRead⟩

/-! ### Immediates -/

theorem states_scalar (code : Module) {operand : Operand} {value : RuntimeValue}
    (resolved : ∀ frame : Frame, frame.resolve operand = .ok value) :
    code.States [operand] (.scalar value) :=
  ⟨[value], fun frame => mapM_eq_ok.mpr (.cons (resolved frame) .nil), fun _ => rfl⟩

/-- An integer immediate that fits its width. -/
theorem states_integer (code : Module) {bits : Nat} {value : Int64}
    (fits : signExtend bits value = value) :
    code.States [.ofInt bits value] (.scalar (.int bits value)) :=
  states_scalar code fun frame => by rw [Frame.resolve_ofInt, fits]

/-- The pointer, start and length of a string in the pool. -/
theorem states_text (code : Module) {value : String}
    (short : ¬ maximalStringField < value.utf8ByteSize) :
    (code.addString value).2.States
      [.ofInt 64 0, (code.addString value).1, .ofInt 32 (Int64.ofNat value.utf8ByteSize)]
      (.text value) := by
  obtain ⟨index, operand, inPool, -⟩ := code.addString_eq value
  have length : signExtend 32 (Int64.ofNat value.utf8ByteSize) =
      Int64.ofNat value.utf8ByteSize := by
    refine signExtend_ofNat (by decide) (by decide) ?_
    simp only [maximalStringField] at short
    omega
  rw [operand]
  refine ⟨[.int 64 0, .pointer (.poolString index 0), .int 32 (Int64.ofNat value.utf8ByteSize)],
    fun frame => mapM_eq_ok.mpr (.cons rfl (.cons rfl (.cons ?_ .nil))),
    fun image => ⟨_, rfl, ?_⟩⟩
  · rw [Frame.resolve_ofInt, length]
  · simp only [Module.readBytes, inPool]
    exact Literal.slice_eq_of_occursAt ⟨[], [], by simp, rfl⟩
      (Literal.payload_length (.text value))

theorem immediateString_embeds {constant : Constant} {encoding : StringEncoding}
    {registry after : Registry} {literal : Literal}
    (made : stringLiteral constant encoding registry = .ok (literal, after)) (session : Session) :
    ∃ operands next,
      immediateString ⟨session, registry⟩ constant encoding = .ok (operands, ⟨next, after⟩) ∧
      next.code.States operands literal.meaning := by
  have word : ∀ (code : Module) (id : Int32),
      code.States [.ofInt 32 id.toInt64] (.scalar (.int 32 id.toInt64)) := fun code id =>
    states_integer code (signExtend_of_fits (by decide)
      (by rw [Int32.toInt_toInt64]; exact id.le_toInt)
      (by rw [Int32.toInt_toInt64]; have := id.toInt_lt; omega))
  unfold stringLiteral at made
  unfold immediateString
  cases mode : encoding.encoding with
  | dictionary =>
      simp only [mode] at made ⊢
      split at made
      · rename_i isNull
        cases made
        rw [if_pos isNull]
        exact ⟨_, session, rfl, word session.code _⟩
      · rename_i given
        rw [if_neg given]
        obtain ⟨handle, found, rest⟩ := bind_eq_ok.mp made
        obtain ⟨value, valueEq, same⟩ := bind_eq_ok.mp rest
        cases same
        exact ⟨_, session, bind_eq_ok.mpr ⟨value, valueEq, bind_eq_ok.mpr ⟨handle, found, rfl⟩⟩,
          word session.code _⟩
  | plain =>
      simp only [mode] at made ⊢
      split at made
      · rename_i isNull
        cases made
        rw [if_pos isNull]
        exact ⟨_, session, rfl, [.int 64 0, .pointer .null, .int 32 0], fun _ => rfl,
          fun image => ⟨.null, rfl, rfl⟩⟩
      · rename_i given
        rw [if_neg given]
        obtain ⟨value, valueEq, rest⟩ := bind_eq_ok.mp made
        split at rest
        · contradiction
        · rename_i short
          cases rest
          refine ⟨_, { session with code := (session.code.addString value).2 },
            bind_eq_ok.mpr ⟨value, valueEq, ?_⟩, states_text session.code short⟩
          rw [if_neg short]
          rfl

theorem immediateInteger_embeds {constant : Constant} {bits : Nat} {value : Int64}
    (width : constant.type.bitWidth = .ok bits) (stored : constant.storedInteger = .ok value)
    (fits : signExtend bits value = value) (code : Module) :
    immediateInteger constant = .ok (.ofInt bits value) ∧
      code.States [.ofInt bits value] (.scalar (.int bits value)) :=
  ⟨bind_eq_ok.mpr ⟨bits, width, bind_eq_ok.mpr ⟨value, stored, rfl⟩⟩, states_integer code fits⟩

theorem immediateBoolean_embeds {constant : Constant} {literal : Literal}
    (storage : constant.type.storage = .boolean)
    (made : booleanLiteral constant = .ok literal) (code : Module) :
    ∃ operand, immediateBoolean constant = .ok operand ∧ code.States [operand] literal.meaning := by
  unfold booleanLiteral at made
  unfold immediateBoolean
  split at made
  · rename_i isNull
    obtain ⟨null, nullEq, same⟩ := bind_eq_ok.mp made
    cases same
    rw [if_pos isNull]
    refine ⟨_, bind_eq_ok.mpr ⟨null, nullEq, rfl⟩, ?_⟩
    simp only [DataType.nullInteger, storage] at nullEq
    cases nullEq
    exact states_integer code (by decide)
  · rename_i given
    obtain ⟨truth, truthEq, same⟩ := bind_eq_ok.mp made
    rw [if_neg given]
    refine ⟨_, bind_eq_ok.mpr ⟨truth, truthEq, rfl⟩, ?_⟩
    split at same
    · rename_i notNull
      cases same
      rw [if_pos notNull]
      exact states_integer code (by cases truth <;> decide)
    · rename_i nullable
      cases same
      rw [if_neg nullable]
      cases truth <;> exact states_integer code (by decide)

theorem immediate_of_isString {constant : Constant}
    (string : constant.type.storage.isString = true) (workspace : Workspace)
    (encoding : StringEncoding) :
    immediate workspace constant encoding = immediateString workspace constant encoding := by
  unfold immediate
  cases kind : constant.type.storage <;> first | rfl | (rw [kind] at string; contradiction)

/-- Where a constant has a literal, it has immediates of the same meaning, and the
dictionaries grow alike. -/
theorem immediate_embeds {constant : Constant} {encoding : StringEncoding}
    {registry after : Registry} {literal : Literal}
    (made : literalOf constant encoding registry = .ok (literal, after)) (session : Session) :
    ∃ operands next,
      immediate ⟨session, registry⟩ constant encoding = .ok (operands, ⟨next, after⟩) ∧
      next.code.States operands literal.meaning := by
  unfold literalOf at made
  unfold immediate
  cases storage : constant.type.storage
  case char | varchar | text =>
    simp only [storage] at made ⊢
    exact immediateString_embeds made session
  all_goals
    simp only [storage] at made ⊢
  case array | point | decimal => contradiction
  case boolean =>
    obtain ⟨found, foundEq, same⟩ := bind_eq_ok.mp made
    cases same
    obtain ⟨operand, success, states⟩ :=
      immediateBoolean_embeds storage foundEq session.code
    exact ⟨[operand], session, bind_eq_ok.mpr ⟨operand, success, rfl⟩, states⟩
  case float | double =>
    split at made
    · rename_i isNull
      cases made
      rw [if_pos isNull]
      exact ⟨_, session, rfl, states_scalar session.code fun _ => rfl⟩
    · rename_i given
      obtain ⟨value, valueEq, same⟩ := bind_eq_ok.mp made
      cases same
      rw [if_neg given]
      exact ⟨_, session, bind_eq_ok.mpr ⟨value, valueEq, rfl⟩,
        states_scalar session.code fun _ => rfl⟩
  case smallInt =>
    obtain ⟨value, stored, same⟩ := bind_eq_ok.mp made
    cases same
    obtain ⟨lower, upper⟩ := storedInteger_smallInt storage stored
    obtain ⟨success, states⟩ := immediateInteger_embeds (by rw [DataType.bitWidth, storage]) stored
      (@signExtend_of_fits value 16 (by decide) lower upper) session.code
    have meaning : (Literal.int16 value.toInt16).meaning = .scalar (.int 16 value) := by
      change Meaning.scalar (.int 16 value.toInt16.toInt64) = .scalar (.int 16 value)
      rw [toInt64_toInt16 lower upper]
    rw [meaning]
    exact ⟨_, session, bind_eq_ok.mpr ⟨_, success, rfl⟩, states⟩
  case int =>
    obtain ⟨value, stored, same⟩ := bind_eq_ok.mp made
    cases same
    obtain ⟨lower, upper⟩ := storedInteger_int storage stored
    obtain ⟨success, states⟩ := immediateInteger_embeds (by rw [DataType.bitWidth, storage]) stored
      (@signExtend_of_fits value 32 (by decide) lower upper) session.code
    have meaning : (Literal.int32 value.toInt32).meaning = .scalar (.int 32 value) := by
      change Meaning.scalar (.int 32 value.toInt32.toInt64) = .scalar (.int 32 value)
      rw [toInt64_toInt32 lower upper]
    rw [meaning]
    exact ⟨_, session, bind_eq_ok.mpr ⟨_, success, rfl⟩, states⟩
  all_goals
    obtain ⟨value, stored, same⟩ := bind_eq_ok.mp made
    cases same
    obtain ⟨success, states⟩ := immediateInteger_embeds (by rw [DataType.bitWidth, storage]) stored
      rfl session.code
    exact ⟨_, session, bind_eq_ok.mpr ⟨_, success, rfl⟩, states⟩

/-- Immediates are a step of the session. -/
theorem immediate_leads {session : Session} {registry : Registry} {constant : Constant}
    {encoding : StringEncoding} {operands : List Operand} {after : Workspace}
    (made : Session.immediate ⟨session, registry⟩ constant encoding = .ok (operands, after)) :
    session.Leads after.session := by
  rcases immediate_session made with same | ⟨value, same⟩
  · rw [same]
    exact .refl session
  · rw [same]
    exact addString_leads session value

/-- Immediates keep a session readable. -/
theorem Readable.immediate {session : Session} (readable : session.Readable)
    {registry : Registry} {constant : Constant} {encoding : StringEncoding}
    {operands : List Operand} {after : Workspace}
    (made : Session.immediate ⟨session, registry⟩ constant encoding = .ok (operands, after)) :
    session.Leads after.session ∧ after.session.Readable := by
  have leads := immediate_leads made
  refine ⟨leads, readable.leads leads ?_⟩
  rcases immediate_session made with same | ⟨value, same⟩
  · rw [same]
    exact readable.faithful
  · rw [same]
    exact readable.faithful.of_code readable.coherent (addString_leads session value).grows

/-! ### One call in both ways -/

/-- A session whose literals are hoisted, next to one that embeds them. -/
structure Beside (hoisted plain : Session) (devices : Nat) : Prop where
  lockstep : ∃ buffer, hoisted.Lockstep devices buffer
  hoistedReadable : hoisted.Readable
  plainReadable : plain.Readable
  plainBuffers : plain.buffers = List.replicate devices {}

theorem Beside.start (name other : String) (devices : Nat) :
    Beside { code := { name }, buffers := List.replicate devices {} }
      { code := { name := other }, buffers := List.replicate devices {} } devices :=
  ⟨⟨{}, .empty name devices⟩, .start name devices, .start other devices, rfl⟩

/-- Where the hoisting call succeeds, the immediates succeed, mean the same and leave the same
dictionaries. -/
theorem Beside.generate {hoisted plain : Session} {count : Nat}
    (beside : Beside hoisted plain (count + 1)) {constant : Constant} {encoding : StringEncoding}
    {registry : Registry} {operands : List Operand} {after : Workspace}
    (regular : constant.isNullTruth = false)
    (succeeded : Workspace.generate ⟨hoisted, registry⟩ constant encoding true =
      (.ok operands, after)) :
    ∃ meaning others next,
      Workspace.generate ⟨plain, registry⟩ constant encoding false =
        (.ok others, ⟨next, after.registry⟩) ∧
      registry.Grows after.registry ∧
      (∀ later, after.registry.Grows later → constant.meaning? encoding later = some meaning) ∧
      hoisted.Leads after.session ∧ plain.Leads next ∧ Beside after.session next (count + 1) ∧
      after.session.Expresses operands meaning ∧ next.Expresses others meaning := by
  obtain ⟨buffer, lockstep⟩ := beside.lockstep
  have readable := beside.hoistedReadable
  have devices := lockstep.devices_eq
  have wellFormed : buffer.WellFormed :=
    readable.coherent.wellFormed 0 buffer (by simp [lockstep.buffers])
  rw [Workspace.generate, if_pos rfl, devices] at succeeded
  cases made : literalOf constant encoding registry with
  | error failure =>
      rw [hoist_error hoisted count made] at succeeded
      cases succeeded
  | ok result =>
      obtain ⟨literal, known⟩ := result
      obtain ⟨others, next, success, states⟩ := immediate_embeds made plain
      obtain ⟨found, last, hoistedOk, lastLockstep⟩ := lockstep.hoist_ok wellFormed made
      obtain ⟨leads, grows, keeps, provides⟩ :=
        Workspace.hoist_leads readable.coherent (by simp [devices]) succeeded
      rw [succeeded] at hoistedOk
      cases hoistedOk
      obtain ⟨plainLeads, plainReadable⟩ := beside.plainReadable.immediate success
      have faithful := keeps (fun other member => by
        rw [List.eq_of_mem_replicate member]
        exact regular) readable.faithful
      refine ⟨literal.meaning, others, next, ?_, grows,
        fun later behind => literalOf_meaning regular (literalOf_stable made behind), leads,
        plainLeads,
        ⟨⟨_, lastLockstep⟩, readable.leads leads faithful, plainReadable, ?_⟩, ?_,
        .immediates states⟩
      · rw [Workspace.generate, if_neg (by decide), success]
      · rw [← beside.plainBuffers]
        rcases immediate_session success with same | ⟨value, same⟩
        · exact congrArg buffers same
        · exact (congrArg buffers same).trans rfl
      · obtain ⟨offset, available, held⟩ := provides _ rfl
        refine .loads available fun device inside => ?_
        have listed : (List.replicate (count + 1) constant)[device]? = some constant := by
          rw [List.getElem?_replicate, if_pos (by rw [← devices, ← leads.devices]; exact inside)]
        obtain ⟨other, ofConstant, holds⟩ := held device constant listed
        rw [literalOf_stable made (.refl known)] at ofConstant
        cases ofConstant
        exact ⟨literal, holds, rfl⟩

end Session

end QueryKernel
