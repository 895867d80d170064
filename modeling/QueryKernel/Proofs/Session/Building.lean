import QueryKernel.Proofs.Ir.Typing
import QueryKernel.Proofs.Session.Lockstep
import QueryKernel.Proofs.Session.Readback

/-!
Contract: the code that calls generate has the types that it records.

Whatever the constants are, and whether it succeeds or fails, a call makes lawful edits only. So
generated code is as sound as code that is recorded by hand.

Owns:
- decoding, reloads and immediates as lawful edits, with the operands that they return;
- grounded sessions, whose table names globals of the code;
- histories that mix calls for one constant with calls for one constant per device;
- the main statement, for code recorded by hand and for generated code.
-/

namespace QueryKernel

open QueryKernel.Ir (Module Operand Ty)
open QueryKernel.Sql (Constant DataType)
open QueryKernel.Dictionary (Registry)

namespace Session

/-! ### Decoding -/

/-- The globals of a decoded literal exist. -/
def Materialized.Within (globals : Materialized) (code : Module) : Prop :=
  ∀ global ∈ globals.globals, global < code.globals.size

theorem Materialized.Within.mono {before after : Module} (retains : before.Retains after)
    {globals : Materialized} (within : globals.Within before) : globals.Within after :=
  fun global member => Nat.lt_of_lt_of_le (within global member) retains.grows.globals_size

/-- Decoding makes lawful edits, whether it succeeds or fails, and returns globals that exist. -/
structure DecodesLawfully (before : Module) (outcome : Attempt Module Materialized) : Prop where
  builds : before.Builds outcome.2
  within : ∀ globals, outcome.1 = .ok globals → globals.Within outcome.2

theorem DecodesLawfully.failed {before after : Module} (builds : before.Builds after)
    (failure : Error) : DecodesLawfully before (.error failure, after) where
  builds := builds
  within _ impossible := by contradiction

theorem DecodesLawfully.behind {before middle : Module} (builds : before.Builds middle)
    {outcome : Attempt Module Materialized} (rest : DecodesLawfully middle outcome) :
    DecodesLawfully before outcome where
  builds := builds.trans rest.builds
  within := rest.within

theorem supplies_argument (code : Module) : code.Supplies (.argument 0) := .argument

theorem supplies_ofInt (code : Module) (bits : Nat) (value : Int64) :
    code.Supplies (.ofInt bits value) := .int bits value

theorem locateString_builds (code : Module) (offset : Nat) :
    code.Builds (locateString code offset).2.2 ∧
      (locateString code offset).2.2.Supplies (locateString code offset).1 ∧
      (locateString code offset).2.2.Supplies (locateString code offset).2.1 := by
  have slot := Module.yields_offset .entry (supplies_argument code)
    (supplies_ofInt code 64 (Int64.ofNat offset))
  have header := Module.yields_load .entry slot.supplies (.int 32)
  have masked := Module.yields_and .entry header.supplies
    (supplies_ofInt _ 32 (Int64.ofNat Literal.offsetMask.toNat))
  have distance := Module.yields_shiftRight .entry masked.supplies
    (supplies_ofInt _ 32 (Int64.ofNat Literal.offsetShift.toNat))
  have length := Module.yields_and .entry
    (header.supplies.mono (masked.builds.trans distance.builds).retains)
    (supplies_ofInt _ 32 (Int64.ofNat Literal.lengthMask.toNat))
  have address := Module.yields_offset .entry (supplies_argument _)
    (distance.supplies.mono length.builds.retains)
  have builds := slot.builds.trans (header.builds.trans (masked.builds.trans
    (distance.builds.trans (length.builds.trans address.builds))))
  exact ⟨builds, address.supplies, length.supplies.mono address.builds.retains⟩

/-- Each part of a string is stored into a new global of its type. -/
theorem storeString_lawful {code : Module} (name : String) {start address length : Operand}
    (startSupplied : code.Supplies start) (addressSupplied : code.Supplies address)
    (lengthSupplied : code.Supplies length) :
    DecodesLawfully code (storeString code name start address length) := by
  unfold storeString
  split
  · exact .failed (.refl code) _
  · rename_i startGlobal first startAdded
    rcases Module.Builds.addGlobal startAdded with ⟨toFirst, startHolds⟩
    split
    · exact .failed toFirst _
    · rename_i addressGlobal second addressAdded
      rcases Module.Builds.addGlobal addressAdded with ⟨toSecond, addressHolds⟩
      split
      · exact .failed (toFirst.trans toSecond) _
      · rename_i lengthGlobal third lengthAdded
        rcases Module.Builds.addGlobal lengthAdded with ⟨toThird, lengthHolds⟩
        -- Later globals leave the earlier ones where they are, and stores add none.
        have builds := toFirst.trans (toSecond.trans toThird)
        have startKept := startHolds.mono (toSecond.trans toThird).retains
        have addressKept := addressHolds.mono toThird.retains
        have startStored :=
          Module.Builds.store .entry (startSupplied.mono builds.retains) startKept
        have addressStored := Module.Builds.store .entry
          (addressSupplied.mono (builds.trans startStored).retains)
          (addressKept.mono startStored.retains)
        have stored := startStored.trans addressStored
        have lengthStored := Module.Builds.store .entry
          (lengthSupplied.mono (builds.trans stored).retains) (lengthHolds.mono stored.retains)
        refine ⟨builds.trans (stored.trans lengthStored), fun globals same => ?_⟩
        cases same
        intro global member
        simp only [Materialized.globals, List.mem_cons, List.not_mem_nil, or_false] at member
        rcases member with rfl | rfl | rfl
        · exact startKept.lt
        · exact addressKept.lt
        · exact lengthHolds.lt

theorem decodeString_lawful (code : Module) (offset : Nat) :
    DecodesLawfully code (decodeString code offset) := by
  rcases locateString_builds code offset with ⟨located, addressSupplied, lengthSupplied⟩
  have addressNamed :=
    Module.Builds.setName addressSupplied (literalName offset ++ "_start_address")
  have lengthNamed := Module.Builds.setName (lengthSupplied.mono addressNamed.retains)
    (literalName offset ++ "_length")
  have named := addressNamed.trans lengthNamed
  exact .behind (located.trans named) (storeString_lawful (literalName offset)
    (supplies_ofInt _ 64 0) (addressSupplied.mono named.retains)
    (lengthSupplied.mono named.retains))

theorem loadScalar_yields {code : Module} {slot : Operand} (supplied : code.Supplies slot)
    (type : DataType) (bits : Nat) : code.Yields (loadScalar code type bits slot) := by
  have loaded := Module.yields_load .entry supplied (scalarType type bits)
  unfold loadScalar
  by_cases truth : type.isBoolean && type.notNull && 1 < bits
  · have compared := Module.yields_greater .entry loaded.supplies (supplies_ofInt _ bits 0)
    simp only [truth, if_true]
    exact ⟨loaded.builds.trans compared.builds, compared.supplies⟩
  · simp only [truth]
    exact loaded

theorem storeScalar_lawful {code : Module} (name : String) {value : Operand}
    (supplied : code.Supplies value) : DecodesLawfully code (storeScalar code name value) := by
  unfold storeScalar
  split
  · exact .failed (.refl code) _
  · rename_i global after added
    rcases Module.Builds.addGlobal added with ⟨builds, holds⟩
    have stored := Module.Builds.store .entry (supplied.mono builds.retains) holds
    refine ⟨builds.trans stored, fun globals same => ?_⟩
    cases same
    exact List.forall_mem_singleton.mpr holds.lt

theorem decodeScalar_lawful (code : Module) (type : DataType) (offset : Nat) :
    DecodesLawfully code (decodeScalar code type offset) := by
  have slot := Module.yields_offset .entry (supplies_argument code)
    (supplies_ofInt code 64 (Int64.ofNat offset))
  unfold decodeScalar
  cases type.bitWidth with
  | error failure => exact .failed slot.builds failure
  | ok bits =>
      have loaded := loadScalar_yields slot.supplies type bits
      have named := Module.Builds.setName loaded.supplies (literalName offset)
      dsimp only
      split
      · exact .behind (slot.builds.trans (loaded.builds.trans named))
          (storeScalar_lawful (literalName offset) (loaded.supplies.mono named.retains))
      · exact .failed slot.builds _

/-! ### Grounded sessions -/

/-- The globals that the table names exist. -/
def Grounded (session : Session) : Prop :=
  ∀ entry ∈ session.table.entries, entry.2.Within session.code

/-- What a call leaves, whether it succeeds or fails: the code is built by lawful edits, the session
stays grounded, and operands that are returned come from the code. -/
structure Emits (before : Session) (outcome : Except Error (List Operand)) (after : Session) :
    Prop where
  builds : before.code.Builds after.code
  grounded : after.Grounded
  supplies : ∀ operands, outcome = .ok operands → ∀ operand ∈ operands,
    after.code.Supplies operand

theorem Grounded.of_code {session : Session} (grounded : session.Grounded) {code : Module}
    (builds : session.code.Builds code) : Grounded { session with code } :=
  fun entry member => (grounded entry member).mono builds.retains

theorem Grounded.registers {before after : Session} (registers : before.Registers after)
    (grounded : before.Grounded) : after.Grounded := by
  unfold Grounded
  rw [registers.code, registers.table]
  exact grounded

/-- A call that fails returns no operands, and may have edited the code. -/
theorem Emits.failed {before after : Session} (grounded : after.Grounded)
    (builds : before.code.Builds after.code) (failure : Error) :
    Emits before (.error failure) after where
  builds := builds
  grounded := grounded
  supplies _ impossible := by contradiction

/-- An entry of the table after an insertion is the new one or was there. -/
theorem mem_insert {table : MaterializedTable} {offset : Nat} {globals : Materialized}
    {entry : Nat × Materialized} (member : entry ∈ (table.insert offset globals).2.entries) :
    entry = (offset, globals) ∨ entry ∈ table.entries := by
  unfold MaterializedTable.insert at member
  split at member
  · rcases List.mem_append.mp member with old | new
    · exact .inr old
    · exact .inl (List.mem_singleton.mp new)
  · rcases List.mem_map.mp member with ⟨other, otherMember, same⟩
    split at same
    · exact .inl same.symm
    · exact .inr (same ▸ otherMember)

theorem Grounded.materialize {session : Session} (grounded : session.Grounded) (type : DataType)
    (offset : Nat) (unencoded : Bool) :
    session.code.Builds (session.materialize type offset unencoded).2.code ∧
      (session.materialize type offset unencoded).2.Grounded := by
  have lawful : DecodesLawfully session.code
      (if unencoded then decodeString session.code offset
        else decodeScalar session.code type offset) := by
    split
    · exact decodeString_lawful session.code offset
    · exact decodeScalar_lawful session.code type offset
  unfold Session.materialize
  generalize (if unencoded then decodeString session.code offset
    else decodeScalar session.code type offset) = decoded at lawful
  rcases decoded with ⟨outcome, code⟩
  have builds : session.code.Builds code := lawful.builds
  cases outcome with
  | error failure => exact ⟨builds, grounded.of_code builds⟩
  | ok globals =>
      refine ⟨builds, fun entry member => ?_⟩
      rcases mem_insert member with rfl | old
      · exact lawful.within globals rfl
      · exact grounded.of_code builds entry old

/-- Globals that exist are loaded lawfully. -/
theorem loadAll_builds {code : Module} {globals : List Nat}
    (existing : ∀ global ∈ globals, global < code.globals.size) :
    code.Builds (code.loadAll globals).2 ∧
      ∀ operand ∈ (code.loadAll globals).1, (code.loadAll globals).2.Supplies operand := by
  induction globals generalizing code with
  | nil => exact ⟨.refl code, List.forall_mem_nil _⟩
  | cons global rest inductionHypothesis =>
      rcases List.forall_mem_cons.mp existing with ⟨here, there⟩
      have loaded := Module.yields_loadGlobal .body here
      rcases @inductionHypothesis (code.loadGlobal .body global).2 there with ⟨builds, supplies⟩
      exact ⟨loaded.builds.trans builds,
        List.forall_mem_cons.mpr ⟨loaded.supplies.mono builds.retains, supplies⟩⟩

theorem Grounded.reload {session after : Session} (grounded : session.Grounded) {offset : Nat}
    {unencoded : Bool} {operands : List Operand}
    (reloaded : session.reload offset unencoded = .ok (operands, after)) :
    Emits session (.ok operands) after := by
  rcases reload_eq_ok reloaded with ⟨globals, known, -, rfl, rfl⟩
  obtain ⟨front, back, entries, -⟩ := List.lookup_eq_some_iff.mp known
  have listed : (offset, globals) ∈ session.table.entries := by simp [entries]
  rcases loadAll_builds (grounded _ listed) with ⟨builds, supplies⟩
  refine ⟨builds, grounded.of_code builds, fun others same => ?_⟩
  cases same
  exact supplies

theorem Grounded.use {session : Session} (grounded : session.Grounded) (type : DataType)
    (offset : Nat) (unencoded isNew : Bool) :
    Emits session (session.use type offset unencoded isNew).1
      (session.use type offset unencoded isNew).2 := by
  -- A new literal is decoded first. A known one is only reloaded.
  have decoded : ∃ outcome middle, (if isNew then session.materialize type offset unencoded
      else (.ok (), session)) = (outcome, middle) ∧
        session.code.Builds middle.code ∧ middle.Grounded := by
    cases isNew with
    | true => exact ⟨_, _, rfl, grounded.materialize type offset unencoded⟩
    | false => exact ⟨_, _, rfl, .refl _, grounded⟩
  rcases decoded with ⟨outcome, middle, decodedEq, builds, middleGrounded⟩
  unfold Session.use
  rw [decodedEq]
  cases outcome with
  | error failure => exact .failed middleGrounded builds failure
  | ok done =>
      cases reloaded : middle.reload offset unencoded with
      | error failure =>
          dsimp only
          rw [reloaded]
          exact .failed middleGrounded builds failure
      | ok result =>
          have emits := middleGrounded.reload reloaded
          dsimp only
          rw [reloaded]
          exact ⟨builds.trans emits.builds, emits.grounded, emits.supplies⟩

end Session

/-! ### Calls -/

open Session

theorem hoist_emits {workspace : Workspace} (grounded : workspace.session.Grounded)
    (constants : List Constant) (encoding : StringEncoding) :
    Emits workspace.session (workspace.hoist constants encoding).1
      (workspace.hoist constants encoding).2.session := by
  cases constants with
  | nil => exact .failed grounded (.refl _) _
  | cons first rest =>
      -- Registration leaves the code and the table alone, also where it fails.
      have registers := (registerAll_registers encoding first.type (first :: rest) 0 none
        workspace).1
      unfold Workspace.hoist
      dsimp only
      generalize registerAll encoding first.type 0 none workspace (first :: rest) = registered
        at registers
      rcases registered with ⟨outcome, after⟩
      have groundedAfter := grounded.registers registers
      have builds : workspace.session.code.Builds after.session.code := by
        rw [registers.code]
        exact .refl _
      cases outcome with
      | error failure => exact .failed groundedAfter builds failure
      | ok agreed =>
          cases agreed with
          | none => exact .failed groundedAfter builds _
          | some offset =>
              have emits := groundedAfter.use first.type offset
                (first.type.isString && encoding.encoding != .dictionary)
                ((after.session.watermark 0).toOption !=
                  (workspace.session.watermark 0).toOption)
              exact ⟨builds.trans emits.builds, emits.grounded, emits.supplies⟩

/-- Operands that come from the code, without an edit of it. -/
theorem Session.Grounded.unchanged {session : Session} (grounded : session.Grounded)
    {operands : List Operand} (supplies : ∀ operand ∈ operands, session.code.Supplies operand) :
    Emits session (.ok operands) session where
  builds := .refl session.code
  grounded := grounded
  supplies others same := by
    cases same
    exact supplies

/-- Start, address and length of a string. -/
theorem supplies_parts {code : Module} {address : Operand} (supplied : code.Supplies address)
    (length : Int64) :
    ∀ operand ∈ [Operand.ofInt 64 0, address, .ofInt 32 length], code.Supplies operand := by
  simp only [List.forall_mem_cons, List.not_mem_nil, false_implies, implies_true, and_true]
  exact ⟨supplies_ofInt _ 64 0, supplied, supplies_ofInt _ 32 length⟩

theorem immediate_emits {workspace after : Workspace} {constant : Constant}
    {encoding : StringEncoding} {operands : List Operand}
    (grounded : workspace.session.Grounded)
    (made : Session.immediate workspace constant encoding = .ok (operands, after)) :
    Emits workspace.session (.ok operands) after.session := by
  cases Session.immediate_eq_ok made with
  | word bits value =>
      exact grounded.unchanged (List.forall_mem_singleton.mpr (supplies_ofInt _ bits value))
  | id handle value =>
      exact grounded.unchanged (List.forall_mem_singleton.mpr (supplies_ofInt _ 32 _))
  | float value => exact grounded.unchanged (List.forall_mem_singleton.mpr (.float value))
  | double value => exact grounded.unchanged (List.forall_mem_singleton.mpr (.double value))
  | nullText => exact grounded.unchanged (supplies_parts .null 0)
  | text value =>
      have added := Module.yields_addString workspace.session.code value
      refine ⟨added.builds, grounded.of_code added.builds, fun others same => ?_⟩
      cases same
      exact supplies_parts added.supplies (Int64.ofNat value.utf8ByteSize)

theorem generate_emits {workspace : Workspace} (grounded : workspace.session.Grounded)
    (constant : Constant) (encoding : StringEncoding) (hoisting : Bool) :
    Emits workspace.session (workspace.generate constant encoding hoisting).1
      (workspace.generate constant encoding hoisting).2.session := by
  unfold Workspace.generate
  cases hoisting with
  | true => exact hoist_emits grounded _ encoding
  | false =>
      rw [if_neg (by decide)]
      cases made : Session.immediate workspace constant encoding with
      | error failure => exact .failed grounded (.refl _) failure
      | ok result => exact immediate_emits grounded made

/-! ### Histories -/

namespace Session

/-- A call of the code generator: for one constant, or for one constant per device. -/
inductive Emission where
  | common (call : Call)
  | perDevice (call : HoistingCall)

def emission (session : Session) : Emission → Attempt Workspace (List Operand)
  | .common call => session.call call
  | .perDevice call => session.hoistingCall call

/-- The session behind a history of calls, whether they succeed or fail. -/
def afterEmissions (session : Session) (calls : List Emission) : Session :=
  calls.foldl (fun session call => (session.emission call).2.session) session

theorem Grounded.emission {session : Session} (grounded : session.Grounded) (call : Emission) :
    Emits session (session.emission call).1 (session.emission call).2.session := by
  cases call with
  | common call =>
      exact @generate_emits ⟨session, call.registry⟩ grounded call.constant call.encoding
        call.hoisting
  | perDevice call =>
      exact @hoist_emits ⟨session, call.registry⟩ grounded call.constants call.encoding

theorem Grounded.afterEmissions {session : Session} (grounded : session.Grounded)
    (calls : List Emission) :
    session.code.Builds (session.afterEmissions calls).code ∧
      (session.afterEmissions calls).Grounded := by
  induction calls generalizing session with
  | nil => exact ⟨.refl _, grounded⟩
  | cons call rest inductionHypothesis =>
      have emits := grounded.emission call
      rcases inductionHypothesis emits.grounded with ⟨builds, last⟩
      exact ⟨emits.builds.trans builds, last⟩

theorem afterEmissions_append (session : Session) (front back : List Emission) :
    session.afterEmissions (front ++ back) = (session.afterEmissions front).afterEmissions back :=
  List.foldl_append

end Session

/-- What evaluates has the type that its operand was recorded with, and integers are canonical for
their width. This holds of code that is recorded by lawful edits, whatever is stored having the type
of its global. In particular it holds of the code that a new session generates, where outputs may be
the operands that any of the calls has returned. -/
theorem evaluation_respects_types :
    (∀ (name : String) (edits : List Ir.Edit),
      Module.Each Module.Lawful { name } edits → Module.Each Module.TypesStore { name } edits →
        (Module.edited { name } edits).IsSound) ∧
    (∀ (name : String) (devices : Nat) (session : Session),
      Session.start name devices = .ok session → ∀ calls : List Emission,
        (session.afterEmissions calls).code.IsSound ∧
        ∀ front call back operands after, calls = front ++ call :: back →
          (session.afterEmissions front).emission call = (.ok operands, after) →
            ∀ operand ∈ operands, (session.afterEmissions calls).code.Supplies operand) := by
  constructor
  · intro name edits lawful stores
    exact ((Module.typed_empty name).edited lawful stores).isSound
  · intro name devices session started calls
    obtain ⟨-, rfl⟩ := start_eq_ok started
    have empty : Session.Grounded { code := { name }, buffers := List.replicate devices {} } :=
      List.forall_mem_nil _
    constructor
    · rcases (empty.afterEmissions calls).1 with ⟨edits, lawful, stores, same⟩
      rw [same]
      exact ((Module.typed_empty name).edited lawful stores).isSound
    · intro front call back operands after split succeeded operand member
      have emits := (empty.afterEmissions front).2.emission call
      rcases emits.grounded.afterEmissions back with ⟨builds, -⟩
      rw [split, afterEmissions_append]
      refine Module.Supplies.mono builds.retains (emits.supplies operands ?_ operand member)
      rw [succeeded]

theorem evaluation_respects_types_two_devices :
    let edits : List Ir.Edit := [.addGlobal "truth" (.int 1), .load .entry (.argument 0) (.int 8),
      .greater .entry (.result 0 (.int 8)) (.ofInt 8 0), .store .entry (.result 1 (.int 1)) 0,
      .loadGlobal .body 0]
    let session : Session := { code := { name := "kernel" }, buffers := [{}, {}] }
    let calls : List Emission := [.common ⟨.int 7, {}, true, {}⟩,
      .perDevice ⟨[.smallInt 7, .smallInt 8], {}, {}⟩]
    (Module.edited { name := "kernel" } edits).evaluate #[5] [.result 3 (.int 1)] =
        .ok [.int 1 1] ∧
      List.Forall₂ (fun (output : Operand) value => Ir.RuntimeValue.Inhabits value output.type)
        [.result 3 (.int 1)] [.int 1 1] ∧
      (session.afterEmissions calls).code.IsSound ∧
      (session.afterEmissions calls).code.Supplies (.result 3 (.int 32)) := by
  intro edits session calls
  let before (count : Nat) : Module := Module.edited { name := "kernel" } (edits.take count)
  have loaded : (before 2).resultAt 0 = some (.int 8) := by decide +kernel
  have compared : (before 3).resultAt 1 = some (.int 1) := by decide +kernel
  have reloaded : (before 5).resultAt 3 = some (.int 1) := by decide +kernel
  have truth : (before 3).Holds 0 (.int 1) := ⟨⟨"truth", .int 1⟩, by decide +kernel, rfl⟩
  have lawful : Module.Each Module.Lawful { name := "kernel" } edits := by
    refine ⟨.plain (List.forall_mem_nil _) rfl,
      .plain (List.forall_mem_singleton.mpr .argument) rfl,
      .plain (List.forall_mem_cons.mpr ⟨.result loaded,
        List.forall_mem_singleton.mpr (.int 8 0)⟩) rfl,
      ⟨List.forall_mem_singleton.mpr (.result compared), fun global given => ?_⟩,
      ⟨List.forall_mem_nil _, fun global given => ?_⟩, trivial⟩
    · cases given
      exact truth.lt
    · cases given
      exact truth.lt
  have stores : Module.Each Module.TypesStore { name := "kernel" } edits :=
    ⟨trivial, trivial, trivial, truth, trivial, trivial⟩
  have evaluated : (before 5).evaluate #[5] [.result 3 (.int 1)] = .ok [.int 1 1] := by
    decide +kernel
  have succeeded : (session.emission (.common ⟨.int 7, {}, true, {}⟩)).1 =
      .ok [.result 3 (.int 32)] := by decide +kernel
  have generated := evaluation_respects_types.2 "kernel" 2 session rfl calls
  exact ⟨evaluated,
    evaluation_respects_types.1 "kernel" edits lawful stores #[5] _ _
      (List.forall_mem_singleton.mpr (.result reloaded)) evaluated,
    generated.1,
    generated.2 [] _ _ _ _ rfl (Prod.ext succeeded rfl) _ List.mem_cons_self⟩

end QueryKernel
