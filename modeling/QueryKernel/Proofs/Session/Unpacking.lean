import QueryKernel.Proofs.Session.Carrying

/-!
Contract: kernel code and the host take the header of a string apart alike.

The code of a session runs on every image that has room for the slots, whatever their bytes are. The
globals of a string then hold the address and the length that the host unpacks from the header in
its slot, also where the top bit of the header is set.

Owns:
- loads from any bytes of an image, and decoding from them;
- frames of a session on images of any contents, which every call keeps;
- the main statement: packing and unpacking are inverse, and the operands of an unencoded string
  evaluate to the parts of the header in its slot, for every header word.

Does not own: the headers that a session writes.
-/

namespace QueryKernel

open QueryKernel.Ir (Module Operand Frame RuntimeValue Ty)
open QueryKernel.Number
open QueryKernel.Sql (Constant DataType)
open QueryKernel.Dictionary (Registry)

/-! ### Any bytes -/

theorem Ir.slice_inside {image : Array UInt8} {offset length : Nat}
    (inside : offset + length ≤ image.size) :
    ∃ bytes, slice image offset length = .ok bytes ∧ bytes.length = length := by
  refine ⟨_, if_pos inside, ?_⟩
  rw [Array.length_toList, Array.size_extract]
  omega

namespace Literal

/-- Any four bytes are a header. -/
theorem exists_header {image : Array UInt8} {offset : Nat} (inside : offset + 4 ≤ image.size) :
    ∃ header : UInt32, Ir.slice image offset 4 = .ok (littleEndian 4 header.toNat) := by
  rcases Ir.slice_inside inside with ⟨bytes, read, four⟩
  have bound : ofLittleEndian bytes < 2 ^ 32 := by
    have bound := ofLittleEndian_lt bytes
    rw [four] at bound
    exact bound
  refine ⟨UInt32.ofNat (ofLittleEndian bytes), ?_⟩
  rw [UInt32.toNat_ofNat_of_lt' bound, read, ← four, littleEndian_ofLittleEndian]

/-- Any bytes of a whole word are loaded. -/
theorem loadValue_word_inside {image : Array UInt8} {offset bits : Nat}
    (supported : bits = 8 ∨ bits = 16 ∨ bits = 32 ∨ bits = 64)
    (inside : offset + bits / 8 ≤ image.size) :
    ∃ found : RuntimeValue, found.type = .int bits ∧
      ∀ code : Module, code.loadValue image (.literals offset) (.int bits) = .ok found := by
  rcases Ir.slice_inside inside with ⟨bytes, read, -⟩
  have whole : bits % 8 = 0 := by omega
  refine ⟨.int bits (signExtend bits (Int64.ofNat (ofLittleEndian bytes))), rfl, fun code => ?_⟩
  rw [Module.loadValue, if_pos whole]
  refine bind_eq_ok.mpr ⟨bytes, read, ?_⟩
  rw [Ir.loadedInteger, if_pos supported]

/-- Where a scalar has room for its slot, a value of its type is loaded. -/
theorem loadValue_inside {image : Array UInt8} {offset : Nat} {literal : Literal}
    {value : RuntimeValue} (loaded : literal.loaded? = some value)
    (inside : offset + literal.width ≤ image.size) :
    ∃ found : RuntimeValue, found.type = value.type ∧
      ∀ code : Module, code.loadValue image (.literals offset) value.type = .ok found := by
  cases literal <;> cases loaded
  case bool | int8 | int16 | int32 | int64 => exact loadValue_word_inside (by decide) inside
  case float =>
    rcases Ir.slice_inside inside with ⟨bytes, read, -⟩
    exact ⟨.float ⟨UInt32.ofNat (ofLittleEndian bytes)⟩, rfl,
      fun code => bind_eq_ok.mpr ⟨bytes, read, rfl⟩⟩
  case double =>
    rcases Ir.slice_inside inside with ⟨bytes, read, -⟩
    exact ⟨.double ⟨UInt64.ofNat (ofLittleEndian bytes)⟩, rfl,
      fun code => bind_eq_ok.mpr ⟨bytes, read, rfl⟩⟩

end Literal

namespace Session

/-- What globals hold that were decoded from a slot: those of a string hold the parts that the
header in the slot names. -/
def HoldsParts (image : Array UInt8) (offset : Nat) (isText : Bool)
    (contents : List RuntimeValue) : Prop :=
  ∀ header : UInt32, isText = true → Ir.slice image offset 4 = .ok (littleEndian 4 header.toNat) →
    contents = Literal.partsOf header

/-- Decoding runs on any bytes that have room for the slot. -/
theorem decode_runs {code : Module} {type : DataType} {offset : Nat} {isText : Bool}
    (fresh : Fresh code offset isText) {literal : Literal} (fits : Fits type literal isText)
    {frame : Frame} {image : Array UInt8} (solves : frame.Solves code image)
    (room : offset + literal.width ≤ image.size) (small : offset < 2 ^ 63) :
    ∃ (globals : Materialized) (after : Module) (next : Frame) (contents : List RuntimeValue),
      (if isText then decodeString code offset else decodeScalar code type offset) =
        (.ok globals, after) ∧
      globals.isText = isText ∧
      globals.globals = List.range' code.globals.size contents.length ∧
      next.Solves after image ∧
      next.globals.toList = frame.globals.toList ++ contents.map some ∧
      HoldsParts image offset isText contents := by
  cases fits with
  | text value =>
      rcases Literal.exists_header room with ⟨header, read⟩
      rcases stringParts_solves solves small read with ⟨next, nextSolves, contents⟩
      refine ⟨_, _, next, _, decodeString_eq fresh, rfl, rfl, nextSolves, contents, ?_⟩
      intro other _ readOther
      rw [read] at readOther
      have same := congrArg ofLittleEndian (Except.ok.inj readOther)
      rw [ofLittleEndian_littleEndian_of_lt header.toNat_lt,
        ofLittleEndian_littleEndian_of_lt other.toNat_lt] at same
      rw [UInt32.toNat_inj.mp same]
  | scalar width loaded sameType =>
      rcases Literal.loadValue_inside loaded room with ⟨found, foundType, read⟩
      rw [sameType] at foundType read
      rcases scalarPart_solves solves small width read foundType with
        ⟨next, decoded, nextSolves, contents, -⟩
      refine ⟨_, _, next, [decoded], decodeScalar_eq fresh width, rfl, rfl, nextSolves, contents,
        ?_⟩
      intro header impossible
      contradiction

/-! ### Sessions on any image -/

/-- A frame of the code of a session on some image. The globals of the table hold values, and those
of a string hold its parts. -/
structure Fills (session : Session) (image : Array UInt8) (frame : Frame) : Prop where
  solves : frame.Solves session.code image
  filled : ∀ offset globals, session.table.get? offset = some globals → ∃ contents,
    List.Forall₂ (fun global content => frame.globals[global]? = some (some content))
      globals.globals contents ∧
    HoldsParts image offset globals.isText contents

/-- An image that has room for the slots of all devices. -/
def Spans (session : Session) (image : Array UInt8) : Prop :=
  image.size ≤ Literal.maximalImage ∧ ∀ buffer ∈ session.buffers, buffer.watermark ≤ image.size

/-- The code of a session runs on every image that has room for the slots. -/
def Runs (session : Session) : Prop :=
  ∀ image, session.Spans image → ∃ frame, session.Fills image frame

theorem Runs.start (name : String) (devices : Nat) :
    Runs { code := { name }, buffers := List.replicate devices {} } := by
  intro image _
  refine ⟨⟨#[], #[]⟩, .empty name image, fun offset globals known => ?_⟩
  have unknown : MaterializedTable.get? {} offset = none := rfl
  rw [unknown] at known
  contradiction

section Fills

variable {session : Session} {image : Array UInt8} {frame : Frame}
  (fills : session.Fills image frame)

include fills

/-- More lines over the same globals. -/
theorem Fills.of_code {next : Frame} {code : Module} (continues : frame.Continues next code image) :
    Fills { session with code } image next where
  solves := continues.solves
  filled offset globals known := by
    rw [continues.globals]
    exact fills.filled offset globals known

theorem Fills.reload {after : Session} {offset : Nat} {isText : Bool} {operands : List Operand}
    (reloaded : session.reload offset isText = .ok (operands, after)) :
    ∃ next, after.Fills image next := by
  rcases reload_eq_ok reloaded with ⟨globals, known, -, -, rfl⟩
  rcases fills.filled offset globals known with ⟨contents, filled, -⟩
  rcases Frame.loadAll_solves fills.solves fun global member => exists_of_forall₂ filled member with
    ⟨next, continues⟩
  exact ⟨next, fills.of_code continues⟩

theorem Fills.materialize {type : DataType} {offset : Nat} {isText : Bool} {literal : Literal}
    (unknown : session.table.get? offset = none) (fresh : Fresh session.code offset isText)
    (fits : Fits type literal isText) (room : offset + literal.width ≤ image.size)
    (small : offset < 2 ^ 63) :
    ∃ after next, session.materialize type offset isText = (.ok (), after) ∧
      after.Fills image next := by
  rcases decode_runs fresh fits fills.solves room small with
    ⟨globals, code, next, contents, success, shape, places, nextSolves, appended, parts⟩
  refine ⟨_, next, materialize_of_decode unknown success, nextSolves, ?_⟩
  intro other found foundAt
  rw [MaterializedTable.get?_extended unknown globals] at foundAt
  by_cases new : other = offset
  · rw [if_pos new] at foundAt
    cases foundAt
    subst new
    refine ⟨contents, ?_, shape ▸ parts⟩
    rw [places, ← fills.solves.globals_size]
    exact filled_range appended
  · rw [if_neg new] at foundAt
    rcases fills.filled other found foundAt with ⟨earlier, filled, earlierParts⟩
    refine ⟨earlier, filled.imp fun global content atGlobal => ?_, earlierParts⟩
    have inside := (Array.getElem?_eq_some_iff.mp atGlobal).1
    rw [← Array.getElem?_toList, appended, List.getElem?_append_left (by simpa using inside),
      Array.getElem?_toList]
    exact atGlobal

theorem Fills.use {type : DataType} {offset : Nat} {isText new : Bool} {literal : Literal}
    (unknown : new = true → session.table.get? offset = none)
    (fresh : new = true → Fresh session.code offset isText) (fits : Fits type literal isText)
    (room : offset + literal.width ≤ image.size) (small : offset < 2 ^ 63) :
    ∃ next, (session.use type offset isText new).2.Fills image next := by
  have decodes : ∃ middle partway, (if new then session.materialize type offset isText
      else (.ok (), session)) = (.ok (), middle) ∧ middle.Fills image partway := by
    cases new with
    | true => exact fills.materialize (unknown rfl) (fresh rfl) fits room small
    | false => exact ⟨session, frame, rfl, fills⟩
  rcases decodes with ⟨middle, partway, decoded, middleFills⟩
  unfold Session.use
  rw [decoded]
  dsimp only
  split
  · exact ⟨partway, middleFills⟩
  · rename_i operands last reloaded
    exact middleFills.reload reloaded

end Fills

/-- Every call keeps the code running on every image. -/
theorem Shared.call_runs {session : Session} {count : Nat} {first? : Option Bool}
    (shared : session.Shared (count + 1) first?) (runs : session.Runs) (call : Call) :
    (session.call call).2.session.Runs := by
  rcases shared.lockstep with ⟨buffer, lockstep, -⟩
  have wellFormed := lockstep.wellFormed shared.coherent
  unfold Session.call
  by_cases hoisting : call.hoisting = true
  · rw [hoisting]
    cases made : literalOf call.constant call.encoding call.registry with
    | error failure =>
        rw [lockstep.generate_error made]
        exact runs
    | ok result =>
        rcases result with ⟨literal, known⟩
        rcases lockstep.hoist_ok wellFormed made with ⟨operands, next, hoisted, nextLockstep⟩
        rcases Literal.Buffer.add_spec wellFormed literal with ⟨grownWellFormed, member⟩
        rw [Workspace.generate, if_pos rfl, lockstep.devices_eq, hoisted]
        rw [lockstep.hoist_eq made] at hoisted
        have same := congrArg (fun outcome => outcome.2.session) hoisted
        intro image spans
        have spanned : (buffer.add literal).2.watermark ≤ image.size := by
          apply spans.2
          rw [nextLockstep.buffers]
          exact List.mem_replicate.mpr ⟨Nat.succ_ne_zero count, rfl⟩
        have before : session.Spans image := by
          refine ⟨spans.1, fun other member => ?_⟩
          rw [lockstep.buffers] at member
          rw [List.eq_of_mem_replicate member]
          exact Nat.le_trans (Literal.Buffer.watermark_le_add wellFormed literal) spanned
        rcases runs image before with ⟨frame, fills⟩
        have room := Nat.le_trans (grownWellFormed.entry_bound member) spanned
        have positive := Literal.width_pos literal
        have small : (buffer.add literal).1 < 2 ^ 63 := by
          have fits := spans.1
          unfold Literal.maximalImage at fits
          omega
        let registered : Session :=
          { session with buffers := List.replicate (count + 1) (buffer.add literal).2 }
        have newIff : isNew session registered = true ↔ literal ∉ buffer.literals :=
          isNew_iff wellFormed (by simp [lockstep.buffers]) (by simp [registered])
        have elsewhere := fun new => fun entry (member : entry ∈ buffer.entries) =>
          Literal.Buffer.add_elsewhere wellFormed (newIff.mp new) member
        have registeredFills : registered.Fills image frame := ⟨fills.solves, fills.filled⟩
        have used := registeredFills.use (fun new => lockstep.unknown (elsewhere new))
          (fun new => lockstep.fresh (elsewhere new) _) (literalOf_fits made) room small
        rw [← same]
        exact used
  · rw [Workspace.generate, if_neg hoisting]
    cases made : Session.immediate ⟨session, call.registry⟩ call.constant call.encoding with
    | error failure => exact runs
    | ok result =>
        rcases immediate_session made with same | ⟨value, same⟩
        · dsimp only
          rw [same]
          exact runs
        · dsimp only
          rw [same]
          intro image spans
          rcases runs image spans with ⟨frame, fills⟩
          exact ⟨frame, fills.of_code ⟨.refl frame, fills.solves.addString value, rfl⟩⟩

theorem Shared.afterCalls_runs {session : Session} {count : Nat} {first? : Option Bool}
    (shared : session.Shared (count + 1) first?) (runs : session.Runs) (calls : List Call) :
    (session.afterCalls calls).Runs := by
  induction calls generalizing session first? with
  | nil => exact runs
  | cons call rest inductionHypothesis =>
      exact inductionHypothesis (shared.call call) (shared.call_runs runs call)

/-- A history keeps the code running on every image. -/
theorem afterCalls_runs {name : String} {devices : Nat} {session : Session}
    (started : Session.start name devices = .ok session) (calls : List Call) :
    (session.afterCalls calls).Runs := by
  rcases start_eq_ok started with ⟨positive, rfl⟩
  obtain ⟨count, rfl⟩ := Nat.exists_eq_succ_of_ne_zero positive.ne'
  exact (Shared.start name (count + 1)).afterCalls_runs (.start name _) calls

/-- On every image that has room for the slots, the operands of a string evaluate to the parts of
the header in its slot. -/
theorem Shared.evaluate_parts {session : Session} {count : Nat} {first? : Option Bool}
    (shared : session.Shared (count + 1) first?) (runs : session.Runs) {offset : Nat}
    {operands : List Operand} (available : session.Available offset operands) {value : String}
    (held : session.Holds 0 offset (.text value)) {image : Array UInt8}
    (spans : session.Spans image) {header : UInt32}
    (read : Ir.slice image offset 4 = .ok (littleEndian 4 header.toNat)) :
    session.code.evaluate image operands = .ok (Literal.partsOf header) := by
  rcases available with ⟨globals, known, loads⟩
  have isText : globals.isText = true := by
    rcases shared.lockstep with ⟨buffer, lockstep, -⟩
    rcases lockstep.known (lockstep.holds_iff.mp held).2 with ⟨found, foundAt, shape⟩
    rw [known] at foundAt
    cases foundAt
    exact shape
  rcases runs image spans with ⟨frame, fills⟩
  rcases fills.filled offset globals known with ⟨contents, filled, parts⟩
  rw [parts header isText read] at filled
  apply Module.evaluate_eq_ok fills.solves shared.coherent.ordered
  exact fills.solves.resolve_loads loads filled

/-! ### The main statement -/

/-- Packing succeeds where offset and length fit 16 bits each, and is the inverse of unpacking on
all header words. On every image that has room for the slots, with any header in the slot of an
unencoded string, the operands of the string evaluate to zero, the address and the length that the
host unpacks from this header, after any further calls. -/
theorem headers_unpack_alike :
    (∀ offset length, (∃ header, Literal.packHeader offset length = .ok header) ↔
      offset ≤ maximalStringField ∧ length ≤ maximalStringField) ∧
    (∀ offset length header, Literal.packHeader offset length = .ok header →
      (Literal.unpackHeader header).1.toNat = offset ∧
        (Literal.unpackHeader header).2.toNat = length) ∧
    (∀ header, Literal.packHeader (Literal.unpackHeader header).1.toNat
      (Literal.unpackHeader header).2.toNat = .ok header) ∧
    ∀ (name : String) (devices : Nat) (session : Session) (front back : List Call)
      (constant : Constant) (encoding : StringEncoding) (registry : Registry)
      (operands : List Operand) (after : Workspace),
      Session.start name devices = .ok session →
      (session.afterCalls front).call ⟨constant, encoding, true, registry⟩ =
        (.ok operands, after) →
      isUnencoded constant.type encoding = true →
      let last := after.session.afterCalls back
      ∃ offset value, literalOf constant encoding registry = .ok (.text value, after.registry) ∧
        (∀ device < devices, last.Holds device offset (.text value)) ∧
        ∀ (image : Array UInt8) (header : UInt32), last.Spans image →
          Ir.slice image offset 4 = .ok (littleEndian 4 header.toNat) →
          last.code.evaluate image operands =
            .ok [.int 64 0, .pointer (.literals (Literal.unpackHeader header).1.toNat),
              .int 32 (Int64.ofNat (Literal.unpackHeader header).2.toNat)] := by
  refine ⟨fun _ _ => Literal.packHeader_eq_ok_iff,
    fun _ _ _ packed => Literal.unpackHeader_packHeader packed,
    Literal.packHeader_unpackHeader, ?_⟩
  intro name devices session front back constant encoding registry operands after started succeeded
    unencoded last
  rcases afterCalls_shared started front with ⟨count, rfl, frontShared⟩
  have frontRuns := afterCalls_runs started front
  have afterRuns := frontShared.call_runs frontRuns ⟨constant, encoding, true, registry⟩
  rw [succeeded] at afterRuns
  change Workspace.generate ⟨_, registry⟩ constant encoding true = _ at succeeded
  rcases frontShared.hoisted succeeded with
    ⟨literal, made, afterShared, -, offset, available, held⟩
  have leads : after.session.Leads last := afterShared.afterCalls_leads back
  have shared := afterShared.afterCalls back
  have runs : last.Runs := afterShared.afterCalls_runs afterRuns back
  have fits := literalOf_fits made
  rw [unencoded] at fits
  cases fits with
  | text value =>
      have holds := fun device inside => leads.holds device offset _ (held device inside)
      exact ⟨offset, value, made, holds, fun image header spans read =>
        shared.evaluate_parts runs (available.leads leads) (holds 0 (Nat.succ_pos count)) spans
          read⟩

/-- A header whose top bit is set, in the slot of a string between a number and another string. -/
theorem headers_unpack_alike_top_bit :
    let first : Session := { code := { name := "kernel" }, buffers := [{}] }
    let number : Call := ⟨.int 7, {}, true, {}⟩
    let made := (first.afterCalls [number]).call ⟨.ofString "seven", {}, true, {}⟩
    let last := made.2.session.afterCalls [⟨.ofString "one", {}, true, {}⟩]
    let image : Array UInt8 := #[7, 0, 0, 0, 3, 0, 0xFF, 0x80, 0, 0, 0, 0]
    made.1 = .ok [.result 13 (.int 64), .result 14 .pointer, .result 15 (.int 32)] ∧
      last.code.evaluate image [.result 13 (.int 64), .result 14 .pointer, .result 15 (.int 32)] =
        .ok [.int 64 0, .pointer (.literals 0x80FF), .int 32 3] := by
  intro first number made last image
  have succeeded :
      made.1 = .ok [.result 13 (.int 64), .result 14 .pointer, .result 15 (.int 32)] := by
    decide +kernel
  refine ⟨succeeded, ?_⟩
  rcases headers_unpack_alike.2.2.2 "kernel" 1 first [number] [⟨.ofString "one", {}, true, {}⟩]
    _ _ _ _ _ rfl (Prod.ext succeeded rfl) rfl with ⟨offset, value, known, held, evaluates⟩
  have buffers : last.buffers = [⟨[.int32 7, .text "seven", .text "one"], 12⟩] := by decide +kernel
  have slot : offset = 4 := by
    rcases held 0 Nat.one_pos with ⟨buffer, found, member⟩
    change last.buffers[0]? = _ at found
    rw [buffers] at found
    cases found
    have same : Literal.text "seven" = .text value := congrArg Prod.fst (Except.ok.inj known)
    cases same
    apply Literal.offset_unique (by decide) member
    decide
  subst slot
  apply evaluates image 0x80FF0003
  · refine ⟨by decide, ?_⟩
    change ∀ buffer ∈ last.buffers, _
    rw [buffers, List.forall_mem_singleton]
    decide
  · rfl

end Session

end QueryKernel
