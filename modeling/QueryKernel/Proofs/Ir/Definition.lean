import QueryKernel.Proofs.Ir.Solution

/-!
Contract: entry code that computes values and stores them into new globals.

Owns:
- the value of each computing instruction, from the values of its operands;
- defining globals: recording keeps the order of the code, and the contents of the new
  globals join any solution.

Does not own: which values are defined.
-/

namespace QueryKernel.Ir

open QueryKernel.Number

/-! ### Single instructions -/

namespace Frame

section Values

variable {frame : Frame} {code : Module} {image : Array UInt8}

theorem resolveInteger_of_resolve {operand : Operand} {bits : Nat} {value : Int64}
    (resolved : frame.resolve operand = .ok (.int bits value)) :
    frame.resolveInteger operand = .ok (bits, value) :=
  bind_eq_ok.mpr ⟨_, resolved, rfl⟩

theorem resolve_ofInt (bits : Nat) (value : Int64) :
    frame.resolve (.ofInt bits value) = .ok (.int bits (signExtend bits value)) := rfl

theorem resolve_argument (frame : Frame) :
    frame.resolve (.argument 0) = .ok (.pointer (.literals 0)) := rfl

theorem compute_offset {base amount : Operand} {start distance bits : Nat}
    (baseEq : frame.resolve base = .ok (.pointer (.literals start)))
    (amountEq : frame.resolve amount = .ok (.int bits (Int64.ofNat distance)))
    (small : distance < 2 ^ 63) :
    frame.compute code image (.offset base amount) =
      .ok (some (.pointer (.literals (movedOffset start distance)))) := by
  have value : (Int64.ofNat distance).toInt = distance := Int64.toInt_ofNat_of_lt small
  have forward : ¬ Int64.ofNat distance < 0 := by
    rw [Int64.lt_iff_toInt_lt, value]
    change ¬ (distance : Int) < 0
    omega
  refine bind_eq_ok.mpr ⟨_, resolveInteger_of_resolve amountEq, ?_⟩
  dsimp only
  rw [if_neg forward]
  refine bind_eq_ok.mpr ⟨_, baseEq, ?_⟩
  rw [value, Int.toNat_natCast]
  rfl

/-- The literals argument is moved to the distance. -/
theorem compute_offset_argument {amount : Operand} {distance bits : Nat}
    (amountEq : frame.resolve amount = .ok (.int bits (Int64.ofNat distance)))
    (small : distance < 2 ^ 63) :
    frame.compute code image (.offset (.argument 0) amount) =
      .ok (some (.pointer (.literals distance))) := by
  have inside : movedOffset 0 distance = distance := by
    rw [movedOffset, Nat.zero_add, Nat.mod_eq_of_lt (by omega)]
  rw [compute_offset (resolve_argument frame) amountEq small, inside]

theorem compute_load {address : Operand} {place : Address} {type : Ty} {value : RuntimeValue}
    (addressEq : frame.resolve address = .ok (.pointer place))
    (loaded : code.loadValue image place type = .ok value) :
    frame.compute code image (.load address type) = .ok (some value) :=
  bind_eq_ok.mpr ⟨_, addressEq, bind_eq_ok.mpr ⟨_, loaded, rfl⟩⟩

theorem compute_and {left right : Operand} {bits other : Nat} {leftWord rightWord : Int64}
    (leftEq : frame.resolve left = .ok (.int bits leftWord))
    (rightEq : frame.resolve right = .ok (.int other rightWord)) :
    frame.compute code image (.and left right) =
      .ok (some (.int bits (wordAnd bits leftWord rightWord))) :=
  bind_eq_ok.mpr ⟨_, resolveInteger_of_resolve leftEq,
    bind_eq_ok.mpr ⟨_, resolveInteger_of_resolve rightEq, rfl⟩⟩

theorem compute_shiftRight {left right : Operand} {bits other : Nat} {leftWord rightWord : Int64}
    (leftEq : frame.resolve left = .ok (.int bits leftWord))
    (rightEq : frame.resolve right = .ok (.int other rightWord)) :
    frame.compute code image (.shiftRight left right) =
      .ok (some (.int bits (wordShiftRight bits leftWord rightWord))) :=
  bind_eq_ok.mpr ⟨_, resolveInteger_of_resolve leftEq,
    bind_eq_ok.mpr ⟨_, resolveInteger_of_resolve rightEq, rfl⟩⟩

theorem compute_greater {left right : Operand} {bits other : Nat} {leftWord rightWord : Int64}
    (leftEq : frame.resolve left = .ok (.int bits leftWord))
    (rightEq : frame.resolve right = .ok (.int other rightWord)) :
    frame.compute code image (.greater left right) =
      .ok (some (.int 1 (wordGreater leftWord rightWord))) :=
  bind_eq_ok.mpr ⟨_, resolveInteger_of_resolve leftEq,
    bind_eq_ok.mpr ⟨_, resolveInteger_of_resolve rightEq, rfl⟩⟩

theorem compute_loadGlobal {global : Nat} {value : RuntimeValue}
    (atGlobal : frame.globals[global]? = some (some value)) :
    frame.compute code image (.loadGlobal global) = .ok (some value) := by
  simp only [compute]
  rw [atGlobal]
  rfl

end Values

end Frame

namespace Module

/-- A result that entry lines have computed: the lines keep the order of the code, and the
result is ready. -/
structure Computed (before : Module) (result : Operand × Module) : Prop where
  lengthened : Lengthened before result.2
  ready : result.2.Ready .entry result.1

section Computing

variable {code : Module}

theorem computed_push {instruction : Instruction} {type : Ty}
    (ready : ∀ operand ∈ instruction.operands, code.Ready .entry operand)
    (noLoad : ∀ global, instruction ≠ .loadGlobal global)
    (noStore : ∀ value global, instruction ≠ .store value global) :
    Computed code (code.push .entry instruction type) :=
  ⟨.push type (Admits.compute ready noLoad noStore), code.ready_pushed instruction type .entry⟩

theorem computed_load {address : Operand} (ready : code.Ready .entry address) (type : Ty) :
    Computed code (code.load .entry address type) :=
  computed_push (List.forall_mem_singleton.mpr ready) (by simp) (by simp)

variable {left right : Operand}

theorem computed_offset (leftReady : code.Ready .entry left)
    (rightReady : code.Ready .entry right) :
    Computed code (code.offset .entry left right) :=
  computed_push (List.forall_mem_cons.mpr ⟨leftReady, List.forall_mem_singleton.mpr rightReady⟩)
    (by simp) (by simp)

theorem computed_and (leftReady : code.Ready .entry left) (rightReady : code.Ready .entry right) :
    Computed code (code.and .entry left right) :=
  computed_push (List.forall_mem_cons.mpr ⟨leftReady, List.forall_mem_singleton.mpr rightReady⟩)
    (by simp) (by simp)

theorem computed_shiftRight (leftReady : code.Ready .entry left)
    (rightReady : code.Ready .entry right) :
    Computed code (code.shiftRight .entry left right) :=
  computed_push (List.forall_mem_cons.mpr ⟨leftReady, List.forall_mem_singleton.mpr rightReady⟩)
    (by simp) (by simp)

theorem computed_greater (leftReady : code.Ready .entry left)
    (rightReady : code.Ready .entry right) :
    Computed code (code.greater .entry left right) :=
  computed_push (List.forall_mem_cons.mpr ⟨leftReady, List.forall_mem_singleton.mpr rightReady⟩)
    (by simp) (by simp)

theorem ready_ofInt (code : Module) (bits : Nat) (value : Int64) :
    code.Ready .entry (.ofInt bits value) := code.ready_of_no_line .entry rfl

theorem ready_argument (code : Module) (index : Nat) : code.Ready .entry (.argument index) :=
  code.ready_of_no_line .entry rfl

end Computing

/-! ### Stores into consecutive globals -/

def storeAll (code : Module) (first : Nat) : List Operand → Module
  | [] => code
  | value :: rest => (code.store .entry value first).storeAll (first + 1) rest

theorem stores_store (code : Module) (value : Operand) (global : Nat) :
    (code.store .entry value global).Stores global :=
  ⟨code.lines.size, value, by rw [store_recorded, if_pos rfl]⟩

theorem storeAll_lengthened {code : Module} {first : Nat} {values : List Operand}
    (ready : ∀ value ∈ values, code.Ready .entry value)
    (room : first + values.length ≤ code.globals.size) :
    Lengthened code (code.storeAll first values) ∧
      ∀ place < values.length, (code.storeAll first values).Stores (first + place) := by
  induction values generalizing code first with
  | nil => exact ⟨.refl code, fun place below => absurd below (Nat.not_lt_zero _)⟩
  | cons value rest inductionHypothesis =>
      rw [List.length_cons] at room
      have stored : Lengthened code (code.store .entry value first) :=
        .store (ready value List.mem_cons_self) (by omega)
      obtain ⟨others, othersStored⟩ :=
        @inductionHypothesis (code.store .entry value first) (first + 1)
        (fun other member => (ready other (List.mem_cons_of_mem _ member)).mono stored.grows)
        (by rw [store_globals]; omega)
      refine ⟨stored.trans others, fun place below => ?_⟩
      cases place with
      | zero => exact (stores_store code value first).mono others.grows
      | succ place =>
          have behind := othersStored place (by simpa using below)
          rw [Nat.add_right_comm, Nat.add_assoc] at behind
          exact behind

theorem storeAll_solves {frame : Frame} {code : Module} {image : Array UInt8}
    (solves : frame.Solves code image) {first : Nat} {values : List Operand}
    {contents : List RuntimeValue}
    (resolved : List.Forall₂ (fun value content => frame.resolve value = .ok content)
      values contents)
    (atGlobals : ∀ (place : Nat) (content : RuntimeValue), contents[place]? = some content →
      frame.globals[first + place]? = some (some content)) :
    ∃ next : Frame, next.Solves (code.storeAll first values) image ∧
      next.globals = frame.globals := by
  induction values generalizing frame code first contents with
  | nil => exact ⟨frame, solves, rfl⟩
  | cons value rest inductionHypothesis =>
      cases resolved with
      | cons valueEq restEq =>
          have stored := solves.store .entry valueEq (atGlobals 0 _ rfl)
          obtain ⟨next, nextSolves, same⟩ := inductionHypothesis stored
            (restEq.imp fun _ _ resolved =>
              Frame.resolve_mono (Frame.extends_withResult frame none) resolved)
            (fun place other found => by
              have behind := atGlobals (place + 1) other found
              rw [Nat.add_comm place 1, ← Nat.add_assoc] at behind
              exact behind)
          exact ⟨next, nextSolves, same⟩

/-! ### Definitions -/

/-- The code that defines globals of the given names by the values of operands. -/
def define (code : Module) (names : List String) (values : List Operand) : Module :=
  (code.withGlobals
    (List.zipWith (fun name value => ⟨name, value.type⟩) names values)).storeAll
      code.globals.size values

/-- What defining globals keeps, and what it adds. -/
structure Defines (before after : Module) (added : List Global) : Prop where
  grows : Extends before after
  pool : after.pool = before.pool
  globals : after.globals.toList = before.globals.toList ++ added
  ordered : before.Ordered → after.Ordered
  stores : ∀ place < added.length, after.Stores (before.globals.size + place)

/-- Lines that compute what is defined may come first. -/
theorem Lengthened.defines {first second third : Module} {added : List Global}
    (front : Lengthened first second) (back : Defines second third added) :
    Defines first third added where
  grows := front.grows.trans back.grows
  pool := back.pool.trans front.pool
  globals := by rw [back.globals, front.globals]
  ordered := back.ordered ∘ front.ordered
  stores place below := by
    rw [← front.globals]
    exact back.stores place below

theorem define_defines {code : Module} {names : List String} {values : List Operand}
    (sameLength : names.length = values.length)
    (ready : ∀ value ∈ values, code.Ready .entry value) :
    Defines code (code.define names values)
      (List.zipWith (fun name value => ⟨name, value.type⟩) names values) := by
  have grows := Extends.withGlobals code
    (List.zipWith (fun name value => ⟨name, value.type⟩) names values)
  obtain ⟨lengthened, stored⟩ := @storeAll_lengthened
    (code.withGlobals (List.zipWith (fun name value => ⟨name, value.type⟩) names values))
    code.globals.size values (fun value member => (ready value member).mono grows)
    (by simp [withGlobals, sameLength])
  refine ⟨grows.trans lengthened.grows, lengthened.pool, ?_, fun ordered => ?_, ?_⟩
  · rw [define, lengthened.globals]
    simp [withGlobals]
  · exact lengthened.ordered (ordered.of_same_lines grows fun _ => rfl)
  · intro place below
    exact stored place (by simpa [sameLength] using below)

theorem define_solves {frame : Frame} {code : Module} {image : Array UInt8}
    (solves : frame.Solves code image) {names : List String} {values : List Operand}
    {contents : List RuntimeValue} (sameLength : names.length = values.length)
    (resolved : List.Forall₂ (fun value content => frame.resolve value = .ok content)
      values contents) :
    ∃ next : Frame, next.Solves (code.define names values) image ∧
      next.globals.toList = frame.globals.toList ++ contents.map some := by
  have more := @Frame.Solves.withGlobals frame code image solves
    (List.zipWith (fun name value => ⟨name, value.type⟩) names values) contents
    (by simp [sameLength, resolved.length_eq])
  have inside : ∀ (place : Nat) (content : RuntimeValue), contents[place]? = some content →
      (frame.withGlobals contents).globals[code.globals.size + place]? = some (some content) := by
    intro place content found
    rw [← solves.globals_size, Frame.withGlobals, Array.getElem?_append_right (by omega)]
    simp [found]
  obtain ⟨next, nextSolves, same⟩ := storeAll_solves more
    (resolved.imp fun _ _ valueEq =>
      Frame.resolve_mono (Frame.extends_withGlobals frame contents) valueEq) inside
  exact ⟨next, nextSolves, by rw [same]; simp [Frame.withGlobals]⟩

end Module

end QueryKernel.Ir
