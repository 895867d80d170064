import Mathlib.Data.List.Nodup
import QueryKernel.Ir.Run

/-!
Contract: what recording keeps of the code that is already there.

Owns:
- the block and instruction recorded at a place, through every operation that appends;
- the operands of an instruction, and when a block is ready for one;
- ordered code: every operand is computed, and every global stored, before it is read.

Does not own: running.
-/

namespace QueryKernel.Ir

def Instruction.operands : Instruction → List Operand
  | .offset base amount => [base, amount]
  | .load address _ => [address]
  | .and left right | .shiftRight left right | .greater left right => [left, right]
  | .store value _ => [value]
  | .loadGlobal _ => []

namespace Module

/-- The block and the instruction of a line. Names and result types do not matter to a
run. -/
def recorded (code : Module) (place : Nat) : Option (Block × Instruction) :=
  code.lines[place]?.map fun line => (line.block, line.instruction)

/-! ### Appending -/

section Appending

variable (code : Module) (block : Block) (instruction : Instruction) (type : Ty)
variable (value : Operand) (global place : Nat) (name : String)

@[simp] theorem push_fst : (code.push block instruction type).1 = .result code.lines.size type :=
  rfl

@[simp] theorem push_size :
    (code.push block instruction type).2.lines.size = code.lines.size + 1 := by
  simp [push]

@[simp] theorem push_globals : (code.push block instruction type).2.globals = code.globals := rfl

@[simp] theorem push_pool : (code.push block instruction type).2.pool = code.pool := rfl

theorem push_recorded :
    (code.push block instruction type).2.recorded place =
      if place = code.lines.size then some (block, instruction) else code.recorded place := by
  simp only [recorded, push, Array.getElem?_push]
  split <;> rfl

@[simp] theorem store_size : (code.store block value global).lines.size = code.lines.size + 1 := by
  simp [store]

@[simp] theorem store_globals : (code.store block value global).globals = code.globals := rfl

@[simp] theorem store_pool : (code.store block value global).pool = code.pool := rfl

theorem store_recorded :
    (code.store block value global).recorded place =
      if place = code.lines.size then some (block, .store value global)
      else code.recorded place := by
  simp only [recorded, store, Array.getElem?_push]
  split <;> rfl

@[simp] theorem setName_size : (code.setName value name).lines.size = code.lines.size := by
  unfold setName
  split <;> simp

@[simp] theorem setName_globals : (code.setName value name).globals = code.globals := by
  unfold setName
  split <;> rfl

@[simp] theorem setName_pool : (code.setName value name).pool = code.pool := by
  unfold setName
  split <;> rfl

/-- What is read off a line without its name outlasts a change of names. -/
theorem setName_read {α : Type} {read : Line → α}
    (nameless : ∀ line name, read { line with name := some name } = read line) :
    (code.setName value name).lines[place]?.map read = code.lines[place]?.map read := by
  unfold setName
  split
  · rw [Array.getElem?_modify]
    split
    · rw [Option.map_map]
      exact Option.map_congr fun line _ => nameless line name
    · rfl
  · rfl

@[simp] theorem setName_recorded :
    (code.setName value name).recorded place = code.recorded place :=
  code.setName_read value place name fun _ _ => rfl

end Appending

def withGlobals (code : Module) (added : List Global) : Module :=
  { code with globals := code.globals ++ added.toArray }

theorem withGlobals_append (code : Module) (front back : List Global) :
    (code.withGlobals front).withGlobals back = code.withGlobals (front ++ back) := by
  simp only [withGlobals, Array.append_assoc, List.append_toArray]

@[simp] theorem withGlobals_size (code : Module) (added : List Global) :
    (code.withGlobals added).globals.size = code.globals.size + added.length := by
  simp [withGlobals]

theorem fresh_withGlobal {code : Module} {name other : String}
    (fresh : ∀ global ∈ code.globals, global.name ≠ name) (type : Ty) (different : other ≠ name) :
    ∀ global ∈ (code.withGlobals [⟨other, type⟩]).globals, global.name ≠ name := by
  intro global member
  rcases Array.mem_append.mp member with old | new
  · exact fresh global old
  · simp only [List.mem_toArray, List.mem_singleton] at new
    rw [new]
    exact different

/-- A global of a new name takes the next place. -/
theorem addGlobal_of_fresh {code : Module} {name : String}
    (fresh : ∀ global ∈ code.globals, global.name ≠ name) (type : Ty) :
    code.addGlobal name type = .ok (code.globals.size, code.withGlobals [⟨name, type⟩]) := by
  have absent : code.global? name = none := by
    rw [global?, Array.findIdx?_eq_none_iff]
    intro global member
    simpa using fresh global member
  rw [addGlobal, absent]
  rfl

theorem addString_globals (code : Module) (value : String) :
    (code.addString value).2.globals = code.globals := by
  unfold addString
  split <;> rfl

theorem addString_size (code : Module) (value : String) :
    (code.addString value).2.lines.size = code.lines.size := by
  unfold addString
  split <;> rfl

theorem addString_recorded (code : Module) (value : String) (place : Nat) :
    (code.addString value).2.recorded place = code.recorded place := by
  unfold addString
  split <;> rfl

/-- The pool has the string at the place that is returned, and is extended by it only if it was
absent. -/
theorem addString_eq (code : Module) (value : String) :
    ∃ index, (code.addString value).1 = .poolString index ∧
      (code.addString value).2.pool[index]? = some value ∧
      (code.addString value).2 =
        if value ∈ code.pool then code else { code with pool := code.pool.push value } := by
  unfold addString
  split
  · rename_i index found
    obtain ⟨inside, here, -⟩ := Array.findIdx?_eq_some_iff_getElem.mp found
    have same : code.pool[index] = value := eq_of_beq here
    have member : value ∈ code.pool := same ▸ Array.getElem_mem inside
    refine ⟨index, rfl, ?_, (if_pos member).symm⟩
    rw [Array.getElem?_eq_getElem inside, same]
  · rename_i nowhere
    have absent : value ∉ code.pool := fun member =>
      absurd (Array.findIdx?_eq_none_iff.mp nowhere value member) (by simp)
    exact ⟨code.pool.size, rfl, Array.getElem?_push_size, (if_neg absent).symm⟩

theorem recorded_lt {code : Module} {place : Nat} {found : Block × Instruction}
    (atPlace : code.recorded place = some found) : place < code.lines.size := by
  obtain ⟨line, lineEq, -⟩ := Option.map_eq_some_iff.mp atPlace
  exact (Array.getElem?_eq_some_iff.mp lineEq).1

/-- What code keeps when more is recorded: lines, globals and pool strings stay at their
places. -/
structure Extends (before after : Module) : Prop where
  lines : ∀ place found, before.recorded place = some found → after.recorded place = some found
  globals : ∀ (place : Nat) (found : Global), before.globals[place]? = some found →
    after.globals[place]? = some found
  pool : ∀ (place : Nat) (found : String), before.pool[place]? = some found →
    after.pool[place]? = some found

namespace Extends

theorem refl (code : Module) : Extends code code :=
  ⟨fun _ _ found => found, fun _ _ found => found, fun _ _ found => found⟩

theorem trans {first second third : Module} (front : Extends first second)
    (back : Extends second third) : Extends first third where
  lines place found atPlace := back.lines place found (front.lines place found atPlace)
  globals place found atPlace := back.globals place found (front.globals place found atPlace)
  pool place found atPlace := back.pool place found (front.pool place found atPlace)

theorem push (code : Module) (block : Block) (instruction : Instruction) (type : Ty) :
    Extends code (code.push block instruction type).2 where
  lines place found atPlace := by
    rw [push_recorded, if_neg (Nat.ne_of_lt (recorded_lt atPlace))]
    exact atPlace
  globals _ _ found := found
  pool _ _ found := found

theorem store (code : Module) (block : Block) (value : Operand) (global : Nat) :
    Extends code (code.store block value global) where
  lines place found atPlace := by
    rw [store_recorded, if_neg (Nat.ne_of_lt (recorded_lt atPlace))]
    exact atPlace
  globals _ _ found := found
  pool _ _ found := found

theorem setName (code : Module) (value : Operand) (name : String) :
    Extends code (code.setName value name) where
  lines place found atPlace := by rw [setName_recorded]; exact atPlace
  globals place found atPlace := by rw [setName_globals]; exact atPlace
  pool place found atPlace := by rw [setName_pool]; exact atPlace

theorem withGlobals (code : Module) (added : List Global) :
    Extends code (code.withGlobals added) where
  lines _ _ found := found
  globals place found atPlace := by
    have below := (Array.getElem?_eq_some_iff.mp atPlace).1
    rw [Module.withGlobals, Array.getElem?_append_left below]
    exact atPlace
  pool _ _ found := found

theorem addString (code : Module) (value : String) : Extends code (code.addString value).2 := by
  unfold Module.addString
  split
  · exact refl code
  · refine ⟨fun _ _ found => found, fun _ _ found => found, fun place found atPlace => ?_⟩
    have below := (Array.getElem?_eq_some_iff.mp atPlace).1
    rw [Array.getElem?_push, if_neg (Nat.ne_of_lt below)]
    exact atPlace

end Extends

/-! ### Order -/

/-- An entry line stores into the global. -/
def Stores (code : Module) (global : Nat) : Prop :=
  ∃ place value, code.recorded place = some (.entry, .store value global)

/-- A block can read the operand: a line of the entry block has computed it, or a line of
the block itself if that is the body. -/
def Ready (code : Module) (block : Block) (operand : Operand) : Prop :=
  ∀ used, operand.line? = some used →
    ∃ earlier instruction, code.recorded used = some (earlier, instruction) ∧
      (earlier = .entry ∨ block = .body)

/-- An instruction may be appended to a block: its operands are ready, a global that it
loads was stored by the entry block, and one that it stores into exists. -/
structure Admits (code : Module) (block : Block) (instruction : Instruction) : Prop where
  ready : ∀ operand ∈ instruction.operands, code.Ready block operand
  loads : ∀ global, instruction = .loadGlobal global → block = .body ∧ code.Stores global
  stores : ∀ value global, instruction = .store value global →
    block = .entry ∧ global < code.globals.size

/-- Code in which nothing is read before it is there. -/
structure Ordered (code : Module) : Prop where
  earlier : ∀ place block instruction, code.recorded place = some (block, instruction) →
    ∀ operand ∈ instruction.operands, ∀ used, operand.line? = some used → used < place
  admitted : ∀ place block instruction, code.recorded place = some (block, instruction) →
    code.Admits block instruction

theorem Ready.mono {before after : Module} (grows : Extends before after) {block : Block}
    {operand : Operand} (ready : before.Ready block operand) : after.Ready block operand := by
  intro used uses
  obtain ⟨earlier, instruction, atPlace, reach⟩ := ready used uses
  exact ⟨earlier, instruction, grows.lines used _ atPlace, reach⟩

theorem ready_of_no_line (code : Module) (block : Block) {operand : Operand}
    (noLine : operand.line? = none) : code.Ready block operand := by
  intro used uses
  rw [noLine] at uses
  contradiction

theorem Stores.mono {before after : Module} (grows : Extends before after) {global : Nat}
    (stores : before.Stores global) : after.Stores global := by
  obtain ⟨place, value, atPlace⟩ := stores
  exact ⟨place, value, grows.lines place _ atPlace⟩

theorem Extends.globals_size {before after : Module} (grows : Extends before after) :
    before.globals.size ≤ after.globals.size := by
  by_contra larger
  have below : after.globals.size < before.globals.size := by omega
  have found := grows.globals after.globals.size _ (Array.getElem?_eq_getElem below)
  have := (Array.getElem?_eq_some_iff.mp found).1
  omega

theorem Admits.mono {before after : Module} (grows : Extends before after) {block : Block}
    {instruction : Instruction} (admits : before.Admits block instruction) :
    after.Admits block instruction where
  ready operand member := (admits.ready operand member).mono grows
  loads global same := ⟨(admits.loads global same).1, (admits.loads global same).2.mono grows⟩
  stores value global same :=
    ⟨(admits.stores value global same).1,
      Nat.lt_of_lt_of_le (admits.stores value global same).2 grows.globals_size⟩

/-- The code of a kernel that was just started. -/
theorem Ordered.empty (name : String) : Ordered { name } where
  earlier _ _ _ found := by simp [recorded] at found
  admitted _ _ _ found := by simp [recorded] at found

/-- Code stays ordered when its lines stay. -/
theorem Ordered.of_same_lines {before after : Module} (ordered : before.Ordered)
    (grows : Extends before after) (same : ∀ place, after.recorded place = before.recorded place) :
    after.Ordered where
  earlier place block instruction atPlace :=
    ordered.earlier place block instruction (same place ▸ atPlace)
  admitted place block instruction atPlace :=
    (ordered.admitted place block instruction (same place ▸ atPlace)).mono grows

/-- Code stays ordered when an admissible line is appended. -/
theorem Ordered.of_appended {before after : Module} (ordered : before.Ordered)
    (grows : Extends before after) {block : Block} {instruction : Instruction}
    (admits : before.Admits block instruction)
    (appended : ∀ place, after.recorded place =
      if place = before.lines.size then some (block, instruction) else before.recorded place) :
    after.Ordered where
  earlier place someBlock found atPlace operand member used uses := by
    rw [appended] at atPlace
    split at atPlace
    · rename_i last
      cases atPlace
      obtain ⟨earlier, line, usedAt, -⟩ := admits.ready operand member used uses
      rw [last]
      exact recorded_lt usedAt
    · exact ordered.earlier place someBlock found atPlace operand member used uses
  admitted place someBlock found atPlace := by
    rw [appended] at atPlace
    split at atPlace
    · cases atPlace
      exact admits.mono grows
    · exact (ordered.admitted place someBlock found atPlace).mono grows

/-- The operand of an appended entry line is ready everywhere. -/
theorem ready_pushed (code : Module) (instruction : Instruction) (type : Ty) (block : Block) :
    (code.push .entry instruction type).2.Ready block
      (code.push .entry instruction type).1 := by
  intro used uses
  cases uses
  exact ⟨.entry, instruction, by rw [push_recorded, if_pos rfl], .inl rfl⟩

/-! ### Lines without globals -/

/-- More lines, over the same globals and the same pool. -/
structure Lengthened (before after : Module) : Prop where
  grows : Extends before after
  globals : after.globals = before.globals
  pool : after.pool = before.pool
  ordered : before.Ordered → after.Ordered

namespace Lengthened

theorem refl (code : Module) : Lengthened code code := ⟨.refl code, rfl, rfl, id⟩

theorem trans {first second third : Module} (front : Lengthened first second)
    (back : Lengthened second third) : Lengthened first third where
  grows := front.grows.trans back.grows
  globals := back.globals.trans front.globals
  pool := back.pool.trans front.pool
  ordered := back.ordered ∘ front.ordered

theorem push {code : Module} {block : Block} {instruction : Instruction} (type : Ty)
    (admits : code.Admits block instruction) :
    Lengthened code (code.push block instruction type).2 where
  grows := Extends.push code block instruction type
  globals := rfl
  pool := rfl
  ordered ordered := ordered.of_appended (Extends.push code block instruction type) admits
    (fun place => push_recorded code block instruction type place)

theorem store {code : Module} {value : Operand} {global : Nat}
    (ready : code.Ready .entry value) (exists' : global < code.globals.size) :
    Lengthened code (code.store .entry value global) where
  grows := Extends.store code .entry value global
  globals := rfl
  pool := rfl
  ordered ordered := by
    refine ordered.of_appended (Extends.store code .entry value global) ⟨?_, ?_, ?_⟩
      (fun place => store_recorded code .entry value global place)
    · intro operand member
      rw [List.mem_singleton.mp member]
      exact ready
    · intro other same
      cases same
    · intro other touched same
      cases same
      exact ⟨rfl, exists'⟩

theorem setName (code : Module) (value : Operand) (name : String) :
    Lengthened code (code.setName value name) where
  grows := Extends.setName code value name
  globals := setName_globals code value name
  pool := setName_pool code value name
  ordered ordered := ordered.of_same_lines (Extends.setName code value name)
    (fun place => setName_recorded code value place name)

end Lengthened

/-- A computing instruction may be appended to the entry block when its operands are
ready. -/
theorem Admits.compute {code : Module} {instruction : Instruction}
    (ready : ∀ operand ∈ instruction.operands, code.Ready .entry operand)
    (noLoad : ∀ global, instruction ≠ .loadGlobal global)
    (noStore : ∀ value global, instruction ≠ .store value global) :
    code.Admits .entry instruction where
  ready := ready
  loads global same := absurd same (noLoad global)
  stores value global same := absurd same (noStore value global)

end Module

end QueryKernel.Ir
