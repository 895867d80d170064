import QueryKernel.Proofs.Attempt
import QueryKernel.Proofs.Ir.Recording

/-!
Contract: the frames in which every line of some code holds.

A frame solves code when it gives every line the value that the line computes from the
frame itself, and every stored global the stored value. Nothing here runs: a solution is
a fixed point, so it grows line by line with the code.

Owns:
- frames that keep the results and globals of another, and what they leave unchanged;
- solutions, and their growth with every operation that records code.
-/

namespace QueryKernel.Ir

/-! ### Growing frames -/

namespace Frame

/-- A frame keeps the results and globals of another one. -/
structure Extends (before after : Frame) : Prop where
  results : ∀ (place : Nat) (found : Option RuntimeValue), before.results[place]? = some found →
    after.results[place]? = some found
  globals : ∀ (place : Nat) (found : Option RuntimeValue), before.globals[place]? = some found →
    after.globals[place]? = some found

theorem Extends.refl (frame : Frame) : Extends frame frame :=
  ⟨fun _ _ found => found, fun _ _ found => found⟩

theorem Extends.trans {first second third : Frame} (front : Extends first second)
    (back : Extends second third) : Extends first third where
  results place found atPlace := back.results place found (front.results place found atPlace)
  globals place found atPlace := back.globals place found (front.globals place found atPlace)

def withResult (frame : Frame) (result : Option RuntimeValue) : Frame :=
  { frame with results := frame.results.push result }

def withGlobals (frame : Frame) (values : List RuntimeValue) : Frame :=
  { frame with globals := frame.globals ++ (values.map some).toArray }

theorem extends_withResult (frame : Frame) (result : Option RuntimeValue) :
    Extends frame (frame.withResult result) where
  results place found atPlace := by
    have below := (Array.getElem?_eq_some_iff.mp atPlace).1
    rw [withResult, Array.getElem?_push, if_neg (Nat.ne_of_lt below)]
    exact atPlace
  globals _ _ found := found

theorem extends_withGlobals (frame : Frame) (values : List RuntimeValue) :
    Extends frame (frame.withGlobals values) where
  results _ _ found := found
  globals place found atPlace := by
    have below := (Array.getElem?_eq_some_iff.mp atPlace).1
    rw [withGlobals, Array.getElem?_append_left below]
    exact atPlace

theorem resolve_mono {before after : Frame} (grows : Extends before after) {operand : Operand}
    {value : RuntimeValue} (resolved : before.resolve operand = .ok value) :
    after.resolve operand = .ok value := by
  cases operand with
  | result line type =>
      simp only [resolve] at resolved ⊢
      split at resolved
      · rename_i found atLine
        rw [grows.results line _ atLine]
        exact resolved
      · contradiction
  | argument index => cases index <;> exact resolved
  | _ => exact resolved

theorem resolveInteger_mono {before after : Frame} (grows : Extends before after)
    {operand : Operand} {word : Nat × Int64}
    (resolved : before.resolveInteger operand = .ok word) :
    after.resolveInteger operand = .ok word := by
  obtain ⟨value, valueEq, rest⟩ := bind_eq_ok.mp resolved
  exact bind_eq_ok.mpr ⟨value, resolve_mono grows valueEq, rest⟩

end Frame

theorem Module.readBytes_mono {before after : Module} (grows : Module.Extends before after)
    {image : Array UInt8} {address : Address} {length : Nat} {bytes : List UInt8}
    (read : before.readBytes image address length = .ok bytes) :
    after.readBytes image address length = .ok bytes := by
  cases address with
  | poolString index offset =>
      simp only [readBytes] at read ⊢
      split at read
      · rename_i value inPool
        rw [grows.pool index value inPool]
        exact read
      · contradiction
  | _ => exact read

theorem Module.loadValue_mono {before after : Module} (grows : Module.Extends before after)
    {image : Array UInt8} {address : Address} {type : Ty} {value : RuntimeValue}
    (loaded : before.loadValue image address type = .ok value) :
    after.loadValue image address type = .ok value := by
  -- Only the bytes come from the module.
  have same : ∀ {length : Nat} {use : List UInt8 → Except Error RuntimeValue},
      (before.readBytes image address length >>= use) = .ok value →
      (after.readBytes image address length >>= use) = .ok value := by
    intro length use used
    obtain ⟨bytes, read, rest⟩ := bind_eq_ok.mp used
    exact bind_eq_ok.mpr ⟨bytes, readBytes_mono grows read, rest⟩
  cases type with
  | int bits =>
      simp only [loadValue] at loaded ⊢
      split at loaded
      · rename_i whole
        rw [if_pos whole]
        exact same loaded
      · contradiction
  | float => exact same loaded
  | double => exact same loaded
  | pointer => contradiction

/-! ### Solutions -/

namespace Frame

/-- A line holds in a frame: its result is what it computes there, and a store has reached
its global. -/
structure Satisfies (frame : Frame) (code : Module) (image : Array UInt8) (place : Nat)
    (instruction : Instruction) : Prop where
  result : ∃ result, frame.compute code image instruction = .ok result ∧
    frame.results[place]? = some result
  stored : ∀ value global, instruction = .store value global →
    ∃ stored, frame.resolve value = .ok stored ∧ frame.globals[global]? = some (some stored)

/-- All lines hold. -/
structure Solves (frame : Frame) (code : Module) (image : Array UInt8) : Prop where
  results_size : frame.results.size = code.lines.size
  globals_size : frame.globals.size = code.globals.size
  satisfies : ∀ place block instruction, code.recorded place = some (block, instruction) →
    frame.Satisfies code image place instruction

theorem compute_mono {before after : Frame} (frameGrows : Extends before after)
    {first second : Module} (codeGrows : Module.Extends first second) {image : Array UInt8}
    {instruction : Instruction} {result : Option RuntimeValue}
    (computed : before.compute first image instruction = .ok result) :
    after.compute second image instruction = .ok result := by
  cases instruction with
  | offset base amount =>
      obtain ⟨⟨bits, distance⟩, wordEq, moved⟩ := bind_eq_ok.mp computed
      refine bind_eq_ok.mpr ⟨(bits, distance), resolveInteger_mono frameGrows wordEq, ?_⟩
      dsimp only at moved ⊢
      split at moved
      · contradiction
      · rename_i forward
        obtain ⟨value, valueEq, rest⟩ := bind_eq_ok.mp moved
        rw [if_neg forward]
        exact bind_eq_ok.mpr ⟨value, resolve_mono frameGrows valueEq, rest⟩
  | load address type =>
      obtain ⟨value, valueEq, loaded⟩ := bind_eq_ok.mp computed
      refine bind_eq_ok.mpr ⟨value, resolve_mono frameGrows valueEq, ?_⟩
      split at loaded
      · rename_i found _
        obtain ⟨content, read, rest⟩ := bind_eq_ok.mp loaded
        exact bind_eq_ok.mpr ⟨content, Module.loadValue_mono codeGrows read, rest⟩
      · contradiction
  | and left right | shiftRight left right | greater left right =>
      obtain ⟨leftWord, leftEq, rest⟩ := bind_eq_ok.mp computed
      obtain ⟨rightWord, rightEq, rest⟩ := bind_eq_ok.mp rest
      exact bind_eq_ok.mpr ⟨leftWord, resolveInteger_mono frameGrows leftEq,
        bind_eq_ok.mpr ⟨rightWord, resolveInteger_mono frameGrows rightEq, rest⟩⟩
  | store value global => exact computed
  | loadGlobal global =>
      simp only [compute] at computed ⊢
      split at computed
      · rename_i found atGlobal
        rw [frameGrows.globals global _ atGlobal]
        exact computed
      · contradiction

theorem Satisfies.mono {before after : Frame} (frameGrows : Extends before after)
    {first second : Module} (codeGrows : Module.Extends first second) {image : Array UInt8}
    {place : Nat} {instruction : Instruction}
    (holds : before.Satisfies first image place instruction) :
    after.Satisfies second image place instruction where
  result := by
    obtain ⟨result, computed, atPlace⟩ := holds.result
    exact ⟨result, compute_mono frameGrows codeGrows computed, frameGrows.results place _ atPlace⟩
  stored value global same := by
    obtain ⟨stored, resolved, atGlobal⟩ := holds.stored value global same
    exact ⟨stored, resolve_mono frameGrows resolved, frameGrows.globals global _ atGlobal⟩

/-- A solution of code solves the code of the same lines. -/
theorem Solves.of_same_lines {frame : Frame} {before after : Module} {image : Array UInt8}
    (solves : frame.Solves before image) (grows : Module.Extends before after)
    (same : ∀ place, after.recorded place = before.recorded place)
    (lines : after.lines.size = before.lines.size)
    (globals : after.globals.size = before.globals.size) : frame.Solves after image where
  results_size := solves.results_size.trans lines.symm
  globals_size := solves.globals_size.trans globals.symm
  satisfies place block instruction atPlace :=
    (solves.satisfies place block instruction (same place ▸ atPlace)).mono (Extends.refl frame)
      grows

/-- A solution of code, with the result of one more line. -/
theorem Solves.of_appended {frame : Frame} {before after : Module} {image : Array UInt8}
    (solves : frame.Solves before image) (grows : Module.Extends before after)
    {block : Block} {instruction : Instruction} {result : Option RuntimeValue}
    (computed : frame.compute before image instruction = .ok result)
    (stored : ∀ value global, instruction = .store value global →
      ∃ stored, frame.resolve value = .ok stored ∧ frame.globals[global]? = some (some stored))
    (appended : ∀ place, after.recorded place =
      if place = before.lines.size then some (block, instruction) else before.recorded place)
    (lines : after.lines.size = before.lines.size + 1)
    (globals : after.globals.size = before.globals.size) :
    (frame.withResult result).Solves after image where
  results_size := by rw [withResult, Array.size_push, solves.results_size, lines]
  globals_size := solves.globals_size.trans globals.symm
  satisfies place someBlock found atPlace := by
    have frameGrows := extends_withResult frame result
    rw [appended] at atPlace
    split at atPlace
    · rename_i last
      cases atPlace
      refine ⟨⟨result, compute_mono frameGrows grows computed, ?_⟩, fun value global same => ?_⟩
      · rw [last, ← solves.results_size, withResult, Array.getElem?_push_size]
      · obtain ⟨content, resolved, atGlobal⟩ := stored value global same
        exact ⟨content, resolve_mono frameGrows resolved, frameGrows.globals global _ atGlobal⟩
    · exact (solves.satisfies place someBlock found atPlace).mono frameGrows grows

theorem Solves.push {frame : Frame} {code : Module} {image : Array UInt8}
    (solves : frame.Solves code image) (block : Block) {instruction : Instruction} (type : Ty)
    {result : Option RuntimeValue} (computed : frame.compute code image instruction = .ok result)
    (noStore : ∀ value global, instruction ≠ .store value global) :
    (frame.withResult result).Solves (code.push block instruction type).2 image :=
  solves.of_appended (Module.Extends.push code block instruction type) computed
    (fun value global same => absurd same (noStore value global))
    (fun place => Module.push_recorded code block instruction type place) (by simp) (by simp)

theorem resolve_withResult {frame : Frame} {place : Nat} (last : frame.results.size = place)
    (value : RuntimeValue) (type : Ty) :
    (frame.withResult (some value)).resolve (.result place type) = .ok value := by
  subst last
  simp [resolve, withResult]

/-- A frame that solves more code than another one, over the same globals. -/
structure Continues (before next : Frame) (code : Module) (image : Array UInt8) : Prop where
  grows : Extends before next
  solves : next.Solves code image
  globals : next.globals = before.globals

theorem Continues.trans {first second third : Frame} {middle code : Module} {image : Array UInt8}
    (front : first.Continues second middle image) (back : second.Continues third code image) :
    first.Continues third code image where
  grows := front.grows.trans back.grows
  solves := back.solves
  globals := back.globals.trans front.globals

/-- A computed line gives its value to the operand that refers to it. -/
theorem Solves.pushed {frame : Frame} {code : Module} {image : Array UInt8}
    (solves : frame.Solves code image) (block : Block) {instruction : Instruction} (type : Ty)
    {value : RuntimeValue} (computed : frame.compute code image instruction = .ok (some value))
    (noStore : ∀ value global, instruction ≠ .store value global) :
    ∃ next, frame.Continues next (code.push block instruction type).2 image ∧
      next.resolve (code.push block instruction type).1 = .ok value :=
  ⟨frame.withResult (some value),
    ⟨extends_withResult frame _, solves.push block type computed noStore, rfl⟩,
    resolve_withResult solves.results_size value type⟩

theorem Solves.store {frame : Frame} {code : Module} {image : Array UInt8}
    (solves : frame.Solves code image) (block : Block) {value : Operand} {global : Nat}
    {stored : RuntimeValue} (resolved : frame.resolve value = .ok stored)
    (atGlobal : frame.globals[global]? = some (some stored)) :
    (frame.withResult none).Solves (code.store block value global) image :=
  solves.of_appended (Module.Extends.store code block value global) rfl
    (fun _ _ same => by
      cases same
      exact ⟨stored, resolved, atGlobal⟩)
    (fun place => Module.store_recorded code block value global place) (by simp) (by simp)

theorem Solves.setName {frame : Frame} {code : Module} {image : Array UInt8}
    (solves : frame.Solves code image) (value : Operand) (name : String) :
    frame.Solves (code.setName value name) image :=
  solves.of_same_lines (Module.Extends.setName code value name)
    (fun place => Module.setName_recorded code value place name) (by simp) (by simp)

theorem Solves.addString {frame : Frame} {code : Module} {image : Array UInt8}
    (solves : frame.Solves code image) (value : String) :
    frame.Solves (code.addString value).2 image :=
  solves.of_same_lines (Module.Extends.addString code value) (Module.addString_recorded code value)
    (Module.addString_size code value) (by rw [Module.addString_globals])

theorem Solves.withGlobals {frame : Frame} {code : Module} {image : Array UInt8}
    (solves : frame.Solves code image) {added : List Global} {values : List RuntimeValue}
    (sameLength : added.length = values.length) :
    (frame.withGlobals values).Solves (code.withGlobals added) image where
  results_size := solves.results_size
  globals_size := by
    simp [Frame.withGlobals, Module.withGlobals, solves.globals_size, sameLength]
  satisfies place block instruction atPlace :=
    (solves.satisfies place block instruction atPlace).mono (extends_withGlobals frame values)
      (Module.Extends.withGlobals code added)

theorem Solves.empty (name : String) (image : Array UInt8) :
    Solves ⟨#[], #[]⟩ { name } image where
  results_size := rfl
  globals_size := rfl
  satisfies _ _ _ found := by simp [Module.recorded] at found

end Frame

end QueryKernel.Ir
