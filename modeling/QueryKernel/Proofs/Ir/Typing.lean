import QueryKernel.Proofs.Ir.Edits
import QueryKernel.Proofs.Ir.Execution
import QueryKernel.Proofs.Number.Canonical

/-!
Contract: what a run computes has the types that were recorded.

Result types are attached when a line is recorded, and values are computed later, by a run that
does not look at the types.

Owns:
- values of a type, with integers in canonical form;
- the types of instructions in code, and typed code, which lawful edits build;
- typed frames: one line keeps the types, and so does a run;
- sound code, where outputs have the types of their operands.

Does not own: which code a session records.
-/

namespace QueryKernel.Ir

/-! ### Values -/

/-- An integer is canonical for its width. Other values have one form only. -/
def RuntimeValue.IsCanonical : RuntimeValue → Prop
  | .int bits value => Number.IsCanonical bits value
  | .float _ | .double _ | .pointer _ => True

/-- The value has exactly the type, and is in canonical form. -/
structure RuntimeValue.Inhabits (value : RuntimeValue) (type : Ty) : Prop where
  type : value.type = type
  canonical : value.IsCanonical

/-! ### Instructions -/

/-- The instruction computes a result of the type in the code, or none. Its operands come from
the code, and what it stores has the type of its global. -/
inductive Instruction.HasType (code : Module) : Instruction → Option Ty → Prop where
  | offset {base amount : Operand} (baseSupplied : code.Supplies base)
      (amountSupplied : code.Supplies amount) : HasType code (.offset base amount) (some .pointer)
  | load {address : Operand} (type : Ty) (supplied : code.Supplies address) :
      HasType code (.load address type) (some type)
  | and {left right : Operand} (leftSupplied : code.Supplies left)
      (rightSupplied : code.Supplies right) : HasType code (.and left right) (some left.type)
  | shiftRight {left right : Operand} (leftSupplied : code.Supplies left)
      (rightSupplied : code.Supplies right) : HasType code (.shiftRight left right) (some left.type)
  | greater {left right : Operand} (leftSupplied : code.Supplies left)
      (rightSupplied : code.Supplies right) : HasType code (.greater left right) (some (.int 1))
  | store {value : Operand} {global : Nat} (supplied : code.Supplies value)
      (holds : code.Holds global value.type) : HasType code (.store value global) none
  | loadGlobal {global : Nat} {type : Ty} (holds : code.Holds global type) :
      HasType code (.loadGlobal global) (some type)

theorem Instruction.HasType.mono {before after : Module} (retains : before.Retains after)
    {instruction : Instruction} {result : Option Ty} (has : instruction.HasType before result) :
    instruction.HasType after result := by
  cases has with
  | offset base amount => exact .offset (base.mono retains) (amount.mono retains)
  | load type address => exact .load type (address.mono retains)
  | and left right => exact .and (left.mono retains) (right.mono retains)
  | shiftRight left right => exact .shiftRight (left.mono retains) (right.mono retains)
  | greater left right => exact .greater (left.mono retains) (right.mono retains)
  | store value holds => exact .store (value.mono retains) (holds.mono retains)
  | loadGlobal holds => exact .loadGlobal (holds.mono retains)

namespace Module

/-! ### Typed code -/

/-- The recorded types of the results are those of the instructions. -/
def Typed (code : Module) : Prop :=
  ∀ place block instruction, code.recorded place = some (block, instruction) →
    instruction.HasType code (code.resultAt place)

theorem typed_empty (name : String) : Typed { name } := by
  intro place block instruction found
  simp [recorded] at found

/-- Code stays typed when its lines stay. -/
theorem Typed.of_same_lines {before after : Module} (typed : before.Typed)
    (retains : before.Retains after)
    (recorded : ∀ place, after.recorded place = before.recorded place)
    (results : ∀ place, after.resultAt place = before.resultAt place) : after.Typed := by
  intro place block instruction found
  rw [recorded] at found
  rw [results]
  exact (typed place block instruction found).mono retains

/-- Code stays typed when a line of the right type is appended. -/
theorem Typed.of_appended {before after : Module} (typed : before.Typed)
    (retains : before.Retains after) {block : Block} {instruction : Instruction}
    {result : Option Ty} (has : instruction.HasType before result)
    (recorded : ∀ place, after.recorded place =
      if place = before.lines.size then some (block, instruction) else before.recorded place)
    (results : ∀ place, after.resultAt place =
      if place = before.lines.size then result else before.resultAt place) : after.Typed := by
  intro place someBlock found atPlace
  rw [recorded] at atPlace
  rw [results]
  split at atPlace
  · rename_i last
    cases atPlace
    rw [if_pos last]
    exact has.mono retains
  · rename_i earlier
    rw [if_neg earlier]
    exact (typed place someBlock found atPlace).mono retains

theorem Typed.push {code : Module} (typed : code.Typed) (block : Block) {instruction : Instruction}
    {type : Ty} (has : instruction.HasType code (some type)) :
    (code.push block instruction type).2.Typed :=
  typed.of_appended (.push code block instruction type) has
    (push_recorded code block instruction type) (push_resultAt code block instruction type)

theorem Typed.store {code : Module} (typed : code.Typed) (block : Block) {value : Operand}
    {global : Nat} (supplied : code.Supplies value) (holds : code.Holds global value.type) :
    (code.store block value global).Typed :=
  typed.of_appended (.store code block value global) (.store supplied holds)
    (store_recorded code block value global) (store_resultAt code block value global)

theorem holds_globalType {code : Module} {global : Nat} (existing : global < code.globals.size) :
    code.Holds global (code.globalType global) := by
  refine ⟨code.globals[global], Array.getElem?_eq_getElem existing, ?_⟩
  rw [globalType, Array.getElem?_eq_getElem existing]
  rfl

/-- A lawful edit keeps the code typed, if it stores what the global is for. -/
theorem Typed.edit {code : Module} (typed : code.Typed) {edit : Edit} (lawful : code.Lawful edit)
    (stores : code.TypesStore edit) : (code.edit edit).Typed := by
  have supplied := lawful.supplied
  cases edit with
  | addString value =>
      exact typed.of_same_lines (.addString code value) (addString_recorded code value)
        (fun place => addString_resultAt code place value)
  | addGlobal name type =>
      rcases code.edit_addGlobal name type with same | added
      · rw [same]
        exact typed
      · rw [added]
        exact typed.of_same_lines (.withGlobals code _) (fun _ => rfl) (fun _ => rfl)
  | offset block base amount =>
      exact typed.push block (.offset (supplied base (by simp [Edit.operands]))
        (supplied amount (by simp [Edit.operands])))
  | load block address type =>
      exact typed.push block (.load type (supplied address (by simp [Edit.operands])))
  | and block left right =>
      exact typed.push block (.and (supplied left (by simp [Edit.operands]))
        (supplied right (by simp [Edit.operands])))
  | shiftRight block left right =>
      exact typed.push block (.shiftRight (supplied left (by simp [Edit.operands]))
        (supplied right (by simp [Edit.operands])))
  | greater block left right =>
      exact typed.push block (.greater (supplied left (by simp [Edit.operands]))
        (supplied right (by simp [Edit.operands])))
  | store block value global =>
      exact typed.store block (supplied value (by simp [Edit.operands])) stores
  | loadGlobal block global =>
      exact typed.push block (.loadGlobal (holds_globalType (lawful.existing global rfl)))
  | setName value name =>
      exact typed.of_same_lines (.setName code value name)
        (fun place => setName_recorded code value place name)
        (fun place => setName_resultAt code value place name)

/-- Lawful edits keep the code typed. -/
theorem Typed.edited {code : Module} (typed : code.Typed) {edits : List Edit}
    (lawful : Each Lawful code edits) (stores : Each TypesStore code edits) :
    (code.edited edits).Typed := by
  induction edits generalizing code with
  | nil => exact typed
  | cons edit rest inductionHypothesis =>
      exact inductionHypothesis (typed.edit lawful.1 stores.1) lawful.2 stores.2

end Module

/-! ### Typed frames -/

/-- What was computed so far has the recorded types. -/
structure Frame.Typed (frame : Frame) (code : Module) : Prop where
  results : ∀ place value, frame.results[place]? = some (some value) →
    ∃ type, code.resultAt place = some type ∧ value.Inhabits type
  globals : ∀ place value, frame.globals[place]? = some (some value) →
    ∃ type, code.Holds place type ∧ value.Inhabits type

theorem Module.Holds.unique {code : Module} {global : Nat} {type other : Ty}
    (holds : code.Holds global type) (again : code.Holds global other) : type = other := by
  rcases holds with ⟨found, atPlace, rfl⟩
  rcases again with ⟨same, atPlaceToo, rfl⟩
  rw [atPlace] at atPlaceToo
  rw [Option.some.inj atPlaceToo]

theorem Module.typed_initialFrame (code : Module) : code.initialFrame.Typed code := by
  have nothing : ∀ {size place : Nat} {value : RuntimeValue},
      (Array.replicate size (none : Option RuntimeValue))[place]? ≠ some (some value) := by
    intro size place value found
    rw [Array.getElem?_replicate] at found
    split at found <;> simp at found
  constructor
  · intro place value found
    exact absurd found nothing
  · intro place value found
    exact absurd found nothing

namespace Frame

variable {frame : Frame} {code : Module} {image : Array UInt8}

/-- Operands of the code have values of their types. -/
theorem Typed.resolve (typed : frame.Typed code) {operand : Operand} {value : RuntimeValue}
    (supplied : code.Supplies operand) (resolved : frame.resolve operand = .ok value) :
    value.Inhabits operand.type := by
  cases supplied with
  | int bits word =>
      cases resolved
      exact ⟨rfl, Number.signExtend_canonical bits word⟩
  | float | double | null | argument | poolString =>
      cases resolved
      exact ⟨rfl, trivial⟩
  | result recorded =>
      simp only [Frame.resolve] at resolved
      split at resolved
      · rename_i found atPlace
        cases resolved
        rcases typed.results _ _ atPlace with ⟨type, same, inhabits⟩
        rw [recorded] at same
        cases same
        exact inhabits
      · contradiction

/-- An integer operand has the width of its value. -/
theorem Typed.resolveInteger (typed : frame.Typed code) {operand : Operand} {bits : Nat}
    {word : Int64} (supplied : code.Supplies operand)
    (resolved : frame.resolveInteger operand = .ok (bits, word)) : operand.type = .int bits := by
  rcases bind_eq_ok.mp resolved with ⟨value, valueEq, rest⟩
  cases value with
  | int width found =>
      cases rest
      exact (typed.resolve supplied valueEq).type.symm
  | float | double | pointer => contradiction

theorem moveAddress_inhabits {value moved : RuntimeValue} {amount : Nat}
    (success : moveAddress value amount = .ok moved) : moved.Inhabits .pointer := by
  unfold moveAddress at success
  split at success
  · cases success
    exact ⟨rfl, trivial⟩
  · cases success
    exact ⟨rfl, trivial⟩
  · contradiction

/-- A load gives a value of the loaded type. -/
theorem loadValue_inhabits {address : Address} {type : Ty} {value : RuntimeValue}
    (success : code.loadValue image address type = .ok value) : value.Inhabits type := by
  cases type with
  | int bits =>
      simp only [Module.loadValue] at success
      split at success
      · rcases bind_eq_ok.mp success with ⟨bytes, -, loaded⟩
        unfold loadedInteger at loaded
        split at loaded
        · cases loaded
          exact ⟨rfl, Number.signExtend_canonical bits _⟩
        · contradiction
      · contradiction
  | float =>
      rcases bind_eq_ok.mp success with ⟨bytes, -, loaded⟩
      cases loaded
      exact ⟨rfl, trivial⟩
  | double =>
      rcases bind_eq_ok.mp success with ⟨bytes, -, loaded⟩
      cases loaded
      exact ⟨rfl, trivial⟩
  | pointer => contradiction

/-- An instruction that is not a store gives a value of its type. -/
theorem Typed.compute (typed : frame.Typed code) {instruction : Instruction} {result : Option Ty}
    (has : instruction.HasType code result) {value : RuntimeValue}
    (computed : frame.compute code image instruction = .ok (some value)) :
    ∃ type, result = some type ∧ value.Inhabits type := by
  cases has with
  | offset baseSupplied amountSupplied =>
      rcases bind_eq_ok.mp computed with ⟨⟨width, amount⟩, -, rest⟩
      dsimp only at rest
      split at rest
      · contradiction
      · rcases bind_eq_ok.mp rest with ⟨base, -, moving⟩
        rcases bind_eq_ok.mp moving with ⟨moved, success, same⟩
        cases same
        exact ⟨_, rfl, moveAddress_inhabits success⟩
  | load type supplied =>
      rcases bind_eq_ok.mp computed with ⟨found, -, rest⟩
      split at rest
      · rcases bind_eq_ok.mp rest with ⟨loaded, success, same⟩
        cases same
        exact ⟨type, rfl, loadValue_inhabits success⟩
      · contradiction
  | and leftSupplied rightSupplied =>
      -- The width of the result is that of the left value, and so of the left operand.
      rcases bind_eq_ok.mp computed with ⟨⟨width, left⟩, leftEq, rest⟩
      rcases bind_eq_ok.mp rest with ⟨right, -, same⟩
      cases same
      rw [typed.resolveInteger leftSupplied leftEq]
      exact ⟨_, rfl, rfl, Number.signExtend_canonical width _⟩
  | shiftRight leftSupplied rightSupplied =>
      rcases bind_eq_ok.mp computed with ⟨⟨width, left⟩, leftEq, rest⟩
      rcases bind_eq_ok.mp rest with ⟨right, -, same⟩
      cases same
      rw [typed.resolveInteger leftSupplied leftEq]
      exact ⟨_, rfl, rfl, Number.signExtend_canonical width _⟩
  | greater leftSupplied rightSupplied =>
      rcases bind_eq_ok.mp computed with ⟨left, -, rest⟩
      rcases bind_eq_ok.mp rest with ⟨right, -, same⟩
      cases same
      exact ⟨_, rfl, rfl, Number.wordGreater_canonical _ _⟩
  | store => cases computed
  | loadGlobal holds =>
      simp only [Frame.compute] at computed
      split at computed
      · rename_i found atPlace
        cases computed
        rcases typed.globals _ _ atPlace with ⟨type, stored, inhabits⟩
        exact ⟨_, rfl, holds.unique stored ▸ inhabits⟩
      · contradiction

/-- A value that is found after a set was set, or was there before. -/
theorem getElem?_set {table : Array (Option RuntimeValue)} {place other : Nat}
    {set : Option RuntimeValue} {value : RuntimeValue}
    (found : (table.setIfInBounds place set)[other]? = some (some value)) :
    (place = other ∧ set = some value) ∨ table[other]? = some (some value) := by
  rw [Array.getElem?_setIfInBounds] at found
  split at found
  · rename_i here
    split at found
    · exact .inl ⟨here, Option.some.inj found⟩
    · contradiction
  · exact .inr found

/-- What a line computes can be set as its result. -/
theorem Typed.withComputed (typed : frame.Typed code) {place : Nat} {instruction : Instruction}
    (has : instruction.HasType code (code.resultAt place)) {value : Option RuntimeValue}
    (computed : frame.compute code image instruction = .ok value) :
    Frame.Typed { frame with results := frame.results.setIfInBounds place value } code where
  results line found atLine := by
    rcases getElem?_set atLine with ⟨rfl, rfl⟩ | before
    · exact typed.compute has computed
    · exact typed.results line found before
  globals := typed.globals

/-- What is stored can be set as the value of its global. -/
theorem Typed.withStored (typed : frame.Typed code) {global : Nat} {type : Ty}
    (holds : code.Holds global type) {value : RuntimeValue} (inhabits : value.Inhabits type) :
    Frame.Typed { frame with globals := frame.globals.setIfInBounds global (some value) } code where
  results := typed.results
  globals place found atPlace := by
    rcases getElem?_set atPlace with ⟨rfl, set⟩ | before
    · obtain rfl := Option.some.inj set
      exact ⟨type, holds, inhabits⟩
    · exact typed.globals place found before

/-- One line keeps the frame typed. -/
theorem Typed.step (typed : frame.Typed code) {place : Nat} {instruction : Instruction}
    (has : instruction.HasType code (code.resultAt place)) {next : Frame}
    (stepped : frame.step code image place instruction = .ok next) : next.Typed code := by
  cases instruction with
  | store value global =>
      rcases bind_eq_ok.mp stepped with ⟨found, resolved, same⟩
      cases same
      generalize code.resultAt place = result at has
      cases has with
      | store supplied holds => exact typed.withStored holds (typed.resolve supplied resolved)
  | offset | load | and | shiftRight | greater | loadGlobal =>
      rcases bind_eq_ok.mp stepped with ⟨value, computed, same⟩
      cases same
      exact typed.withComputed has computed

end Frame

/-! ### Sound code -/

namespace Module

/-- Whatever the literals are, outputs that come from the code have values of their types. -/
def IsSound (code : Module) : Prop :=
  ∀ image outputs values, (∀ output ∈ outputs, code.Supplies output) →
    code.evaluate image outputs = .ok values →
      List.Forall₂ (fun output value => RuntimeValue.Inhabits value output.type) outputs values

/-- A run of typed code keeps the frame typed. -/
theorem Typed.executeFrom {code : Module} (typed : code.Typed) {image : Array UInt8}
    (places : List Nat) {frame final : Frame} (start : frame.Typed code)
    (ran : code.executeFrom image frame places = .ok final) : final.Typed code := by
  induction places generalizing frame with
  | nil =>
      cases ran
      exact start
  | cons place rest inductionHypothesis =>
      rcases bind_eq_ok.mp ran with ⟨next, stepped, remaining⟩
      refine inductionHypothesis ?_ remaining
      -- A place beyond the lines is passed over.
      dsimp only at stepped
      split at stepped
      · rename_i line atPlace
        have recorded : code.recorded place = some (line.block, line.instruction) := by
          rw [Module.recorded, atPlace]
          rfl
        exact start.step (typed place _ _ recorded) stepped
      · cases stepped
        exact start

theorem Typed.isSound {code : Module} (typed : code.Typed) : code.IsSound := by
  intro image outputs values supplied success
  rcases bind_eq_ok.mp success with ⟨frame, ran, resolved⟩
  rw [execute_eq_executeFrom] at ran
  have final := typed.executeFrom code.schedule code.typed_initialFrame ran
  have related := mapM_eq_ok.mp resolved
  refine ((List.forall₂_and_left _ _).mpr ⟨supplied, related⟩).imp ?_
  intro output value known
  exact final.resolve known.1 known.2

end Module

end QueryKernel.Ir
