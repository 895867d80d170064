import QueryKernel.Proofs.Ir.Solution

/-!
Contract: a run computes a solution.

For ordered code a run passes through frames that agree with any solution on the lines
that have run, so that in the end every operand has the value that the solution gives it.

Owns:
- the order in which lines run, and that operands and globals come before their use;
- what one line preserves, and from it the whole run;
- the main statement: outputs of ordered code are the values a solution gives them.
-/

namespace QueryKernel.Ir

namespace Frame

/-! ### One line -/

/-- A frame on the way to another one: it agrees with it on the lines that have run and on
the globals that these have stored, and has no result for the others. -/
structure AgreesOn (partway whole : Frame) (code : Module) (done : List Nat) : Prop where
  results_size : partway.results.size = whole.results.size
  globals_size : partway.globals.size = whole.globals.size
  results : ∀ place ∈ done, partway.results[place]? = whole.results[place]?
  globals : ∀ place ∈ done, ∀ block value global,
    code.recorded place = some (block, .store value global) →
      partway.globals[global]? = whole.globals[global]?
  waiting : ∀ place < partway.results.size, place ∉ done →
    partway.results[place]? = some none

theorem resolve_congr {left right : Frame} {operand : Operand}
    (same : ∀ used, operand.line? = some used → left.results[used]? = right.results[used]?) :
    left.resolve operand = right.resolve operand := by
  cases operand with
  | result line type => simp only [resolve, same line rfl]
  | argument index => cases index <;> rfl
  | _ => rfl

theorem compute_congr {left right : Frame} {code : Module} {image : Array UInt8}
    {instruction : Instruction}
    (operands : ∀ operand ∈ instruction.operands, left.resolve operand = right.resolve operand)
    (globals : ∀ global, instruction = .loadGlobal global →
      left.globals[global]? = right.globals[global]?) :
    left.compute code image instruction = right.compute code image instruction := by
  cases instruction with
  | offset base amount =>
      simp only [compute, resolveInteger, operands base (by simp [Instruction.operands]),
        operands amount (by simp [Instruction.operands])]
  | load address type =>
      simp only [compute, operands address (by simp [Instruction.operands])]
  | and first second | shiftRight first second | greater first second =>
      simp only [compute, resolveInteger, operands first (by simp [Instruction.operands]),
        operands second (by simp [Instruction.operands])]
  | store value global => rfl
  | loadGlobal global => simp only [compute, globals global rfl]

/-- What a step of a line without a store does. -/
theorem step_of_computed {frame : Frame} {code : Module} {image : Array UInt8} {place : Nat}
    {instruction : Instruction} {result : Option RuntimeValue}
    (noStore : ∀ value global, instruction ≠ .store value global)
    (computed : frame.compute code image instruction = .ok result) :
    frame.step code image place instruction =
      .ok { frame with results := frame.results.setIfInBounds place result } := by
  cases instruction with
  | store value global => exact absurd rfl (noStore value global)
  | _ => exact bind_eq_ok.mpr ⟨result, computed, rfl⟩

/-- Agreement on one line more, after its store. -/
theorem AgreesOn.store {partway whole : Frame} {code : Module} {done : List Nat}
    (agrees : partway.AgreesOn whole code done) {place global : Nat} {block : Block}
    {value : Operand} {stored : RuntimeValue}
    (atPlace : code.recorded place = some (block, .store value global)) (new : place ∉ done)
    (inside : place < partway.results.size) (found : whole.results[place]? = some none)
    (atGlobal : whole.globals[global]? = some (some stored)) :
    AgreesOn { partway with globals := partway.globals.setIfInBounds global (some stored) }
      whole code (done ++ [place]) where
  results_size := agrees.results_size
  globals_size := by simp [agrees.globals_size]
  results other member := by
    rcases List.mem_append.mp member with before | last
    · exact agrees.results other before
    · rw [List.mem_singleton.mp last, found]
      exact agrees.waiting place inside new
  globals other member otherBlock otherValue touched stores := by
    have bound : global < partway.globals.size := by
      rw [agrees.globals_size]
      exact (Array.getElem?_eq_some_iff.mp atGlobal).1
    -- A global that was stored before is stored with the same value again.
    by_cases same : touched = global
    · rw [same, Array.getElem?_setIfInBounds_self_of_lt bound, atGlobal]
    · rw [Array.getElem?_setIfInBounds_ne (Ne.symm same)]
      rcases List.mem_append.mp member with before | last
      · exact agrees.globals other before otherBlock otherValue touched stores
      · rw [List.mem_singleton.mp last, atPlace] at stores
        cases stores
        exact absurd rfl same
  waiting other below absent :=
    agrees.waiting other below fun before => absent (List.mem_append_left _ before)

/-- Agreement on one line more, after its result. -/
theorem AgreesOn.result {partway whole : Frame} {code : Module} {done : List Nat}
    (agrees : partway.AgreesOn whole code done) {place : Nat} {block : Block}
    {instruction : Instruction} {result : Option RuntimeValue}
    (atPlace : code.recorded place = some (block, instruction))
    (noStore : ∀ value global, instruction ≠ .store value global)
    (inside : place < partway.results.size) (found : whole.results[place]? = some result) :
    AgreesOn { partway with results := partway.results.setIfInBounds place result }
      whole code (done ++ [place]) where
  results_size := by simp [agrees.results_size]
  globals_size := agrees.globals_size
  results other member := by
    by_cases same : other = place
    · rw [same, Array.getElem?_setIfInBounds_self_of_lt inside, found]
    · rw [Array.getElem?_setIfInBounds_ne (Ne.symm same)]
      rcases List.mem_append.mp member with before | last
      · exact agrees.results other before
      · exact absurd (List.mem_singleton.mp last) same
  globals other member otherBlock otherValue touched stores := by
    rcases List.mem_append.mp member with before | last
    · exact agrees.globals other before otherBlock otherValue touched stores
    · rw [List.mem_singleton.mp last, atPlace] at stores
      cases stores
      exact absurd rfl (noStore otherValue touched)
  waiting other below absent := by
    have different : place ≠ other := by
      rintro rfl
      exact absent (List.mem_append_right _ (List.mem_singleton_self place))
    rw [Array.getElem?_setIfInBounds_ne different]
    apply agrees.waiting other (by simpa using below)
    intro before
    exact absent (List.mem_append_left _ before)

/-- One line of a run: where the operands are known, it computes what the solution gives
it. -/
theorem step_agrees {partway whole : Frame} {code : Module} {image : Array UInt8}
    (solves : whole.Solves code image) {done : List Nat}
    (agrees : partway.AgreesOn whole code done) {place : Nat} {block : Block}
    {instruction : Instruction} (atPlace : code.recorded place = some (block, instruction))
    (new : place ∉ done)
    (operands : ∀ operand ∈ instruction.operands, ∀ used, operand.line? = some used → used ∈ done)
    (loads : ∀ global, instruction = .loadGlobal global → ∃ stored ∈ done, ∃ block value,
      code.recorded stored = some (block, .store value global)) :
    ∃ next, partway.step code image place instruction = .ok next ∧
      next.AgreesOn whole code (done ++ [place]) := by
  have resolves : ∀ operand ∈ instruction.operands,
      partway.resolve operand = whole.resolve operand := fun operand member =>
    resolve_congr fun used uses => agrees.results used (operands operand member used uses)
  have holds := solves.satisfies place block instruction atPlace
  obtain ⟨result, computed, found⟩ := holds.result
  have inside : place < partway.results.size := by
    rw [agrees.results_size, solves.results_size]
    exact Module.recorded_lt atPlace
  by_cases isStore : ∃ value global, instruction = .store value global
  · obtain ⟨value, global, rfl⟩ := isStore
    obtain ⟨stored, resolved, atGlobal⟩ := holds.stored value global rfl
    cases computed
    have here : partway.resolve value = .ok stored :=
      (resolves value (by simp [Instruction.operands])).trans resolved
    exact ⟨_, bind_eq_ok.mpr ⟨stored, here, rfl⟩, agrees.store atPlace new inside found atGlobal⟩
  · have noStore : ∀ value global, instruction ≠ .store value global := fun value global same =>
      isStore ⟨value, global, same⟩
    have here : partway.compute code image instruction = .ok result := by
      rw [compute_congr resolves fun global same => ?_, computed]
      obtain ⟨stored, before, storeBlock, value, stores⟩ := loads global same
      exact agrees.globals stored before storeBlock value global stores
    exact ⟨_, step_of_computed noStore here, agrees.result atPlace noStore inside found⟩

end Frame

namespace Module

/-! ### The schedule -/

theorem mem_linesOf {code : Module} {block : Block} {place : Nat} :
    place ∈ code.linesOf block ↔
      ∃ instruction, code.recorded place = some (block, instruction) := by
  simp only [linesOf, List.mem_filter, List.mem_range, recorded, beq_iff_eq,
    Option.map_eq_some_iff]
  constructor
  · rintro ⟨-, line, found, rfl⟩
    exact ⟨line.instruction, line, found, rfl⟩
  · rintro ⟨instruction, line, found, same⟩
    cases same
    exact ⟨(Array.getElem?_eq_some_iff.mp found).1, line, found, rfl⟩

theorem linesOf_sorted (code : Module) (block : Block) :
    (code.linesOf block).Pairwise (· < ·) :=
  List.Pairwise.filter _ List.pairwise_lt_range

theorem exists_recorded {code : Module} {place : Nat} (inside : place < code.lines.size) :
    ∃ block instruction, code.recorded place = some (block, instruction) := by
  refine ⟨code.lines[place].block, code.lines[place].instruction, ?_⟩
  rw [recorded, Array.getElem?_eq_getElem inside]
  rfl

/-- Every recorded line is scheduled. -/
theorem mem_schedule {code : Module} {place : Nat} {block : Block} {instruction : Instruction}
    (atPlace : code.recorded place = some (block, instruction)) : place ∈ code.schedule := by
  cases block with
  | entry => exact List.mem_append_left _ (mem_linesOf.mpr ⟨instruction, atPlace⟩)
  | body => exact List.mem_append_right _ (mem_linesOf.mpr ⟨instruction, atPlace⟩)

/-- The position of a line in the order of a run: entry lines come first. -/
def rank (code : Module) (place : Nat) : Nat :=
  if place ∈ code.linesOf .entry then place else code.lines.size + place

theorem rank_entry {code : Module} {place : Nat} {instruction : Instruction}
    (atPlace : code.recorded place = some (.entry, instruction)) : code.rank place = place :=
  if_pos (mem_linesOf.mpr ⟨instruction, atPlace⟩)

theorem rank_body {code : Module} {place : Nat} {instruction : Instruction}
    (atPlace : code.recorded place = some (.body, instruction)) :
    code.rank place = code.lines.size + place := by
  refine if_neg fun inEntry => ?_
  obtain ⟨other, otherAt⟩ := mem_linesOf.mp inEntry
  rw [atPlace] at otherAt
  cases otherAt

theorem schedule_sorted (code : Module) :
    code.schedule.Pairwise fun left right => code.rank left < code.rank right := by
  refine List.pairwise_append.mpr ⟨?_, ?_, fun left leftMember right rightMember => ?_⟩
  · refine (linesOf_sorted code .entry).imp_of_mem
      fun {left right} leftMember rightMember less => ?_
    obtain ⟨_, leftAt⟩ := mem_linesOf.mp leftMember
    obtain ⟨_, rightAt⟩ := mem_linesOf.mp rightMember
    rw [rank_entry leftAt, rank_entry rightAt]
    exact less
  · refine (linesOf_sorted code .body).imp_of_mem fun {left right} leftMember rightMember less => ?_
    obtain ⟨_, leftAt⟩ := mem_linesOf.mp leftMember
    obtain ⟨_, rightAt⟩ := mem_linesOf.mp rightMember
    rw [rank_body leftAt, rank_body rightAt]
    omega
  · obtain ⟨_, leftAt⟩ := mem_linesOf.mp leftMember
    obtain ⟨_, rightAt⟩ := mem_linesOf.mp rightMember
    have below := recorded_lt leftAt
    rw [rank_entry leftAt, rank_body rightAt]
    omega

/-- What a scheduled line of lower rank is: one that has run before. -/
theorem mem_done_of_rank_lt {code : Module} {done todo : List Nat} {place needed : Nat}
    (split : code.schedule = done ++ place :: todo) (scheduled : needed ∈ code.schedule)
    (lower : code.rank needed < code.rank place) : needed ∈ done := by
  have sorted := code.schedule_sorted
  rw [split] at sorted scheduled
  rcases List.mem_append.mp scheduled with before | later
  · exact before
  · exfalso
    rcases List.mem_cons.mp later with here | behind
    · rw [here] at lower
      exact Nat.lt_irrefl _ lower
    · have upper := (List.pairwise_cons.mp (List.pairwise_append.mp sorted).2.1).1 needed behind
      omega

/-- Operands of ordered code have a lower rank than the line that reads them. -/
theorem Ordered.operand_rank {code : Module} (ordered : code.Ordered) {place used : Nat}
    {block : Block} {instruction : Instruction}
    (atPlace : code.recorded place = some (block, instruction)) {operand : Operand}
    (member : operand ∈ instruction.operands) (uses : operand.line? = some used) :
    used ∈ code.schedule ∧ code.rank used < code.rank place := by
  have before := ordered.earlier place block instruction atPlace operand member used uses
  obtain ⟨earlier, found, usedAt, reach⟩ :=
    (ordered.admitted place block instruction atPlace).ready operand member used uses
  refine ⟨mem_schedule usedAt, ?_⟩
  have inside := recorded_lt usedAt
  cases block with
  | entry =>
      cases reach with
      | inl isEntry =>
          subst isEntry
          rw [rank_entry usedAt, rank_entry atPlace]
          exact before
      | inr isBody => contradiction
  | body =>
      rw [rank_body atPlace]
      cases earlier with
      | entry => rw [rank_entry usedAt]; omega
      | body => rw [rank_body usedAt]; omega

/-- The store of a global that ordered code loads has a lower rank than the load. -/
theorem Ordered.load_rank {code : Module} (ordered : code.Ordered) {place global : Nat}
    {block : Block} (atPlace : code.recorded place = some (block, .loadGlobal global)) :
    ∃ stored value, code.recorded stored = some (.entry, .store value global) ∧
      code.rank stored < code.rank place := by
  obtain ⟨isBody, stored, value, storedAt⟩ :=
    (ordered.admitted place block _ atPlace).loads global rfl
  subst isBody
  have inside := recorded_lt storedAt
  refine ⟨stored, value, storedAt, ?_⟩
  rw [rank_entry storedAt, rank_body atPlace]
  omega

/-! ### The whole run -/

/-- Run the lines of a schedule from a frame on. -/
def executeFrom (code : Module) (image : Array UInt8) (frame : Frame) (places : List Nat) :
    Except Error Frame :=
  places.foldlM
    (fun frame line =>
      match code.lines[line]? with
      | some recorded => frame.step code image line recorded.instruction
      | none => .ok frame)
    frame

theorem execute_eq_executeFrom (code : Module) (image : Array UInt8) :
    code.execute image = code.executeFrom image code.initialFrame code.schedule := rfl

/-- The rest of a run: from a frame that agrees with a solution on what has run, it agrees
on everything in the end. -/
theorem executeFrom_agrees {code : Module} {image : Array UInt8} {whole : Frame}
    (solves : whole.Solves code image) (ordered : code.Ordered) (todo : List Nat) :
    ∀ (done : List Nat) (partway : Frame), code.schedule = done ++ todo →
      partway.AgreesOn whole code done →
      ∃ final, code.executeFrom image partway todo = .ok final ∧
        final.AgreesOn whole code code.schedule := by
  induction todo with
  | nil =>
      intro done partway split agrees
      rw [List.append_nil] at split
      exact ⟨partway, rfl, split ▸ agrees⟩
  | cons place todo inductionHypothesis =>
      intro done partway split agrees
      have scheduled : place ∈ code.schedule := by
        rw [split]
        exact List.mem_append_right _ List.mem_cons_self
      obtain ⟨block, instruction, atPlace⟩ : ∃ block instruction,
          code.recorded place = some (block, instruction) := by
        rcases List.mem_append.mp scheduled with inEntry | inBody
        · exact ⟨.entry, mem_linesOf.mp inEntry⟩
        · exact ⟨.body, mem_linesOf.mp inBody⟩
      have new : place ∉ done := by
        have sorted := code.schedule_sorted
        rw [split] at sorted
        intro before
        exact Nat.lt_irrefl _
          ((List.pairwise_append.mp sorted).2.2 place before place List.mem_cons_self)
      obtain ⟨next, stepped, nextAgrees⟩ := Frame.step_agrees solves agrees atPlace new
        (fun operand member used uses =>
          have earlier := ordered.operand_rank atPlace member uses
          mem_done_of_rank_lt split earlier.1 earlier.2)
        (fun global same => by
          subst same
          obtain ⟨stored, value, storedAt, lower⟩ := ordered.load_rank atPlace
          exact ⟨stored, mem_done_of_rank_lt split (mem_schedule storedAt) lower, _, value,
            storedAt⟩)
      obtain ⟨final, ran, finalAgrees⟩ :=
        inductionHypothesis (done ++ [place]) next (by simp [split]) nextAgrees
      refine ⟨final, ?_, finalAgrees⟩
      obtain ⟨line, lineEq, same⟩ := Option.map_eq_some_iff.mp atPlace
      cases same
      refine bind_eq_ok.mpr ⟨next, ?_, ran⟩
      dsimp only
      rw [lineEq]
      exact stepped

/-- Running ordered code ends in a frame that gives operands the values that a solution
gives them. -/
theorem execute_resolves {code : Module} {image : Array UInt8} {whole : Frame}
    (solves : whole.Solves code image) (ordered : code.Ordered) :
    ∃ final, code.execute image = .ok final ∧
      ∀ operand, final.resolve operand = whole.resolve operand := by
  have start : code.initialFrame.AgreesOn whole code [] := by
    refine ⟨by simp [initialFrame, solves.results_size],
      by simp [initialFrame, solves.globals_size], by simp, by simp, fun place below _ => ?_⟩
    simp only [initialFrame, Array.size_replicate] at below
    simp [initialFrame, below]
  obtain ⟨final, ran, agrees⟩ := executeFrom_agrees solves ordered code.schedule []
    code.initialFrame rfl start
  rw [execute_eq_executeFrom]
  refine ⟨final, ran, fun operand => Frame.resolve_congr fun used _ => ?_⟩
  by_cases inside : used < code.lines.size
  · obtain ⟨block, instruction, atPlace⟩ := exists_recorded inside
    exact agrees.results used (mem_schedule atPlace)
  · rw [Array.getElem?_eq_none (by rw [agrees.results_size, solves.results_size]; omega),
      Array.getElem?_eq_none (by rw [solves.results_size]; omega)]

/-- The values of outputs are those of a solution. -/
theorem evaluate_eq_ok {code : Module} {image : Array UInt8} {whole : Frame}
    (solves : whole.Solves code image) (ordered : code.Ordered) {outputs : List Operand}
    {values : List RuntimeValue} (resolved : outputs.mapM whole.resolve = .ok values) :
    code.evaluate image outputs = .ok values := by
  obtain ⟨final, ran, same⟩ := execute_resolves solves ordered
  have agree : final.resolve = whole.resolve := funext same
  refine bind_eq_ok.mpr ⟨final, ran, ?_⟩
  rw [agree]
  exact resolved

/-- One run serves several lists of outputs. -/
theorem evaluateAll_eq_ok {code : Module} {image : Array UInt8} {whole : Frame}
    (solves : whole.Solves code image) (ordered : code.Ordered) {outputs : List (List Operand)}
    {values : List (List RuntimeValue)}
    (resolved : outputs.mapM (fun operands => operands.mapM whole.resolve) = .ok values) :
    code.evaluateAll image outputs = .ok values := by
  cases outputs with
  | nil =>
      cases resolved
      rfl
  | cons first rest =>
      obtain ⟨final, ran, same⟩ := execute_resolves solves ordered
      have agree : final.resolve = whole.resolve := funext same
      refine bind_eq_ok.mpr ⟨final, ran, ?_⟩
      rw [agree]
      exact resolved

end Module

end QueryKernel.Ir
