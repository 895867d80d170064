import Mathlib.Data.List.Nodup
import Mathlib.Data.List.Perm.Subperm
import QueryKernel.Proofs.Ir.Edits
import QueryKernel.Proofs.Ir.Execution

/-!
Contract: the tables of code refer to each other, and every reference is met.

Lines, the lists of the two blocks, globals with their names and the string pool are known to each
other by position only, and callers hold the positions.

Owns:
- what one call appends to each table;
- well-formed code, which every call keeps that is given operands and globals of the code itself;
- that a run finds every position that it looks up;
- what a call for a global answers, whether its name is free or taken.

Does not own: the types of operands, and tables that are stored.
-/

namespace QueryKernel.Ir

def Instruction.global? : Instruction → Option Nat
  | .store _ global | .loadGlobal global => some global
  | _ => none

/-- The block and the instruction that a call appends. -/
def Edit.line? : Edit → Option (Block × Instruction)
  | .offset block base amount => some (block, .offset base amount)
  | .load block address type => some (block, .load address type)
  | .and block left right => some (block, .and left right)
  | .shiftRight block left right => some (block, .shiftRight left right)
  | .greater block left right => some (block, .greater left right)
  | .store block value global => some (block, .store value global)
  | .loadGlobal block global => some (block, .loadGlobal global)
  | .addString _ | .addGlobal _ _ | .setName _ _ => none

/-- A call that appends an instruction is given the operands and the global of the instruction. -/
theorem Edit.line?_eq_some {edit : Edit} {block : Block} {instruction : Instruction}
    (appends : edit.line? = some (block, instruction)) :
    edit.operands = instruction.operands ∧ edit.global? = instruction.global? := by
  cases edit <;> first | contradiction | (cases appends; exact ⟨rfl, rfl⟩)

namespace Module

/-! ### What one call appends -/

/-- The global that a call appends, if its name is not taken. -/
def newGlobal? (code : Module) : Edit → Option Global
  | .addGlobal name type => if (code.global? name).isNone then some ⟨name, type⟩ else none
  | _ => none

/-- The string that a call appends to the pool, if it is not there. -/
def newString? (code : Module) : Edit → Option String
  | .addString value => if value ∈ code.pool then none else some value
  | _ => none

theorem recorded_size (code : Module) : code.recorded code.lines.size = none := by
  rw [recorded, Array.getElem?_size, Option.map_none]

theorem global?_eq_none_iff {code : Module} {name : String} :
    code.global? name = none ↔ name ∉ code.globals.toList.map Global.name := by
  rw [global?, Array.findIdx?_eq_none_iff, List.mem_map]
  constructor
  · rintro differs ⟨found, member, rfl⟩
    exact absurd (differs found (Array.mem_toList_iff.mp member)) (by simp)
  · intro absent found member
    exact beq_false_of_ne fun same => absent ⟨found, Array.mem_toList_iff.mpr member, same⟩

theorem newGlobal?_absent {code : Module} {edit : Edit} {added : Global}
    (appended : code.newGlobal? edit = some added) :
    added.name ∉ code.globals.toList.map Global.name := by
  unfold newGlobal? at appended
  split at appended
  · split_ifs at appended with fresh
    cases appended
    exact global?_eq_none_iff.mp (Option.isNone_iff_eq_none.mp fresh)
  · contradiction

theorem newString?_absent {code : Module} {edit : Edit} {added : String}
    (appended : code.newString? edit = some added) : added ∉ code.pool.toList := by
  unfold newString? at appended
  split at appended
  · split_ifs at appended with absent
    cases appended
    exact fun member => absent (Array.mem_toList_iff.mp member)
  · contradiction

section Appending

variable (code : Module) (edit : Edit)

/-- A call that appends an instruction records it behind the others. No other line changes. -/
theorem edit_recorded (place : Nat) : (code.edit edit).recorded place =
    if place = code.lines.size then edit.line? else code.recorded place := by
  cases edit with
  | addString value =>
      show (code.addString value).2.recorded place = _
      rw [addString_recorded]
      split_ifs with last
      · rw [last, recorded_size]
        rfl
      · rfl
  | addGlobal name type =>
      have same : (code.edit (.addGlobal name type)).recorded place = code.recorded place := by
        rcases code.edit_addGlobal name type with same | added
        · rw [same]
        · rw [added]
          rfl
      rw [same]
      split_ifs with last
      · rw [last, recorded_size]
        rfl
      · rfl
  | setName value name =>
      show (code.setName value name).recorded place = _
      rw [setName_recorded]
      split_ifs with last
      · rw [last, recorded_size]
        rfl
      · rfl
  | store block value global => exact store_recorded code block value global place
  | offset | load | and | shiftRight | greater | loadGlobal => exact push_recorded ..

theorem edit_size : (code.edit edit).lines.size = code.lines.size + edit.line?.toList.length := by
  cases edit with
  | addString value => exact addString_size code value
  | addGlobal name type =>
      rcases code.edit_addGlobal name type with same | added
      · rw [same]
        rfl
      · rw [added]
        rfl
  | setName value name => exact setName_size code value name
  | store block value global => exact store_size code block value global
  | offset | load | and | shiftRight | greater | loadGlobal => exact push_size ..

theorem edit_globals :
    (code.edit edit).globals.toList = code.globals.toList ++ (code.newGlobal? edit).toList := by
  cases edit with
  | addString value =>
      show (code.addString value).2.globals.toList = _
      rw [addString_globals]
      exact (List.append_nil _).symm
  | addGlobal name type =>
      simp only [Module.edit, addGlobal, newGlobal?]
      cases code.global? name with
      | some taken => exact (List.append_nil _).symm
      | none => exact Array.toList_push
  | setName value name =>
      show (code.setName value name).globals.toList = _
      rw [setName_globals]
      exact (List.append_nil _).symm
  | store | offset | load | and | shiftRight | greater | loadGlobal =>
      exact (List.append_nil _).symm

/-- A call answers for the name of the global that it appends, and for other names as before. -/
theorem edit_global? (name : String) : (code.edit edit).global? name =
    if (code.newGlobal? edit).map Global.name = some name then some code.globals.size
    else code.global? name := by
  have byList : ∀ code : Module, code.global? name =
      code.globals.toList.findIdx? (·.name == name) := fun code =>
    List.findIdx?_toArray _ code.globals.toList
  rw [byList, edit_globals, List.findIdx?_append, ← byList]
  cases appended : code.newGlobal? edit with
  | none => simp
  | some added =>
      rw [Option.toList_some, List.findIdx?_singleton, Option.map_some]
      by_cases own : added.name = name
      · have free : code.global? name = none :=
          global?_eq_none_iff.mpr (own ▸ newGlobal?_absent appended)
        rw [free, if_pos (beq_iff_eq.mpr own), if_pos (congrArg some own)]
        simp
      · rw [if_neg (by simpa using own), if_neg (by simpa using own), Option.map_none,
          Option.or_none]

theorem edit_pool :
    (code.edit edit).pool.toList = code.pool.toList ++ (code.newString? edit).toList := by
  cases edit with
  | addString value =>
      obtain ⟨index, -, -, appended⟩ := code.addString_eq value
      show (code.addString value).2.pool.toList = _
      rw [appended, newString?]
      split_ifs
      · exact (List.append_nil _).symm
      · exact Array.toList_push
  | addGlobal name type =>
      rcases code.edit_addGlobal name type with same | added
      · rw [same]
        exact (List.append_nil _).symm
      · rw [added]
        exact (List.append_nil _).symm
  | setName value name =>
      show (code.setName value name).pool.toList = _
      rw [setName_pool]
      exact (List.append_nil _).symm
  | store | offset | load | and | shiftRight | greater | loadGlobal =>
      exact (List.append_nil _).symm

/-- A call appends the number of its line to the list of its block. -/
theorem edit_linesOf (block : Block) : (code.edit edit).linesOf block =
    code.linesOf block ++
      if edit.line?.map Prod.fst = some block then [code.lines.size] else [] := by
  have blockAt : ∀ (code : Module) place,
      code.lines[place]?.map Line.block = (code.recorded place).map Prod.fst := by
    intro code place
    rw [recorded, Option.map_map]
    rfl
  have old : (List.range code.lines.size).filter (fun place =>
      ((code.edit edit).lines[place]?.map Line.block) == some block) = code.linesOf block := by
    refine List.filter_congr fun place member => ?_
    rw [blockAt, blockAt, edit_recorded, if_neg (Nat.ne_of_lt (List.mem_range.mp member))]
  rw [linesOf, edit_size]
  cases appended : edit.line? with
  | none => simpa using old
  | some line =>
      have last : (code.edit edit).lines[code.lines.size]?.map Line.block = some line.1 := by
        rw [blockAt, edit_recorded, if_pos rfl, appended]
        rfl
      rw [Option.toList_some, List.length_singleton, List.range_succ, List.filter_append, old]
      simp only [List.filter_cons, last, List.filter_nil, Option.map_some, beq_iff_eq]

end Appending

/-! ### Well-formed code -/

/-- Every reference is met: operands are computed by earlier lines, and globals exist. No name and
no pool string is there twice. -/
structure WellFormed (code : Module) : Prop where
  earlier : ∀ place block instruction, code.recorded place = some (block, instruction) →
    ∀ operand ∈ instruction.operands, ∀ used, operand.line? = some used → used < place
  existing : ∀ place block instruction, code.recorded place = some (block, instruction) →
    ∀ global, instruction.global? = some global → global < code.globals.size
  names : (code.globals.toList.map Global.name).Nodup
  strings : code.pool.toList.Nodup

/-- If the operand is the result of a line, the code has that line. -/
def Refers (code : Module) (operand : Operand) : Prop :=
  ∀ used, operand.line? = some used → used < code.lines.size

/-- The operands and the global that a call is given are of the code. Immediates may be any. -/
structure Internal (code : Module) (edit : Edit) : Prop where
  operands : ∀ operand ∈ edit.operands, code.Refers operand
  globals : ∀ global, edit.global? = some global → global < code.globals.size

instance (code : Module) (operand : Operand) : Decidable (code.Refers operand) :=
  inferInstanceAs (Decidable (∀ used ∈ operand.line?, used < code.lines.size))

instance (code : Module) (edit : Edit) : Decidable (code.Internal edit) :=
  decidable_of_iff ((∀ operand ∈ edit.operands, code.Refers operand) ∧
      ∀ global ∈ edit.global?, global < code.globals.size)
    ⟨fun both => ⟨both.1, both.2⟩, fun internal => ⟨internal.operands, internal.globals⟩⟩

instance decidableEach {property : Module → Edit → Prop}
    [∀ code edit, Decidable (property code edit)] :
    ∀ code edits, Decidable (Each property code edits)
  | _, [] => inferInstanceAs (Decidable True)
  | code, edit :: rest =>
      have : Decidable (Each property (code.edit edit) rest) := decidableEach (code.edit edit) rest
      inferInstanceAs (Decidable (property code edit ∧ Each property (code.edit edit) rest))

theorem WellFormed.empty (name : String) : WellFormed { name } where
  earlier place block instruction found := by simp [recorded] at found
  existing place block instruction found := by simp [recorded] at found
  names := List.nodup_nil
  strings := List.nodup_nil

/-- One call keeps code well-formed. -/
theorem WellFormed.edit {code : Module} (wellFormed : code.WellFormed) {edit : Edit}
    (internal : code.Internal edit) : (code.edit edit).WellFormed where
  earlier place block instruction atPlace operand member used uses := by
    rw [edit_recorded] at atPlace
    split_ifs at atPlace with last
    · rw [← (Edit.line?_eq_some atPlace).1] at member
      exact last ▸ internal.operands operand member used uses
    · exact wellFormed.earlier place block instruction atPlace operand member used uses
  existing place block instruction atPlace global named := by
    have grows : code.globals.size ≤ (code.edit edit).globals.size :=
      (code.edit_retains edit).grows.globals_size
    rw [edit_recorded] at atPlace
    split_ifs at atPlace
    · rw [← (Edit.line?_eq_some atPlace).2] at named
      exact Nat.lt_of_lt_of_le (internal.globals global named) grows
    · exact Nat.lt_of_lt_of_le
        (wellFormed.existing place block instruction atPlace global named) grows
  names := by
    rw [edit_globals, List.map_append]
    cases appended : code.newGlobal? edit with
    | none => simpa using wellFormed.names
    | some added =>
        exact List.concat_eq_append ▸ wellFormed.names.concat (newGlobal?_absent appended)
  strings := by
    rw [edit_pool]
    cases appended : code.newString? edit with
    | none => simpa using wellFormed.strings
    | some added =>
        exact List.concat_eq_append ▸ wellFormed.strings.concat (newString?_absent appended)

/-- Calls keep code well-formed. -/
theorem WellFormed.edited {code : Module} (wellFormed : code.WellFormed) {edits : List Edit}
    (internal : Each Internal code edits) : (code.edited edits).WellFormed := by
  induction edits generalizing code with
  | nil => exact wellFormed
  | cons edit rest inductionHypothesis =>
      exact inductionHypothesis (wellFormed.edit internal.1) internal.2

/-- Every line is in the list of one block, once. -/
theorem schedule_perm (code : Module) : code.schedule.Perm (List.range code.lines.size) := by
  have distinct : code.schedule.Nodup := by
    refine code.schedule_sorted.imp fun less => ?_
    rintro rfl
    exact Nat.lt_irrefl _ less
  refine (List.perm_ext_iff_of_nodup distinct List.nodup_range).mpr fun place => ?_
  rw [List.mem_range]
  constructor
  · intro scheduled
    rcases List.mem_append.mp scheduled with inEntry | inBody
    · obtain ⟨instruction, atPlace⟩ := mem_linesOf.mp inEntry
      exact recorded_lt atPlace
    · obtain ⟨instruction, atPlace⟩ := mem_linesOf.mp inBody
      exact recorded_lt atPlace
  · intro inside
    obtain ⟨block, instruction, atPlace⟩ := exists_recorded inside
    exact mem_schedule atPlace

/-- In well-formed code a name finds the global that has it. -/
theorem WellFormed.global?_eq_some_iff {code : Module} (wellFormed : code.WellFormed)
    {name : String} {global : Nat} :
    code.global? name = some global ↔
      ∃ found, code.globals[global]? = some found ∧ found.name = name := by
  constructor
  · intro known
    obtain ⟨inside, here, -⟩ := Array.findIdx?_eq_some_iff_getElem.mp known
    exact ⟨code.globals[global], Array.getElem?_eq_getElem inside, eq_of_beq here⟩
  · rintro ⟨found, atPlace, rfl⟩
    obtain ⟨inside, same⟩ := Array.getElem?_eq_some_iff.mp atPlace
    refine Array.findIdx?_eq_some_iff_getElem.mpr ⟨inside, beq_iff_eq.mpr (by rw [same]), ?_⟩
    -- An earlier global of the name would be there twice.
    intro other before taken
    have names := List.pairwise_iff_getElem.mp wellFormed.names other global
      (by simp; omega) (by simpa using inside) before
    simp only [List.getElem_map, Array.getElem_toList] at names
    exact names (by rw [eq_of_beq taken, same])

/-! ### Runs -/

/-- Everything that a line looks up is inside the tables of the code and of the frame. -/
structure Covers (code : Module) (frame : Frame) (place : Nat) : Prop where
  line : place < code.lines.size
  result : place < frame.results.size
  operands : ∀ block instruction, code.recorded place = some (block, instruction) →
    ∀ operand ∈ instruction.operands, ∀ used, operand.line? = some used →
      used < frame.results.size
  globals : ∀ block instruction, code.recorded place = some (block, instruction) →
    ∀ global, instruction.global? = some global →
      global < frame.globals.size ∧ global < code.globals.size

/-- The frame has a place for every line and every global of the code. -/
structure Fits (code : Module) (frame : Frame) : Prop where
  results : frame.results.size = code.lines.size
  globals : frame.globals.size = code.globals.size

theorem fits_initialFrame (code : Module) : code.Fits code.initialFrame :=
  ⟨Array.size_replicate, Array.size_replicate⟩

theorem Fits.step {code : Module} {frame next : Frame} {image : Array UInt8} {place : Nat}
    {instruction : Instruction} (fits : code.Fits frame)
    (stepped : frame.step code image place instruction = .ok next) : code.Fits next := by
  cases instruction with
  | store value global =>
      rcases bind_eq_ok.mp stepped with ⟨stored, -, same⟩
      cases same
      exact ⟨fits.results, Array.size_setIfInBounds.trans fits.globals⟩
  | offset | load | and | shiftRight | greater | loadGlobal =>
      rcases bind_eq_ok.mp stepped with ⟨value, -, same⟩
      cases same
      exact ⟨Array.size_setIfInBounds.trans fits.results, fits.globals⟩

theorem Fits.executeFrom {code : Module} {image : Array UInt8} (places : List Nat)
    {frame final : Frame} (fits : code.Fits frame)
    (ran : code.executeFrom image frame places = .ok final) : code.Fits final := by
  induction places generalizing frame with
  | nil =>
      cases ran
      exact fits
  | cons place rest inductionHypothesis =>
      rcases bind_eq_ok.mp ran with ⟨next, stepped, remaining⟩
      refine inductionHypothesis ?_ remaining
      dsimp only at stepped
      split at stepped
      · exact fits.step stepped
      · cases stepped
        exact fits

/-- A line of well-formed code finds what it looks up in every frame that fits. -/
theorem WellFormed.covers {code : Module} (wellFormed : code.WellFormed) {frame : Frame}
    (fits : code.Fits frame) {place : Nat} (inside : place < code.lines.size) :
    code.Covers frame place where
  line := inside
  result := fits.results ▸ inside
  operands block instruction atPlace operand member used uses := by
    have before := wellFormed.earlier place block instruction atPlace operand member used uses
    rw [fits.results]
    exact Nat.lt_trans before inside
  globals block instruction atPlace global named := by
    have exists' := wellFormed.existing place block instruction atPlace global named
    exact ⟨fits.globals ▸ exists', exists'⟩

/-! ### Calls -/

/-- A global of a taken name is refused, and nothing changes. -/
theorem addGlobal_of_taken {code : Module} {name : String} (taken : code.global? name ≠ none)
    (type : Ty) : code.addGlobal name type = .error (.breach (.globalDefinedTwice name)) ∧
      code.edit (.addGlobal name type) = code := by
  obtain ⟨place, known⟩ := Option.ne_none_iff_exists'.mp taken
  have refused : code.addGlobal name type = .error (.breach (.globalDefinedTwice name)) := by
    rw [addGlobal, known]
  refine ⟨refused, ?_⟩
  rw [edit, refused]

/-- A global of another name takes the next place. -/
theorem addGlobal_of_free {code : Module} {name : String} (free : code.global? name = none)
    (type : Ty) : code.addGlobal name type =
      .ok (code.globals.size, { code with globals := code.globals.push ⟨name, type⟩ }) := by
  rw [addGlobal, free]

end Module

end QueryKernel.Ir
