import QueryKernel.Proofs.Ir.Tables

/-!
Contract: code whose block lists and name index are stored.

Code derives the lines of a block from the lines, and the place of a name from the globals. A
recorder can as well keep both in tables, and append to them with every call.

Owns:
- the stored tables, and what each call does to them and answers;
- that the tables mirror the code: every call answers the same, and the tables list what the code
  derives;
- the main statement on the tables, for any sequence of calls.

Does not own: what instructions compute.
-/

namespace QueryKernel.Ir

/-- A recorded instruction that does not know its block. -/
structure Row where
  instruction : Instruction
  result : Option Ty
  name : Option String := none
deriving DecidableEq, Repr

def Line.row (line : Line) : Row := ⟨line.instruction, line.result, line.name⟩

/-- What a call answers. -/
inductive Answer where
  | operand (value : Operand)
  | global (place : Nat)
  | refused (error : Error)
  | nothing
deriving DecidableEq, Repr

/-- The answer of a call, and the code after it. -/
def Module.call (code : Module) : Edit → Answer × Module
  | .addString value => (code.addString value).map .operand id
  | .addGlobal name type =>
      match code.addGlobal name type with
      | .ok (place, changed) => (.global place, changed)
      | .error error => (.refused error, code)
  | .offset block base amount => (code.offset block base amount).map .operand id
  | .load block address type => (code.load block address type).map .operand id
  | .and block left right => (code.and block left right).map .operand id
  | .shiftRight block left right => (code.shiftRight block left right).map .operand id
  | .greater block left right => (code.greater block left right).map .operand id
  | .store block value global => (.nothing, code.store block value global)
  | .loadGlobal block global => (code.loadGlobal block global).map .operand id
  | .setName value name => (.nothing, code.setName value name)

/-- Code in tables. Each block lists the places of its rows, and the index lists the places of the
globals by name. -/
structure Tables where
  name : String
  globals : Array Global := #[]
  index : List (String × Nat) := []
  pool : Array String := #[]
  rows : Array Row := #[]
  entry : Array Nat := #[]
  body : Array Nat := #[]
deriving DecidableEq, Repr

namespace Tables

def placesOf (tables : Tables) : Block → List Nat
  | .entry => tables.entry.toList
  | .body => tables.body.toList

def schedule (tables : Tables) : List Nat := tables.placesOf .entry ++ tables.placesOf .body

/-- The place that the index has for a name. -/
def global? (tables : Tables) (name : String) : Option Nat := tables.index.lookup name

/-- A pointer to a string of the pool, which is searched before it is extended. -/
def addString (tables : Tables) (value : String) : Operand × Tables :=
  match tables.pool.findIdx? (· == value) with
  | some index => (.poolString index, tables)
  | none => (.poolString tables.pool.size, { tables with pool := tables.pool.push value })

/-- Define a global, and list it in the index. -/
def addGlobal (tables : Tables) (name : String) (type : Ty) : Answer × Tables :=
  match tables.index.lookup name with
  | some _ => (.refused (.breach (.globalDefinedTwice name)), tables)
  | none =>
      let place := tables.globals.size
      (.global place, { tables with
        globals := tables.globals.push ⟨name, type⟩
        index := (name, place) :: tables.index })

/-- Append a row, and its place to the list of the block. A row without a result is referred to as
the empty integer. -/
def push (tables : Tables) (block : Block) (instruction : Instruction) (result : Option Ty) :
    Operand × Tables :=
  let place := tables.rows.size
  let rows := tables.rows.push { instruction, result }
  (.result place (result.getD (.int 0)),
    match block with
    | .entry => { tables with rows, entry := tables.entry.push place }
    | .body => { tables with rows, body := tables.body.push place })

def setName (tables : Tables) (value : Operand) (name : String) : Tables :=
  match value.line? with
  | some place => { tables with rows := tables.rows.modify place fun row => { row with name } }
  | none => tables

def globalType (tables : Tables) (global : Nat) : Ty :=
  (tables.globals[global]?.map Global.type).getD (.int 0)

/-- The answer of a call, and the tables after it. -/
def call (tables : Tables) : Edit → Answer × Tables
  | .addString value => (tables.addString value).map .operand id
  | .addGlobal name type => tables.addGlobal name type
  | .offset block base amount =>
      (tables.push block (.offset base amount) (some .pointer)).map .operand id
  | .load block address type =>
      (tables.push block (.load address type) (some type)).map .operand id
  | .and block left right =>
      (tables.push block (.and left right) (some left.type)).map .operand id
  | .shiftRight block left right =>
      (tables.push block (.shiftRight left right) (some left.type)).map .operand id
  | .greater block left right =>
      (tables.push block (.greater left right) (some (.int 1))).map .operand id
  | .store block value global => (.nothing, (tables.push block (.store value global) none).2)
  | .loadGlobal block global =>
      (tables.push block (.loadGlobal global) (some (tables.globalType global))).map .operand id
  | .setName value name => (.nothing, tables.setName value name)

def called (tables : Tables) (edits : List Edit) : Tables :=
  edits.foldl (fun tables edit => (tables.call edit).2) tables

/-- The tables list what the code derives. -/
structure Mirrors (tables : Tables) (code : Module) : Prop where
  name : tables.name = code.name
  globals : tables.globals = code.globals
  index : ∀ name, tables.global? name = code.global? name
  pool : tables.pool = code.pool
  rows : tables.rows = code.lines.map Line.row
  blocks : ∀ block, tables.placesOf block = code.linesOf block

end Tables

/-- A call leaves the code as the edit does. -/
theorem Module.call_snd (code : Module) (edit : Edit) : (code.call edit).2 = code.edit edit := by
  cases edit with
  | addGlobal name type =>
      simp only [call, Module.edit]
      cases code.addGlobal name type <;> rfl
  | _ => rfl

namespace Tables

theorem push_placesOf (tables : Tables) (block other : Block) (instruction : Instruction)
    (result : Option Ty) : (tables.push block instruction result).2.placesOf other =
      tables.placesOf other ++ if block = other then [tables.rows.size] else [] := by
  cases block <;> cases other <;> simp [push, placesOf]

/-- A global of a free name takes the next place. -/
theorem addGlobal_of_free {tables : Tables} {name : String} (free : tables.global? name = none)
    (type : Ty) : tables.addGlobal name type = (.global tables.globals.size, { tables with
      globals := tables.globals.push ⟨name, type⟩
      index := (name, tables.globals.size) :: tables.index }) := by
  unfold global? at free
  rw [addGlobal, free]

/-- A global of a taken name is refused, and nothing changes. -/
theorem addGlobal_of_taken {tables : Tables} {name : String} (taken : tables.global? name ≠ none)
    (type : Ty) :
    tables.addGlobal name type = (.refused (.breach (.globalDefinedTwice name)), tables) := by
  obtain ⟨place, listed⟩ := Option.ne_none_iff_exists'.mp taken
  unfold global? at listed
  rw [addGlobal, listed]

namespace Mirrors

theorem empty (name : String) : Mirrors { name } { name } where
  name := rfl
  globals := rfl
  index name := by simp [global?, Module.global?]
  pool := rfl
  rows := Array.map_empty.symm
  blocks block := by cases block <;> rfl

section Calls

variable {tables : Tables} {code : Module} (mirrors : tables.Mirrors code)

include mirrors

theorem size : tables.rows.size = code.lines.size := by
  rw [mirrors.rows, Array.size_map]

theorem schedule : tables.schedule = code.schedule := by
  rw [Tables.schedule, mirrors.blocks, mirrors.blocks, Module.schedule]

/-- A call that appends an instruction appends the same row. -/
theorem appended {edit : Edit} {block : Block} {instruction : Instruction} {result : Option Ty}
    (appends : edit.line? = some (block, instruction))
    (same : code.edit edit = { code with
      lines := code.lines.push { block, instruction, result } }) :
    (tables.push block instruction result).2.Mirrors (code.edit edit) where
  name := by
    rw [same]
    cases block <;> exact mirrors.name
  globals := by
    rw [same]
    cases block <;> exact mirrors.globals
  index name := by
    rw [same]
    cases block <;> exact mirrors.index name
  pool := by
    rw [same]
    cases block <;> exact mirrors.pool
  rows := by
    rw [same, Array.map_push, ← mirrors.rows]
    cases block <;> rfl
  blocks other := by
    rw [push_placesOf, code.edit_linesOf, mirrors.blocks, mirrors.size, appends]
    simp

theorem addString (value : String) : (tables.addString value).1 = (code.addString value).1 ∧
    (tables.addString value).2.Mirrors (code.addString value).2 := by
  unfold Tables.addString Module.addString
  rw [mirrors.pool]
  cases code.pool.findIdx? (· == value) with
  | some index => exact ⟨rfl, mirrors⟩
  | none => exact ⟨rfl, { mirrors with pool := rfl }⟩

theorem addGlobal (name : String) (type : Ty) :
    (tables.addGlobal name type).1 = (code.call (.addGlobal name type)).1 ∧
      (tables.addGlobal name type).2.Mirrors (code.edit (.addGlobal name type)) := by
  by_cases taken : tables.global? name = none
  · have free : code.global? name = none := (mirrors.index name).symm.trans taken
    have added := Module.addGlobal_of_free free type
    have after := code.edit_global? (.addGlobal name type)
    rw [addGlobal_of_free taken, Module.call, added]
    refine ⟨congrArg Answer.global (congrArg Array.size mirrors.globals), ?_⟩
    simp only [Module.edit, added] at after ⊢
    refine { mirrors with globals := ?_, index := fun other => ?_ }
    · rw [mirrors.globals]
    · rw [after, Module.newGlobal?, free, Tables.global?, List.lookup_cons, mirrors.globals]
      by_cases own : other = name
      · subst own
        simp
      · have unlisted : tables.index.lookup other = code.global? other := mirrors.index other
        simp [beq_eq_false_iff_ne.mpr own, Ne.symm own, unlisted]
  · have known : code.global? name ≠ none := mirrors.index name ▸ taken
    obtain ⟨refused, unchanged⟩ := Module.addGlobal_of_taken known type
    rw [addGlobal_of_taken taken, unchanged, Module.call, refused]
    exact ⟨rfl, mirrors⟩

theorem setName (value : Operand) (name : String) :
    (tables.setName value name).Mirrors (code.setName value name) := by
  have lists : ∀ block, (code.setName value name).linesOf block = code.linesOf block := fun block =>
    (code.edit_linesOf (.setName value name) block).trans (List.append_nil _)
  unfold Module.setName at lists
  unfold Tables.setName Module.setName
  cases found : value.line? with
  | none => exact mirrors
  | some place =>
      rw [found] at lists
      refine { mirrors with rows := ?_, blocks := fun block => ?_ }
      · refine Array.ext_getElem? fun other => ?_
        rw [Array.getElem?_modify, Array.getElem?_map, Array.getElem?_modify, mirrors.rows,
          Array.getElem?_map]
        split
        · rw [Option.map_map, Option.map_map]
          rfl
        · rfl
      · exact (mirrors.blocks block).trans (lists block).symm

/-- A call that appends an instruction with a result answers with the result. -/
theorem pushed {edit : Edit} {block : Block} {instruction : Instruction} {type : Ty}
    (appends : edit.line? = some (block, instruction))
    (same : code.edit edit = { code with
      lines := code.lines.push { block, instruction, result := some type } })
    (answer : (code.call edit).1 = .operand (.result code.lines.size type)) :
    ((tables.push block instruction (some type)).map Answer.operand id).1 = (code.call edit).1 ∧
      ((tables.push block instruction (some type)).map Answer.operand id).2.Mirrors
        (code.edit edit) := by
  refine ⟨?_, mirrors.appended appends same⟩
  rw [answer, ← mirrors.size]
  rfl

/-- A call answers the same for the tables and the code, and keeps them alike. -/
theorem call (edit : Edit) : (tables.call edit).1 = (code.call edit).1 ∧
    (tables.call edit).2.Mirrors (code.call edit).2 := by
  rw [code.call_snd]
  cases edit with
  | addString value =>
      obtain ⟨answer, after⟩ := mirrors.addString value
      exact ⟨congrArg Answer.operand answer, after⟩
  | addGlobal name type => exact mirrors.addGlobal name type
  | setName value name => exact ⟨rfl, mirrors.setName value name⟩
  | store block value global =>
      refine ⟨rfl, ?_⟩
      exact @appended _ _ mirrors (.store block value global) _ _ _ rfl rfl
  | loadGlobal block global =>
      have type : tables.globalType global = code.globalType global := by
        rw [Tables.globalType, mirrors.globals, Module.globalType]
      rw [Tables.call, type]
      exact mirrors.pushed rfl rfl rfl
  | offset | load | and | shiftRight | greater => exact mirrors.pushed rfl rfl rfl

/-- A call appends a place to the list of its own block only. -/
theorem call_placesOf (edit : Edit) (block : Block) :
    (tables.call edit).2.placesOf block = tables.placesOf block ++
      if edit.line?.map Prod.fst = some block then [tables.rows.size] else [] := by
  rw [(mirrors.call edit).2.blocks, code.call_snd, mirrors.blocks, mirrors.size]
  exact code.edit_linesOf edit block

/-- A call lists a name that it adds, and leaves the others alone. -/
theorem call_global? (edit : Edit) (name : String) : (tables.call edit).2.global? name =
    if (code.newGlobal? edit).map Global.name = some name then some tables.globals.size
    else tables.global? name := by
  rw [(mirrors.call edit).2.index, code.call_snd, mirrors.index, mirrors.globals]
  exact code.edit_global? edit name

/-- A string is in the pool at the place that is answered, and enters it only if it was absent. -/
theorem call_addString (value : String) :
    ∃ index, (tables.call (.addString value)).1 = .operand (.poolString index) ∧
      (tables.call (.addString value)).2.pool[index]? = some value ∧
      (tables.call (.addString value)).2.pool =
        if value ∈ tables.pool then tables.pool else tables.pool.push value := by
  obtain ⟨answer, after⟩ := mirrors.addString value
  obtain ⟨index, pointer, found, pool⟩ := code.addString_eq value
  have changed : (tables.call (.addString value)).2.pool = (code.addString value).2.pool :=
    after.pool
  refine ⟨index, congrArg Answer.operand (answer.trans pointer), ?_, ?_⟩
  · rw [changed, found]
  · rw [changed, pool, mirrors.pool]
    split <;> rfl

end Calls

theorem called {tables : Tables} {code : Module} (mirrors : tables.Mirrors code)
    (edits : List Edit) : (tables.called edits).Mirrors (code.edited edits) := by
  induction edits generalizing tables code with
  | nil => exact mirrors
  | cons edit rest inductionHypothesis =>
      have next := (mirrors.call edit).2
      rw [code.call_snd] at next
      exact inductionHypothesis next

end Mirrors

/-! ### Well-formed tables -/

/-- The lists of the blocks are in order and have every row once. Operands are computed by earlier
rows, globals exist, and the index finds each by its name. No name and no pool string is there
twice. -/
structure WellFormed (tables : Tables) : Prop where
  sorted : ∀ block, (tables.placesOf block).Pairwise (· < ·)
  once : tables.schedule.Perm (List.range tables.rows.size)
  earlier : ∀ (place : Nat) row, tables.rows[place]? = some row →
    ∀ operand ∈ row.instruction.operands, ∀ used, operand.line? = some used → used < place
  existing : ∀ (place : Nat) row, tables.rows[place]? = some row →
    ∀ global, row.instruction.global? = some global → global < tables.globals.size
  index : ∀ name global, tables.global? name = some global ↔
    ∃ found, tables.globals[global]? = some found ∧ found.name = name
  names : (tables.globals.toList.map Global.name).Nodup
  strings : tables.pool.toList.Nodup

theorem Mirrors.wellFormed {tables : Tables} {code : Module} (mirrors : tables.Mirrors code)
    (wellFormed : code.WellFormed) : tables.WellFormed := by
  have recorded : ∀ (place : Nat) row, tables.rows[place]? = some row →
      ∃ block, code.recorded place = some (block, row.instruction) := by
    intro place row found
    rw [mirrors.rows, Array.getElem?_map] at found
    obtain ⟨line, atPlace, rfl⟩ := Option.map_eq_some_iff.mp found
    exact ⟨line.block, by rw [Module.recorded, atPlace]; rfl⟩
  refine ⟨fun block => ?_, ?_, fun place row found => ?_, fun place row found => ?_,
    fun name global => ?_, ?_, ?_⟩
  · rw [mirrors.blocks]
    exact code.linesOf_sorted block
  · rw [mirrors.schedule, mirrors.size]
    exact code.schedule_perm
  · obtain ⟨block, atPlace⟩ := recorded place row found
    exact wellFormed.earlier place block _ atPlace
  · obtain ⟨block, atPlace⟩ := recorded place row found
    rw [mirrors.globals]
    exact wellFormed.existing place block _ atPlace
  · rw [mirrors.index, mirrors.globals]
    exact wellFormed.global?_eq_some_iff
  · rw [mirrors.globals]
    exact wellFormed.names
  · rw [mirrors.pool]
    exact wellFormed.strings

/-- A run over the lists has, at every place, what the row there looks up. -/
theorem Mirrors.covers {tables : Tables} {code : Module} (mirrors : tables.Mirrors code)
    (wellFormed : code.WellFormed) {image : Array UInt8} {done todo : List Nat} {place : Nat}
    {frame : Frame} (split : tables.schedule = done ++ place :: todo)
    (ran : code.executeFrom image code.initialFrame done = .ok frame) :
    code.Covers frame place := by
  rw [mirrors.schedule] at split
  have scheduled : place ∈ code.schedule := by
    rw [split]
    exact List.mem_append_right _ List.mem_cons_self
  refine wellFormed.covers (code.fits_initialFrame.executeFrom done ran) ?_
  exact List.mem_range.mp (code.schedule_perm.mem_iff.mp scheduled)

end Tables

namespace Module

/-- Whatever calls recorded the code, if they were given operands and globals of it, then the stored
tables are well-formed: every row is in the list of one block, in order, to which the call that
recorded it appended its place; all references are met; and the index finds each global by the name
that it alone has, from the call that adds it on. A run over the lists finds every position that it
looks up, and so do operands of the code that are read after it. A global of a taken name is refused
without a change. A string has one place in the pool, and is added only if it was absent. Whatever
is called later, the tables and the code answer alike, and all positions stand for what they stood
for. -/
theorem calls_keep_code_well_formed (name : String) (edits : List Edit)
    (internal : Each Internal { name } edits) :
    let code := edited { name } edits
    let tables := Tables.called { name } edits
    code.WellFormed ∧ tables.WellFormed ∧
    (∀ edit block, (tables.call edit).2.placesOf block = tables.placesOf block ++
      if edit.line?.map Prod.fst = some block then [tables.rows.size] else []) ∧
    (∀ image done place todo frame, tables.schedule = done ++ place :: todo →
      code.executeFrom image code.initialFrame done = .ok frame → code.Covers frame place) ∧
    (∀ image frame operand,
      code.executeFrom image code.initialFrame tables.schedule = .ok frame → code.Refers operand →
        ∀ used, operand.line? = some used → used < frame.results.size) ∧
    (∀ edit name, (tables.call edit).2.global? name =
      if (code.newGlobal? edit).map Global.name = some name then some tables.globals.size
      else tables.global? name) ∧
    (∀ name type,
      (tables.global? name = none →
        (tables.call (.addGlobal name type)).1 = .global tables.globals.size ∧
          (tables.call (.addGlobal name type)).2.globals = tables.globals.push ⟨name, type⟩) ∧
      (tables.global? name ≠ none → tables.call (.addGlobal name type) =
        (.refused (.breach (.globalDefinedTwice name)), tables))) ∧
    (∀ value, ∃ index, (tables.call (.addString value)).1 = .operand (.poolString index) ∧
      (tables.call (.addString value)).2.pool[index]? = some value ∧
      (tables.call (.addString value)).2.pool =
        if value ∈ tables.pool then tables.pool else tables.pool.push value) ∧
    ∀ later, code.Extends (code.edited later) ∧
      (tables.called later).Mirrors (code.edited later) ∧
      ∀ edit, ((tables.called later).call edit).1 = ((code.edited later).call edit).1 := by
  intro code tables
  have wellFormed : code.WellFormed := (WellFormed.empty name).edited internal
  have mirrors : tables.Mirrors code := (Tables.Mirrors.empty name).called edits
  refine ⟨wellFormed, mirrors.wellFormed wellFormed, mirrors.call_placesOf,
    fun image done place todo frame split ran => mirrors.covers wellFormed split ran,
    fun image frame operand ran refers used uses => ?_, mirrors.call_global?,
    fun name type => ⟨fun free => ?_, fun taken => Tables.addGlobal_of_taken taken type⟩,
    mirrors.call_addString, fun later => ?_⟩
  · rw [(code.fits_initialFrame.executeFrom _ ran).results]
    exact refers used uses
  · rw [Tables.call, Tables.addGlobal_of_free free]
    exact ⟨rfl, rfl⟩
  · have still := mirrors.called later
    exact ⟨(code.edited_retains later).grows, still, fun edit => (still.call edit).1⟩

/-- Strings and names are given twice, an immediate is not in the form of its width, and the second
call for a name is refused. -/
theorem calls_keep_code_well_formed_repeated :
    let edits : List Edit := [.addString "a", .addGlobal "g" (.int 32), .addGlobal "g" (.int 8),
      .load .entry (.argument 0) (.int 32), .store .entry (.result 0 (.int 32)) 0,
      .loadGlobal .body 0, .and .body (.result 2 (.int 32)) (.int 1 7),
      .setName (.result 3 (.int 32)) "low", .addString "a"]
    let code := edited { name := "kernel" } edits
    let tables := Tables.called { name := "kernel" } edits
    Each Internal { name := "kernel" } edits ∧ code.WellFormed ∧ tables.WellFormed ∧
      tables.entry = #[0, 1] ∧ tables.body = #[2, 3] ∧ tables.index = [("g", 0)] ∧
      tables.call (.addGlobal "g" (.int 64)) =
        (.refused (.breach (.globalDefinedTwice "g")), tables) := by
  intro edits code tables
  have internal : Each Internal { name := "kernel" } edits := by decide +kernel
  have taken : tables.global? "g" ≠ none := by decide +kernel
  obtain ⟨wellFormed, stored, -, -, -, -, globals, -, -⟩ :=
    calls_keep_code_well_formed "kernel" edits internal
  exact ⟨internal, wellFormed, stored, by decide +kernel, by decide +kernel, by decide +kernel,
    (globals "g" (.int 64)).2 taken⟩

end Module

end QueryKernel.Ir
