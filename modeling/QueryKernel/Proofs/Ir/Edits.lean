import QueryKernel.Proofs.Ir.Recording

/-!
Contract: code as the outcome of the calls that recorded it.

Owns:
- edits, one for each call that can change code, and the code after a list of them;
- operands that come from the code, and lawful edits, which use no others;
- what every edit keeps: lines with their results, globals and pool strings;
- code that lawful edits build from other code, with one lemma for each call.

Does not own: the types of what the code computes.
-/

namespace QueryKernel.Ir

/-- A call that can change code. -/
inductive Edit where
  | addString (value : String)
  | addGlobal (name : String) (type : Ty)
  | offset (block : Block) (base amount : Operand)
  | load (block : Block) (address : Operand) (type : Ty)
  | and (block : Block) (left right : Operand)
  | shiftRight (block : Block) (left right : Operand)
  | greater (block : Block) (left right : Operand)
  | store (block : Block) (value : Operand) (global : Nat)
  | loadGlobal (block : Block) (global : Nat)
  | setName (value : Operand) (name : String)
deriving DecidableEq, Repr

namespace Edit

/-- The operands that a call is given. -/
def operands : Edit → List Operand
  | offset _ base amount => [base, amount]
  | load _ address _ => [address]
  | and _ left right | shiftRight _ left right | greater _ left right => [left, right]
  | store _ value _ | setName value _ => [value]
  | addString _ | addGlobal _ _ | loadGlobal _ _ => []

/-- The global that a call is given. -/
def global? : Edit → Option Nat
  | store _ _ global | loadGlobal _ global => some global
  | _ => none

end Edit

namespace Module

/-- The code after a call. A global of a name that is taken is not added. -/
def edit (code : Module) : Edit → Module
  | .addString value => (code.addString value).2
  | .addGlobal name type =>
      match code.addGlobal name type with
      | .ok (_, changed) => changed
      | .error _ => code
  | .offset block base amount => (code.offset block base amount).2
  | .load block address type => (code.load block address type).2
  | .and block left right => (code.and block left right).2
  | .shiftRight block left right => (code.shiftRight block left right).2
  | .greater block left right => (code.greater block left right).2
  | .store block value global => code.store block value global
  | .loadGlobal block global => (code.loadGlobal block global).2
  | .setName value name => code.setName value name

def edited (code : Module) (edits : List Edit) : Module := edits.foldl edit code

/-- Each call has the property in the code that it finds. -/
def Each (property : Module → Edit → Prop) : Module → List Edit → Prop
  | _, [] => True
  | code, edit :: rest => property code edit ∧ Each property (code.edit edit) rest

/-- The type of the result of a line, if there is one. -/
def resultAt (code : Module) (place : Nat) : Option Ty := code.lines[place]?.bind Line.result

/-- The global exists and has the type. -/
def Holds (code : Module) (global : Nat) (type : Ty) : Prop :=
  ∃ found, code.globals[global]? = some found ∧ found.type = type

/-- The operand comes from the code: it is an immediate, with integers sign-extended, the
argument, a string of the pool or the result of a line. -/
inductive Supplies (code : Module) : Operand → Prop where
  | int (bits : Nat) (value : Int64) : Supplies code (.ofInt bits value)
  | float (value : Number.Real32) : Supplies code (.float value)
  | double (value : Number.Real64) : Supplies code (.double value)
  | null : Supplies code .null
  | argument : Supplies code (.argument 0)
  | poolString {index : Nat} (inside : index < code.pool.size) : Supplies code (.poolString index)
  | result {line : Nat} {type : Ty} (recorded : code.resultAt line = some type) :
      Supplies code (.result line type)

/-- The operands and the global that a call is given come from the code. -/
structure Lawful (code : Module) (edit : Edit) : Prop where
  supplied : ∀ operand ∈ edit.operands, code.Supplies operand
  existing : ∀ global, edit.global? = some global → global < code.globals.size

/-- What is stored has the type of the global. -/
def TypesStore (code : Module) : Edit → Prop
  | .store _ value global => code.Holds global value.type
  | _ => True

/-- A call that is given no global is lawful if its operands come from the code. -/
theorem Lawful.plain {code : Module} {edit : Edit}
    (supplied : ∀ operand ∈ edit.operands, code.Supplies operand)
    (noGlobal : edit.global? = none) : code.Lawful edit where
  supplied := supplied
  existing global given := by
    rw [noGlobal] at given
    contradiction

/-- A call that is given no global stores nothing. -/
theorem typesStore_plain {code : Module} {edit : Edit} (noGlobal : edit.global? = none) :
    code.TypesStore edit := by
  cases edit with
  | store => contradiction
  | _ => trivial

theorem edited_append (code : Module) (front back : List Edit) :
    code.edited (front ++ back) = (code.edited front).edited back := List.foldl_append

theorem each_append {property : Module → Edit → Prop} {code : Module} {front back : List Edit} :
    Each property code (front ++ back) ↔
      Each property code front ∧ Each property (code.edited front) back := by
  induction front generalizing code with
  | nil =>
      rw [List.nil_append, Each, true_and]
      rfl
  | cons edit rest inductionHypothesis =>
      rw [List.cons_append, Each, Each, inductionHypothesis, and_assoc]
      rfl

/-! ### Results -/

section Results

variable (code : Module) (block : Block) (instruction : Instruction) (type : Ty)
variable (value : Operand) (global place : Nat) (name : String)

theorem push_resultAt :
    (code.push block instruction type).2.resultAt place =
      if place = code.lines.size then some type else code.resultAt place := by
  simp only [resultAt, push, Array.getElem?_push]
  split <;> rfl

theorem store_resultAt :
    (code.store block value global).resultAt place =
      if place = code.lines.size then none else code.resultAt place := by
  simp only [resultAt, store, Array.getElem?_push]
  split <;> rfl

theorem setName_resultAt : (code.setName value name).resultAt place = code.resultAt place := by
  have results := @setName_read code value place name _ Line.result fun _ _ => rfl
  have joined := congrArg (Option.bind · id) results
  simpa only [resultAt, Option.bind_map, Function.id_comp] using joined

theorem addString_resultAt (value : String) :
    (code.addString value).2.resultAt place = code.resultAt place := by
  unfold addString
  split <;> rfl

end Results

theorem resultAt_lt {code : Module} {place : Nat} {type : Ty}
    (found : code.resultAt place = some type) : place < code.lines.size := by
  rcases Option.bind_eq_some_iff.mp found with ⟨line, atPlace, -⟩
  exact (Array.getElem?_eq_some_iff.mp atPlace).1

/-! ### What edits keep -/

/-- Everything that was recorded stays, and results keep their types. -/
structure Retains (before after : Module) : Prop where
  grows : before.Extends after
  results : ∀ place type, before.resultAt place = some type → after.resultAt place = some type

namespace Retains

theorem refl (code : Module) : Retains code code := ⟨.refl code, fun _ _ found => found⟩

theorem trans {first second third : Module} (front : Retains first second)
    (back : Retains second third) : Retains first third where
  grows := front.grows.trans back.grows
  results place type found := back.results place type (front.results place type found)

theorem push (code : Module) (block : Block) (instruction : Instruction) (type : Ty) :
    Retains code (code.push block instruction type).2 where
  grows := .push code block instruction type
  results place found atPlace := by
    rw [push_resultAt, if_neg (Nat.ne_of_lt (resultAt_lt atPlace))]
    exact atPlace

theorem store (code : Module) (block : Block) (value : Operand) (global : Nat) :
    Retains code (code.store block value global) where
  grows := .store code block value global
  results place found atPlace := by
    rw [store_resultAt, if_neg (Nat.ne_of_lt (resultAt_lt atPlace))]
    exact atPlace

theorem setName (code : Module) (value : Operand) (name : String) :
    Retains code (code.setName value name) where
  grows := .setName code value name
  results place found atPlace := by
    rw [setName_resultAt]
    exact atPlace

theorem addString (code : Module) (value : String) : Retains code (code.addString value).2 where
  grows := .addString code value
  results place found atPlace := by
    rw [addString_resultAt]
    exact atPlace

theorem withGlobals (code : Module) (added : List Global) :
    Retains code (code.withGlobals added) where
  grows := .withGlobals code added
  results _ _ found := found

end Retains

/-- A global is added at the end, unless its name is taken. -/
theorem edit_addGlobal (code : Module) (name : String) (type : Ty) :
    code.edit (.addGlobal name type) = code ∨
      code.edit (.addGlobal name type) = code.withGlobals [⟨name, type⟩] := by
  simp only [edit, addGlobal]
  cases code.global? name with
  | some place => exact .inl rfl
  | none => exact .inr rfl

theorem edit_retains (code : Module) (edit : Edit) : code.Retains (code.edit edit) := by
  cases edit with
  | addString value => exact .addString code value
  | addGlobal name type =>
      rcases code.edit_addGlobal name type with same | added
      · rw [same]
        exact .refl code
      · rw [added]
        exact .withGlobals code _
  | store block value global => exact .store code block value global
  | setName value name => exact .setName code value name
  | offset | load | and | shiftRight | greater | loadGlobal => exact .push code _ _ _

theorem edited_retains (code : Module) (edits : List Edit) : code.Retains (code.edited edits) := by
  induction edits generalizing code with
  | nil => exact .refl code
  | cons edit rest inductionHypothesis =>
      exact (code.edit_retains edit).trans (inductionHypothesis (code.edit edit))

theorem Holds.mono {before after : Module} (retains : before.Retains after) {global : Nat}
    {type : Ty} (holds : before.Holds global type) : after.Holds global type := by
  rcases holds with ⟨found, atPlace, same⟩
  exact ⟨found, retains.grows.globals global found atPlace, same⟩

theorem Holds.lt {code : Module} {global : Nat} {type : Ty} (holds : code.Holds global type) :
    global < code.globals.size := by
  rcases holds with ⟨found, atPlace, -⟩
  exact (Array.getElem?_eq_some_iff.mp atPlace).1

theorem Supplies.mono {before after : Module} (retains : before.Retains after) {operand : Operand}
    (supplies : before.Supplies operand) : after.Supplies operand := by
  cases supplies with
  | int bits value => exact .int bits value
  | float value => exact .float value
  | double value => exact .double value
  | null => exact .null
  | argument => exact .argument
  | poolString inside =>
      have found := retains.grows.pool _ _ (Array.getElem?_eq_getElem inside)
      exact .poolString (Array.getElem?_eq_some_iff.mp found).1
  | result recorded => exact .result (retains.results _ _ recorded)

/-- The operand that a call returns comes from the code behind the call. -/
theorem supplies_pushed (code : Module) (block : Block) (instruction : Instruction) (type : Ty) :
    (code.push block instruction type).2.Supplies (code.push block instruction type).1 := by
  apply Supplies.result
  rw [push_resultAt, if_pos rfl]

theorem supplies_addString (code : Module) (value : String) :
    (code.addString value).2.Supplies (code.addString value).1 := by
  unfold addString
  split
  · rename_i index found
    exact .poolString (Array.findIdx?_eq_some_iff_getElem.mp found).1
  · apply Supplies.poolString
    rw [Array.size_push]
    exact Nat.lt_succ_self _

/-! ### Built code -/

/-- Lawful edits, which store what the globals are for, lead from the one code to the other. -/
def Builds (before after : Module) : Prop :=
  ∃ edits, Each Lawful before edits ∧ Each TypesStore before edits ∧ after = before.edited edits

namespace Builds

theorem refl (code : Module) : Builds code code := ⟨[], trivial, trivial, rfl⟩

theorem trans {first second third : Module} (front : Builds first second)
    (back : Builds second third) : Builds first third := by
  rcases front with ⟨frontEdits, frontLawful, frontStores, rfl⟩
  rcases back with ⟨backEdits, backLawful, backStores, rfl⟩
  refine ⟨frontEdits ++ backEdits, each_append.mpr ⟨frontLawful, backLawful⟩,
    each_append.mpr ⟨frontStores, backStores⟩, ?_⟩
  rw [edited_append]

theorem retains {before after : Module} (builds : Builds before after) :
    before.Retains after := by
  rcases builds with ⟨edits, -, -, rfl⟩
  exact edited_retains before edits

theorem edit {code : Module} {edit : Edit} (lawful : code.Lawful edit)
    (stores : code.TypesStore edit) : Builds code (code.edit edit) :=
  ⟨[edit], ⟨lawful, trivial⟩, ⟨stores, trivial⟩, rfl⟩

theorem plain {code : Module} {edit : Edit}
    (supplied : ∀ operand ∈ edit.operands, code.Supplies operand)
    (noGlobal : edit.global? = none) : Builds code (code.edit edit) :=
  .edit (.plain supplied noGlobal) (typesStore_plain noGlobal)

theorem setName {code : Module} {value : Operand} (supplied : code.Supplies value)
    (name : String) : Builds code (code.setName value name) :=
  @plain code (.setName value name) (List.forall_mem_singleton.mpr supplied) rfl

theorem store {code : Module} {value : Operand} {global : Nat} (block : Block)
    (supplied : code.Supplies value) (holds : code.Holds global value.type) :
    Builds code (code.store block value global) := by
  refine @edit code (.store block value global)
    ⟨List.forall_mem_singleton.mpr supplied, fun other given => ?_⟩ holds
  cases given
  exact holds.lt

/-- A new global has its type. -/
theorem addGlobal {before after : Module} {name : String} {type : Ty} {global : Nat}
    (added : before.addGlobal name type = .ok (global, after)) :
    Builds before after ∧ after.Holds global type := by
  have builds := @plain before (.addGlobal name type) (List.forall_mem_nil _) rfl
  simp only [Module.edit, added] at builds
  refine ⟨builds, ?_⟩
  unfold Module.addGlobal at added
  split at added
  · contradiction
  · cases added
    exact ⟨⟨name, type⟩, Array.getElem?_push_size, rfl⟩

end Builds

/-- A call builds on the code, and returns an operand that comes from the code behind it. -/
structure Yields (before : Module) (result : Operand × Module) : Prop where
  builds : Builds before result.2
  supplies : result.2.Supplies result.1

section Yields

variable {code : Module} {left right : Operand} (block : Block)

theorem yields_offset (leftSupplied : code.Supplies left) (rightSupplied : code.Supplies right) :
    code.Yields (code.offset block left right) where
  builds := @Builds.plain code (.offset block left right) (by simp [Edit.operands, *]) rfl
  supplies := code.supplies_pushed block _ _

theorem yields_load (supplied : code.Supplies left) (type : Ty) :
    code.Yields (code.load block left type) where
  builds := @Builds.plain code (.load block left type) (by simp [Edit.operands, *]) rfl
  supplies := code.supplies_pushed block _ _

theorem yields_and (leftSupplied : code.Supplies left) (rightSupplied : code.Supplies right) :
    code.Yields (code.and block left right) where
  builds := @Builds.plain code (.and block left right) (by simp [Edit.operands, *]) rfl
  supplies := code.supplies_pushed block _ _

theorem yields_shiftRight (leftSupplied : code.Supplies left)
    (rightSupplied : code.Supplies right) : code.Yields (code.shiftRight block left right) where
  builds := @Builds.plain code (.shiftRight block left right) (by simp [Edit.operands, *]) rfl
  supplies := code.supplies_pushed block _ _

theorem yields_greater (leftSupplied : code.Supplies left)
    (rightSupplied : code.Supplies right) : code.Yields (code.greater block left right) where
  builds := @Builds.plain code (.greater block left right) (by simp [Edit.operands, *]) rfl
  supplies := code.supplies_pushed block _ _

theorem yields_loadGlobal {global : Nat} (existing : global < code.globals.size) :
    code.Yields (code.loadGlobal block global) where
  builds := by
    refine @Builds.edit code (.loadGlobal block global)
      ⟨List.forall_mem_nil _, fun other given => ?_⟩ trivial
    cases given
    exact existing
  supplies := code.supplies_pushed block _ _

end Yields

theorem yields_addString (code : Module) (value : String) : code.Yields (code.addString value) where
  builds := @Builds.plain code (.addString value) (List.forall_mem_nil _) rfl
  supplies := code.supplies_addString value

end Module

end QueryKernel.Ir
