import QueryKernel.Proofs.Session.Carrying

/-!
Contract: hoisting a constant again reuses its storage.

A repeated call registers the same literal, finds it in its place, and so moves no watermark. What
is left of the call are the loads of the globals that the first call filled.

Owns:
- the lines of a block, and the lines that reload a literal;
- further calls that find the dictionaries as they were left;
- a hoisting call for a literal that the session holds;
- the main statement, for every history in front of the first call and between the two.

Does not own: constants that are hoisted for the first time.
-/

namespace QueryKernel

open QueryKernel.Ir (Module Operand Block Line Frame RuntimeValue)
open QueryKernel.Sql (Constant)
open QueryKernel.Dictionary (Registry)

/-! ### Lines of a block -/

namespace Ir.Module

def inBlock (code : Module) (block : Block) : List Line :=
  code.lines.toList.filter fun line => line.block == block

def loadLine (code : Module) (global : Nat) : Line where
  block := .body
  instruction := .loadGlobal global
  result := some (code.globalType global)

@[simp] theorem loadAll_pool (code : Module) (globals : List Nat) :
    (code.loadAll globals).2.pool = code.pool := by
  induction globals generalizing code with
  | nil => rfl
  | cons global rest inductionHypothesis =>
      exact inductionHypothesis (code.loadGlobal .body global).2

/-- Reloading appends one line for each global. -/
theorem loadAll_lines (code : Module) (globals : List Nat) :
    (code.loadAll globals).2.lines.toList = code.lines.toList ++ globals.map code.loadLine := by
  induction globals generalizing code with
  | nil => exact (List.append_nil _).symm
  | cons global rest inductionHypothesis =>
      show ((code.loadGlobal .body global).2.loadAll rest).2.lines.toList = _
      rw [inductionHypothesis, List.map_cons, List.append_cons]
      exact congrArg (· ++ rest.map code.loadLine) Array.toList_push

/-- These lines are all in the body. -/
theorem loadAll_inBlock (code : Module) (globals : List Nat) :
    (code.loadAll globals).2.inBlock .entry = code.inBlock .entry ∧
      (code.loadAll globals).2.inBlock .body =
        code.inBlock .body ++ globals.map code.loadLine := by
  simp only [inBlock, loadAll_lines, List.filter_append]
  have noEntry : (globals.map code.loadLine).filter (fun line => line.block == .entry) = [] := by
    rw [List.filter_eq_nil_iff]
    intro line member
    rcases List.mem_map.mp member with ⟨global, -, rfl⟩
    simp [loadLine]
  have allBody : (globals.map code.loadLine).filter (fun line => line.block == .body) =
      globals.map code.loadLine := by
    rw [List.filter_eq_self]
    intro line member
    rcases List.mem_map.mp member with ⟨global, -, rfl⟩
    rfl
  rw [noEntry, allBody, List.append_nil]
  exact ⟨rfl, rfl⟩

end Ir.Module

namespace Session

/-! ### Dictionaries between calls -/

/-- Calls that find the dictionaries as they were left, up to the dictionaries found last. In
between dictionaries may be added, and strings inserted, but no id is bound anew. -/
def Undisturbed : Workspace → List Call → Registry → Prop
  | left, [], last => left.registry.Evolves last ∧ left.registry.Keeps last
  | left, call :: rest, last =>
      left.registry.Evolves call.registry ∧ left.registry.Keeps call.registry ∧
        Undisturbed (left.session.call call).2 rest last

theorem Undisturbed.keeps {left : Workspace} {calls : List Call} {last : Registry}
    (undisturbed : Undisturbed left calls last) :
    left.registry.Evolves last ∧ left.registry.Keeps last := by
  induction calls generalizing left with
  | nil => exact undisturbed
  | cons call rest inductionHypothesis =>
      rcases undisturbed with ⟨evolves, keeps, behind⟩
      have grows : call.registry.Grows (left.session.call call).2.registry :=
        Workspace.generate_grows ⟨left.session, call.registry⟩ call.constant call.encoding
          call.hoisting
      rcases inductionHypothesis behind with ⟨evolvesBehind, keepsBehind⟩
      constructor
      · exact evolves.trans (grows.evolves.trans evolvesBehind)
      · intro id handle bound
        apply keepsBehind
        apply grows.keeps
        exact keeps id handle bound

/-! ### One more call -/

/-- What a call leaves as it was, and the lines it adds: loads of globals, in the body. -/
structure Reuses (before after : Session) (globals : List Nat) : Prop where
  buffers : after.buffers = before.buffers
  table : after.table = before.table
  defined : after.code.globals = before.code.globals
  pool : after.code.pool = before.code.pool
  entry : after.code.inBlock .entry = before.code.inBlock .entry
  body : after.code.inBlock .body = before.code.inBlock .body ++ globals.map before.code.loadLine

theorem reuses_loadAll (session : Session) (globals : List Nat) :
    Reuses session { session with code := (session.code.loadAll globals).2 } globals where
  buffers := rfl
  table := rfl
  defined := Module.loadAll_globals session.code globals
  pool := Module.loadAll_pool session.code globals
  entry := (Module.loadAll_inBlock session.code globals).1
  body := (Module.loadAll_inBlock session.code globals).2

/-- The number of globals of a decoded literal. -/
theorem Materialized.globals_length (globals : Materialized) :
    globals.globals.length = if globals.isText then 3 else 1 := by
  cases globals <;> rfl

section Shared

variable {session : Session} {count : Nat} {first? : Option Bool}
  (shared : session.Shared (count + 1) first?)

include shared

/-- Hoisting a constant whose literal the devices hold reloads the globals of the literal. -/
theorem Shared.hoist_held {constant : Constant} {encoding : StringEncoding}
    {registry known : Registry} {literal : Literal} {offset : Nat} {globals : Materialized}
    (made : literalOf constant encoding registry = .ok (literal, known))
    (held : session.Holds 0 offset literal) (atOffset : session.table.get? offset = some globals) :
    Workspace.generate ⟨session, registry⟩ constant encoding true =
        (.ok (session.code.loadAll globals.globals).1,
          ⟨{ session with code := (session.code.loadAll globals.globals).2 }, known⟩) ∧
      globals.isText = isUnencoded constant.type encoding := by
  rcases shared.lockstep with ⟨buffer, lockstep, -⟩
  have wellFormed := lockstep.wellFormed shared.coherent
  have member := (lockstep.holds_iff.mp held).2
  have added := Literal.Buffer.add_of_mem wellFormed member
  have shape : globals.isText = isUnencoded constant.type encoding := by
    rcases lockstep.known member with ⟨found, foundAt, shape⟩
    rw [atOffset] at foundAt
    cases foundAt
    rw [shape, (literalOf_fits made).isText_eq]
  have unmoved : { session with buffers := List.replicate (count + 1) buffer } = session := by
    rw [← lockstep.buffers]
  have known : isNew session session = false := bne_self_eq_false _
  have reloaded := reload_eq atOffset
  refine ⟨?_, shape⟩
  rw [Workspace.generate, if_pos rfl, lockstep.devices_eq, lockstep.hoist_eq made, added, unmoved,
    known, ← shape]
  simp only [use, Bool.false_eq_true, if_false, reloaded]

/-- Operands that load the same globals evaluate to the same values. -/
theorem Shared.evaluate_same {left right : List Operand} {offset : Nat} {globals : Materialized}
    (atOffset : session.table.get? offset = some globals)
    (leftLoads : session.code.Loads left globals.globals)
    (rightLoads : session.code.Loads right globals.globals)
    {images : List (Array UInt8)} (serialized : session.serialize = .ok images) {device : Nat}
    (inside : device < count + 1) :
    ∃ image values, images[device]? = some image ∧
      session.code.evaluate image left = .ok values ∧
      session.code.evaluate image right = .ok values := by
  rcases shared.frame serialized inside with ⟨held, image, frame, imageAt, sound⟩
  rcases shared.coherent.held offset globals atOffset device held with ⟨literal, holds⟩
  rcases sound.decodes offset globals atOffset literal holds with ⟨values, -, filled⟩
  have evaluates : ∀ {operands : List Operand}, session.code.Loads operands globals.globals →
      session.code.evaluate image operands = .ok values := by
    intro operands loads
    apply Module.evaluate_eq_ok sound.solves shared.coherent.ordered
    exact sound.solves.resolve_loads loads filled
  exact ⟨image, values, imageAt, evaluates leftLoads, evaluates rightLoads⟩

end Shared

/-! ### The main statement -/

/-- After any calls in front of the first hoisting of a constant and between the two, hoisting it
again succeeds. It changes no buffer, no decoded literal, no global, no string of the pool and no
line of the entry block, and it adds body lines that load the globals that the first call loaded:
three for an unencoded string, and one otherwise. On every device both operands evaluate to the same
values. -/
theorem hoisting_again_reuses {name : String} {devices : Nat} {session : Session}
    (started : Session.start name devices = .ok session) (front between : List Call)
    {constant : Constant} {encoding : StringEncoding} {registry last : Registry}
    (valid : registry.Valid) {operands : List Operand} {after : Workspace}
    (succeeded : (session.afterCalls front).call ⟨constant, encoding, true, registry⟩ =
      (.ok operands, after))
    (undisturbed : Undisturbed after between last) :
    let before := after.session.afterCalls between
    ∃ again next globals,
      before.call ⟨constant, encoding, true, last⟩ = (.ok again, ⟨next, last⟩) ∧
      Reuses before next globals ∧
      globals.length = (if isUnencoded constant.type encoding then 3 else 1) ∧
      next.code.Loads operands globals ∧ next.code.Loads again globals ∧
      ∀ images, next.serialize = .ok images → ∀ device < devices,
        ∃ image values, images[device]? = some image ∧
          next.code.evaluate image operands = .ok values ∧
          next.code.evaluate image again = .ok values := by
  intro before
  change Workspace.generate ⟨_, registry⟩ constant encoding true = _ at succeeded
  rcases afterCalls_shared started front with ⟨count, rfl, frontShared⟩
  rcases frontShared.hoisted succeeded with
    ⟨literal, made, afterShared, -, offset, available, held⟩
  have leads : after.session.Leads before := afterShared.afterCalls_leads between
  have shared := afterShared.afterCalls between
  rcases available.leads leads with ⟨globals, atOffset, loads⟩
  -- The dictionaries give the constant its literal once more.
  have madeAgain : literalOf constant encoding last = .ok (literal, last) := by
    rcases undisturbed.keeps with ⟨evolves, keeps⟩
    have grown := (literalOf_grows made).valid valid
    exact literalOf_again made (grown.repeats evolves keeps)
  have holds := leads.holds 0 offset literal (held 0 (Nat.succ_pos count))
  rcases shared.hoist_held madeAgain holds atOffset with ⟨again, shape⟩
  rcases Module.loadAll_loads (shared.coherent.stored offset globals atOffset) with
    ⟨lengthened, loadsAgain⟩
  have nextShared := shared.call ⟨constant, encoding, true, last⟩
  change Session.Shared (Workspace.generate ⟨before, last⟩ constant encoding true).2.session _ _
    at nextShared
  rw [again] at nextShared
  refine ⟨_, _, globals.globals, again, reuses_loadAll before globals.globals, ?_,
    loads.mono lengthened.grows, loadsAgain, ?_⟩
  · rw [globals.globals_length, shape]
  · intro images serialized device inside
    exact nextShared.evaluate_same atOffset (loads.mono lengthened.grows) loadsAgain serialized
      inside

/-- A dictionary string is hoisted again behind a number, a call that fails and a further
dictionary. -/
theorem hoisting_again_reuses_dictionary_id :
    let first : Session := { code := { name := "kernel" }, buffers := [{}, {}] }
    let call : Registry → Call := fun known => ⟨.ofString "two", ⟨.dictionary, 1⟩, true, known⟩
    let made := first.call (call (Registry.register {} 1 (.ofList ["one"])))
    let number : Call := ⟨.int 7, {}, true, made.2.registry⟩
    let behind := made.2.session.call number
    let refused : Call := ⟨.ofString "five", ⟨.dictionary, 3⟩, false, behind.2.registry⟩
    let last := (behind.2.session.call refused).2.registry.register 2 (.ofList ["five"])
    let before := made.2.session.afterCalls [number, refused]
    (behind.2.session.call refused).1 = .error (.noDictionary 3) ∧
      ∃ again next globals, before.call (call last) = (.ok again, ⟨next, last⟩) ∧
        Reuses before next globals ∧ globals.length = 1 := by
  intro first call made number behind refused last before
  have valid : (Registry.register {} 1 (.ofList ["one"])).Valid :=
    Registry.Valid.empty.register 1 (Dictionary.ofList_distinct ["one"])
  obtain ⟨operands, succeeded⟩ : ∃ operands, made.1 = .ok operands :=
    exists_of_toBool (by decide +kernel)
  have hoisted : first.call (call (Registry.register {} 1 (.ofList ["one"]))) =
      (.ok operands, made.2) := Prod.ext succeeded rfl
  have failed : (behind.2.session.call refused).1 = .error (.noDictionary 3) := by decide +kernel
  have unbound : (behind.2.session.call refused).2.registry.handle? 2 = none := by decide +kernel
  -- What the first call left does not matter any more, and would only be computed again.
  clear_value made
  have undisturbed : Undisturbed made.2 [number, refused] last :=
    ⟨.refl _, .refl _, .refl _, .refl _, Registry.register_evolves _ 2 ["five"],
      Registry.register_keeps unbound _⟩
  rcases @hoisting_again_reuses "kernel" 2 first rfl [] [number, refused] _ _ _ last valid _ _
    hoisted undisturbed with ⟨again, next, globals, success, reuses, length, -⟩
  exact ⟨failed, again, next, globals, success, reuses, length⟩

end Session

end QueryKernel
