import QueryKernel.Proofs.Session.Failures
import QueryKernel.Proofs.Session.Hoisting

/-!
Contract: code generation keeps the buffers of all devices alike.

Every call gives each device the same constant. So the buffers never part, and the table and
the globals list exactly what the buffers hold.

Owns:
- the lockstep invariant, from the start of a session through every call;
- the outcome of a hoisting call in lockstep: it is decided by the literal alone;
- the main statement, for all histories of calls, with the internal failures that it rules
  out.
-/

namespace QueryKernel

open QueryKernel.Ir (Module Operand Ty)
open QueryKernel.Sql (Constant DataType)
open QueryKernel.Dictionary (Registry)

namespace Session

/-! ### The invariant -/

/-- All devices have the same buffer, and the table and the globals follow its entries in
order. -/
structure Lockstep (session : Session) (devices : Nat) (buffer : Literal.Buffer) : Prop where
  buffers : session.buffers = List.replicate devices buffer
  table : session.table.entries.map (fun entry => (entry.1, entry.2.isText)) =
    buffer.entries.map fun entry => (entry.1, entry.2.isText)
  names : session.code.globals.toList.map Ir.Global.name =
    buffer.entries.flatMap fun entry => globalNames entry.1 entry.2.isText

theorem Lockstep.empty (name : String) (devices : Nat) :
    Lockstep { code := { name }, buffers := List.replicate devices {} } devices {} :=
  ⟨rfl, rfl, rfl⟩

theorem Lockstep.devices_eq {session : Session} {devices : Nat} {buffer : Literal.Buffer}
    (lockstep : session.Lockstep devices buffer) : session.devices = devices := by
  rw [Session.devices, lockstep.buffers, List.length_replicate]

theorem Lockstep.buffer_at {session : Session} {devices : Nat} {buffer : Literal.Buffer}
    (lockstep : session.Lockstep devices buffer) {device : Nat} (inside : device < devices) :
    session.buffers[device]? = some buffer := by
  rw [lockstep.buffers, List.getElem?_replicate, if_pos inside]

theorem Lockstep.buffer_eq {session : Session} {devices : Nat} {buffer other : Literal.Buffer}
    (lockstep : session.Lockstep devices buffer) {device : Nat}
    (found : session.buffers[device]? = some other) : other = buffer := by
  rw [lockstep.buffers] at found
  exact List.eq_of_mem_replicate (List.mem_of_getElem? found)

/-- The table knows the literals of the buffer, each in its own shape. -/
theorem Lockstep.known {session : Session} {devices : Nat} {buffer : Literal.Buffer}
    (lockstep : session.Lockstep devices buffer) {offset : Nat} {literal : Literal}
    (member : (offset, literal) ∈ buffer.entries) :
    ∃ globals, session.table.get? offset = some globals ∧ globals.isText = literal.isText := by
  cases found : session.table.get? offset with
  | none =>
      have listed : (offset, literal.isText) ∈
          session.table.entries.map fun entry => (entry.1, entry.2.isText) := by
        rw [lockstep.table]
        exact List.mem_map.mpr ⟨_, member, rfl⟩
      obtain ⟨entry, inTable, same⟩ := List.mem_map.mp listed
      have absent := List.lookup_eq_none_iff.mp found entry inTable
      simp [(Prod.mk.inj same).1] at absent
  | some globals =>
      refine ⟨globals, rfl, ?_⟩
      obtain ⟨front, back, entries, -⟩ := List.lookup_eq_some_iff.mp found
      have listed : (offset, globals.isText) ∈
          buffer.entries.map fun entry => (entry.1, entry.2.isText) := by
        rw [← lockstep.table, entries]
        simp
      obtain ⟨⟨place, other⟩, inBuffer, same⟩ := List.mem_map.mp listed
      obtain ⟨rfl, shape⟩ := Prod.mk.inj same
      rw [← shape, Literal.place_unique inBuffer member]

/-- The table knows nothing else. -/
theorem Lockstep.unknown {session : Session} {devices : Nat} {buffer : Literal.Buffer}
    (lockstep : session.Lockstep devices buffer) {offset : Nat}
    (later : ∀ entry ∈ buffer.entries, entry.1 ≠ offset) :
    session.table.get? offset = none := by
  refine List.lookup_eq_none_iff.mpr fun entry inTable => ?_
  have listed : (entry.1, entry.2.isText) ∈
      buffer.entries.map fun entry => (entry.1, entry.2.isText) := by
    rw [← lockstep.table]
    exact List.mem_map.mpr ⟨entry, inTable, rfl⟩
  obtain ⟨other, inBuffer, same⟩ := List.mem_map.mp listed
  have different := later other inBuffer
  rw [(Prod.mk.inj same).1] at different
  exact bne_iff_ne.mpr (Ne.symm different)

theorem Lockstep.fresh {session : Session} {devices : Nat} {buffer : Literal.Buffer}
    (lockstep : session.Lockstep devices buffer) {offset : Nat}
    (later : ∀ entry ∈ buffer.entries, entry.1 ≠ offset) (isText : Bool) :
    Fresh session.code offset isText := by
  intro name member global found same
  have listed : name ∈ session.code.globals.toList.map Ir.Global.name :=
    List.mem_map.mpr ⟨global, Array.mem_toList_iff.mpr found, same⟩
  rw [lockstep.names] at listed
  obtain ⟨entry, inBuffer, ofEntry⟩ := List.mem_flatMap.mp listed
  exact later entry inBuffer (globalNames_unique ofEntry member)

/-- Code over the same globals keeps the invariant. -/
theorem Lockstep.of_code {session : Session} {devices : Nat} {buffer : Literal.Buffer}
    (lockstep : session.Lockstep devices buffer) {code : Module}
    (globals : code.globals = session.code.globals) :
    Lockstep { session with code } devices buffer :=
  ⟨lockstep.buffers, lockstep.table, globals ▸ lockstep.names⟩

/-! ### Uses of a literal -/

/-- Using a registered literal succeeds, whether it is new or not. -/
theorem Lockstep.use {session : Session} {devices : Nat} {buffer : Literal.Buffer}
    (lockstep : session.Lockstep devices buffer) (wellFormed : buffer.WellFormed)
    {type : DataType} {literal : Literal} {isText : Bool} (fits : Fits type literal isText)
    {new : Bool} (newIff : new = true ↔ literal ∉ buffer.literals) :
    ∃ operands next,
      Session.use { session with buffers := List.replicate devices (buffer.add literal).2 } type
          (buffer.add literal).1 isText new = (.ok operands, next) ∧
        next.Lockstep devices (buffer.add literal).2 := by
  by_cases registered : literal ∈ buffer.literals
  · -- The literal keeps its place, and its globals are reloaded.
    obtain ⟨offset, member⟩ := Literal.exists_place_of_mem 0 registered
    have old : new = false := by simpa [registered] using newIff
    have kept : { session with buffers := List.replicate devices buffer } = session := by
      rw [← lockstep.buffers]
    obtain ⟨globals, found, shape⟩ := lockstep.known member
    rw [Literal.Buffer.add_of_mem wellFormed member, old, kept]
    have reloaded := reload_eq found
    rw [shape, fits.isText_eq] at reloaded
    have used : session.use type offset isText false =
        (.ok (session.code.loadAll globals.globals).1,
          { session with code := (session.code.loadAll globals.globals).2 }) := by
      simp only [Session.use, Bool.false_eq_true, if_false, reloaded]
    exact ⟨_, _, used, lockstep.of_code (by simp)⟩
  · -- The literal takes the next place, is decoded there, and its globals are reloaded.
    obtain ⟨offset, added, -, entries, -⟩ :=
      Literal.Buffer.add_of_not_mem wellFormed registered
    have new' : new = true := newIff.mpr registered
    have elsewhere : ∀ entry ∈ buffer.entries, entry.1 ≠ offset := by
      intro entry member
      have different := Literal.Buffer.add_elsewhere wellFormed registered member
      rw [added] at different
      exact different
    rw [added, new']
    let grown : Literal.Buffer := ⟨buffer.literals ++ [literal], offset + literal.width⟩
    let session' : Session := { session with buffers := List.replicate devices grown }
    have unknown : session'.table.get? offset = none := lockstep.unknown elsewhere
    obtain ⟨globals, code, success, decoded⟩ :=
      @materialize_eq session' type offset isText unknown (lockstep.fresh elsewhere isText)
        literal fits
    have found := MaterializedTable.get?_extended unknown globals offset
    rw [if_pos rfl] at found
    have reloaded := @reload_eq
      { session' with code, table := session'.table.extended offset globals } offset globals found
    rw [decoded.shape] at reloaded
    have used : session'.use type offset isText true =
        (.ok (code.loadAll globals.globals).1,
          { session' with
            code := (code.loadAll globals.globals).2
            table := session'.table.extended offset globals }) := by
      simp only [Session.use, if_true, success, reloaded]
    refine ⟨_, _, used, rfl, ?_, ?_⟩
    · change (session.table.entries ++ [(offset, globals)]).map _ =
        (Literal.place 0 (buffer.literals ++ [literal])).map _
      rw [entries, List.map_append, List.map_append, lockstep.table]
      simp [decoded.shape, fits.isText_eq]
    · change (code.loadAll globals.globals).2.globals.toList.map Ir.Global.name =
        (Literal.place 0 (buffer.literals ++ [literal])).flatMap _
      rw [entries, Module.loadAll_globals, decoded.defines.globals, List.map_append,
        List.flatMap_append, map_name_zipWith decoded.length, ← lockstep.names]
      simp [session', fits.isText_eq]

end Session

/-! ### Calls -/

open Session

/-- Where the literal cannot be made, a hoisting call changes nothing. -/
theorem hoist_error (session : Session) (count : Nat) {constant : Constant}
    {encoding : StringEncoding} {registry : Registry} {failure : Error}
    (failed : literalOf constant encoding registry = .error failure) :
    Workspace.hoist ⟨session, registry⟩ (List.replicate (count + 1) constant) encoding =
      (.error failure, ⟨session, registry⟩) := by
  have constants : List.replicate (count + 1) constant =
      constant :: List.replicate count constant := rfl
  simp only [constants, Workspace.hoist, Session.registerAll, if_true, Workspace.addLiteral, failed]

/-- Without a literal, a hoisting call in lockstep fails and changes nothing. -/
theorem Session.Lockstep.generate_error {session : Session} {count : Nat} {buffer : Literal.Buffer}
    (lockstep : session.Lockstep (count + 1) buffer) {constant : Constant}
    {encoding : StringEncoding} {registry : Registry} {failure : Error}
    (failed : literalOf constant encoding registry = .error failure) :
    Workspace.generate ⟨session, registry⟩ constant encoding true =
      (.error failure, ⟨session, registry⟩) := by
  rw [Workspace.generate, if_pos rfl, lockstep.devices_eq]
  exact hoist_error session count failed

/-- What a hoisting call does in lockstep follows from the literal, not from the constant or the
dictionaries. -/
theorem Session.Lockstep.hoist_eq {session : Session} {count : Nat} {buffer : Literal.Buffer}
    (lockstep : session.Lockstep (count + 1) buffer) {constant : Constant}
    {encoding : StringEncoding} {registry after : Registry} {literal : Literal}
    (made : literalOf constant encoding registry = .ok (literal, after)) :
    let registered : Session :=
      { session with buffers := List.replicate (count + 1) (buffer.add literal).2 }
    let used := registered.use constant.type (buffer.add literal).1
      (isUnencoded constant.type encoding) (isNew session registered)
    Workspace.hoist ⟨session, registry⟩ (List.replicate (count + 1) constant) encoding =
      (used.1, ⟨used.2, after⟩) := by
  intro registered used
  have alike := (Workspace.hoist_alike (by rw [lockstep.buffers, List.replicate_succ]) made).1
    (by rw [lockstep.buffers]; exact fun other member => by rw [List.eq_of_mem_replicate member])
  rw [lockstep.devices_eq, lockstep.buffers, List.map_replicate] at alike
  exact alike

/-- A hoisting call in lockstep succeeds where the literal can be made, and adds it to every
buffer. -/
theorem Session.Lockstep.hoist_ok {session : Session} {count : Nat} {buffer : Literal.Buffer}
    (lockstep : session.Lockstep (count + 1) buffer) (wellFormed : buffer.WellFormed)
    {constant : Constant} {encoding : StringEncoding} {registry after : Registry}
    {literal : Literal} (made : literalOf constant encoding registry = .ok (literal, after)) :
    ∃ operands next,
      Workspace.hoist ⟨session, registry⟩ (List.replicate (count + 1) constant) encoding =
        (.ok operands, ⟨next, after⟩) ∧
      next.Lockstep (count + 1) (buffer.add literal).2 := by
  let registered : Session :=
    { session with buffers := List.replicate (count + 1) (buffer.add literal).2 }
  have newIff : isNew session registered = true ↔ literal ∉ buffer.literals :=
    isNew_iff wellFormed (by simp [lockstep.buffers]) (by simp [registered])
  obtain ⟨operands, next, used, nextLockstep⟩ :=
    lockstep.use wellFormed (literalOf_fits made) newIff
  refine ⟨operands, next, ?_, nextLockstep⟩
  rw [lockstep.hoist_eq made]
  simp only [registered] at used
  rw [used]

/-- An immediate changes at most the string pool of a session. -/
theorem immediate_session {workspace after : Workspace} {constant : Constant}
    {encoding : StringEncoding} {operands : List Operand}
    (made : Session.immediate workspace constant encoding = .ok (operands, after)) :
    after.session = workspace.session ∨ ∃ value, after.session =
      { workspace.session with code := (workspace.session.code.addString value).2 } := by
  cases Session.immediate_eq_ok made with
  | text value => exact .inr ⟨value, rfl⟩
  | word | float | double | id | nullText => exact .inl rfl

namespace Session

/-- One call of the code generator, with the dictionaries that it finds. -/
structure Call where
  constant : Constant
  encoding : StringEncoding
  hoisting : Bool
  registry : Registry

def call (session : Session) (call : Call) : Attempt Workspace (List Operand) :=
  Workspace.generate ⟨session, call.registry⟩ call.constant call.encoding call.hoisting

/-- The session behind a history of calls, whether they succeed or fail. -/
def afterCalls (session : Session) (calls : List Call) : Session :=
  calls.foldl (fun session call => (session.call call).2.session) session

/-- A call keeps the lockstep, and does not fail in disorder. -/
theorem Lockstep.call {session : Session} {count : Nat} {buffer : Literal.Buffer}
    (lockstep : session.Lockstep (count + 1) buffer) (wellFormed : buffer.WellFormed)
    (call : Call) :
    (∃ grown : Literal.Buffer, grown.WellFormed ∧
      (session.call call).2.session.Lockstep (count + 1) grown) ∧
      Orderly (session.call call).1 := by
  have devices := lockstep.devices_eq
  unfold Session.call Workspace.generate
  by_cases hoisting : call.hoisting
  · rw [if_pos hoisting, devices]
    cases made : literalOf call.constant call.encoding call.registry with
    | error failure =>
        rw [hoist_error session count made]
        have orderly := orderly_literalOf call.constant call.encoding call.registry
        rw [made] at orderly
        exact ⟨⟨buffer, wellFormed, lockstep⟩, fun cause failed => by
          cases failed
          exact orderly cause rfl⟩
    | ok result =>
        obtain ⟨literal, after⟩ := result
        obtain ⟨operands, next, success, nextLockstep⟩ := lockstep.hoist_ok wellFormed made
        rw [success]
        exact ⟨⟨_, (Literal.Buffer.add_spec wellFormed literal).1, nextLockstep⟩, orderly_ok _⟩
  · rw [if_neg hoisting]
    have orderly := orderly_immediate ⟨session, call.registry⟩ call.constant call.encoding
    cases made : Session.immediate ⟨session, call.registry⟩ call.constant call.encoding with
    | error failure =>
        rw [made] at orderly
        exact ⟨⟨buffer, wellFormed, lockstep⟩, fun cause failed => by
          cases failed
          exact orderly cause rfl⟩
    | ok result =>
        obtain ⟨operands, after⟩ := result
        refine ⟨⟨buffer, wellFormed, ?_⟩, orderly_ok _⟩
        rcases immediate_session made with same | ⟨value, same⟩
        · rw [same]
          exact lockstep
        · rw [same]
          exact lockstep.of_code (Module.addString_globals session.code value)

/-- From any session in lockstep, every history of calls ends in one. -/
theorem Lockstep.afterCalls {session : Session} {count : Nat} {buffer : Literal.Buffer}
    (lockstep : session.Lockstep (count + 1) buffer) (wellFormed : buffer.WellFormed)
    (calls : List Call) :
    ∃ grown : Literal.Buffer, grown.WellFormed ∧
      (session.afterCalls calls).Lockstep (count + 1) grown := by
  induction calls generalizing session buffer with
  | nil => exact ⟨buffer, wellFormed, lockstep⟩
  | cons call rest inductionHypothesis =>
      obtain ⟨⟨grown, grownWellFormed, next⟩, -⟩ := lockstep.call wellFormed call
      exact inductionHypothesis next grownWellFormed

theorem mapM_replicate {α β : Type} (visit : α → Except Error β) (element : α) (count : Nat) :
    (List.replicate (count + 1) element).mapM visit =
      (visit element).map (List.replicate (count + 1)) := by
  induction count with
  | zero =>
      rw [List.replicate_one, List.mapM_cons]
      cases visit element <;> rfl
  | succ count inductionHypothesis =>
      rw [List.replicate_succ, List.mapM_cons, inductionHypothesis]
      cases visit element <;> rfl

theorem Lockstep.serialize {session : Session} {count : Nat} {buffer : Literal.Buffer}
    (lockstep : session.Lockstep (count + 1) buffer) :
    session.serialize = buffer.serialize.map (List.replicate (count + 1)) := by
  rw [Session.serialize, lockstep.buffers, mapM_replicate]

/-- After any history of calls on a new session, all devices hold the same buffer and
serialize alike; the table has an entry exactly for the offset of each literal, in the shape
of the literal; the globals are those of the literals, in the order of the entries; and no
further call fails because devices, table or globals have come apart. -/
theorem calls_in_lockstep (name : String) (devices : Nat) {session : Session}
    (started : Session.start name devices = .ok session) (calls : List Call) :
    ∃ buffer : Literal.Buffer,
      (session.afterCalls calls).buffers = List.replicate devices buffer ∧
      (session.afterCalls calls).serialize = buffer.serialize.map (List.replicate devices) ∧
      (session.afterCalls calls).table.entries.map (fun entry => (entry.1, entry.2.isText)) =
        buffer.entries.map (fun entry => (entry.1, entry.2.isText)) ∧
      (session.afterCalls calls).code.globals.toList.map Ir.Global.name =
        buffer.entries.flatMap (fun entry => globalNames entry.1 entry.2.isText) ∧
      ∀ (next : Call) (cause : Breach),
        ((session.afterCalls calls).call next).1 = .error (.breach cause) →
          cause.isDisorder = false := by
  obtain ⟨inhabited, rfl⟩ := start_eq_ok started
  obtain ⟨count, rfl⟩ : ∃ count, devices = count + 1 := ⟨devices - 1, by omega⟩
  obtain ⟨buffer, wellFormed, lockstep⟩ :=
    (Lockstep.empty name (count + 1)).afterCalls Literal.Buffer.WellFormed.empty calls
  exact ⟨buffer, lockstep.buffers, lockstep.serialize, lockstep.table, lockstep.names,
    fun next => (lockstep.call wellFormed next).2⟩

theorem calls_in_lockstep_two_devices :
    ∃ buffer : Literal.Buffer,
      (Session.afterCalls { code := { name := "kernel" }, buffers := [{}, {}] }
        [⟨.int 7, {}, true, {}⟩, ⟨.ofString "seven", {}, false, {}⟩,
          ⟨.ofString "seven", {}, true, {}⟩]).buffers = List.replicate 2 buffer := by
  obtain ⟨buffer, same, -⟩ := calls_in_lockstep "kernel" 2 rfl
    [⟨.int 7, {}, true, {}⟩, ⟨.ofString "seven", {}, false, {}⟩, ⟨.ofString "seven", {}, true, {}⟩]
  exact ⟨buffer, same⟩

end Session

end QueryKernel
