import QueryKernel.Proofs.Session.Coherence

/-!
Contract: hoisting a literal is a step of the session, for any constants of the devices.

Owns:
- when a literal counts as new, and that its offset is then unknown;
- the main statement: whether it succeeds or fails, a call keeps sessions coherent and lets
  dictionaries grow, and the operands of a successful call reload the literals of the
  devices.

Does not own: the values of the operands.
-/

namespace QueryKernel

open QueryKernel.Ir (Module Operand Ty)
open QueryKernel.Sql (Constant DataType)
open QueryKernel.Dictionary (Registry)

namespace Session

/-! ### New literals -/

/-- The first device decides about the offset. -/
theorem registerAll_first {encoding : StringEncoding} {type : DataType} {first : Constant}
    {rest : List Constant} {offset : Nat} {workspace after : Workspace}
    (registered : registerAll encoding type 0 none workspace (first :: rest) =
      (.ok (some offset), after)) :
    ∃ literal registry buffer,
      literalOf first encoding workspace.registry = .ok (literal, registry) ∧
      workspace.session.buffers[0]? = some buffer ∧ offset = (buffer.add literal).1 ∧
      after.session.buffers[0]? = some (buffer.add literal).2 := by
  simp only [registerAll] at registered
  split at registered
  · cases outcome : workspace.addLiteral first encoding 0 with
    | mk result middle =>
        rw [outcome] at registered
        cases result with
        | error failure => cases registered
        | ok firstOffset =>
            change registerAll encoding type 1 (some firstOffset) middle rest = _ at registered
            obtain ⟨literal, buffer, made, stored, offsetEq, session⟩ :=
              Workspace.addLiteral_eq_ok outcome
            have agreed := registerAll_agreed registered
            have others := (registerAll_registers encoding type rest 1 (some firstOffset)
              middle).2.2 0 (by omega)
            rw [registered] at others
            refine ⟨literal, _, buffer, made, stored, agreed.trans offsetEq, ?_⟩
            rw [others, session]
            exact List.getElem?_set_self (List.getElem?_eq_some_iff.mp stored).1
  · cases registered

theorem watermark_of_buffer {session : Session} {device : Nat} {buffer : Literal.Buffer}
    (found : session.buffers[device]? = some buffer) :
    (session.watermark device).toOption = some buffer.watermark := by
  unfold watermark Session.buffer
  rw [found]
  rfl

/-- Whether a registration moved the watermark of the first device. -/
def isNew (before after : Session) : Bool :=
  (after.watermark 0).toOption != (before.watermark 0).toOption

theorem isNew_iff {before after : Session} {buffer : Literal.Buffer} {literal : Literal}
    (wellFormed : buffer.WellFormed) (beforeFound : before.buffers[0]? = some buffer)
    (afterFound : after.buffers[0]? = some (buffer.add literal).2) :
    isNew before after = true ↔ literal ∉ buffer.literals := by
  rw [isNew, watermark_of_buffer beforeFound, watermark_of_buffer afterFound, bne_iff_ne,
    ← Literal.Buffer.add_watermark_eq_iff wellFormed literal]
  simp

/-- The offset of a new literal is not in the table. -/
theorem Coherent.unknown {session : Session} (coherent : session.Coherent)
    {buffer : Literal.Buffer} (found : session.buffers[0]? = some buffer) {literal : Literal}
    (absent : literal ∉ buffer.literals) :
    session.table.get? (buffer.add literal).1 = none := by
  have wellFormed := coherent.wellFormed 0 buffer found
  obtain ⟨offset, added, later, -⟩ := Literal.Buffer.add_of_not_mem wellFormed absent
  rw [added]
  cases known : session.table.get? offset with
  | none => rfl
  | some globals =>
      -- A known offset lies below the watermark.
      have inhabited := (List.getElem?_eq_some_iff.mp found).1
      obtain ⟨earlier, other, otherFound, member⟩ :=
        coherent.held offset globals known 0 inhabited
      rw [found] at otherFound
      cases otherFound
      have bound := wellFormed.entry_bound member
      have positive := Literal.width_pos earlier
      omega

end Session

/-! ### Calls -/

namespace Workspace

open Session

/-- Hoisting one constant for all devices comes down to the use of its literal where all of them
give it one offset, and is a breach where they do not. -/
theorem hoist_alike {session : Session} {first : Literal.Buffer} {others : List Literal.Buffer}
    (buffers : session.buffers = first :: others) {constant : Constant}
    {encoding : StringEncoding} {registry after : Registry} {literal : Literal}
    (made : literalOf constant encoding registry = .ok (literal, after)) :
    let registered : Session :=
      { session with buffers := session.buffers.map fun buffer => (buffer.add literal).2 }
    let used := registered.use constant.type (first.add literal).1
      (isUnencoded constant.type encoding) (isNew session registered)
    ((∀ buffer ∈ session.buffers, (buffer.add literal).1 = (first.add literal).1) →
      hoist ⟨session, registry⟩ (List.replicate session.devices constant) encoding =
        (used.1, ⟨used.2, after⟩)) ∧
    (¬ (∀ buffer ∈ session.buffers, (buffer.add literal).1 = (first.add literal).1) →
      ∃ cause, (hoist ⟨session, registry⟩ (List.replicate session.devices constant) encoding).1 =
        .error (.breach cause)) := by
  intro registered used
  have constants : List.replicate session.devices constant =
      constant :: List.replicate others.length constant := by
    rw [Session.devices, buffers]
    rfl
  -- The first device decides about the offset, and the others follow or do not.
  have start : registerAll encoding constant.type 0 none ⟨session, registry⟩
      (List.replicate session.devices constant) =
      registerAll encoding constant.type 1 (some (first.add literal).1)
        ⟨{ session with buffers := [(first.add literal).2] ++ others }, after⟩
        (List.replicate others.length constant) := by
    have step := registerAll_cons made session [] first others none
      (List.replicate others.length constant)
    rw [Option.all_none, if_pos rfl, List.nil_append, List.nil_append, ← buffers] at step
    rw [constants]
    exact step
  have follow := registerAll_alike (literalOf_stable made (Registry.Grows.refl after)) session
    (first.add literal).1 [(first.add literal).2] others
  rw [List.length_singleton, ← start] at follow
  rw [constants] at follow ⊢
  simp only [buffers, List.forall_mem_cons, true_and]
  constructor
  · intro agree
    simp only [hoist, follow.1 agree, used, registered, buffers, List.map_cons,
      List.singleton_append]
    rfl
  · intro disagree
    obtain ⟨cause, failed⟩ := follow.2 disagree
    refine ⟨cause, ?_⟩
    simp only [hoist]
    split
    · rename_i failure registered registration
      rw [registration] at failed
      cases failed
      rfl
    · rename_i registration
      rw [registration] at failed
      contradiction
    · rename_i offset registration
      rw [registration] at failed
      contradiction

/-- What operands of a hoisted literal stand for: on each device the literal of its own
constant, at one offset. -/
def Provides (workspace : Workspace) (constants : List Constant) (encoding : StringEncoding)
    (operands : List Operand) : Prop :=
  ∃ offset, workspace.session.Available offset operands ∧
    ∀ (device : Nat) (constant : Constant), constants[device]? = some constant →
      ∃ literal,
        literalOf constant encoding workspace.registry = .ok (literal, workspace.registry) ∧
        workspace.session.Holds device offset literal

/-- Using a registered literal is a step. The types of its globals are decided when it is new. -/
theorem use_leads {session after : Session} {type : DataType} {offset : Nat}
    {isText new : Bool} {outcome : Except Error (List Operand)} (coherent : session.Coherent)
    (inhabited : 0 < session.devices) (unknown : new = true → session.table.get? offset = none)
    (held : ∀ device < session.devices, ∃ literal, session.Holds device offset literal ∧
      Fits type literal isText)
    (used : session.use type offset isText new = (outcome, after)) :
    session.Leads after ∧
      (∀ types, (new = true → ∀ device literal, session.Holds device offset literal →
        decodedTypes type isText = types literal) → session.TypedBy types → after.TypedBy types) ∧
      ∀ operands, outcome = .ok operands → after.Available offset operands := by
  -- The literal is decoded now, or has been before.
  obtain ⟨middle, leads, keeps, failed, succeeded⟩ : ∃ middle : Session, session.Leads middle ∧
      (∀ types, (new = true → ∀ device literal, session.Holds device offset literal →
        decodedTypes type isText = types literal) → session.TypedBy types →
          middle.TypedBy types) ∧
      (∀ failure, middle.reload offset isText = .error failure →
        outcome = .error failure ∧ after = middle) ∧
      ∀ operands last, middle.reload offset isText = .ok (operands, last) →
        outcome = .ok operands ∧ after = last := by
    cases new with
    | true =>
        obtain ⟨globals, middle, success, leads, buffers, table, -, decoded⟩ :=
          materialize_leads coherent inhabited (unknown rfl) held
        refine ⟨middle, leads, fun types own typed => ?_, fun failure reloaded => ?_,
          fun operands last reloaded => ?_⟩
        · exact typed.extended coherent leads buffers (unknown rfl) table
            fun device literal holds => decoded.trans (own rfl device literal holds)
        · simp only [use, if_true, success, reloaded] at used
          cases used
          exact ⟨rfl, rfl⟩
        · simp only [use, if_true, success, reloaded] at used
          cases used
          exact ⟨rfl, rfl⟩
    | false =>
        refine ⟨session, .refl session, fun _ _ typed => typed, fun failure reloaded => ?_,
          fun operands last reloaded => ?_⟩
        · simp only [use, Bool.false_eq_true, if_false, reloaded] at used
          cases used
          exact ⟨rfl, rfl⟩
        · simp only [use, Bool.false_eq_true, if_false, reloaded] at used
          cases used
          exact ⟨rfl, rfl⟩
  cases reloaded : middle.reload offset isText with
  | error failure =>
      obtain ⟨rfl, rfl⟩ := failed failure reloaded
      exact ⟨leads, keeps, by simp⟩
  | ok result =>
      obtain ⟨operands, last⟩ := result
      obtain ⟨rfl, rfl⟩ := succeeded operands last reloaded
      obtain ⟨moreLeads, available⟩ := reload_leads (leads.coherent coherent) reloaded
      refine ⟨leads.trans moreLeads, fun types own typed => ?_, ?_⟩
      · obtain ⟨globals, -, -, -, same⟩ := reload_eq_ok reloaded
        rw [same]
        exact (keeps types own typed).of_code (leads.coherent coherent) (by
          have grows := moreLeads.grows
          rw [same] at grows
          exact grows)
      · rintro _ ⟨⟩
        exact available

/-- The operands of a used literal have the types of its globals. -/
theorem use_types {session after : Session} {type : DataType} {offset : Nat} {isText new : Bool}
    {operands : List Operand} (used : session.use type offset isText new = (.ok operands, after)) :
    ∃ globals, after.table.get? offset = some globals ∧
      operands.map Operand.type = globals.globals.map after.code.globalType := by
  simp only [use] at used
  split at used
  · cases used
  · split at used
    · cases used
    · rename_i reloaded
      cases used
      obtain ⟨globals, known, -, rfl, rfl⟩ := reload_eq_ok reloaded
      refine ⟨globals, known, ?_⟩
      rw [Module.loadAll_types]
      refine List.map_congr_left fun global _ => ?_
      rw [Module.globalType, Module.globalType, Module.loadAll_globals]

/-- After a registration every device holds the literal of its constant. -/
theorem literal_of_device {workspace registered : Workspace} {constants : List Constant}
    {encoding : StringEncoding} {type : DataType} {offset : Nat}
    (wellFormed : workspace.session.BuffersWellFormed)
    (devices : constants.length = workspace.session.devices)
    (registration : registerAll encoding type 0 none workspace constants =
      (.ok (some offset), registered)) {device : Nat}
    (inside : device < registered.session.devices) :
    ∃ constant literal, constant ∈ constants ∧ constant.type = type ∧
      literalOf constant encoding registered.registry = .ok (literal, registered.registry) ∧
      registered.session.Holds device offset literal := by
  have registers := (registerAll_registers encoding type constants 0 none workspace).1
  rw [registration] at registers
  have listed : device < constants.length := by
    rw [devices, ← registers.leads.devices]
    exact inside
  obtain ⟨sameType, literal, ofConstant, holds⟩ :=
    registerAll_holds wellFormed registration device _ (List.getElem?_eq_getElem listed)
  rw [Nat.zero_add] at holds
  exact ⟨_, literal, List.getElem_mem listed, sameType, ofConstant, holds⟩

/-- The literals that a hoisting call decodes first are decoded to the types that are assigned to
them. -/
def Decides (before after : Workspace) (constants : List Constant) (encoding : StringEncoding)
    (types : Literal → List Ty) : Prop :=
  ∀ constant ∈ constants, ∀ offset device literal,
    before.session.table.get? offset = none → after.session.Holds device offset literal →
    literalOf constant encoding after.registry = .ok (literal, after.registry) →
    decodedTypes constant.type (isUnencoded constant.type encoding) = types literal

/-- A hoisting call is a step, which keeps the types of decoded literals, and its operands provide
the constants of the devices. -/
theorem hoist_steps {workspace after : Workspace} {constants : List Constant}
    {encoding : StringEncoding} {outcome : Except Error (List Operand)}
    (coherent : workspace.session.Coherent)
    (devices : constants.length = workspace.session.devices)
    (hoisted : workspace.hoist constants encoding = (outcome, after)) :
    workspace.session.Leads after.session ∧ workspace.registry.Grows after.registry ∧
      (∀ types, Decides workspace after constants encoding types →
        workspace.session.TypedBy types → after.session.TypedBy types) ∧
      ∀ operands, outcome = .ok operands → after.Provides constants encoding operands := by
  cases constants with
  | nil =>
      cases hoisted
      exact ⟨.refl _, .refl _, fun _ _ typed => typed, by simp⟩
  | cons first rest =>
      obtain ⟨registers, grows, -⟩ :=
        registerAll_registers encoding first.type (first :: rest) 0 none workspace
      simp only [hoist] at hoisted
      split at hoisted
      · rename_i failure registered registration
        rw [registration] at registers grows
        cases hoisted
        exact ⟨registers.leads, grows, fun _ _ typed => typed.registers registers coherent,
          by simp⟩
      · rename_i registered registration
        rw [registration] at registers grows
        cases hoisted
        exact ⟨registers.leads, grows, fun _ _ typed => typed.registers registers coherent,
          by simp⟩
      · rename_i offset registered registration
        rw [registration] at registers grows
        obtain ⟨literal, registry, buffer, made, found, offsetEq, foundAfter⟩ :=
          registerAll_first registration
        have inhabited : 0 < registered.session.devices :=
          (List.getElem?_eq_some_iff.mp foundAfter).1
        have held : ∀ device < registered.session.devices, ∃ literal,
            registered.session.Holds device offset literal ∧
              Fits first.type literal (isUnencoded first.type encoding) := by
          intro device inside
          obtain ⟨constant, literal, -, sameType, ofConstant, holds⟩ :=
            literal_of_device coherent.wellFormed devices registration inside
          exact ⟨literal, holds, sameType ▸ literalOf_fits ofConstant⟩
        have unknown : isNew workspace.session registered.session = true →
            registered.session.table.get? offset = none := by
          intro new
          rw [isNew_iff (coherent.wellFormed 0 buffer found) found foundAfter] at new
          rw [registers.table, offsetEq]
          exact coherent.unknown found new
        cases used : registered.session.use first.type offset (isUnencoded first.type encoding)
            (isNew workspace.session registered.session) with
        | mk result session =>
            obtain ⟨leads, keeps, available⟩ :=
              use_leads (registers.leads.coherent coherent) inhabited unknown held used
            have same : ({ registered with session } : Workspace) = after ∧ result = outcome := by
              unfold isUnencoded isNew at used
              rw [used] at hoisted
              cases hoisted
              exact ⟨rfl, rfl⟩
            obtain ⟨rfl, rfl⟩ := same
            refine ⟨registers.leads.trans leads, grows, fun types decides typed => ?_,
              fun operands success => ?_⟩
            · refine keeps types (fun new device literal holds => ?_)
                (typed.registers registers coherent)
              have inside : device < registered.session.devices := by
                obtain ⟨buffer, bufferFound, -⟩ := holds
                exact (List.getElem?_eq_some_iff.mp bufferFound).1
              obtain ⟨constant, other, member, sameType, ofConstant, otherHolds⟩ :=
                literal_of_device coherent.wellFormed devices registration inside
              obtain rfl := otherHolds.unique holds
              rw [← sameType]
              exact decides constant member offset device other (registers.table ▸ unknown new)
                (leads.holds device offset other holds) ofConstant
            refine ⟨offset, available operands success, fun device constant listed => ?_⟩
            obtain ⟨-, literal, ofConstant, holds⟩ :=
              registerAll_holds coherent.wellFormed registration device constant listed
            rw [Nat.zero_add] at holds
            exact ⟨literal, ofConstant, leads.holds device offset literal holds⟩

/-- Where no constant is a null of a boolean type without nulls, a hoisting call decodes literals to
their own types. -/
theorem hoist_leads {workspace after : Workspace} {constants : List Constant}
    {encoding : StringEncoding} {outcome : Except Error (List Operand)}
    (coherent : workspace.session.Coherent)
    (devices : constants.length = workspace.session.devices)
    (hoisted : workspace.hoist constants encoding = (outcome, after)) :
    workspace.session.Leads after.session ∧ workspace.registry.Grows after.registry ∧
      ((∀ constant ∈ constants, constant.isNullTruth = false) → workspace.session.Faithful →
        after.session.Faithful) ∧
      ∀ operands, outcome = .ok operands → after.Provides constants encoding operands := by
  obtain ⟨leads, grows, keeps, provides⟩ := hoist_steps coherent devices hoisted
  refine ⟨leads, grows, fun regular faithful => ?_, provides⟩
  refine keeps Literal.ownTypes (fun constant member offset device literal _ _ made => ?_) faithful
  exact literalOf_ownTypes (regular constant member) made

end Workspace

end QueryKernel
