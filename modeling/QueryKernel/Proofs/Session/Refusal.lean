import QueryKernel.Proofs.Session.Acceptance

/-!
Contract: a hoisting call that is refused a constant for a reason that is reported.

The devices register their literals one after the other, and none of them takes its literal back
when a later constant is refused.

Owns:
- the refusals that are reported, none of which has changed a dictionary;
- the registrations in front of a refused constant;
- that everything behind the registration fails in breaches only;
- the session that a refused call leaves, and when it is the session before the call.

Does not own: what later calls make of it.
-/

namespace QueryKernel

open QueryKernel.Ir (Module Operand)
open QueryKernel.Sql (Constant DataType)
open QueryKernel.Dictionary (Registry)

/-! ### Reportable refusals -/

section Refusals

variable {constant other : Constant} {encoding : StringEncoding} {registry known : Registry}
  {literal : Literal} {failure : Error}

/-- A reportable refusal is about the length of a string, or about a dictionary that does not
exist. -/
theorem literalOf_reportable (failed : literalOf constant encoding registry = .error failure)
    (reportable : failure.isFatal = false) :
    encoding.encoding = .plain ∨ registry.find encoding.dictionary = .error failure := by
  have judged := verdict constant encoding registry
  generalize constant.isAdmissible encoding registry = accepted at judged
  cases judged with
  | accepted made =>
      rw [failed] at made
      contradiction
  | refused hoisting embedding refusal =>
      rw [failed] at hoisting
      cases hoisting
      cases refusal with
      | unsupported kind => contradiction
      | mismatched payload => contradiction
      | overflow integer wide => contradiction
      | long mode text long => exact .inl mode
      | noDictionary mode missing =>
          right
          rw [Registry.find, missing]
      | noDictionaryNoText mode missing noText =>
          right
          rw [Registry.find, missing]

/-- A literal that was made in front of a reportable refusal has not changed the dictionaries. -/
theorem registry_of_refused (made : literalOf constant encoding registry = .ok (literal, known))
    (failed : literalOf other encoding known = .error failure)
    (reportable : failure.isFatal = false) : known = registry := by
  have grows := literalOf_grows made
  rcases literalOf_cases made with ⟨handle, value, mode, found, -⟩ | ⟨same, -⟩
  · -- The dictionary of an id exists, so that nothing but a length could be reported.
    rcases literalOf_reportable failed reportable with plain | missing
    · rw [mode] at plain
      contradiction
    · rw [grows.find, found] at missing
      contradiction
  · exact same

end Refusals

/-! ### Registration up to a refusal -/

/-- The buffers of the devices, of which the first ones have registered one literal each. -/
def Literal.Buffer.addEach (buffers : List Literal.Buffer) (literals : List Literal) :
    List Literal.Buffer :=
  buffers.mapIdx fun device buffer =>
    match literals[device]? with
    | some literal => (buffer.add literal).2
    | none => buffer

open Literal (Buffer)

theorem Literal.Buffer.getElem?_addEach (buffers : List Buffer) (literals : List Literal)
    (device : Nat) :
    (addEach buffers literals)[device]? = buffers[device]?.map fun buffer =>
      match literals[device]? with
      | some literal => (buffer.add literal).2
      | none => buffer := by
  rw [addEach, List.getElem?_mapIdx]

theorem Literal.Buffer.addEach_cons (buffer : Buffer) (buffers : List Buffer) (literal : Literal)
    (literals : List Literal) :
    addEach (buffer :: buffers) (literal :: literals) =
      (buffer.add literal).2 :: addEach buffers literals := by
  simp [addEach]

/-- Nothing is left exactly if each literal was there already. -/
theorem Literal.Buffer.addEach_eq_self_iff {buffers : List Buffer} {literals : List Literal} :
    addEach buffers literals = buffers ↔ ∀ (device : Nat) (buffer : Buffer) (literal : Literal),
      buffers[device]? = some buffer → literals[device]? = some literal →
        literal ∈ buffer.literals := by
  constructor
  · intro same device buffer literal found added
    have kept := congrArg (·[device]?) same
    simp only [getElem?_addEach, found, added, Option.map_some] at kept
    exact add_eq_self_iff.mp (Option.some.inj kept)
  · intro registered
    refine List.ext_getElem? fun device => ?_
    rw [getElem?_addEach]
    cases found : buffers[device]? with
    | none => rfl
    | some buffer =>
        rw [Option.map_some]
        split
        · rename_i literal added
          rw [add_eq_self_iff.mpr (registered device buffer literal found added)]
        · rfl

theorem Literal.Buffer.addEach_nil (buffers : List Buffer) : addEach buffers [] = buffers :=
  addEach_eq_self_iff.mpr (by simp)

namespace Session

section Registration

variable {encoding : StringEncoding} {type : DataType} {constants : List Constant}
  {agreed : Option Nat} {workspace after : Workspace} {done rest : List Buffer} {failure : Error}

/-- One device of a registration that fails for a reportable reason. Either the constant of the
device is refused, or its literal is registered and a later constant is refused. -/
theorem registerAll_cons_error {constant : Constant}
    (buffers : workspace.session.buffers = done ++ rest)
    (failed : registerAll encoding type done.length agreed workspace (constant :: constants) =
      (.error failure, after)) (reportable : failure.isFatal = false) :
    constant.type = type ∧
      ((literalOf constant encoding workspace.registry = .error failure ∧ after = workspace) ∨
        ∃ literal known buffer later,
          literalOf constant encoding workspace.registry = .ok (literal, known) ∧
          rest = buffer :: later ∧
          (∀ common, agreed = some common → common = (buffer.add literal).1) ∧
          registerAll encoding type (done ++ [(buffer.add literal).2]).length
              (some (buffer.add literal).1)
              ⟨{ workspace.session with buffers := done ++ [(buffer.add literal).2] ++ later },
                known⟩ constants =
            (.error failure, after)) := by
  by_cases sameType : constant.type = type
  · subst sameType
    refine ⟨rfl, ?_⟩
    cases made : literalOf constant encoding workspace.registry with
    | error cause =>
        simp only [registerAll, if_true, Workspace.addLiteral, made] at failed
        cases failed
        exact .inl ⟨rfl, rfl⟩
    | ok result =>
        right
        rcases result with ⟨literal, known⟩
        cases rest with
        | nil =>
            -- There is no such device.
            have missing : workspace.session.buffers[done.length]? = none := by
              rw [buffers, List.append_nil, List.getElem?_eq_none (Nat.le_refl _)]
            simp only [registerAll, if_true, Workspace.addLiteral, made, Session.buffer,
              missing] at failed
            cases failed
            contradiction
        | cons buffer later =>
            have step := registerAll_cons made workspace.session done buffer later agreed constants
            rw [← buffers] at step
            rw [step] at failed
            split at failed
            · rename_i agrees
              refine ⟨literal, known, buffer, later, rfl, rfl, ?_, failed⟩
              rintro common rfl
              rw [Option.all_some, decide_eq_true_eq] at agrees
              exact agrees.symm
            · cases failed
              contradiction
  · rw [registerAll, if_neg sameType] at failed
    cases failed
    contradiction

/-- A registration that is refused has registered the literals of the constants in front of the
refused one, each on its device, and nothing else. -/
theorem registerAll_refused (buffers : workspace.session.buffers = done ++ rest)
    (failed : registerAll encoding type done.length agreed workspace constants =
      (.error failure, after)) (reportable : failure.isFatal = false) :
    ∃ front refused back literals, constants = front ++ refused :: back ∧
      refused.type = type ∧ literalOf refused encoding workspace.registry = .error failure ∧
      List.Forall₂ (fun constant literal => constant.type = type ∧
        literalOf constant encoding workspace.registry = .ok (literal, workspace.registry))
        front literals ∧
      (∃ offset, (∀ common, agreed = some common → common = offset) ∧
        ∀ (device : Nat) (buffer : Buffer) (literal : Literal), rest[device]? = some buffer →
          literals[device]? = some literal → (buffer.add literal).1 = offset) ∧
      after = ⟨{ workspace.session with buffers := done ++ Buffer.addEach rest literals },
        workspace.registry⟩ := by
  induction constants generalizing agreed workspace done rest with
  | nil => cases failed
  | cons constant others inductionHypothesis =>
      obtain ⟨sameType, step⟩ := registerAll_cons_error buffers failed reportable
      rcases step with ⟨refusal, rfl⟩ | ⟨literal, known, buffer, later, made, rfl, agrees, behind⟩
      · refine ⟨[], constant, others, [], rfl, sameType, refusal, .nil,
          ⟨agreed.getD 0, by rintro common rfl; rfl, by simp⟩, ?_⟩
        rw [Buffer.addEach_nil, ← buffers]
      · obtain ⟨front, refused, back, literals, rfl, refusedType, refusal, others,
          ⟨offset, decided, offsets⟩, rfl⟩ := inductionHypothesis rfl behind
        obtain rfl := registry_of_refused made refusal reportable
        obtain rfl := decided _ rfl
        refine ⟨constant :: front, refused, back, literal :: literals, rfl, refusedType, refusal,
          .cons ⟨sameType, made⟩ others, ⟨(buffer.add literal).1, agrees, ?_⟩, ?_⟩
        · intro device stored added found listed
          cases device with
          | zero =>
              cases found
              cases listed
              rfl
          | succ device => exact offsets device stored added found listed
        · simp only [Buffer.addEach_cons, List.append_assoc, List.singleton_append]

end Registration

/-! ### Failures behind the registration -/

section Breaches

variable {code : Module} {session : Session} {type : DataType} {offset : Nat} {isText : Bool}
  {failure : Error}

theorem addGlobal_error {name : String} {type : Ir.Ty}
    (failed : code.addGlobal name type = .error failure) : ∃ cause, failure = .breach cause := by
  unfold Module.addGlobal at failed
  split at failed
  · cases failed
    exact ⟨_, rfl⟩
  · contradiction

theorem decodeString_error (failed : (decodeString code offset).1 = .error failure) :
    ∃ cause, failure = .breach cause := by
  simp only [decodeString, storeString] at failed
  split at failed
  · rename_i defined
    cases failed
    exact addGlobal_error defined
  · split at failed
    · rename_i defined
      cases failed
      exact addGlobal_error defined
    · split at failed
      · rename_i defined
        cases failed
        exact addGlobal_error defined
      · contradiction

theorem decodeScalar_error (failed : (decodeScalar code type offset).1 = .error failure) :
    ∃ cause, failure = .breach cause := by
  simp only [decodeScalar, storeScalar] at failed
  split at failed
  · rename_i unsized
    cases failed
    unfold DataType.bitWidth at unsized
    split at unsized <;> cases unsized
    exact ⟨_, rfl⟩
  · split at failed
    · split at failed
      · rename_i defined
        cases failed
        exact addGlobal_error defined
      · contradiction
    · cases failed
      exact ⟨_, rfl⟩

theorem materialize_error (failed : (session.materialize type offset isText).1 = .error failure) :
    ∃ cause, failure = .breach cause := by
  simp only [materialize] at failed
  split at failed
  · rename_i undecoded
    cases failed
    cases isText with
    | true => exact decodeString_error undecoded
    | false => exact decodeScalar_error undecoded
  · unfold MaterializedTable.insert at failed
    split at failed
    · contradiction
    · cases failed
      exact ⟨_, rfl⟩

theorem reload_error (failed : session.reload offset isText = .error failure) :
    ∃ cause, failure = .breach cause := by
  unfold reload at failed
  split at failed
  · cases failed
    exact ⟨_, rfl⟩
  · contradiction
  · contradiction
  · cases failed
    exact ⟨_, rfl⟩

theorem use_error {new : Bool}
    (failed : (session.use type offset isText new).1 = .error failure) :
    ∃ cause, failure = .breach cause := by
  simp only [use] at failed
  split at failed
  · rename_i undecoded
    cases failed
    cases new with
    | true => exact materialize_error undecoded
    | false => contradiction
  · split at failed
    · rename_i unloaded
      cases failed
      exact reload_error unloaded
    · contradiction

end Breaches

/-! ### Refused calls -/

/-- The devices of a session, with one literal more on each of the first ones. -/
def addEach (session : Session) (literals : List Literal) : Session :=
  { session with buffers := Buffer.addEach session.buffers literals }

/-- Each of the first devices holds its literal. -/
def HoldsEach (session : Session) (literals : List Literal) : Prop :=
  ∀ (device : Nat) (buffer : Buffer) (added : Literal),
    session.buffers[device]? = some buffer → literals[device]? = some added →
      added ∈ buffer.literals

/-- Nothing is left exactly if each device held its literal before. -/
theorem addEach_eq_self_iff {session : Session} {literals : List Literal} :
    session.addEach literals = session ↔ session.HoldsEach literals := by
  rw [HoldsEach, ← Buffer.addEach_eq_self_iff]
  constructor
  · intro same
    exact congrArg Session.buffers same
  · intro same
    rw [addEach, same]

end Session

/-- A hoisting call that fails for a reportable reason was refused a constant. The devices in front
of it have registered their literals, at one offset, and nothing else has changed. -/
theorem refused_hoist {session : Session} {registry : Registry} {constants : List Constant}
    {encoding : StringEncoding} {failure : Error} {after : Workspace}
    (failed : Workspace.hoist ⟨session, registry⟩ constants encoding = (.error failure, after))
    (reportable : failure.isFatal = false) :
    ∃ front refused back literals, constants = front ++ refused :: back ∧
      literalOf refused encoding registry = .error failure ∧
      List.Forall₂ (fun constant literal => constant.type = refused.type ∧
        literalOf constant encoding registry = .ok (literal, registry)) front literals ∧
      (∃ offset, ∀ (device : Nat) (buffer : Buffer) (added : Literal),
        session.buffers[device]? = some buffer → literals[device]? = some added →
          (buffer.add added).1 = offset) ∧
      after = ⟨session.addEach literals, registry⟩ := by
  obtain ⟨type, registration⟩ : ∃ type,
      Session.registerAll encoding type 0 none ⟨session, registry⟩ constants =
        (.error failure, after) := by
    cases constants with
    | nil =>
        cases failed
        contradiction
    | cons first rest =>
        simp only [Workspace.hoist] at failed
        split at failed
        · rename_i registration
          cases failed
          exact ⟨first.type, registration⟩
        · cases failed
          contradiction
        · obtain ⟨cause, rfl⟩ := Session.use_error (Prod.mk.inj failed).1
          contradiction
  obtain ⟨front, refused, back, literals, split, rfl, refusal, made, ⟨offset, -, offsets⟩, same⟩ :=
    @Session.registerAll_refused encoding type _ none ⟨session, registry⟩ after [] session.buffers
      failure rfl registration reportable
  exact ⟨front, refused, back, literals, split, refusal, made, ⟨offset, offsets⟩, same⟩

end QueryKernel
