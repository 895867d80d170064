import QueryKernel.Proofs.Attempt
import QueryKernel.Proofs.Dictionary.Binding
import QueryKernel.Proofs.Literal.Layout
import QueryKernel.Proofs.Session.Immediates
import QueryKernel.Session.Hoist

/-!
Contract: registering literals, for one device and for all of them.

Owns:
- the literal of a constant does not depend on when it is asked for, once it was asked
  for;
- what registration changes in a workspace, whether it succeeds or fails;
- dictionaries only grow in a call, hoisting or not;
- the main statement: after a successful registration every device holds the literal of
  its own constant at the common offset.

Does not own: the code that reads the literals.
-/

namespace QueryKernel

open QueryKernel.Sql (Constant DataType)
open QueryKernel.Dictionary (Registry)

/-! ### The literal of a constant -/

/-- The literal of a string either is an id that its dictionary gives, in a dictionary encoding, or
owes nothing to the dictionaries. -/
theorem stringLiteral_cases {constant : Constant} {encoding : StringEncoding}
    {registry after : Registry} {literal : Literal}
    (made : stringLiteral constant encoding registry = .ok (literal, after)) :
    (∃ handle value, encoding.encoding = .dictionary ∧
      registry.find encoding.dictionary = .ok handle ∧
      literal = .int32 (registry.idOf handle value).1 ∧ after = (registry.idOf handle value).2 ∧
      ∀ other : Registry, other.find encoding.dictionary = .ok handle →
        stringLiteral constant encoding other =
          .ok (.int32 (other.idOf handle value).1, (other.idOf handle value).2)) ∨
    (after = registry ∧
      ∀ other : Registry, stringLiteral constant encoding other = .ok (literal, other)) := by
  cases mode : encoding.encoding with
  | dictionary =>
      by_cases isNull : constant.isNull
      · simp only [stringLiteral, mode, isNull, if_true, Registry.nullId_eq] at made ⊢
        cases made
        exact .inr ⟨rfl, fun _ => rfl⟩
      · simp only [stringLiteral, mode, isNull] at made ⊢
        obtain ⟨handle, handleEq, rest⟩ := bind_eq_ok.mp made
        obtain ⟨value, valueEq, same⟩ := bind_eq_ok.mp rest
        cases same
        exact .inl ⟨handle, value, trivial, handleEq, rfl, rfl, fun other otherEq =>
          bind_eq_ok.mpr ⟨handle, otherEq, bind_eq_ok.mpr ⟨value, valueEq, rfl⟩⟩⟩
  | plain =>
      by_cases isNull : constant.isNull
      · simp only [stringLiteral, mode, isNull, if_true] at made ⊢
        cases made
        exact .inr ⟨rfl, fun _ => rfl⟩
      · simp only [stringLiteral, mode, isNull] at made ⊢
        obtain ⟨value, valueEq, rest⟩ := bind_eq_ok.mp made
        split at rest
        · contradiction
        · rename_i short
          cases same : rest
          exact .inr ⟨rfl, fun other =>
            bind_eq_ok.mpr ⟨value, valueEq, by rw [if_neg short]; rfl⟩⟩

/-- A literal either is an id that the dictionary gives to a string, or owes nothing to the
dictionaries. -/
theorem literalOf_cases {constant : Constant} {encoding : StringEncoding}
    {registry after : Registry} {literal : Literal}
    (made : literalOf constant encoding registry = .ok (literal, after)) :
    (∃ handle value, encoding.encoding = .dictionary ∧
      registry.find encoding.dictionary = .ok handle ∧
      literal = .int32 (registry.idOf handle value).1 ∧ after = (registry.idOf handle value).2 ∧
      ∀ other : Registry, other.find encoding.dictionary = .ok handle →
        literalOf constant encoding other =
          .ok (.int32 (other.idOf handle value).1, (other.idOf handle value).2)) ∨
    (after = registry ∧
      ∀ other : Registry, literalOf constant encoding other = .ok (literal, other)) := by
  -- Outside the strings, only the literal is computed.
  have plain : ∀ {α : Type} {computed : Except Error α} {wrap : α → Literal},
      (computed >>= fun value => .ok (wrap value, registry)) = .ok (literal, after) →
      after = registry ∧ ∀ other : Registry,
        (computed >>= fun value => Except.ok (ε := Error) (wrap value, other)) =
          .ok (literal, other) := by
    intro α computed wrap success
    obtain ⟨value, valueEq, same⟩ := bind_eq_ok.mp success
    cases same
    exact ⟨rfl, fun other => bind_eq_ok.mpr ⟨value, valueEq, rfl⟩⟩
  cases storage : constant.type.storage
  case char | varchar | text =>
    simp only [literalOf, storage] at made ⊢
    exact stringLiteral_cases made
  all_goals
    simp only [literalOf, storage] at made ⊢
  case array | point | decimal => contradiction
  case float | double =>
    split at made
    · rename_i isNull
      simp only [isNull, if_true]
      exact .inr (plain made)
    · rename_i given
      simp only [given]
      exact .inr (plain made)
  all_goals exact .inr (plain made)

/-- Making a literal lets the dictionaries grow. -/
theorem literalOf_grows {constant : Constant} {encoding : StringEncoding}
    {registry after : Registry} {literal : Literal}
    (made : literalOf constant encoding registry = .ok (literal, after)) :
    registry.Grows after := by
  rcases literalOf_cases made with ⟨handle, value, -, -, -, rfl, -⟩ | ⟨rfl, -⟩
  · exact Registry.idOf_grows registry handle value
  · exact Registry.Grows.refl after

/-- A constant that became a literal becomes the same literal wherever the dictionaries repeat
their answers, and nothing is inserted any more. -/
theorem literalOf_again {constant : Constant} {encoding : StringEncoding}
    {registry after later : Registry} {literal : Literal}
    (made : literalOf constant encoding registry = .ok (literal, after))
    (repeats : after.Repeats later) :
    literalOf constant encoding later = .ok (literal, later) := by
  rcases literalOf_cases made with ⟨handle, value, -, found, rfl, rfl, again⟩ | ⟨-, again⟩
  · have known := Registry.idOf_stable (Registry.Grows.refl (registry.idOf handle value).2)
    have bound := (Registry.idOf_grows registry handle value).find encoding.dictionary
    rcases repeats _ handle value (bound.trans found) (by rw [known]) with ⟨foundAgain, repeated⟩
    rw [again later foundAgain, repeated, known]
  · exact again later

/-- So it does after any growth of the dictionaries. -/
theorem literalOf_stable {constant : Constant} {encoding : StringEncoding}
    {registry after later : Registry} {literal : Literal}
    (made : literalOf constant encoding registry = .ok (literal, after))
    (grows : after.Grows later) :
    literalOf constant encoding later = .ok (literal, later) :=
  literalOf_again made grows.repeats

/-! ### One device -/

/-- What registration keeps of a session: the code, the table of decoded literals and the
slots of every buffer. -/
structure Session.Registers (before after : Session) : Prop where
  code : after.code = before.code
  table : after.table = before.table
  devices : after.buffers.length = before.buffers.length
  buffers : ∀ (device : Nat) (buffer : Literal.Buffer), before.buffers[device]? = some buffer →
    ∃ grown, after.buffers[device]? = some grown ∧ buffer.Grows grown ∧
      (buffer.WellFormed → grown.WellFormed)

theorem Session.Registers.refl (session : Session) : Registers session session :=
  ⟨rfl, rfl, rfl, fun _ buffer found => ⟨buffer, found, .refl buffer, id⟩⟩

theorem Session.Registers.trans {first second third : Session} (front : Registers first second)
    (back : Registers second third) : Registers first third where
  code := back.code.trans front.code
  table := back.table.trans front.table
  devices := back.devices.trans front.devices
  buffers device buffer found := by
    obtain ⟨middle, middleFound, frontGrows, frontKeeps⟩ := front.buffers device buffer found
    obtain ⟨last, lastFound, backGrows, backKeeps⟩ := back.buffers device middle middleFound
    exact ⟨last, lastFound, frontGrows.trans backGrows, backKeeps ∘ frontKeeps⟩

theorem Session.Registers.buffer_of_after {before after : Session}
    (registers : before.Registers after) {device : Nat} {grown : Literal.Buffer}
    (found : after.buffers[device]? = some grown) :
    ∃ buffer, before.buffers[device]? = some buffer ∧ buffer.Grows grown ∧
      (buffer.WellFormed → grown.WellFormed) := by
  have inside : device < before.buffers.length := by
    rw [← registers.devices]
    exact (List.getElem?_eq_some_iff.mp found).1
  obtain ⟨other, otherFound, kept⟩ :=
    registers.buffers device _ (List.getElem?_eq_getElem inside)
  rw [found] at otherFound
  cases otherFound
  exact ⟨_, List.getElem?_eq_getElem inside, kept⟩

/-- All buffers of a session are well formed. -/
def Session.BuffersWellFormed (session : Session) : Prop :=
  ∀ (device : Nat) (buffer : Literal.Buffer), session.buffers[device]? = some buffer →
    buffer.WellFormed

theorem Session.Registers.wellFormed {before after : Session}
    (registers : before.Registers after) (wellFormed : before.BuffersWellFormed) :
    after.BuffersWellFormed := by
  intro device grown found
  obtain ⟨buffer, bufferFound, -, keeps⟩ := registers.buffer_of_after found
  exact keeps (wellFormed device buffer bufferFound)

namespace Workspace

/-- A successful registration for one device. -/
theorem addLiteral_eq_ok {workspace after : Workspace} {constant : Constant}
    {encoding : StringEncoding} {device offset : Nat}
    (added : workspace.addLiteral constant encoding device = (.ok offset, after)) :
    ∃ literal buffer,
      literalOf constant encoding workspace.registry = .ok (literal, after.registry) ∧
      workspace.session.buffers[device]? = some buffer ∧
      offset = (buffer.add literal).1 ∧
      after.session = { workspace.session with
        buffers := workspace.session.buffers.set device (buffer.add literal).2 } := by
  unfold addLiteral at added
  split at added
  · cases added
  · rename_i literal registry made
    unfold Session.buffer at added
    split at added
    · cases added
    · rename_i buffer found
      split at found
      · rename_i stored storedAt
        cases found
        cases added
        exact ⟨literal, buffer, made, storedAt, rfl, rfl⟩
      · contradiction

/-- Whether it succeeds or fails, a registration lets buffers and dictionaries grow and
leaves the other devices alone. -/
theorem addLiteral_registers (workspace : Workspace) (constant : Constant)
    (encoding : StringEncoding) (device : Nat) :
    workspace.session.Registers (workspace.addLiteral constant encoding device).2.session ∧
      workspace.registry.Grows (workspace.addLiteral constant encoding device).2.registry ∧
      ∀ other ≠ device,
        (workspace.addLiteral constant encoding device).2.session.buffers[other]? =
          workspace.session.buffers[other]? := by
  cases outcome : workspace.addLiteral constant encoding device with
  | mk result after =>
      cases result with
      | error failure =>
          unfold addLiteral at outcome
          split at outcome
          · cases outcome
            exact ⟨.refl _, .refl _, fun _ _ => rfl⟩
          · rename_i literal registry made
            split at outcome
            · cases outcome
              exact ⟨.refl _, literalOf_grows made, fun _ _ => rfl⟩
            · cases outcome
      | ok offset =>
          obtain ⟨literal, buffer, made, found, -, same⟩ := addLiteral_eq_ok outcome
          dsimp only
          rw [same]
          refine ⟨⟨rfl, rfl, List.length_set, fun place stored storedAt => ?_⟩,
            literalOf_grows made, fun other different => List.getElem?_set_ne (Ne.symm different)⟩
          by_cases here : place = device
          · subst here
            rw [found] at storedAt
            cases storedAt
            have inside := (List.getElem?_eq_some_iff.mp found).1
            exact ⟨_, List.getElem?_set_self inside,
              Literal.Buffer.add_grows buffer literal,
              fun wellFormed => (Literal.Buffer.add_spec wellFormed literal).1⟩
          · exact ⟨stored, by rw [List.getElem?_set_ne (Ne.symm here), storedAt], .refl stored, id⟩

end Workspace

namespace Session

/-! ### All devices -/

theorem registerAll_registers (encoding : StringEncoding) (type : DataType)
    (constants : List Constant) (device : Nat) (agreed : Option Nat) (workspace : Workspace) :
    workspace.session.Registers
        (registerAll encoding type device agreed workspace constants).2.session ∧
      workspace.registry.Grows
        (registerAll encoding type device agreed workspace constants).2.registry ∧
      ∀ other < device,
        (registerAll encoding type device agreed workspace constants).2.session.buffers[other]? =
          workspace.session.buffers[other]? := by
  induction constants generalizing device agreed workspace with
  | nil => exact ⟨.refl _, .refl _, fun _ _ => rfl⟩
  | cons constant rest inductionHypothesis =>
      have first := workspace.addLiteral_registers constant encoding device
      -- Whatever follows the first device starts from the workspace it left.
      have follow : ∀ agreed, _ := fun agreed =>
        inductionHypothesis (device + 1) agreed (workspace.addLiteral constant encoding device).2
      have chained : ∀ agreed,
          workspace.session.Registers (registerAll encoding type (device + 1) agreed
              (workspace.addLiteral constant encoding device).2 rest).2.session ∧
            workspace.registry.Grows (registerAll encoding type (device + 1) agreed
              (workspace.addLiteral constant encoding device).2 rest).2.registry ∧
            ∀ other < device, (registerAll encoding type (device + 1) agreed
              (workspace.addLiteral constant encoding device).2 rest).2.session.buffers[other]? =
                workspace.session.buffers[other]? := by
        intro agreed
        obtain ⟨registers, grows, others⟩ := follow agreed
        refine ⟨first.1.trans registers, first.2.1.trans grows, fun other below => ?_⟩
        rw [others other (by omega), first.2.2 other (by omega)]
      have alone := fun (other : Nat) (below : other < device) =>
        first.2.2 other (Nat.ne_of_lt below)
      simp only [registerAll]
      split
      · cases outcome : workspace.addLiteral constant encoding device with
        | mk result after =>
            rw [outcome] at first chained alone
            cases result with
            | error failure => exact ⟨first.1, first.2.1, alone⟩
            | ok offset =>
                cases agreed with
                | none => exact chained (some offset)
                | some common =>
                    dsimp only
                    split
                    · exact chained (some common)
                    · exact ⟨first.1, first.2.1, alone⟩
      · exact ⟨.refl _, .refl _, fun _ _ => rfl⟩

/-- The offset that a registration returns is the one that was agreed on before. -/
theorem registerAll_agreed {encoding : StringEncoding} {type : DataType}
    {constants : List Constant} {device common offset : Nat} {workspace after : Workspace}
    (registered : registerAll encoding type device (some common) workspace constants =
      (.ok (some offset), after)) : offset = common := by
  induction constants generalizing device workspace with
  | nil =>
      cases registered
      rfl
  | cons constant rest inductionHypothesis =>
      simp only [registerAll] at registered
      split at registered
      · split at registered
        · cases registered
        · split at registered
          · exact inductionHypothesis registered
          · cases registered
      · cases registered

/-- What a successful registration establishes for one device. -/
def Holds (session : Session) (device offset : Nat) (literal : Literal) : Prop :=
  ∃ buffer, session.buffers[device]? = some buffer ∧ (offset, literal) ∈ buffer.entries

theorem Holds.registers {before after : Session} (registers : before.Registers after)
    {device offset : Nat} {literal : Literal} (holds : before.Holds device offset literal) :
    after.Holds device offset literal := by
  obtain ⟨buffer, found, member⟩ := holds
  obtain ⟨grown, grownFound, grows, -⟩ := registers.buffers device buffer found
  exact ⟨grown, grownFound, grows.mem_entries member⟩

/-- After a successful registration every device holds the literal of its constant at the
common offset, and the dictionaries have come to know all of the constants. -/
theorem registerAll_holds {encoding : StringEncoding} {type : DataType}
    {constants : List Constant} {device offset : Nat} {agreed : Option Nat}
    {workspace after : Workspace} (wellFormed : workspace.session.BuffersWellFormed)
    (registered : registerAll encoding type device agreed workspace constants =
      (.ok (some offset), after)) :
    ∀ (place : Nat) (constant : Constant), constants[place]? = some constant →
      constant.type = type ∧ ∃ literal,
        literalOf constant encoding after.registry = .ok (literal, after.registry) ∧
        after.session.Holds (device + place) offset literal := by
  induction constants generalizing device agreed workspace with
  | nil =>
      intro place constant found
      simp at found
  | cons first rest inductionHypothesis =>
      simp only [registerAll] at registered
      split at registered
      · rename_i sameType
        cases outcome : workspace.addLiteral first encoding device with
        | mk result middle =>
            have firstRegisters := workspace.addLiteral_registers first encoding device
            rw [outcome] at registered firstRegisters
            cases result with
            | error failure => cases registered
            | ok firstOffset =>
                -- Either way the rest is registered for the offset of the first device.
                obtain ⟨remaining, common⟩ : registerAll encoding type (device + 1)
                    (some firstOffset) middle rest = (.ok (some offset), after) ∧
                      offset = firstOffset := by
                  cases agreed with
                  | none => exact ⟨registered, registerAll_agreed registered⟩
                  | some expected =>
                      dsimp only at registered
                      split at registered
                      · rename_i same
                        rw [← same] at registered
                        exact ⟨registered, registerAll_agreed registered⟩
                      · cases registered
                have restRegisters :=
                  registerAll_registers encoding type rest (device + 1) (some firstOffset) middle
                rw [remaining] at restRegisters
                intro place constant found
                cases place with
                | zero =>
                    cases found
                    obtain ⟨literal, buffer, made, stored, offsetEq, session⟩ :=
                      Workspace.addLiteral_eq_ok outcome
                    have spec := Literal.Buffer.add_spec (wellFormed device buffer stored) literal
                    refine ⟨sameType, literal, literalOf_stable made restRegisters.2.1,
                      Holds.registers restRegisters.1 ⟨(buffer.add literal).2, ?_, ?_⟩⟩
                    · rw [session]
                      exact List.getElem?_set_self (List.getElem?_eq_some_iff.mp stored).1
                    · rw [common, offsetEq]
                      exact spec.2
                | succ place =>
                    have later := inductionHypothesis (firstRegisters.1.wellFormed wellFormed)
                      remaining place constant found
                    rw [Nat.add_right_comm, Nat.add_assoc] at later
                    exact later
      · cases registered

/-! ### One constant for all devices -/

section Alike

variable {constant : Constant} {encoding : StringEncoding} {registry after : Registry}
  {literal : Literal}

/-- One more device registers a literal that the dictionaries know. -/
theorem registerAll_cons (made : literalOf constant encoding registry = .ok (literal, after))
    (session : Session) (done : List Literal.Buffer) (buffer : Literal.Buffer)
    (rest : List Literal.Buffer) (agreed : Option Nat) (constants : List Constant) :
    registerAll encoding constant.type done.length agreed
        ⟨{ session with buffers := done ++ buffer :: rest }, registry⟩ (constant :: constants) =
      if agreed.all ((buffer.add literal).1 = ·) then
        registerAll encoding constant.type (done ++ [(buffer.add literal).2]).length
          (some (buffer.add literal).1)
          ⟨{ session with buffers := done ++ [(buffer.add literal).2] ++ rest }, after⟩ constants
      else
        (.error (.breach (.offsetDisagreement done.length (buffer.add literal).1
          (agreed.getD 0))),
          ⟨{ session with buffers := done ++ [(buffer.add literal).2] ++ rest }, after⟩) := by
  have found : (done ++ buffer :: rest)[done.length]? = some buffer := by simp
  have replaced : (done ++ buffer :: rest).set done.length (buffer.add literal).2 =
      done ++ [(buffer.add literal).2] ++ rest := by
    rw [List.set_append_right _ _ (Nat.le_refl _), Nat.sub_self, List.set_cons_zero,
      List.append_assoc, List.singleton_append]
  rw [registerAll, if_pos rfl]
  simp only [Workspace.addLiteral, made, Session.buffer, found, replaced, List.length_append,
    List.length_singleton]
  cases agreed with
  | none => rfl
  | some common =>
      by_cases same : (buffer.add literal).1 = common
      · simp [same]
      · simp [same]

/-- Devices that all give a known literal one offset register it. If one of them gives it another
offset, the registration is a breach. -/
theorem registerAll_alike (made : literalOf constant encoding registry = .ok (literal, registry))
    (session : Session) (common : Nat) (done rest : List Literal.Buffer) :
    ((∀ buffer ∈ rest, (buffer.add literal).1 = common) →
      registerAll encoding constant.type done.length (some common)
          ⟨{ session with buffers := done ++ rest }, registry⟩
          (List.replicate rest.length constant) =
        (.ok (some common),
          ⟨{ session with buffers := done ++ rest.map fun buffer => (buffer.add literal).2 },
            registry⟩)) ∧
    (¬ (∀ buffer ∈ rest, (buffer.add literal).1 = common) →
      ∃ cause, (registerAll encoding constant.type done.length (some common)
          ⟨{ session with buffers := done ++ rest }, registry⟩
          (List.replicate rest.length constant)).1 = .error (.breach cause)) := by
  induction rest generalizing done with
  | nil => exact ⟨fun _ => by simp [registerAll], by simp⟩
  | cons buffer rest inductionHypothesis =>
      have others := inductionHypothesis (done ++ [(buffer.add literal).2])
      have constants : List.replicate (buffer :: rest).length constant =
          constant :: List.replicate rest.length constant := rfl
      rw [constants, registerAll_cons made session done buffer rest]
      by_cases here : (buffer.add literal).1 = common
      · rw [if_pos (by simp [here]), here, List.forall_mem_cons]
        constructor
        · rintro ⟨-, there⟩
          rw [others.1 there, List.map_cons, List.append_assoc, List.singleton_append]
        · intro disagree
          exact others.2 fun there => disagree ⟨here, there⟩
      · rw [if_neg (by simp [here]), List.forall_mem_cons]
        exact ⟨fun agree => absurd agree.1 here, fun _ => ⟨_, rfl⟩⟩

end Alike

end Session

/-! ### Dictionaries of a call -/

namespace Workspace

open QueryKernel.Ir (Operand)

theorem hoist_grows (workspace : Workspace) (constants : List Constant)
    (encoding : StringEncoding) :
    workspace.registry.Grows (workspace.hoist constants encoding).2.registry := by
  cases constants with
  | nil => exact .refl _
  | cons first rest =>
      have grows := (Session.registerAll_registers encoding first.type (first :: rest) 0 none
        workspace).2.1
      unfold hoist
      dsimp only
      split
      · rename_i failure after registered
        rw [registered] at grows
        exact grows
      · rename_i after registered
        rw [registered] at grows
        exact grows
      · rename_i offset after registered
        rw [registered] at grows
        exact grows

theorem immediate_grows {workspace after : Workspace} {constant : Constant}
    {encoding : StringEncoding} {operands : List Operand}
    (made : Session.immediate workspace constant encoding = .ok (operands, after)) :
    workspace.registry.Grows after.registry := by
  cases Session.immediate_eq_ok made with
  | id handle value => exact Registry.idOf_grows workspace.registry handle value
  | word | float | double | nullText | text => exact .refl _

/-- Whether it succeeds or fails, a call lets the dictionaries grow. -/
theorem generate_grows (workspace : Workspace) (constant : Constant) (encoding : StringEncoding)
    (hoisting : Bool) :
    workspace.registry.Grows (workspace.generate constant encoding hoisting).2.registry := by
  unfold generate
  cases hoisting with
  | true => exact hoist_grows workspace _ encoding
  | false =>
      rw [if_neg (by decide)]
      cases made : Session.immediate workspace constant encoding with
      | error failure => exact .refl _
      | ok result => exact immediate_grows made

end Workspace

end QueryKernel
