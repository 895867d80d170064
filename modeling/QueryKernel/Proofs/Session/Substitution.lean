import QueryKernel.Proofs.Session.Lockstep
import QueryKernel.Proofs.Sql.Likeness

/-!
Contract: what code generation sees of a constant and of the dictionaries.

Constants of alike types, whose payloads read alike, stand for each other in every call. A
call that succeeded can be made again wherever the dictionaries repeat their answers, with the
same result.

Owns:
- literals and immediates of alike constants;
- the main statement, for one call in lockstep.

Does not own: which constants are alike because a plan spells them alike.
-/

namespace QueryKernel

open QueryKernel.Ir (Operand)
open QueryKernel.Sql (Constant DataType)
open QueryKernel.Dictionary (Registry)

/-! ### Literals -/

/-- Encodings that differ at most in a dictionary that is not used. -/
structure StringEncoding.Alike (left right : StringEncoding) : Prop where
  encoding : left.encoding = right.encoding
  dictionary : left.encoding = .dictionary → left.dictionary = right.dictionary

/-- Code decodes literals of alike types alike. -/
theorem Session.use_alike {left right : DataType} (alike : left.Alike right) (session : Session)
    (offset : Nat) (isText isNew : Bool) :
    session.use left offset isText isNew = session.use right offset isText isNew := by
  have scalar : ∀ bits, Session.scalarType left bits = Session.scalarType right bits := by
    intro bits
    rw [Session.scalarType, Session.scalarType, alike.storage]
  have isBoolean : left.isBoolean = right.isBoolean := by
    rw [DataType.isBoolean, DataType.isBoolean, alike.kind]
  have decode : ∀ code, Session.decodeScalar code left offset =
      Session.decodeScalar code right offset := by
    intro code
    simp only [Session.decodeScalar, Session.loadScalar, alike.bitWidth, alike.notNull, scalar,
      isBoolean]
  simp only [Session.use, Session.materialize, decode]

section Constants

variable {left right : Constant} {encoding other : StringEncoding}

theorem Sql.Constant.Alike.own (alike : left.Alike right) :
    StringEncoding.Alike ⟨left.type.encoding, left.type.parameter⟩
      ⟨right.type.encoding, right.type.parameter⟩ :=
  ⟨alike.type.encoding, alike.type.dictionary⟩

theorem booleanLiteral_alike (alike : left.Alike right) {literal : Literal}
    (made : booleanLiteral left = .ok literal) : booleanLiteral right = .ok literal := by
  unfold booleanLiteral at made ⊢
  rw [← alike.isNull, ← alike.type.nullInteger, ← alike.type.notNull]
  refine ite_eq_ok_imp id (fun given => ?_) made
  obtain ⟨truth, truthEq, same⟩ := bind_eq_ok.mp given
  exact bind_eq_ok.mpr ⟨truth, (alike.bool truth).mp truthEq, same⟩

theorem stringLiteral_alike (alike : left.Alike right) (encodings : encoding.Alike other)
    {registry : Registry} {result : Literal × Registry}
    (made : stringLiteral left encoding registry = .ok result) :
    stringLiteral right other registry = .ok result := by
  unfold stringLiteral at made ⊢
  rw [← alike.isNull, ← encodings.encoding]
  cases mode : encoding.encoding with
  | dictionary =>
      simp only [mode] at made ⊢
      rw [← encodings.dictionary mode]
      refine ite_eq_ok_imp id (fun given => ?_) made
      obtain ⟨handle, found, rest⟩ := bind_eq_ok.mp given
      obtain ⟨value, valueEq, same⟩ := bind_eq_ok.mp rest
      exact bind_eq_ok.mpr ⟨handle, found,
        bind_eq_ok.mpr ⟨value, (alike.string value).mp valueEq, same⟩⟩
  | plain =>
      simp only [mode] at made ⊢
      refine ite_eq_ok_imp id (fun given => ?_) made
      obtain ⟨value, valueEq, rest⟩ := bind_eq_ok.mp given
      exact bind_eq_ok.mpr ⟨value, (alike.string value).mp valueEq, rest⟩

/-- Alike constants become the same literal. -/
theorem literalOf_alike (alike : left.Alike right) (encodings : encoding.Alike other)
    {registry : Registry} {result : Literal × Registry}
    (made : literalOf left encoding registry = .ok result) :
    literalOf right other registry = .ok result := by
  unfold literalOf at made ⊢
  rw [← alike.type.storage, ← alike.isNull]
  cases storage : left.type.storage
  case char | varchar | text =>
    simp only [storage] at made ⊢
    exact stringLiteral_alike alike encodings made
  all_goals
    simp only [storage] at made ⊢
  case array | point | decimal => contradiction
  case boolean =>
    obtain ⟨literal, literalEq, same⟩ := bind_eq_ok.mp made
    exact bind_eq_ok.mpr ⟨literal, booleanLiteral_alike alike literalEq, same⟩
  case float =>
    refine ite_eq_ok_imp id (fun given => ?_) made
    obtain ⟨value, valueEq, same⟩ := bind_eq_ok.mp given
    exact bind_eq_ok.mpr ⟨value, (alike.float value).mp valueEq, same⟩
  case double =>
    refine ite_eq_ok_imp id (fun given => ?_) made
    obtain ⟨value, valueEq, same⟩ := bind_eq_ok.mp given
    exact bind_eq_ok.mpr ⟨value, (alike.double value).mp valueEq, same⟩
  all_goals
    obtain ⟨value, stored, same⟩ := bind_eq_ok.mp made
    exact bind_eq_ok.mpr ⟨value, alike.storedInteger stored, same⟩

/-! ### Immediates -/

theorem immediateString_again (alike : left.Alike right) (encodings : encoding.Alike other)
    {session : Session} {registry later : Registry} {operands : List Operand} {after : Workspace}
    (made : Session.immediateString ⟨session, registry⟩ left encoding = .ok (operands, after))
    (repeats : after.registry.Repeats later) :
    Session.immediateString ⟨session, later⟩ right other =
      .ok (operands, ⟨after.session, later⟩) := by
  unfold Session.immediateString at made ⊢
  rw [← alike.isNull, ← encodings.encoding]
  cases mode : encoding.encoding with
  | dictionary =>
      simp only [mode, Registry.nullId_eq] at made ⊢
      rw [← encodings.dictionary mode]
      refine ite_eq_ok_imp (fun null => ?_) (fun given => ?_) made
      · cases null
        rfl
      · obtain ⟨value, valueEq, rest⟩ := bind_eq_ok.mp given
        obtain ⟨handle, found, same⟩ := bind_eq_ok.mp rest
        cases same
        have known := Registry.idOf_stable (Registry.Grows.refl (registry.idOf handle value).2)
        have bound := (Registry.idOf_grows registry handle value).find encoding.dictionary
        rcases repeats _ handle value (bound.trans found) (by rw [known]) with
          ⟨foundAgain, repeated⟩
        refine bind_eq_ok.mpr ⟨value, (alike.string value).mp valueEq,
          bind_eq_ok.mpr ⟨handle, foundAgain, ?_⟩⟩
        rw [known] at repeated
        simp only [repeated]
        rfl
  | plain =>
      simp only [mode] at made ⊢
      refine ite_eq_ok_imp (fun null => ?_) (fun given => ?_) made
      · cases null
        rfl
      · obtain ⟨value, valueEq, rest⟩ := bind_eq_ok.mp given
        refine bind_eq_ok.mpr ⟨value, (alike.string value).mp valueEq, ?_⟩
        split at rest
        · contradiction
        · rename_i short
          rw [if_neg short]
          cases rest
          rfl

theorem immediateBoolean_alike (alike : left.Alike right) {operand : Operand}
    (made : Session.immediateBoolean left = .ok operand) :
    Session.immediateBoolean right = .ok operand := by
  unfold Session.immediateBoolean at made ⊢
  rw [← alike.isNull, ← alike.type.nullInteger, ← alike.type.notNull]
  refine ite_eq_ok_imp id (fun given => ?_) made
  obtain ⟨truth, truthEq, same⟩ := bind_eq_ok.mp given
  exact bind_eq_ok.mpr ⟨truth, (alike.bool truth).mp truthEq, same⟩

theorem immediateInteger_alike (alike : left.Alike right) {operand : Operand}
    (made : Session.immediateInteger left = .ok operand) :
    Session.immediateInteger right = .ok operand := by
  obtain ⟨bits, width, rest⟩ := bind_eq_ok.mp made
  obtain ⟨value, stored, same⟩ := bind_eq_ok.mp rest
  exact bind_eq_ok.mpr ⟨bits, alike.type.bitWidth ▸ width,
    bind_eq_ok.mpr ⟨value, alike.storedInteger stored, same⟩⟩

/-- Alike constants become the same immediates, wherever the dictionaries repeat their answers. -/
theorem immediate_again (alike : left.Alike right) (encodings : encoding.Alike other)
    {session : Session} {registry later : Registry} {operands : List Operand} {after : Workspace}
    (made : Session.immediate ⟨session, registry⟩ left encoding = .ok (operands, after))
    (repeats : after.registry.Repeats later) :
    Session.immediate ⟨session, later⟩ right other = .ok (operands, ⟨after.session, later⟩) := by
  unfold Session.immediate at made ⊢
  rw [← alike.type.storage, ← alike.isNull]
  cases storage : left.type.storage
  case char | varchar | text =>
    simp only [storage] at made ⊢
    exact immediateString_again alike encodings made repeats
  all_goals
    simp only [storage] at made ⊢
  case array | point | decimal => contradiction
  case boolean =>
    obtain ⟨operand, operandEq, same⟩ := bind_eq_ok.mp made
    cases same
    exact bind_eq_ok.mpr ⟨operand, immediateBoolean_alike alike operandEq, rfl⟩
  case float =>
    refine ite_eq_ok_imp (fun null => ?_) (fun given => ?_) made
    · cases null
      rfl
    · obtain ⟨value, valueEq, same⟩ := bind_eq_ok.mp given
      cases same
      exact bind_eq_ok.mpr ⟨value, (alike.float value).mp valueEq, rfl⟩
  case double =>
    refine ite_eq_ok_imp (fun null => ?_) (fun given => ?_) made
    · cases null
      rfl
    · obtain ⟨value, valueEq, same⟩ := bind_eq_ok.mp given
      cases same
      exact bind_eq_ok.mpr ⟨value, (alike.double value).mp valueEq, rfl⟩
  all_goals
    obtain ⟨operand, operandEq, same⟩ := bind_eq_ok.mp made
    cases same
    exact bind_eq_ok.mpr ⟨operand, immediateInteger_alike alike operandEq, rfl⟩

/-! ### Calls -/

/-- A call that succeeded in lockstep succeeds again, for any alike constant and wherever the
dictionaries repeat their answers. -/
theorem Session.Lockstep.generate_again {session : Session} {count : Nat}
    {buffer : Literal.Buffer} (lockstep : session.Lockstep (count + 1) buffer)
    (alike : left.Alike right) (encodings : encoding.Alike other) {hoisting : Bool}
    {registry later : Registry} {operands : List Operand} {after : Workspace}
    (made : Workspace.generate ⟨session, registry⟩ left encoding hoisting = (.ok operands, after))
    (repeats : after.registry.Repeats later) :
    Workspace.generate ⟨session, later⟩ right other hoisting =
      (.ok operands, ⟨after.session, later⟩) := by
  have devices := lockstep.devices_eq
  unfold Workspace.generate at made ⊢
  cases hoisting with
  | true =>
      rw [if_pos rfl, devices] at made
      rw [if_pos rfl, devices]
      cases found : literalOf left encoding registry with
      | error failure =>
          rw [hoist_error session count found] at made
          cases made
      | ok result =>
          obtain ⟨literal, known⟩ := result
          have isText : Session.isUnencoded left.type encoding =
              Session.isUnencoded right.type other := by
            rw [Session.isUnencoded, Session.isUnencoded, DataType.isString, DataType.isString,
              alike.type.kind, encodings.encoding]
          rw [lockstep.hoist_eq found] at made
          obtain ⟨outcome, rfl⟩ := Prod.mk.inj made
          have stable := literalOf_alike alike encodings (literalOf_again found repeats)
          rw [lockstep.hoist_eq stable, ← isText, ← Session.use_alike alike.type]
          exact Prod.ext outcome rfl
  | false =>
      rw [if_neg (by decide)] at made
      rw [if_neg (by decide)]
      cases immediate : Session.immediate ⟨session, registry⟩ left encoding with
      | error failure =>
          rw [immediate] at made
          cases made
      | ok result =>
          rw [immediate] at made
          cases made
          rw [immediate_again alike encodings immediate repeats]

end Constants

end QueryKernel
