import QueryKernel.Proofs.Session.Lockstep
import QueryKernel.Proofs.Session.Readback

/-!
Contract: a constant means the same whatever was generated before it, with one exception.

A null boolean becomes one and the same literal under a null constraint and without one. The code
that decodes this literal is emitted for whichever null boolean comes first: it gives a truth value
under a null constraint, and the byte without one.

Owns:
- the types and the meaning of a literal, given how the shared one is decoded;
- the constraint of the first null boolean among calls;
- what every call keeps: literals are decoded to these types;
- the main statement: in two sessions the operands of a constant have the same types and the same
  values, if and only if the constant is not a null boolean or the first null booleans of the two
  sessions have the same constraint.

Does not own: sessions whose devices hoist different constants.
-/

namespace QueryKernel

open QueryKernel.Ir (Module Operand Frame RuntimeValue Ty)
open QueryKernel.Sql (Constant DataType)
open QueryKernel.Dictionary (Registry)

/-! ### The shared literal -/

/-- The literal of every null boolean. -/
def Literal.nullByte : Literal := .int8 Int8.minValue

/-- The types that a literal is decoded to, where the code for the null byte was emitted under a
null constraint or not. -/
def Literal.typesUnder (constrained : Bool) (literal : Literal) : List Ty :=
  if literal = nullByte ∧ constrained then [.int 1] else literal.ownTypes

/-- The meaning of a literal, where the code for the null byte was emitted under a null constraint
or not. -/
def Literal.meaningUnder (constrained : Bool) (literal : Literal) : Meaning :=
  if literal = nullByte ∧ constrained then .scalar (.int 1 0) else literal.meaning

theorem Literal.Decodes.readBy_under {image : Array UInt8} {literal : Literal} {constrained : Bool}
    {contents : List RuntimeValue}
    (decodes : literal.Decodes image (literal.typesUnder constrained) contents) (code : Module) :
    (literal.meaningUnder constrained).ReadBy code image contents := by
  unfold typesUnder at decodes
  unfold meaningUnder
  split at decodes
  · rename_i shared
    rw [if_pos shared]
    rcases shared with ⟨rfl, -⟩
    cases decodes with
    | scalar decoded =>
        cases decoded
        rfl
  · rename_i own
    rw [if_neg own]
    exact decodes.readBy code

namespace Sql.Constant

/-- A null of a boolean type. -/
def isNullBoolean (constant : Constant) : Bool := constant.type.isBoolean && constant.isNull

/-- The constraint of a null boolean. -/
def nullConstraint? (constant : Constant) : Option Bool :=
  if constant.isNullBoolean then some constant.type.notNull else none

theorem isNullTruth_eq (constant : Constant) :
    constant.isNullTruth = (constant.nullConstraint? == some true) := by
  unfold isNullTruth nullConstraint? isNullBoolean
  cases constant.type.isBoolean <;> cases constant.isNull <;> cases constant.type.notNull <;> rfl

end Sql.Constant

section Constants

variable {constant : Constant} {encoding : StringEncoding} {registry after : Registry}
  {literal : Literal}

theorem literalOf_of_isNullBoolean (isNullBoolean : constant.isNullBoolean = true)
    (encoding : StringEncoding) (registry : Registry) :
    literalOf constant encoding registry = .ok (.nullByte, registry) := by
  rcases Bool.and_eq_true_iff.mp isNullBoolean with ⟨isBoolean, isNull⟩
  have storage := Session.storage_of_isBoolean isBoolean
  simp only [literalOf, storage, booleanLiteral, isNull, if_true, DataType.nullInteger]
  rfl

/-- Only code for a boolean type decodes a byte. -/
theorem Session.Fits.isBoolean {type : DataType} {byte : Int8} {isText : Bool}
    (fits : Fits type (.int8 byte) isText) : type.isBoolean = true := by
  cases fits with
  | scalar width loaded sameType =>
      rename_i bits value
      cases loaded
      have eight : bits = 8 := by
        change Ty.int 8 = scalarType type bits at sameType
        unfold scalarType at sameType
        split at sameType
        · cases sameType
        · cases sameType
        · exact (Ty.int.inj sameType).symm
      exact isBoolean_of_width (eight ▸ width)

theorem isNullBoolean_of_literalOf
    (made : literalOf constant encoding registry = .ok (.nullByte, after)) :
    constant.isNullBoolean = true := by
  have isBoolean : constant.type.isBoolean = true := (Session.literalOf_fits made).isBoolean
  rw [Constant.isNullBoolean, isBoolean, Bool.true_and]
  simp only [literalOf, Session.storage_of_isBoolean isBoolean] at made
  obtain ⟨found, foundEq, same⟩ := bind_eq_ok.mp made
  cases same
  unfold booleanLiteral at foundEq
  split at foundEq
  · assumption
  · obtain ⟨truth, -, same⟩ := bind_eq_ok.mp foundEq
    split at same
    · cases same
    · cases truth <;> cases same

theorem Literal.typesUnder_false (literal : Literal) :
    literal.typesUnder false = literal.ownTypes := by
  rw [typesUnder, if_neg]
  rintro ⟨-, impossible⟩
  contradiction

theorem Literal.typesUnder_of_ne {literal : Literal} (other : literal ≠ nullByte)
    (constrained : Bool) : literal.typesUnder constrained = literal.ownTypes :=
  if_neg fun shared => other shared.1

theorem Literal.meaningUnder_of_ne {literal : Literal} (other : literal ≠ nullByte)
    (constrained : Bool) : literal.meaningUnder constrained = literal.meaning :=
  if_neg fun shared => other shared.1

/-- Only for the null byte does the constraint matter. -/
theorem Literal.under_congr {literal : Literal} {left right : Bool}
    (same : literal = nullByte → left = right) :
    literal.typesUnder left = literal.typesUnder right ∧
      literal.meaningUnder left = literal.meaningUnder right := by
  by_cases shares : literal = nullByte
  · rw [same shares]
    exact ⟨rfl, rfl⟩
  · rw [typesUnder_of_ne shares, typesUnder_of_ne shares, meaningUnder_of_ne shares,
      meaningUnder_of_ne shares]
    exact ⟨rfl, rfl⟩

theorem Literal.constraint_of_typesUnder {left right : Bool}
    (same : nullByte.typesUnder left = nullByte.typesUnder right) : left = right := by
  cases left <;> cases right <;> first | rfl | exact absurd same (by decide)

/-- The constraint of the first null boolean, where the last one is the constant. -/
theorem Sql.Constant.constraint_of_isNullBoolean (isNullBoolean : constant.isNullBoolean = true)
    (first? : Option Bool) :
    (first? <|> constant.nullConstraint?).getD false = first?.getD constant.type.notNull := by
  rw [Constant.nullConstraint?, if_pos isNullBoolean]
  cases first? <;> rfl

/-- The null byte is the literal of the null booleans only. -/
theorem eq_nullByte_iff (made : literalOf constant encoding registry = .ok (literal, after)) :
    literal = .nullByte ↔ constant.nullConstraint?.isSome := by
  unfold Constant.nullConstraint?
  constructor
  · rintro rfl
    rw [if_pos (isNullBoolean_of_literalOf made)]
    rfl
  · intro isSome
    split at isSome
    · rename_i isNullBoolean
      rw [literalOf_of_isNullBoolean isNullBoolean] at made
      cases made
      rfl
    · contradiction

/-- A literal that is decoded first is decoded under the constraint of its own constant. -/
theorem decodedTypes_of_literalOf
    (made : literalOf constant encoding registry = .ok (literal, after)) :
    Session.decodedTypes constant.type (Session.isUnencoded constant.type encoding) =
      literal.typesUnder (constant.nullConstraint?.getD false) := by
  cases isNullBoolean : constant.isNullBoolean with
  | true =>
      rw [literalOf_of_isNullBoolean isNullBoolean] at made
      cases made
      have isBoolean := (Bool.and_eq_true_iff.mp isNullBoolean).1
      have storage := Session.storage_of_isBoolean isBoolean
      have unencoded : Session.isUnencoded constant.type encoding = false := by
        rw [Session.isUnencoded, Session.isString_eq_storage, storage]
        rfl
      have width : constant.type.bitWidth = .ok 8 := by rw [DataType.bitWidth, storage]
      rw [Constant.nullConstraint?, if_pos isNullBoolean, unencoded, Session.decodedTypes, width]
      cases constrained : constant.type.notNull with
      | true => simp [Session.decodedType, isBoolean, constrained, Literal.typesUnder]
      | false =>
          simp [Session.decodedType, constrained, Session.scalarType, storage]
          rfl
  | false =>
      have regular : constant.isNullTruth = false := by
        rw [Constant.isNullTruth_eq, Constant.nullConstraint?, isNullBoolean]
        rfl
      rw [Constant.nullConstraint?, isNullBoolean, Session.literalOf_ownTypes regular made]
      exact literal.typesUnder_false.symm

end Constants

namespace Session

/-! ### The invariant -/

/-- A session in lockstep whose null byte, if it has one, was decoded under the constraint of the
first null boolean. -/
structure Shared (session : Session) (devices : Nat) (first? : Option Bool) : Prop where
  coherent : session.Coherent
  frames : session.HasFrames
  typed : session.TypedBy (Literal.typesUnder (first?.getD false))
  lockstep : ∃ buffer, session.Lockstep devices buffer ∧
    (.nullByte ∈ buffer.literals ↔ first?.isSome)

theorem Shared.start (name : String) (devices : Nat) :
    Shared { code := { name }, buffers := List.replicate devices {} } devices none where
  coherent := (Readable.start name devices).coherent
  frames := (Readable.start name devices).sound
  typed := TypedBy.congr (Readable.start name devices).faithful
    fun _ _ literal _ => literal.typesUnder_false.symm
  lockstep := ⟨{}, .empty name devices, by simp⟩

section Shared

variable {session : Session} {count : Nat} {first? : Option Bool}

theorem Lockstep.wellFormed {buffer : Literal.Buffer}
    (lockstep : session.Lockstep (count + 1) buffer) (coherent : session.Coherent) :
    buffer.WellFormed :=
  coherent.wellFormed 0 buffer (lockstep.buffer_at (Nat.succ_pos count))

/-- A device in lockstep holds what the common buffer holds. -/
theorem Lockstep.holds_iff {devices : Nat} {buffer : Literal.Buffer}
    (lockstep : session.Lockstep devices buffer) {device offset : Nat} {literal : Literal} :
    session.Holds device offset literal ↔
      device < devices ∧ (offset, literal) ∈ buffer.entries := by
  constructor
  · rintro ⟨found, foundEq, member⟩
    have inside : device < session.devices := (List.getElem?_eq_some_iff.mp foundEq).1
    rw [lockstep.devices_eq] at inside
    obtain rfl := lockstep.buffer_eq foundEq
    exact ⟨inside, member⟩
  · rintro ⟨inside, member⟩
    exact ⟨buffer, lockstep.buffer_at inside, member⟩

/-- Where the literal can be made, a hoisting call succeeds and keeps the invariant, and its
operands reload the literal. -/
theorem Shared.hoist (shared : session.Shared (count + 1) first?) {constant : Constant}
    {encoding : StringEncoding} {registry known : Registry} {literal : Literal}
    (made : literalOf constant encoding registry = .ok (literal, known)) :
    ∃ operands next,
      Workspace.generate ⟨session, registry⟩ constant encoding true =
        (.ok operands, ⟨next, known⟩) ∧
      next.Shared (count + 1) (first? <|> constant.nullConstraint?) ∧
      operands.map Operand.type =
        literal.typesUnder ((first? <|> constant.nullConstraint?).getD false) ∧
      ∃ offset, next.Available offset operands ∧
        ∀ device < count + 1, next.Holds device offset literal := by
  rcases shared.lockstep with ⟨buffer, lockstep, noted⟩
  have wellFormed := lockstep.wellFormed shared.coherent
  have devices := lockstep.devices_eq
  rcases lockstep.hoist_ok wellFormed made with ⟨operands, next, hoisted, nextLockstep⟩
  rcases Workspace.hoist_steps shared.coherent (by simp [devices]) hoisted with
    ⟨leads, -, keeps, provides⟩
  -- Nothing that is held now is decoded otherwise than it was before.
  have kept : session.TypedBy
      (Literal.typesUnder ((first? <|> constant.nullConstraint?).getD false)) := by
    refine shared.typed.congr fun device offset held holds => ?_
    cases first? with
    | some constrained => rfl
    | none =>
        have other : held ≠ .nullByte := by
          rintro rfl
          have member := Literal.mem_of_mem_place (lockstep.holds_iff.mp holds).2
          exact absurd (noted.mp member) (by decide)
        rw [Literal.typesUnder_of_ne other, Literal.typesUnder_of_ne other]
  have typed := keeps _ (by
    intro other member offset device held unknown holds ofConstant
    rw [List.eq_of_mem_replicate member] at ofConstant ⊢
    rw [literalOf_stable made (.refl known)] at ofConstant
    cases ofConstant
    rw [decodedTypes_of_literalOf made]
    by_cases shares : literal = .nullByte
    · -- A null byte that is new makes its own constraint the first one.
      have fresh : literal ∉ buffer.literals := by
        intro registered
        rcases Literal.exists_place_of_mem 0 registered with ⟨place, entry⟩
        have stays := (nextLockstep.holds_iff.mp holds).2
        rw [Literal.Buffer.add_of_mem wellFormed entry] at stays
        rcases lockstep.known stays with ⟨globals, found, -⟩
        rw [unknown] at found
        contradiction
      rw [shares, noted] at fresh
      cases first? with
      | some constrained => exact absurd rfl fresh
      | none => rfl
    · rw [Literal.typesUnder_of_ne shares, Literal.typesUnder_of_ne shares]) kept
  have added := Literal.Buffer.add_spec wellFormed literal
  have used := lockstep.hoist_eq made
  rw [hoisted] at used
  rcases Prod.mk.inj used with ⟨outcome, state⟩
  rcases Workspace.use_types (Prod.ext outcome.symm (congrArg Workspace.session state).symm) with
    ⟨globals, knownGlobals, types⟩
  refine ⟨operands, next, ?_, ⟨leads.coherent shared.coherent,
    shared.frames.leads shared.coherent leads, typed, _, nextLockstep, ?_⟩, ?_, ?_⟩
  · rw [Workspace.generate, if_pos rfl, devices]
    exact hoisted
  · rw [Literal.Buffer.mem_add, noted, @eq_comm _ Literal.nullByte, eq_nullByte_iff made]
    cases first? <;> simp
  · rw [types]
    exact typed _ globals knownGlobals 0 literal
      (nextLockstep.holds_iff.mpr ⟨Nat.succ_pos count, added.2⟩)
  · rcases provides operands rfl with ⟨offset, available, held⟩
    refine ⟨offset, available, fun device inside => ?_⟩
    rcases held device constant (by rw [List.getElem?_replicate, if_pos inside]) with
      ⟨other, ofConstant, holds⟩
    rw [literalOf_stable made (.refl known)] at ofConstant
    cases ofConstant
    exact holds

/-- A hoisting call that succeeds has made a literal. -/
theorem Shared.hoisted (shared : session.Shared (count + 1) first?) {constant : Constant}
    {encoding : StringEncoding} {registry : Registry} {operands : List Operand} {after : Workspace}
    (succeeded : Workspace.generate ⟨session, registry⟩ constant encoding true =
      (.ok operands, after)) :
    ∃ literal, literalOf constant encoding registry = .ok (literal, after.registry) ∧
      after.session.Shared (count + 1) (first? <|> constant.nullConstraint?) ∧
      operands.map Operand.type =
        literal.typesUnder ((first? <|> constant.nullConstraint?).getD false) ∧
      ∃ offset, after.session.Available offset operands ∧
        ∀ device < count + 1, after.session.Holds device offset literal := by
  cases made : literalOf constant encoding registry with
  | ok result =>
      rcases shared.hoist made with ⟨found, next, hoisted, facts⟩
      rw [succeeded] at hoisted
      cases hoisted
      exact ⟨result.1, rfl, facts⟩
  | error failure =>
      rcases shared.lockstep with ⟨buffer, lockstep, -⟩
      rw [lockstep.generate_error made] at succeeded
      cases succeeded

theorem Shared.frame (shared : session.Shared (count + 1) first?) {images : List (Array UInt8)}
    (serialized : session.serialize = .ok images) {device : Nat} (inside : device < count + 1) :
    device < session.devices ∧
      ∃ image frame, images[device]? = some image ∧ session.Sound device image frame := by
  have held : device < session.devices := by
    rcases shared.lockstep with ⟨buffer, lockstep, -⟩
    rw [lockstep.devices_eq]
    exact inside
  exact ⟨held, frame_of_serialize shared.coherent shared.frames serialized held⟩

/-- On every device the operands of a literal evaluate to its meaning. -/
theorem Shared.evaluate (shared : session.Shared (count + 1) first?) {offset : Nat}
    {operands : List Operand} {literal : Literal} (available : session.Available offset operands)
    (holds : ∀ device < count + 1, session.Holds device offset literal)
    {images : List (Array UInt8)} (serialized : session.serialize = .ok images) {device : Nat}
    (inside : device < count + 1) :
    ∃ image values, images[device]? = some image ∧
      session.code.evaluate image operands = .ok values ∧
      (literal.meaningUnder (first?.getD false)).ReadBy session.code image values := by
  rcases shared.frame serialized inside with ⟨-, image, frame, imageAt, sound⟩
  rcases evaluate_decodes shared.coherent shared.typed sound (holds device inside) available with
    ⟨values, evaluated, decodes⟩
  exact ⟨image, values, imageAt, evaluated, decodes.readBy_under session.code⟩

/-- Immediates keep the invariant. -/
theorem Shared.immediate {devices : Nat} (shared : session.Shared devices first?)
    {registry : Registry} {constant : Constant} {encoding : StringEncoding}
    {operands : List Operand} {after : Workspace}
    (made : Session.immediate ⟨session, registry⟩ constant encoding = .ok (operands, after)) :
    after.session.Shared devices first? := by
  rcases immediate_session made with same | ⟨value, same⟩
  · rw [same]
    exact shared
  · have leads := addString_leads session value
    rcases shared.lockstep with ⟨buffer, lockstep, noted⟩
    rw [same]
    exact ⟨leads.coherent shared.coherent, shared.frames.leads shared.coherent leads,
      shared.typed.of_code shared.coherent leads.grows,
      buffer, lockstep.of_code (Module.addString_globals session.code value), noted⟩

end Shared

/-! ### Histories -/

/-- The constraint of the null boolean that a call hoists. -/
def Call.nullConstraint? (call : Call) : Option Bool :=
  if call.hoisting then call.constant.nullConstraint? else none

/-- The constraint of the first null boolean that calls hoist. -/
def firstNullConstraint? (calls : List Call) : Option Bool := calls.findSome? Call.nullConstraint?

theorem Shared.call {session : Session} {count : Nat} {first? : Option Bool}
    (shared : session.Shared (count + 1) first?) (call : Call) :
    (session.call call).2.session.Shared (count + 1) (first? <|> call.nullConstraint?) := by
  unfold Session.call Call.nullConstraint?
  by_cases hoisting : call.hoisting
  · rw [if_pos hoisting, hoisting]
    cases made : literalOf call.constant call.encoding call.registry with
    | ok result =>
        rcases shared.hoist made with ⟨operands, next, hoisted, nextShared, -⟩
        rw [hoisted]
        exact nextShared
    | error failure =>
        -- A null boolean has a literal, so this constant is none.
        have regular : call.constant.nullConstraint? = none := by
          unfold Constant.nullConstraint?
          split
          · rename_i isNullBoolean
            rw [literalOf_of_isNullBoolean isNullBoolean] at made
            contradiction
          · rfl
        rcases shared.lockstep with ⟨buffer, lockstep, -⟩
        rw [lockstep.generate_error made, regular]
        cases first? <;> exact shared
  · have none : (first? <|> none) = first? := by cases first? <;> rfl
    rw [if_neg hoisting, none, Workspace.generate, if_neg hoisting]
    cases made : Session.immediate ⟨session, call.registry⟩ call.constant call.encoding with
    | ok result => exact shared.immediate made
    | error failure => exact shared

theorem Shared.afterCalls {session : Session} {count : Nat} {first? : Option Bool}
    (shared : session.Shared (count + 1) first?) (calls : List Call) :
    (session.afterCalls calls).Shared (count + 1) (first? <|> firstNullConstraint? calls) := by
  induction calls generalizing session first? with
  | nil => cases first? <;> exact shared
  | cons call rest inductionHypothesis =>
      have last := inductionHypothesis (shared.call call)
      have same : ((first? <|> call.nullConstraint?) <|> firstNullConstraint? rest) =
          (first? <|> firstNullConstraint? (call :: rest)) := by
        rw [firstNullConstraint?, firstNullConstraint?, List.findSome?_cons]
        cases first? <;> cases call.nullConstraint? <;> rfl
      rw [← same]
      exact last

/-- The null byte was decoded under the constraint of the first null boolean among the calls. -/
theorem afterCalls_shared {name : String} {devices : Nat} {session : Session}
    (started : Session.start name devices = .ok session) (calls : List Call) :
    ∃ count, devices = count + 1 ∧
      (session.afterCalls calls).Shared (count + 1) (firstNullConstraint? calls) := by
  obtain ⟨inhabited, rfl⟩ := start_eq_ok started
  obtain ⟨count, rfl⟩ : ∃ count, devices = count + 1 := ⟨devices - 1, by omega⟩
  exact ⟨count, rfl, (Shared.start name (count + 1)).afterCalls calls⟩

/-! ### The main statement -/

/-- The id that a dictionary has for the string of a constant, if it is asked. -/
def dictionaryId? (constant : Constant) (encoding : StringEncoding) (registry : Registry) :
    Option Int32 :=
  match encoding.encoding, constant.datum, registry.find encoding.dictionary with
  | .dictionary, .text value, .ok handle => some (registry.idOf handle value).1
  | _, _, _ => none

/-- Operands of two sessions mean the same: they have the same types, and on every device they
evaluate to the same scalar or id, or to the same start and length and an address of the same
bytes. -/
structure Agree (first second : Session) (firstOperands secondOperands : List Operand) : Prop where
  types : firstOperands.map Operand.type = secondOperands.map Operand.type
  values : ∀ firstImages secondImages, first.serialize = .ok firstImages →
    second.serialize = .ok secondImages → ∀ device < first.devices,
      ∃ firstImage secondImage firstValues secondValues meaning,
        firstImages[device]? = some firstImage ∧ secondImages[device]? = some secondImage ∧
        first.code.evaluate firstImage firstOperands = .ok firstValues ∧
        second.code.evaluate secondImage secondOperands = .ok secondValues ∧
        Meaning.ReadBy first.code firstImage meaning firstValues ∧
        Meaning.ReadBy second.code secondImage meaning secondValues

/-- The literal of a string constant, given the id of the string. -/
def literalOfId? (constant : Constant) (encoding : StringEncoding) (id? : Option Int32) :
    Option Literal :=
  match encoding.encoding, constant.datum with
  | .dictionary, .null => some (.int32 Sql.nullId)
  | .dictionary, .text _ => id?.map .int32
  | .plain, .null => some (.text "")
  | .plain, .text value => some (.text value)
  | _, _ => none

section Literals

variable {constant : Constant} {encoding : StringEncoding}

/-- Of the dictionaries, the literal of a string needs the id only. -/
theorem stringLiteral_id {registry known : Registry} {literal : Literal}
    (made : stringLiteral constant encoding registry = .ok (literal, known)) :
    literalOfId? constant encoding (dictionaryId? constant encoding registry) = some literal := by
  unfold stringLiteral at made
  unfold literalOfId? dictionaryId?
  cases mode : encoding.encoding with
  | dictionary =>
      simp only [mode] at made
      split at made
      · rename_i isNull
        cases made
        rw [Constant.isNull_iff.mp isNull, Registry.nullId_eq]
      · obtain ⟨handle, found, rest⟩ := bind_eq_ok.mp made
        obtain ⟨value, valueEq, same⟩ := bind_eq_ok.mp rest
        cases same
        rw [Constant.stringValue_eq_ok_iff.mp valueEq, found]
        rfl
  | plain =>
      simp only [mode] at made
      split at made
      · rename_i isNull
        cases made
        rw [Constant.isNull_iff.mp isNull]
      · obtain ⟨value, valueEq, rest⟩ := bind_eq_ok.mp made
        split at rest
        · contradiction
        · cases rest
          rw [Constant.stringValue_eq_ok_iff.mp valueEq]

/-- A constant becomes the same literal wherever its string has the same id. -/
theorem literalOf_of_sameId {first second firstKnown secondKnown : Registry}
    {firstLiteral secondLiteral : Literal}
    (sameId : dictionaryId? constant encoding first = dictionaryId? constant encoding second)
    (firstMade : literalOf constant encoding first = .ok (firstLiteral, firstKnown))
    (secondMade : literalOf constant encoding second = .ok (secondLiteral, secondKnown)) :
    firstLiteral = secondLiteral := by
  -- Outside the strings the dictionaries are not asked.
  have plain : ∀ {α : Type} {computed : Except Error α} {wrap : α → Literal},
      (computed >>= fun value => .ok (wrap value, first)) = .ok (firstLiteral, firstKnown) →
      (computed >>= fun value => .ok (wrap value, second)) = .ok (secondLiteral, secondKnown) →
      firstLiteral = secondLiteral := by
    intro α computed wrap firstOk secondOk
    obtain ⟨value, valueEq, firstSame⟩ := bind_eq_ok.mp firstOk
    obtain ⟨again, againEq, secondSame⟩ := bind_eq_ok.mp secondOk
    rw [valueEq] at againEq
    cases againEq
    cases firstSame
    cases secondSame
    rfl
  unfold literalOf at firstMade secondMade
  cases storage : constant.type.storage
  case char | varchar | text =>
    simp only [storage] at firstMade secondMade
    have firstId := stringLiteral_id firstMade
    rw [sameId, stringLiteral_id secondMade] at firstId
    exact (Option.some.inj firstId).symm
  all_goals
    simp only [storage] at firstMade secondMade
  case array | point | decimal => contradiction
  case float | double =>
    split at firstMade
    · rename_i isNull
      rw [if_pos isNull] at secondMade
      exact plain firstMade secondMade
    · rename_i given
      rw [if_neg given] at secondMade
      exact plain firstMade secondMade
  all_goals exact plain firstMade secondMade

end Literals

/-- Operands of the same literal mean the same in two sessions, if the null byte is decoded alike in
both. -/
theorem Shared.agree {first second : Session} {count : Nat} {firstNull? secondNull? : Option Bool}
    (firstShared : first.Shared (count + 1) firstNull?)
    (secondShared : second.Shared (count + 1) secondNull?) {literal : Literal}
    {firstOperands secondOperands : List Operand} {firstOffset secondOffset : Nat}
    (firstTypes : firstOperands.map Operand.type =
      literal.typesUnder (firstNull?.getD false))
    (secondTypes : secondOperands.map Operand.type =
      literal.typesUnder (secondNull?.getD false))
    (firstAvailable : first.Available firstOffset firstOperands)
    (firstHolds : ∀ device < count + 1, first.Holds device firstOffset literal)
    (secondAvailable : second.Available secondOffset secondOperands)
    (secondHolds : ∀ device < count + 1, second.Holds device secondOffset literal)
    (alike : literal = .nullByte → firstNull?.getD false = secondNull?.getD false) :
    Agree first second firstOperands secondOperands := by
  rcases Literal.under_congr alike with ⟨types, meaning⟩
  refine ⟨firstTypes.trans (types.trans secondTypes.symm), ?_⟩
  intro firstImages secondImages firstSerialized secondSerialized device inside
  rcases firstShared.lockstep with ⟨buffer, lockstep, -⟩
  rw [lockstep.devices_eq] at inside
  rcases firstShared.evaluate firstAvailable firstHolds firstSerialized inside with
    ⟨firstImage, firstValues, firstAt, firstEvaluated, firstReads⟩
  rcases secondShared.evaluate secondAvailable secondHolds secondSerialized inside with
    ⟨secondImage, secondValues, secondAt, secondEvaluated, secondReads⟩
  rw [← meaning] at secondReads
  exact ⟨firstImage, secondImage, firstValues, secondValues, _, firstAt, secondAt,
    firstEvaluated, secondEvaluated, firstReads, secondReads⟩

/-- In two sessions, whatever was called before, the operands of a hoisted constant have the same
types and evaluate to the same, if and only if the constant is not a null boolean or the first null
boolean of both sessions, the constant itself included, has the same constraint. -/
theorem constants_agree_iff {name other : String} {devices : Nat} {first second : Session}
    (firstStarted : Session.start name devices = .ok first)
    (secondStarted : Session.start other devices = .ok second) (firstCalls secondCalls : List Call)
    {constant : Constant} {encoding : StringEncoding} {firstRegistry secondRegistry : Registry}
    (sameId : dictionaryId? constant encoding firstRegistry =
      dictionaryId? constant encoding secondRegistry)
    {firstOperands secondOperands : List Operand} {firstAfter secondAfter : Workspace}
    (firstOk : (first.afterCalls firstCalls).call ⟨constant, encoding, true, firstRegistry⟩ =
      (.ok firstOperands, firstAfter))
    (secondOk : (second.afterCalls secondCalls).call ⟨constant, encoding, true, secondRegistry⟩ =
      (.ok secondOperands, secondAfter)) :
    Agree firstAfter.session secondAfter.session firstOperands secondOperands ↔
      (constant.isNullBoolean = true →
        (firstNullConstraint? firstCalls).getD constant.type.notNull =
          (firstNullConstraint? secondCalls).getD constant.type.notNull) := by
  change Workspace.generate ⟨_, firstRegistry⟩ constant encoding true = _ at firstOk
  change Workspace.generate ⟨_, secondRegistry⟩ constant encoding true = _ at secondOk
  rcases afterCalls_shared firstStarted firstCalls with ⟨count, rfl, firstBefore⟩
  rcases afterCalls_shared secondStarted secondCalls with ⟨sameCount, same, secondBefore⟩
  cases same
  rcases firstBefore.hoisted firstOk with
    ⟨literal, firstMade, firstShared, firstTypes, firstOffset, firstAvailable, firstHolds⟩
  rcases secondBefore.hoisted secondOk with
    ⟨again, secondMade, secondShared, secondTypes, secondOffset, secondAvailable, secondHolds⟩
  obtain rfl := literalOf_of_sameId sameId firstMade secondMade
  have nullByte_iff : literal = .nullByte ↔ constant.isNullBoolean = true := by
    rw [eq_nullByte_iff firstMade, Constant.nullConstraint?]
    cases constant.isNullBoolean <;> simp
  constructor
  · intro agree isNullBoolean
    have types := firstTypes.symm.trans (agree.types.trans secondTypes)
    rw [nullByte_iff.mpr isNullBoolean] at types
    rw [← Constant.constraint_of_isNullBoolean isNullBoolean,
      ← Constant.constraint_of_isNullBoolean isNullBoolean]
    exact Literal.constraint_of_typesUnder types
  · intro same
    refine firstShared.agree secondShared firstTypes secondTypes firstAvailable firstHolds
      secondAvailable secondHolds fun shares => ?_
    have isNullBoolean := nullByte_iff.mp shares
    rw [Constant.constraint_of_isNullBoolean isNullBoolean,
      Constant.constraint_of_isNullBoolean isNullBoolean]
    exact same isNullBoolean

theorem constants_agree_iff_other_nulls :
    let first : Session := { code := { name := "kernel" }, buffers := [{}, {}] }
    let null : Constant := .null (.ofKind .boolean)
    let call : Call := ⟨.ofString "seven", {}, true, {}⟩
    ∃ firstOperands secondOperands,
      ((first.afterCalls [⟨null.constrained, {}, true, {}⟩]).call call).1 = .ok firstOperands ∧
      ((first.afterCalls [⟨null, {}, true, {}⟩]).call call).1 = .ok secondOperands ∧
      Agree ((first.afterCalls [⟨null.constrained, {}, true, {}⟩]).call call).2.session
        ((first.afterCalls [⟨null, {}, true, {}⟩]).call call).2.session
        firstOperands secondOperands := by
  intro first null call
  obtain ⟨firstOperands, firstOk⟩ : ∃ operands,
      ((first.afterCalls [⟨null.constrained, {}, true, {}⟩]).call call).1 = .ok operands :=
    exists_of_toBool (by decide +kernel)
  obtain ⟨secondOperands, secondOk⟩ : ∃ operands,
      ((first.afterCalls [⟨null, {}, true, {}⟩]).call call).1 = .ok operands :=
    exists_of_toBool (by decide +kernel)
  refine ⟨firstOperands, secondOperands, firstOk, secondOk, ?_⟩
  apply (@constants_agree_iff "kernel" "kernel" 2 first first rfl rfl
    [⟨null.constrained, {}, true, {}⟩] [⟨null, {}, true, {}⟩] _ _ {} {} rfl _ _ _ _
    (Prod.ext firstOk rfl) (Prod.ext secondOk rfl)).mpr
  intro impossible
  contradiction

/-- Behind a null boolean under a null constraint, a null boolean without one is false, where on a
new session it is null. -/
theorem null_boolean_takes_an_earlier_constraint :
    let first : Session := { code := { name := "kernel" }, buffers := [{}] }
    let null : Constant := .null (.ofKind .boolean)
    let earlier : Call := ⟨null.constrained, {}, true, {}⟩
    let call : Call := ⟨null, {}, true, {}⟩
    let fresh := first.call call
    let behind := (first.afterCalls [earlier]).call call
    Session.start "kernel" 1 = .ok first ∧ (first.call earlier).1.toBool = true ∧
      fresh.1 = .ok [.result 3 (.int 8)] ∧ behind.1 = .ok [.result 5 (.int 1)] ∧
      fresh.2.session.serialize = .ok [#[128]] ∧ behind.2.session.serialize = .ok [#[128]] ∧
      fresh.2.session.code.evaluate #[128] [.result 3 (.int 8)] = .ok [.int 8 (-128)] ∧
      behind.2.session.code.evaluate #[128] [.result 5 (.int 1)] = .ok [.int 1 0] ∧
      ¬ Agree fresh.2.session behind.2.session [.result 3 (.int 8)] [.result 5 (.int 1)] := by
  intro first null earlier call fresh behind
  refine ⟨rfl, by decide +kernel, by decide +kernel, by decide +kernel, by decide +kernel,
    by decide +kernel, by decide +kernel, by decide +kernel, ?_⟩
  intro agree
  exact absurd agree.types (by decide)

end Session

end QueryKernel
