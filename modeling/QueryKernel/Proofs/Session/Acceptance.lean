import QueryKernel.Proofs.Session.Embedding
import QueryKernel.Proofs.Session.Sharing
import QueryKernel.Proofs.Sql.Ranges

/-!
Contract: which constants code can be generated for.

Whether a constant is hoisted or embedded, it is looked at by separate code. Both accept the same
constants, which are told from type, payload, encoding and dictionaries alone, whatever the session
has seen.

Owns:
- admissible constants;
- what the two failures of a constant that is refused have in common;
- the verdict on a constant, common to both ways, by the kind of its type;
- the types of immediates, and when those of hoisted operands are the same;
- the main statement: after any calls, both ways accept exactly the admissible constants, with the
  same types; a refusal changes nothing and has the same reason.

Does not own: what the accepted constants evaluate to.
-/

namespace QueryKernel

open QueryKernel.Ir (Module Operand Frame RuntimeValue Ty)
open QueryKernel.Sql (Constant DataType Datum isWord)
open QueryKernel.Dictionary (Registry)

/-! ### Admissible constants -/

/-- Whether a string can be handed over in an encoding: its bytes fit a packed header, or the
dictionary exists. -/
def StringEncoding.carries (encoding : StringEncoding) (registry : Registry) (value : String) :
    Bool :=
  match encoding.encoding with
  | .plain => value.utf8ByteSize ≤ maximalStringField
  | .dictionary => (registry.handle? encoding.dictionary).isSome

namespace Sql

def Datum.text? : Datum → Option String
  | .text value => some value
  | _ => none

/-- Whether the payload of a constant is a value of its type. -/
def Constant.holdsValue (constant : Constant) (encoding : StringEncoding) (registry : Registry) :
    Bool :=
  match constant.type.kind with
  | .boolean => (constant.datum matches .bool _)
  | .float => (constant.datum matches .float _)
  | .double => (constant.datum matches .double _)
  | .char | .varchar | .text => constant.datum.text?.any (encoding.carries registry)
  | .array | .point => false
  | _ => constant.datum.integer?.any (isWord constant.type.integerBits)

/-- The payload that the values of a supported kind have. -/
def Kind.payload : Kind → PayloadKind
  | .boolean => .boolean
  | .float => .float
  | .double => .double
  | .char | .varchar | .text => .string
  | _ => .integer

/-- Whether code can be generated for a constant: it is null or its payload is a value of its
type, and the type is neither an array nor a point. -/
def Constant.isAdmissible (constant : Constant) (encoding : StringEncoding) (registry : Registry) :
    Bool :=
  constant.type.kind != .array && constant.type.kind != .point &&
    (constant.isNull || constant.holdsValue encoding registry)

end Sql

/-- The failures of hoisting and of embedding the same constant. Only a payload that is no string,
under a dictionary that does not exist, is refused for two different reasons. -/
inductive Refusal (constant : Constant) (encoding : StringEncoding) (registry : Registry) :
    Error → Error → Prop where
  | unsupported (kind : constant.type.kind = .array ∨ constant.type.kind = .point) :
      Refusal constant encoding registry (.breach (.unhoistable constant.type.kind))
        (.breach (.unsupportedConstant constant.type.kind))
  | mismatched {expected : PayloadKind} (payload : constant.type.kind.payload = expected) :
      Refusal constant encoding registry (constant.mismatch expected) (constant.mismatch expected)
  | overflow {value : Int64} (integer : constant.datum.integer? = some value)
      (wide : isWord constant.type.integerBits value = false) :
      Refusal constant encoding registry (.breach (.storageOverflow value constant.type.storage))
        (.breach (.storageOverflow value constant.type.storage))
  | long {value : String} (mode : encoding.encoding = .plain)
      (text : constant.datum.text? = some value) (long : maximalStringField < value.utf8ByteSize) :
      Refusal constant encoding registry (.bound (.literalLength value.utf8ByteSize))
        (.bound (.constantLength value.utf8ByteSize))
  | noDictionary (mode : encoding.encoding = .dictionary)
      (missing : registry.handle? encoding.dictionary = none) :
      Refusal constant encoding registry (.noDictionary encoding.dictionary)
        (.noDictionary encoding.dictionary)
  | noDictionaryNoText (mode : encoding.encoding = .dictionary)
      (missing : registry.handle? encoding.dictionary = none)
      (noText : constant.datum.text? = none) :
      Refusal constant encoding registry (.noDictionary encoding.dictionary)
        (constant.mismatch .string)

/-- What becomes of a constant, hoisted or embedded, in any session. -/
inductive Verdict (constant : Constant) (encoding : StringEncoding) (registry : Registry) :
    Bool → Prop where
  | accepted {literal : Literal} {known : Registry}
      (made : literalOf constant encoding registry = .ok (literal, known)) :
      Verdict constant encoding registry true
  | refused {failure other : Error}
      (hoisting : literalOf constant encoding registry = .error failure)
      (embedding : ∀ session : Session,
        Session.immediate ⟨session, registry⟩ constant encoding = .error other)
      (refusal : Refusal constant encoding registry failure other) :
      Verdict constant encoding registry false

/-! ### The verdict by kind -/

section Verdicts

variable {constant : Constant} {encoding : StringEncoding} {registry : Registry}

/-- Where both ways first read the payload and then succeed, the verdict is that of the reading. -/
theorem Verdict.of_reading {α : Type} {read : Except Error α}
    (hoisting : ∃ literal : α → Literal, literalOf constant encoding registry =
      read >>= fun value => .ok (literal value, registry))
    (embedding : ∃ operands : α → List Operand, ∀ session : Session,
      Session.immediate ⟨session, registry⟩ constant encoding =
        read >>= fun value => .ok (operands value, ⟨session, registry⟩))
    (refusal : ∀ failure, read = .error failure →
      Refusal constant encoding registry failure failure) :
    Verdict constant encoding registry read.toBool := by
  rcases hoisting with ⟨literal, hoisting⟩
  rcases embedding with ⟨operands, embedding⟩
  cases read with
  | ok value => exact .accepted hoisting
  | error failure => exact .refused hoisting embedding (refusal failure rfl)

/-- Every null of a supported type has a literal. -/
theorem Verdict.of_null (isNull : constant.isNull = true) (noArray : constant.type.kind ≠ .array)
    (noPoint : constant.type.kind ≠ .point) : Verdict constant encoding registry true := by
  suffices ∃ result, literalOf constant encoding registry = .ok result by
    rcases this with ⟨result, made⟩
    exact .accepted made
  unfold literalOf booleanLiteral stringLiteral Constant.storedInteger DataType.nullInteger
  rw [isNull]
  cases storage : constant.type.storage
  case array | point | decimal =>
    rcases DataType.kind_of_storage (by rw [storage]; rfl) with ⟨kind, noDecimal⟩
    rw [storage] at kind
    contradiction
  case char | varchar | text =>
    cases encoding.encoding <;> exact ⟨_, rfl⟩
  all_goals exact ⟨_, rfl⟩

theorem Verdict.of_boolean (kind : constant.type.kind = .boolean) (given : ¬ constant.isNull) :
    Verdict constant encoding registry (constant.holdsValue encoding registry) := by
  have storage : constant.type.storage = .boolean := by
    rw [DataType.storage_of_kind (by simp [kind]), kind]
  have holds : constant.holdsValue encoding registry = constant.boolValue.toBool := by
    unfold Constant.holdsValue Constant.boolValue
    rw [kind]
    cases constant.datum <;> rfl
  rw [holds]
  refine .of_reading ?_ ?_ fun failure read => ?_
  · simp only [literalOf, storage, booleanLiteral, if_neg given, bind_assoc, pure_bind]
    exact ⟨_, rfl⟩
  · simp only [Session.immediate, storage, Session.immediateBoolean, if_neg given, bind_assoc,
      pure_bind]
    exact ⟨_, fun _ => rfl⟩
  · unfold Constant.boolValue at read
    split at read <;> cases read
    exact .mismatched (by rw [kind]; rfl)

theorem Verdict.of_float (kind : constant.type.kind = .float) (given : ¬ constant.isNull) :
    Verdict constant encoding registry (constant.holdsValue encoding registry) := by
  have storage : constant.type.storage = .float := by
    rw [DataType.storage_of_kind (by simp [kind]), kind]
  have holds : constant.holdsValue encoding registry = constant.floatValue.toBool := by
    unfold Constant.holdsValue Constant.floatValue
    rw [kind]
    cases constant.datum <;> rfl
  rw [holds]
  refine .of_reading ?_ ?_ fun failure read => ?_
  · simp only [literalOf, storage, if_neg given]
    exact ⟨_, rfl⟩
  · simp only [Session.immediate, storage, if_neg given]
    exact ⟨_, fun _ => rfl⟩
  · unfold Constant.floatValue at read
    split at read <;> cases read
    exact .mismatched (by rw [kind]; rfl)

theorem Verdict.of_double (kind : constant.type.kind = .double) (given : ¬ constant.isNull) :
    Verdict constant encoding registry (constant.holdsValue encoding registry) := by
  have storage : constant.type.storage = .double := by
    rw [DataType.storage_of_kind (by simp [kind]), kind]
  have holds : constant.holdsValue encoding registry = constant.doubleValue.toBool := by
    unfold Constant.holdsValue Constant.doubleValue
    rw [kind]
    cases constant.datum <;> rfl
  rw [holds]
  refine .of_reading ?_ ?_ fun failure read => ?_
  · simp only [literalOf, storage, if_neg given]
    exact ⟨_, rfl⟩
  · simp only [Session.immediate, storage, if_neg given]
    exact ⟨_, fun _ => rfl⟩
  · unfold Constant.doubleValue at read
    split at read <;> cases read
    exact .mismatched (by rw [kind]; rfl)

theorem Refusal.of_storedInteger {failure : Error}
    (payload : constant.type.kind.payload = .integer) (given : ¬ constant.isNull)
    (failed : constant.storedInteger = .error failure) :
    Refusal constant encoding registry failure failure := by
  rw [constant.storedInteger_of_given given] at failed
  cases integer : constant.datum.integer? with
  | none =>
      rw [integer] at failed
      cases failed
      exact .mismatched payload
  | some value =>
      simp only [integer] at failed
      split at failed
      · contradiction
      · rename_i wide
        cases failed
        exact .overflow integer (eq_false_of_ne_true wide)

theorem Verdict.of_integral (integral : constant.type.kind.isIntegral = true)
    (given : ¬ constant.isNull) :
    Verdict constant encoding registry (constant.holdsValue encoding registry) := by
  have holds : constant.holdsValue encoding registry = constant.storedInteger.toBool := by
    rw [Constant.storedInteger_toBool given]
    unfold Constant.holdsValue
    cases kind : constant.type.kind <;> rw [kind] at integral <;> first | rfl | contradiction
  have payload : constant.type.kind.payload = .integer := by
    cases kind : constant.type.kind <;> rw [kind] at integral <;> first | rfl | contradiction
  have stored := DataType.storage_isIntegral integral
  rw [holds]
  refine .of_reading ?_ ?_ fun failure => .of_storedInteger payload given
  · unfold literalOf
    cases storage : constant.type.storage <;> rw [storage] at stored <;>
      first
        | exact ⟨_, rfl⟩
        | simp [Sql.Kind.isInteger, Sql.Kind.isTime, Sql.Kind.isInterval] at stored
  · unfold Session.immediate Session.immediateInteger DataType.bitWidth
    cases storage : constant.type.storage <;> rw [storage] at stored <;>
      first
        | (simp only [bind_assoc, pure_bind]; exact ⟨_, fun _ => rfl⟩)
        | simp [Sql.Kind.isInteger, Sql.Kind.isTime, Sql.Kind.isInterval] at stored

theorem stringValue_eq (constant : Constant) :
    constant.stringValue = match constant.datum.text? with
      | some value => .ok value
      | none => .error (constant.mismatch .string) := by
  unfold Constant.stringValue
  cases constant.datum <;> rfl

/-- A string that is handed over as its bytes. -/
theorem Verdict.of_bytes (mode : encoding.encoding = .plain)
    (payload : constant.type.kind.payload = .string) (given : ¬ constant.isNull)
    (literal : literalOf constant encoding registry = stringLiteral constant encoding registry)
    (immediate : ∀ session, Session.immediate ⟨session, registry⟩ constant encoding =
      Session.immediateString ⟨session, registry⟩ constant encoding) :
    Verdict constant encoding registry
      (constant.datum.text?.any (encoding.carries registry)) := by
  simp only [stringLiteral, mode, if_neg given, stringValue_eq] at literal
  simp only [Session.immediateString, mode, if_neg given, stringValue_eq] at immediate
  cases text : constant.datum.text? with
  | none =>
      rw [text] at literal immediate
      exact .refused literal immediate (.mismatched payload)
  | some value =>
      have carries : encoding.carries registry value =
          decide (value.utf8ByteSize ≤ maximalStringField) := by
        rw [StringEncoding.carries, mode]
      simp only [text] at literal immediate
      rw [Option.any_some, carries]
      by_cases long : maximalStringField < value.utf8ByteSize
      · rw [decide_eq_false (by omega)]
        exact .refused (literal.trans (if_pos long))
          (fun session => (immediate session).trans (if_pos long)) (.long mode text long)
      · rw [decide_eq_true (by omega)]
        exact .accepted (literal.trans (if_neg long))

/-- A string that is handed over as its id. Hoisting looks the dictionary up before it reads the
payload, and embedding after it. -/
theorem Verdict.of_id (mode : encoding.encoding = .dictionary)
    (payload : constant.type.kind.payload = .string) (given : ¬ constant.isNull)
    (literal : literalOf constant encoding registry = stringLiteral constant encoding registry)
    (immediate : ∀ session, Session.immediate ⟨session, registry⟩ constant encoding =
      Session.immediateString ⟨session, registry⟩ constant encoding) :
    Verdict constant encoding registry
      (constant.datum.text?.any (encoding.carries registry)) := by
  simp only [stringLiteral, mode, if_neg given, stringValue_eq, Registry.find] at literal
  simp only [Session.immediateString, mode, if_neg given, stringValue_eq, Registry.find]
    at immediate
  cases handle : registry.handle? encoding.dictionary with
  | none =>
      rw [handle] at literal immediate
      cases text : constant.datum.text? with
      | none =>
          -- Here the orders differ: hoisting never gets to see the payload.
          rw [text] at immediate
          exact .refused literal immediate (.noDictionaryNoText mode handle text)
      | some value =>
          rw [text] at immediate
          rw [Option.any_some, StringEncoding.carries, mode, handle]
          exact .refused literal immediate (.noDictionary mode handle)
  | some dictionary =>
      rw [handle] at literal immediate
      cases text : constant.datum.text? with
      | none =>
          rw [text] at literal immediate
          exact .refused literal immediate (.mismatched payload)
      | some value =>
          rw [text] at literal
          rw [Option.any_some, StringEncoding.carries, mode, handle]
          exact .accepted literal

theorem Verdict.of_string (isString : constant.type.kind.isString = true)
    (given : ¬ constant.isNull) :
    Verdict constant encoding registry (constant.holdsValue encoding registry) := by
  have holds : constant.holdsValue encoding registry =
      constant.datum.text?.any (encoding.carries registry) := by
    unfold Constant.holdsValue
    cases kind : constant.type.kind <;> rw [kind] at isString <;> first | rfl | contradiction
  have payload : constant.type.kind.payload = .string := by
    cases kind : constant.type.kind <;> rw [kind] at isString <;> first | rfl | contradiction
  have storage : constant.type.storage.isString = true := by
    rw [← Session.isString_eq_storage]
    exact isString
  have literal : literalOf constant encoding registry =
      stringLiteral constant encoding registry := by
    unfold literalOf
    cases stored : constant.type.storage <;> rw [stored] at storage <;> first | rfl | contradiction
  have immediate : ∀ session, Session.immediate ⟨session, registry⟩ constant encoding =
      Session.immediateString ⟨session, registry⟩ constant encoding := by
    intro session
    unfold Session.immediate
    cases stored : constant.type.storage <;> rw [stored] at storage <;> first | rfl | contradiction
  rw [holds]
  cases mode : encoding.encoding with
  | plain => exact .of_bytes mode payload given literal immediate
  | dictionary => exact .of_id mode payload given literal immediate

theorem Verdict.of_unsupported
    (unsupported : constant.type.kind = .array ∨ constant.type.kind = .point) :
    Verdict constant encoding registry false := by
  have storage : constant.type.storage = constant.type.kind :=
    DataType.storage_of_kind (by rcases unsupported with kind | kind <;> simp [kind])
  have literal : literalOf constant encoding registry =
      .error (.breach (.unhoistable constant.type.kind)) := by
    unfold literalOf
    rw [storage]
    rcases unsupported with kind | kind <;> rw [kind]
  have immediate : ∀ session, Session.immediate ⟨session, registry⟩ constant encoding =
      .error (.breach (.unsupportedConstant constant.type.kind)) := by
    intro session
    unfold Session.immediate
    rw [storage]
    rcases unsupported with kind | kind <;> rw [kind]
  exact .refused literal immediate (.unsupported unsupported)

theorem Verdict.of_given (given : ¬ constant.isNull) (noArray : constant.type.kind ≠ .array)
    (noPoint : constant.type.kind ≠ .point) :
    Verdict constant encoding registry (constant.holdsValue encoding registry) := by
  cases kind : constant.type.kind
  case array | point => contradiction
  case boolean => exact .of_boolean kind given
  case float => exact .of_float kind given
  case double => exact .of_double kind given
  case char | varchar | text => exact .of_string (by rw [kind]; rfl) given
  all_goals exact .of_integral (by rw [kind]; rfl) given

/-- Both ways are of one mind about every constant, in every session: they accept it if and only if
it is admissible. -/
theorem verdict (constant : Constant) (encoding : StringEncoding) (registry : Registry) :
    Verdict constant encoding registry (constant.isAdmissible encoding registry) := by
  unfold Constant.isAdmissible
  by_cases unsupported : constant.type.kind = .array ∨ constant.type.kind = .point
  · have refused : (constant.type.kind != .array && constant.type.kind != .point) = false := by
      rcases unsupported with kind | kind <;> rw [kind] <;> rfl
    rw [refused, Bool.false_and]
    exact .of_unsupported unsupported
  · rcases not_or.mp unsupported with ⟨noArray, noPoint⟩
    rw [bne_iff_ne.mpr noArray, bne_iff_ne.mpr noPoint, Bool.true_and, Bool.true_and]
    cases isNull : constant.isNull with
    | true => exact .of_null isNull noArray noPoint
    | false => exact .of_given (by simp [isNull]) noArray noPoint

end Verdicts

/-! ### Types of operands -/

def Meaning.types : Meaning → List Ty
  | .scalar value => [value.type]
  | .text _ => [.int 64, .pointer, .int 32]

theorem Meaning.ReadBy.types {code : Module} {image : Array UInt8} {meaning : Meaning}
    {values : List RuntimeValue} (reads : meaning.ReadBy code image values) :
    values.map RuntimeValue.type = meaning.types := by
  cases meaning with
  | scalar value =>
      rw [reads]
      rfl
  | text value =>
      rcases reads with ⟨address, same, -⟩
      rw [same]
      rfl

theorem Literal.meaning_types (literal : Literal) : literal.meaning.types = literal.ownTypes := by
  cases literal <;> rfl

/-- What is known before any line has run has the type of its value. -/
theorem Ir.Frame.type_of_resolve {globals : Array (Option RuntimeValue)} {operand : Operand}
    {value : RuntimeValue} (resolved : (Frame.mk #[] globals).resolve operand = .ok value) :
    operand.type = value.type := by
  unfold Frame.resolve at resolved
  split at resolved
  case h_8 => simp at resolved
  case h_7 => contradiction
  all_goals
    cases resolved
    rfl

/-- Immediates have the types of their meaning. -/
theorem Ir.Module.States.types {code : Module} {operands : List Operand} {meaning : Meaning}
    (states : code.States operands meaning) : operands.map Operand.type = meaning.types := by
  rcases states with ⟨values, resolved, reads⟩
  rw [← (reads #[]).types]
  clear reads
  have each := mapM_eq_ok.mp (resolved ⟨#[], #[]⟩)
  clear resolved
  induction each with
  | nil => rfl
  | cons first _ inductionHypothesis =>
      rw [List.map_cons, List.map_cons, Ir.Frame.type_of_resolve first, inductionHypothesis]

theorem Literal.typesUnder_eq_own_iff (literal : Literal) (constrained : Bool) :
    literal.typesUnder constrained = literal.ownTypes ↔
      (literal = nullByte → constrained = false) := by
  cases constrained with
  | false => exact iff_of_true literal.typesUnder_false fun _ => rfl
  | true =>
      constructor
      · rintro same rfl
        contradiction
      · intro other
        exact Literal.typesUnder_of_ne (fun null => absurd (other null) (by decide)) true

namespace Session

section Shared

variable {session : Session} {count : Nat} {first? : Option Bool} {constant : Constant}
  {encoding : StringEncoding} {registry : Registry}

theorem Shared.generate_accepted (shared : session.Shared (count + 1) first?) {literal : Literal}
    {known : Registry} (made : literalOf constant encoding registry = .ok (literal, known)) :
    ∃ operands others next last,
      Workspace.generate ⟨session, registry⟩ constant encoding true =
        (.ok operands, ⟨next, known⟩) ∧
      Workspace.generate ⟨session, registry⟩ constant encoding false =
        (.ok others, ⟨last, known⟩) := by
  rcases shared.hoist made with ⟨operands, next, hoisted, -⟩
  rcases immediate_embeds made session with ⟨others, last, embedded, -⟩
  refine ⟨operands, others, next, last, hoisted, ?_⟩
  rw [Workspace.generate, if_neg (by decide), embedded]

theorem Shared.generate_refused (shared : session.Shared (count + 1) first?)
    {failure other : Error} (hoisting : literalOf constant encoding registry = .error failure)
    (embedding : Session.immediate ⟨session, registry⟩ constant encoding = .error other) :
    Workspace.generate ⟨session, registry⟩ constant encoding true =
        (.error failure, ⟨session, registry⟩) ∧
      Workspace.generate ⟨session, registry⟩ constant encoding false =
        (.error other, ⟨session, registry⟩) := by
  rcases shared.lockstep with ⟨buffer, lockstep, -⟩
  refine ⟨lockstep.generate_error hoisting, ?_⟩
  rw [Workspace.generate, if_neg (by decide), embedding]

/-- Hoisted and embedded, a constant has operands of the same types, unless it is a null boolean
where the first one is under a null constraint. -/
theorem Shared.types_agree_iff (shared : session.Shared (count + 1) first?)
    {operands others : List Operand} {after next : Workspace}
    (hoisted : Workspace.generate ⟨session, registry⟩ constant encoding true =
      (.ok operands, after))
    (plain : Workspace.generate ⟨session, registry⟩ constant encoding false =
      (.ok others, next)) :
    after.registry = next.registry ∧
      (operands.map Operand.type = others.map Operand.type ↔
        (constant.isNullBoolean = true → first?.getD constant.type.notNull = false)) := by
  rcases shared.hoisted hoisted with ⟨literal, made, -, types, -⟩
  rcases immediate_embeds made session with ⟨immediates, last, embedded, states⟩
  rw [Workspace.generate, if_neg (by decide), embedded] at plain
  cases plain
  refine ⟨rfl, ?_⟩
  rw [types, states.types, Literal.meaning_types, Literal.typesUnder_eq_own_iff,
    eq_nullByte_iff made]
  unfold Constant.nullConstraint?
  cases constant.isNullBoolean with
  | false => simp
  | true => cases first? <;> simp

end Shared

/-- The first null boolean is without a null constraint, if all are. -/
theorem firstNullConstraint_of_regular {calls : List Call}
    (regular : ∀ call ∈ calls, call.constant.isNullTruth = false) {constrained : Bool}
    (found : firstNullConstraint? calls = some constrained) : constrained = false := by
  rcases List.exists_of_findSome?_eq_some found with ⟨call, member, hoists⟩
  have constraint := regular call member
  rw [Constant.isNullTruth_eq] at constraint
  unfold Call.nullConstraint? at hoists
  split at hoists
  · rw [hoists] at constraint
    simpa using constraint
  · contradiction

/-- After any calls on a new session, a constant is accepted if and only if it is admissible,
hoisted and embedded alike. Both ways leave the same dictionaries, and operands of the same types
where no null boolean under a null constraint has been generated. Where they refuse, they do so for
the same reason and change nothing. -/
theorem both_ways_accept_alike {name : String} {devices : Nat} {session : Session}
    (started : Session.start name devices = .ok session) (calls : List Call)
    (constant : Constant) (encoding : StringEncoding) (registry : Registry) :
    let before : Workspace := ⟨session.afterCalls calls, registry⟩
    let hoisted := before.generate constant encoding true
    let plain := before.generate constant encoding false
    hoisted.1.toBool = constant.isAdmissible encoding registry ∧
    plain.1.toBool = constant.isAdmissible encoding registry ∧
    (∀ operands others, hoisted.1 = .ok operands → plain.1 = .ok others →
      hoisted.2.registry = plain.2.registry ∧
      (constant.isNullTruth = false → (∀ call ∈ calls, call.constant.isNullTruth = false) →
        operands.map Operand.type = others.map Operand.type)) ∧
    ∀ failure other, hoisted.1 = .error failure → plain.1 = .error other →
      Refusal constant encoding registry failure other ∧
        hoisted.2 = before ∧ plain.2 = before := by
  intro before hoisted plain
  rcases afterCalls_shared started calls with ⟨count, rfl, shared⟩
  have types : ∀ operands others, hoisted.1 = .ok operands → plain.1 = .ok others →
      hoisted.2.registry = plain.2.registry ∧
      (constant.isNullTruth = false → (∀ call ∈ calls, call.constant.isNullTruth = false) →
        operands.map Operand.type = others.map Operand.type) := by
    intro operands others hoistedOk plainOk
    rcases shared.types_agree_iff (Prod.ext hoistedOk rfl) (Prod.ext plainOk rfl) with
      ⟨registries, agree⟩
    refine ⟨registries, fun nullable regular => agree.mpr fun isNullBoolean => ?_⟩
    cases found : firstNullConstraint? calls with
    | some constrained => exact firstNullConstraint_of_regular regular found
    | none =>
        rw [Constant.isNullTruth_eq, Constant.nullConstraint?, if_pos isNullBoolean] at nullable
        simpa using nullable
  have judged := verdict constant encoding registry
  generalize constant.isAdmissible encoding registry = admissible at judged
  cases judged with
  | accepted made =>
      rcases shared.generate_accepted made with
        ⟨operands, others, next, last, hoistedOk, plainOk⟩
      refine ⟨congrArg (·.1.toBool) hoistedOk, congrArg (·.1.toBool) plainOk, types, ?_⟩
      intro failure other failed
      rw [show hoisted = _ from hoistedOk] at failed
      contradiction
  | refused hoisting embedding refusal =>
      rcases shared.generate_refused hoisting (embedding _) with ⟨hoistedFails, plainFails⟩
      refine ⟨congrArg (·.1.toBool) hoistedFails, congrArg (·.1.toBool) plainFails, types, ?_⟩
      intro failure other failed otherFailed
      rw [show hoisted = _ from hoistedFails] at failed ⊢
      rw [show plain = _ from plainFails] at otherFailed ⊢
      cases failed
      cases otherFailed
      exact ⟨refusal, rfl, rfl⟩

theorem both_ways_accept_alike_decimal :
    let started : Session := { code := { name := "kernel" }, buffers := [{}, {}] }
    let calls : List Call := [⟨.null (.ofKind .boolean), {}, true, {}⟩]
    let before : Workspace := ⟨started.afterCalls calls, {}⟩
    let widest : Constant := .decimal 32767 4 0
    let tooWide : Constant := .decimal 32768 4 0
    (∃ operands others, (before.generate widest {} true).1 = .ok operands ∧
      (before.generate widest {} false).1 = .ok others ∧
      operands.map Operand.type = others.map Operand.type) ∧
    (before.generate tooWide {} true).1.toBool = false ∧
    (before.generate tooWide {} false).1.toBool = false := by
  intro started calls before widest tooWide
  have start : Session.start "kernel" 2 = .ok started := rfl
  rcases both_ways_accept_alike start calls widest {} {} with ⟨hoisted, plain, alike, -⟩
  rcases both_ways_accept_alike start calls tooWide {} {} with ⟨hoistedNot, plainNot, -⟩
  rcases exists_of_toBool hoisted with ⟨operands, operandsEq⟩
  rcases exists_of_toBool plain with ⟨others, othersEq⟩
  refine ⟨⟨operands, others, operandsEq, othersEq, ?_⟩, hoistedNot, plainNot⟩
  exact (alike operands others operandsEq othersEq).2 (by decide) (by decide)

end Session

end QueryKernel
