import QueryKernel.Proofs.Session.Materialization

/-!
Contract: what a constant means at run time, and how code states it.

Owns:
- meanings: one value for a scalar or a dictionary id, the bytes for an unencoded string;
- the values that read as a meaning, among them the decoded values of a literal;
- the meaning of a constant, from its type and payload alone, and that the literal of the
  constant has it.

Does not own: which code computes the values.
-/

namespace QueryKernel

open QueryKernel.Ir (Module Operand Frame RuntimeValue Ty)
open QueryKernel.Number
open QueryKernel.Sql (Constant DataType)
open QueryKernel.Dictionary (Registry)

/-- What a constant means to a running kernel. -/
inductive Meaning where
  | scalar (value : RuntimeValue)
  | text (value : String)
deriving DecidableEq, Repr

/-- Values that read as a meaning: the value itself; or start zero, an address and the
length of a string, where the bytes of the string are read through the address. -/
def Meaning.ReadBy (code : Module) (image : Array UInt8) : Meaning → List RuntimeValue → Prop
  | .scalar value, values => values = [value]
  | .text value, values => ∃ address,
      values = [.int 64 0, .pointer address, .int 32 (Int64.ofNat value.utf8ByteSize)] ∧
      code.readBytes image address value.utf8ByteSize = .ok value.toUTF8.data.toList

/-- The meaning of a literal that is decoded to its own type. -/
def Literal.meaning (literal : Literal) : Meaning :=
  match literal with
  | .text value => .text value
  | .bool value => .scalar (.int 1 (if value then 1 else 0))
  | literal => .scalar (literal.loaded?.getD (.pointer .null))

/-- The values that a literal is decoded to read as its meaning. -/
theorem Literal.Decodes.readBy {image : Array UInt8} {literal : Literal}
    {contents : List RuntimeValue} (decodes : literal.Decodes image literal.ownTypes contents)
    (code : Module) : literal.meaning.ReadBy code image contents := by
  generalize own : literal.ownTypes = types at decodes
  cases decodes with
  | text behind =>
      have read := Literal.slice_eq_of_occursAt behind (Literal.payload_length _)
      exact ⟨_, rfl, read⟩
  | scalar decoded =>
      cases literal with
      | text value => contradiction
      | bool value =>
          cases own
          cases value <;> cases decoded <;> rfl
      | _ =>
          cases own
          cases decoded
          rfl

/-! ### Stored integers -/

section Stored

variable {value : Int64}

theorem toInt64_toInt16 (lower : -2 ^ 15 ≤ value.toInt) (upper : value.toInt ≤ 2 ^ 15 - 1) :
    value.toInt16.toInt64 = value := by
  refine Int64.toInt_inj.mp ?_
  rw [Int16.toInt_toInt64, Int64.toInt_toInt16]
  exact @bmod_of_fits value.toInt 16 (by decide) lower upper

theorem toInt64_toInt32 (lower : -2 ^ 31 ≤ value.toInt) (upper : value.toInt ≤ 2 ^ 31 - 1) :
    value.toInt32.toInt64 = value := by
  refine Int64.toInt_inj.mp ?_
  rw [Int32.toInt_toInt64, Int64.toInt_toInt32]
  exact @bmod_of_fits value.toInt 32 (by decide) lower upper

/-- What is stored as an integer fits the storage. -/
theorem storedInteger_fits {constant : Constant} (stored : constant.storedInteger = .ok value) :
    constant.type.fits value = true := by
  unfold Constant.storedInteger at stored
  split at stored
  · unfold DataType.nullInteger at stored
    unfold DataType.fits
    cases storage : constant.type.storage
    case smallInt | int =>
      simp only [storage] at stored
      cases stored
      decide
    all_goals rfl
  · obtain ⟨payload, -, fitted⟩ := bind_eq_ok.mp stored
    unfold DataType.fitInteger at fitted
    split at fitted
    · cases fitted
      assumption
    · contradiction

theorem storedInteger_smallInt {constant : Constant} (storage : constant.type.storage = .smallInt)
    (stored : constant.storedInteger = .ok value) :
    -2 ^ 15 ≤ value.toInt ∧ value.toInt ≤ 2 ^ 15 - 1 := by
  have fits := storedInteger_fits stored
  simp only [DataType.fits, storage, Bool.and_eq_true, decide_eq_true_eq] at fits
  exact fits

theorem storedInteger_int {constant : Constant} (storage : constant.type.storage = .int)
    (stored : constant.storedInteger = .ok value) :
    -2 ^ 31 ≤ value.toInt ∧ value.toInt ≤ 2 ^ 31 - 1 := by
  have fits := storedInteger_fits stored
  simp only [DataType.fits, storage, Bool.and_eq_true, decide_eq_true_eq] at fits
  exact fits

end Stored

/-! ### The meaning of a constant -/

/-- The null of a type: the least integer of the storage width, or a floating sentinel. A
boolean without nulls has none. -/
def nullMeaning? (type : DataType) : Option RuntimeValue :=
  match type.storage with
  | .boolean => if type.notNull then none else some (.int 8 Int8.minValue.toInt64)
  | .smallInt => some (.int 16 Int16.minValue.toInt64)
  | .int => some (.int 32 Int32.minValue.toInt64)
  | .bigInt | .time | .timestamp | .date | .intervalDayTime | .intervalYearMonth =>
      some (.int 64 Int64.minValue)
  | .float => some (.float Sql.nullFloat)
  | .double => some (.double Sql.nullDouble)
  | _ => none

/-- A payload at the width of the storage. A boolean takes one bit where its type has no
nulls, and a byte otherwise. -/
def payloadMeaning? (constant : Constant) : Option RuntimeValue :=
  match constant.type.storage, constant.datum with
  | .boolean, .bool value =>
      some (.int (if constant.type.notNull then 1 else 8) (if value then 1 else 0))
  | .smallInt, _ => constant.intValue.toOption.map (.int 16)
  | .int, _ => constant.intValue.toOption.map (.int 32)
  | .bigInt, _ | .time, _ | .timestamp, _ | .date, _ | .intervalDayTime, _
  | .intervalYearMonth, _ => constant.intValue.toOption.map (.int 64)
  | .float, .float value => some (.float value)
  | .double, .double value => some (.double value)
  | _, _ => none

/-- The meaning of a constant that is not a string. -/
def scalarMeaning? (constant : Constant) : Option RuntimeValue :=
  if constant.isNull then nullMeaning? constant.type else payloadMeaning? constant

/-- The meaning of a string constant: its bytes, of which a null has none; or the id by which
its dictionary knows it, where the null id stands for null. -/
def textMeaning? (constant : Constant) (encoding : StringEncoding) (registry : Registry) :
    Option Meaning :=
  match encoding.encoding, constant.datum with
  | .plain, .null => some (.text "")
  | .plain, .text value => some (.text value)
  | .dictionary, .null => some (.scalar (.int 32 Sql.nullId.toInt64))
  | .dictionary, .text value =>
      match registry.find encoding.dictionary with
      | .ok handle =>
          if (registry.idOf handle value).2 = registry then
            some (.scalar (.int 32 (registry.idOf handle value).1.toInt64))
          else none
      | .error _ => none
  | _, _ => none

/-- The meaning of a constant, given dictionaries that know its string. -/
def Sql.Constant.meaning? (constant : Constant) (encoding : StringEncoding)
    (registry : Registry) : Option Meaning :=
  if constant.type.isString then textMeaning? constant encoding registry
  else (scalarMeaning? constant).map .scalar

namespace Sql.Constant

variable {constant : Constant} {value : String}

theorem isNull_iff : constant.isNull = true ↔ constant.datum = .null := by
  rw [isNull, beq_iff_eq]

theorem stringValue_eq_ok_iff :
    constant.stringValue = .ok value ↔ constant.datum = .text value := by
  unfold stringValue
  cases constant.datum <;> simp

end Sql.Constant

theorem stringLiteral_meaning {constant : Constant} {encoding : StringEncoding}
    {registry : Registry} {literal : Literal}
    (made : stringLiteral constant encoding registry = .ok (literal, registry)) :
    textMeaning? constant encoding registry = some literal.meaning := by
  unfold stringLiteral at made
  unfold textMeaning?
  cases mode : encoding.encoding with
  | plain =>
      simp only [mode] at made
      split at made
      · rename_i isNull
        cases made
        rw [Constant.isNull_iff.mp isNull]
        rfl
      · obtain ⟨value, valueEq, rest⟩ := bind_eq_ok.mp made
        split at rest
        · contradiction
        · cases rest
          rw [Constant.stringValue_eq_ok_iff.mp valueEq]
          rfl
  | dictionary =>
      simp only [mode] at made
      split at made
      · rename_i isNull
        cases made
        rw [Constant.isNull_iff.mp isNull, Registry.nullId_eq]
        rfl
      · obtain ⟨handle, found, rest⟩ := bind_eq_ok.mp made
        obtain ⟨value, valueEq, same⟩ := bind_eq_ok.mp rest
        obtain ⟨rfl, known⟩ := Prod.mk.inj (Except.ok.inj same)
        rw [Constant.stringValue_eq_ok_iff.mp valueEq]
        simp only [found, known, if_true]
        rfl

/-- Whatever is stored as an integer means itself, at the width of the storage. -/
theorem storedInteger_meaning {constant : Constant} {value : Int64} {bits : Nat}
    (stored : constant.storedInteger = .ok value)
    (ofNull : constant.type.nullInteger = .ok value →
      nullMeaning? constant.type = some (.int bits value))
    (ofPayload : payloadMeaning? constant = constant.intValue.toOption.map (.int bits)) :
    scalarMeaning? constant = some (.int bits value) := by
  unfold scalarMeaning?
  unfold Constant.storedInteger at stored
  split at stored
  · rename_i isNull
    rw [if_pos isNull]
    exact ofNull stored
  · rename_i given
    obtain ⟨payload, payloadEq, fitted⟩ := bind_eq_ok.mp stored
    unfold DataType.fitInteger at fitted
    split at fitted
    · cases fitted
      rw [if_neg given, ofPayload, payloadEq]
      rfl
    · contradiction

theorem booleanLiteral_meaning {constant : Constant} {literal : Literal}
    (regular : constant.isNullTruth = false) (storage : constant.type.storage = .boolean)
    (made : booleanLiteral constant = .ok literal) :
    (scalarMeaning? constant).map Meaning.scalar = some literal.meaning := by
  unfold scalarMeaning?
  have isBoolean : constant.type.isBoolean = true :=
    Session.isBoolean_of_width (by rw [DataType.bitWidth, storage])
  unfold booleanLiteral at made
  split at made
  · rename_i isNull
    have nullable : constant.type.notNull = false := by
      simpa [Constant.isNullTruth, isBoolean, isNull] using regular
    rw [if_pos isNull]
    obtain ⟨null, nullEq, same⟩ := bind_eq_ok.mp made
    simp only [DataType.nullInteger, storage] at nullEq
    cases nullEq
    cases same
    simp [nullMeaning?, storage, nullable, Literal.meaning, Literal.loaded?]
  · rename_i given
    rw [if_neg given]
    obtain ⟨truth, truthEq, same⟩ := bind_eq_ok.mp made
    unfold Constant.boolValue at truthEq
    split at truthEq
    · rename_i datum
      cases truthEq
      simp only [payloadMeaning?, storage, datum]
      split at same
      · rename_i notNull
        cases same
        simp [notNull, Literal.meaning]
      · rename_i nullable
        cases same
        cases truth <;> simp [nullable, Literal.meaning, Literal.loaded?]
    · contradiction

/-- The literal of a constant means what the constant means. -/
theorem literalOf_meaning {constant : Constant} {encoding : StringEncoding}
    {registry : Registry} {literal : Literal} (regular : constant.isNullTruth = false)
    (made : literalOf constant encoding registry = .ok (literal, registry)) :
    constant.meaning? encoding registry = some literal.meaning := by
  unfold Sql.Constant.meaning?
  rw [Session.isString_eq_storage]
  unfold literalOf at made
  cases storage : constant.type.storage
  case char | varchar | text =>
    simp only [storage] at made
    exact stringLiteral_meaning made
  all_goals
    simp only [storage] at made
  case array | point | decimal => contradiction
  case boolean =>
    obtain ⟨found, foundEq, same⟩ := bind_eq_ok.mp made
    cases same
    exact booleanLiteral_meaning regular storage foundEq
  case float | double =>
    unfold scalarMeaning?
    split at made
    · rename_i isNull
      cases made
      rw [if_pos isNull, nullMeaning?, storage]
      rfl
    · rename_i given
      obtain ⟨value, valueEq, same⟩ := bind_eq_ok.mp made
      first
        | unfold Constant.floatValue at valueEq
        | unfold Constant.doubleValue at valueEq
      split at valueEq
      · rename_i datum
        cases valueEq
        cases same
        rw [if_neg given, payloadMeaning?, storage, datum]
        rfl
      · contradiction
  case smallInt =>
    obtain ⟨value, stored, same⟩ := bind_eq_ok.mp made
    cases same
    obtain ⟨lower, upper⟩ := storedInteger_smallInt storage stored
    have meaning : scalarMeaning? constant = some (.int 16 value) := by
      refine storedInteger_meaning stored (fun null => ?_) (by rw [payloadMeaning?, storage])
      simp only [DataType.nullInteger, storage] at null
      cases null
      rw [nullMeaning?, storage]
    change (scalarMeaning? constant).map Meaning.scalar =
      some (.scalar (.int 16 value.toInt16.toInt64))
    rw [meaning, toInt64_toInt16 lower upper]
    rfl
  case int =>
    obtain ⟨value, stored, same⟩ := bind_eq_ok.mp made
    cases same
    obtain ⟨lower, upper⟩ := storedInteger_int storage stored
    have meaning : scalarMeaning? constant = some (.int 32 value) := by
      refine storedInteger_meaning stored (fun null => ?_) (by rw [payloadMeaning?, storage])
      simp only [DataType.nullInteger, storage] at null
      cases null
      rw [nullMeaning?, storage]
    change (scalarMeaning? constant).map Meaning.scalar =
      some (.scalar (.int 32 value.toInt32.toInt64))
    rw [meaning, toInt64_toInt32 lower upper]
    rfl
  all_goals
    obtain ⟨value, stored, same⟩ := bind_eq_ok.mp made
    cases same
    have meaning : scalarMeaning? constant = some (.int 64 value) := by
      refine storedInteger_meaning stored (fun null => ?_) (by rw [payloadMeaning?, storage])
      simp only [DataType.nullInteger, storage] at null
      cases null
      rw [nullMeaning?, storage]
    rw [meaning]
    rfl

end QueryKernel
