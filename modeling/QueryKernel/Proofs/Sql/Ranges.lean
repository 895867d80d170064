import QueryKernel.Proofs.Attempt
import QueryKernel.Sql.Storage

/-!
Contract: which integers a data type holds.

Owns:
- the integer of a payload;
- the kinds of type that hold integers, their widths, and the range check as a range of words;
- the integer that a constant is stored as, or the reason why it has none.

Does not own: the literals and operands made of the integer.
-/

namespace QueryKernel.Sql

def Datum.integer? : Datum → Option Int64
  | .smallInt value => some value.toInt64
  | .int value => some value.toInt64
  | .bigInt value | .time value => some value
  | _ => none

/-- Whether an integer is a word of some bits in two's complement. -/
def isWord (bits : Nat) (value : Int64) : Bool :=
  -2 ^ (bits - 1) ≤ value.toInt && value.toInt < 2 ^ (bits - 1)

/-- The kinds that hold integers: exact numbers, moments and spans. -/
def Kind.isIntegral (kind : Kind) : Bool :=
  kind.isInteger || kind == .decimal || kind.isTime || kind.isInterval

/-- Bits of the integers of a type. Four digits of a decimal take 16 and nine take 32. -/
def DataType.integerBits (type : DataType) : Nat :=
  match type.kind with
  | .smallInt => 16
  | .int => 32
  | .decimal => if type.precision ≤ 4 then 16 else if type.precision ≤ 9 then 32 else 64
  | _ => 64

section Types

variable {type : DataType}

theorem DataType.storage_of_kind (noDecimal : type.kind ≠ .decimal) : type.storage = type.kind := by
  rw [storage, isDecimal, if_neg (by simpa using noDecimal)]

theorem DataType.decimalStorage_isInteger (type : DataType) :
    type.decimalStorage.isInteger = true := by
  unfold decimalStorage
  split
  · rfl
  · split <;> rfl

/-- Only decimals are stored as another kind, and that is an integer. -/
theorem DataType.kind_of_storage (noInteger : type.storage.isInteger = false) :
    type.kind = type.storage ∧ type.kind ≠ .decimal := by
  have noDecimal : type.kind ≠ .decimal := by
    intro decimal
    rw [storage, isDecimal, decimal, beq_self_eq_true, if_pos rfl,
      type.decimalStorage_isInteger] at noInteger
    contradiction
  exact ⟨(storage_of_kind noDecimal).symm, noDecimal⟩

/-- An integral type is stored as an integer, a moment or a span. -/
theorem DataType.storage_isIntegral (integral : type.kind.isIntegral = true) :
    type.storage.isInteger = true ∨ type.storage.isTime = true ∨
      type.storage.isInterval = true := by
  by_cases decimal : type.kind = .decimal
  · left
    rw [storage, isDecimal, decimal]
    exact type.decimalStorage_isInteger
  · rw [storage_of_kind decimal]
    have noDecimal : (type.kind == .decimal) = false := beq_false_of_ne decimal
    simpa [Kind.isIntegral, noDecimal, or_assoc] using integral

theorem isWord_wide (value : Int64) : isWord 64 value = true := by
  rw [isWord, Bool.and_eq_true, decide_eq_true_eq, decide_eq_true_eq]
  exact ⟨value.le_toInt, value.toInt_lt⟩

/-- The range check admits the words of the type's width. -/
theorem DataType.fits_eq_isWord (type : DataType) (value : Int64) :
    type.fits value = isWord type.integerBits value := by
  have narrow : ∀ bound : Int, decide (value.toInt ≤ bound - 1) = decide (value.toInt < bound) :=
    fun bound => decide_eq_decide.mpr (by omega)
  have small : (decide (Int16.minValue.toInt ≤ value.toInt) &&
      decide (value.toInt ≤ Int16.maxValue.toInt)) = isWord 16 value := by
    rw [isWord, ← narrow]
    rfl
  have word : (decide (Int32.minValue.toInt ≤ value.toInt) &&
      decide (value.toInt ≤ Int32.maxValue.toInt)) = isWord 32 value := by
    rw [isWord, ← narrow]
    rfl
  by_cases decimal : type.kind = .decimal
  · unfold fits integerBits storage decimalStorage isDecimal
    rw [decimal, beq_self_eq_true, if_pos rfl]
    dsimp only
    by_cases four : type.precision ≤ 4
    · rw [if_pos four, if_pos four]
      exact small
    · rw [if_neg four, if_neg four]
      by_cases nine : type.precision ≤ 9
      · rw [if_pos nine, if_pos nine]
        exact word
      · rw [if_neg nine, if_neg nine]
        exact (isWord_wide value).symm
  · unfold fits integerBits
    rw [storage_of_kind decimal]
    cases kind : type.kind
    case smallInt => exact small
    case int => exact word
    case decimal => contradiction
    all_goals exact (isWord_wide value).symm

end Types

section Constants

variable {constant : Constant}

theorem Constant.intValue_of_integer {value : Int64}
    (integer : constant.datum.integer? = some value) : constant.intValue = .ok value := by
  unfold Constant.intValue
  cases datum : constant.datum <;> rw [datum] at integer <;> first | contradiction | skip
  all_goals
    cases integer
    rfl

theorem Constant.intValue_of_none (noInteger : constant.datum.integer? = none) :
    constant.intValue = .error (constant.mismatch .integer) := by
  unfold Constant.intValue
  split
  case h_5 => rfl
  all_goals
    rename_i datum
    rw [datum] at noInteger
    contradiction

/-- What a constant that is not null is stored as: the integer of its payload, if it is a word of
the type's width. -/
theorem Constant.storedInteger_of_given (given : ¬ constant.isNull) :
    constant.storedInteger =
      match constant.datum.integer? with
      | none => .error (constant.mismatch .integer)
      | some value =>
          if isWord constant.type.integerBits value then .ok value
          else .error (.breach (.storageOverflow value constant.type.storage)) := by
  rw [storedInteger, if_neg given]
  cases integer : constant.datum.integer? with
  | none =>
      rw [intValue_of_none integer]
      rfl
  | some value =>
      rw [intValue_of_integer integer]
      simp only [← DataType.fits_eq_isWord]
      rfl

theorem Constant.storedInteger_toBool (given : ¬ constant.isNull) :
    constant.storedInteger.toBool =
      constant.datum.integer?.any (isWord constant.type.integerBits) := by
  rw [storedInteger_of_given given]
  cases constant.datum.integer? with
  | none => rfl
  | some value =>
      rw [Option.any_some]
      dsimp only
      split
      · rename_i word
        exact word.symm
      · rename_i wide
        exact (eq_false_of_ne_true wide).symm

end Constants

end QueryKernel.Sql
