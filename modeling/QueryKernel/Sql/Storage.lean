import QueryKernel.Error

/-!
Contract: how values of a data type are stored, and when a constant's payload
is of its type.

Owns:
- storage widths, integer null sentinels and the floating null sentinels;
- the range check of integer payloads;
- reading a payload as a value of one family.
-/

namespace QueryKernel.Sql

open QueryKernel.Number (Real32 Real64)

/-- The id that stands for a null dictionary-encoded string. -/
def nullId : Int32 := Int32.minValue

/-- The least normal float stands for a null FLOAT. -/
def nullFloat : Real32 := ⟨0x00800000⟩

/-- The least normal double stands for a null DOUBLE. -/
def nullDouble : Real64 := ⟨0x0010000000000000⟩

namespace DataType

/-- Width in bits of a stored value. Ids and packed string headers are both
words of 32 bits. -/
def bitWidth (type : DataType) : Except Error Nat :=
  match type.storage with
  | .boolean => .ok 8
  | .smallInt => .ok 16
  | .int | .float | .char | .varchar | .text => .ok 32
  | .bigInt | .double | .time | .timestamp | .date | .intervalDayTime
  | .intervalYearMonth => .ok 64
  | kind => .error (.breach (.noStorageWidth kind))

/-- Whether an integer payload fits the type's storage. -/
def fits (type : DataType) (value : Int64) : Bool :=
  match type.storage with
  | .smallInt => Int16.minValue.toInt ≤ value.toInt && value.toInt ≤ Int16.maxValue.toInt
  | .int => Int32.minValue.toInt ≤ value.toInt && value.toInt ≤ Int32.maxValue.toInt
  | _ => true

/-- An integer payload that fits, or a breach. -/
def fitInteger (type : DataType) (value : Int64) : Except Error Int64 :=
  if type.fits value then .ok value
  else .error (.breach (.storageOverflow value type.storage))

/-- The least integer of the storage width stands for null. -/
def nullInteger (type : DataType) : Except Error Int64 :=
  match type.storage, type.encoding with
  | .boolean, _ => .ok (Int8.minValue.toInt64)
  | .smallInt, _ => .ok (Int16.minValue.toInt64)
  | .int, _ => .ok (Int32.minValue.toInt64)
  | .bigInt, _ | .time, _ | .timestamp, _ | .date, _ | .intervalDayTime, _
  | .intervalYearMonth, _ => .ok Int64.minValue
  | .char, .dictionary | .varchar, .dictionary | .text, .dictionary => .ok nullId.toInt64
  | kind, _ => .error (.breach (.noNullSentinel kind))

end DataType

namespace Constant

/-- The failure to read a payload as a value of another family. -/
def mismatch (constant : Constant) (expected : PayloadKind) : Error :=
  .breach (.payloadMismatch constant.type constant.datum expected)

def boolValue (constant : Constant) : Except Error Bool :=
  match constant.datum with
  | .bool value => .ok value
  | _ => .error (constant.mismatch .boolean)

/-- The integer payload, widened. Integers, decimals, moments and spans have
one. -/
def intValue (constant : Constant) : Except Error Int64 :=
  match constant.datum with
  | .smallInt value => .ok value.toInt64
  | .int value => .ok value.toInt64
  | .bigInt value | .time value => .ok value
  | _ => .error (constant.mismatch .integer)

def floatValue (constant : Constant) : Except Error Real32 :=
  match constant.datum with
  | .float value => .ok value
  | _ => .error (constant.mismatch .float)

def doubleValue (constant : Constant) : Except Error Real64 :=
  match constant.datum with
  | .double value => .ok value
  | _ => .error (constant.mismatch .double)

def stringValue (constant : Constant) : Except Error String :=
  match constant.datum with
  | .text value => .ok value
  | _ => .error (constant.mismatch .string)

/-- The integer that a constant is stored as: its payload if it fits, or the
null sentinel of its type. -/
def storedInteger (constant : Constant) : Except Error Int64 := do
  if constant.isNull then
    constant.type.nullInteger
  else
    constant.type.fitInteger (← constant.intValue)

end Constant

end QueryKernel.Sql
