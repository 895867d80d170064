import QueryKernel.Ir.Value
import QueryKernel.Sql.Constant

/-!
Contract: everything that can go wrong, as causes.

A breach means that an earlier stage handed over something it must never hand
over, and an overrun that a number outgrew its word or a request the memory. These
two classes are fatal. All other classes are reported to the caller, who may go
on.

Owns: the causes by class, and the one text of each.
-/

namespace QueryKernel

open QueryKernel.Sql (DataType Datum Kind)
open QueryKernel.Ir (RuntimeValue Ty)

inductive PayloadKind where
  | boolean
  | integer
  | float
  | double
  | string
deriving DecidableEq, Repr

def PayloadKind.text : PayloadKind → String
  | .boolean => "BOOLEAN"
  | .integer => "integer"
  | .float => "FLOAT"
  | .double => "DOUBLE"
  | .string => "string"

inductive Breach where
  | noStorageWidth (kind : Kind)
  | storageOverflow (value : Int64) (kind : Kind)
  | noNullSentinel (kind : Kind)
  | payloadMismatch (type : DataType) (datum : Datum) (expected : PayloadKind)
  | noDevices
  | noLiteralBuffer (device : Nat)
  | unhoistable (kind : Kind)
  | unsupportedConstant (kind : Kind)
  | nothingToHoist
  | hoistedTypeMismatch (device : Nat) (actual first : DataType)
  | offsetDisagreement (device offset first : Nat)
  | neverMaterialized (offset : Nat)
  | materializedTwice (offset : Nat)
  | shapeMismatch (offset : Nat)
  | literalOfPartialBytes (bits : Nat)
  | globalDefinedTwice (name : String)
  | integerExpected (actual : RuntimeValue)
  | negativeOffset (offset : Int64)
  | offsetOfNonAddress (actual : RuntimeValue)
  | loadThroughNonPointer
  | loadOfPartialBytes (bits : Nat)
  | loadOfPointer
  | unsupportedLoad (type : Ty)
  | unboundArgument (index : Nat)
  | usedBeforeExecuted (line : Nat)
  | readBeforeStored (name : String)
  | nullRead
  | noPoolString (index : Nat)
  | readOutOfBounds (length offset : Nat)
  | argumentCount (function : String) (expected actual : Nat)
deriving DecidableEq, Repr

/-- The largest offset or length that a packed string header can carry. -/
def maximalStringField : Nat := 65535

/-- Documented bounds that an input exceeded. -/
inductive Bound where
  | payloadOffset (offset : Nat)
  | payloadLength (length : Nat)
  | literalLength (bytes : Nat)
  | constantLength (bytes : Nat)
deriving DecidableEq, Repr

/-- Settings that cannot be used. The parser's own words about a malformed
document are not kept. -/
inductive SettingsFault where
  | emptyCodeCache
  | noGpus
  | malformedDocument
deriving DecidableEq, Repr

inductive DispatchFault where
  | noDevice (device : Nat)
  | droppedTask
  | taskWithoutResult (index : Nat)
deriving DecidableEq, Repr

/-- A failure of the library. After an overrun not only the call but all work on
the same objects is abandoned. -/
inductive Error where
  | unreadableFile
  | breach (cause : Breach)
  | bound (cause : Bound)
  | noDictionary (id : Int32)
  | settings (cause : SettingsFault)
  | dispatch (cause : DispatchFault)
  | typeMismatch (expected actual : DataType)
  | overrun
deriving DecidableEq, Repr

def Breach.text : Breach → String
  | .noStorageWidth kind => "no storage width for type " ++ kind.name
  | .storageOverflow value kind =>
      toString value.toInt ++ " does not fit " ++ kind.name ++ " storage"
  | .noNullSentinel kind => "no integer null sentinel for type " ++ kind.name
  | .payloadMismatch type datum expected =>
      "constant of type " ++ type.render ++ " carries " ++ datum.inspect ++ ", expected a " ++
        expected.text ++ " payload"
  | .noDevices => "code generation needs at least one device"
  | .noLiteralBuffer device => "no literal buffer for device " ++ toString device
  | .unhoistable kind => "cannot hoist a constant of type " ++ kind.name
  | .unsupportedConstant kind =>
      "unsupported constant type " ++ kind.name ++ " reached code generation"
  | .nothingToHoist => "no constants to hoist"
  | .hoistedTypeMismatch device actual first =>
      "device " ++ toString device ++ " hoists a " ++ actual.render ++ " literal, device 0 a " ++
        first.render
  | .offsetDisagreement device offset first =>
      "device " ++ toString device ++ " placed literal at offset " ++ toString offset ++
        ", device 0 at " ++ toString first
  | .neverMaterialized offset =>
      "literal at offset " ++ toString offset ++ " was registered but never materialized"
  | .materializedTwice offset =>
      "literal at offset " ++ toString offset ++ " materialized twice"
  | .shapeMismatch offset =>
      "literal at offset " ++ toString offset ++ " was materialized with a different shape"
  | .literalOfPartialBytes bits =>
      "literal width of " ++ toString bits ++ " bits is not byte-sized"
  | .globalDefinedTwice name => "global " ++ name ++ " defined twice"
  | .integerExpected actual => "expected an integer, got " ++ actual.inspect
  | .negativeOffset offset => "negative pointer offset " ++ toString offset.toInt
  | .offsetOfNonAddress actual => "gep on " ++ actual.inspect
  | .loadThroughNonPointer => "load through a non-pointer"
  | .loadOfPartialBytes bits => "load of non byte-sized i" ++ toString bits
  | .loadOfPointer => "pointer loads are not supported"
  | .unsupportedLoad type => "unsupported load type " ++ type.render
  | .unboundArgument index => "unbound function argument " ++ toString index
  | .usedBeforeExecuted line =>
      "instruction %" ++ toString line ++ " used before it executed"
  | .readBeforeStored name => "global " ++ name ++ " read before it was stored"
  | .nullRead => "read through a null pointer"
  | .noPoolString index => "no string constant " ++ toString index
  | .readOutOfBounds length offset =>
      "read of " ++ toString length ++ " bytes at " ++ toString offset ++ " out of bounds"
  | .argumentCount function expected actual =>
      "table function " ++ function ++ " takes " ++ toString expected ++ " arguments, got " ++
        toString actual

def Bound.text (bound : Bound) : String :=
  (match bound with
    | .payloadOffset offset => "string payload offset " ++ toString offset
    | .payloadLength length => "string payload length " ++ toString length
    | .literalLength bytes => "string literal of " ++ toString bytes ++ " bytes"
    | .constantLength bytes => "string constant of " ++ toString bytes ++ " bytes") ++
  " exceeds " ++ toString maximalStringField

/-- The text of unusable settings, where the library has one. -/
def SettingsFault.text? : SettingsFault → Option String
  | .emptyCodeCache => some "code_cache_size must be at least 1"
  | .noGpus => some "num_gpus must be at least 1 unless cpu_only is set"
  | .malformedDocument => none

def DispatchFault.text : DispatchFault → String
  | .noDevice device => "kernel has no device " ++ toString device
  | .droppedTask => "kernel arena dropped a task"
  | .taskWithoutResult index => "task " ++ toString index ++ " finished without a result"

namespace Error

def isFatal : Error → Bool
  | .breach _ | .overrun => true
  | _ => false

/-- The whole message, where the library words it. -/
def message? : Error → Option String
  | .unreadableFile => none
  | .breach cause => some ("Invariant violation: " ++ cause.text)
  | .bound cause => some ("Precondition failed: " ++ cause.text)
  | .noDictionary id =>
      some ("Dictionary error: no string dictionary with id " ++ toString id.toInt)
  | .settings cause => cause.text?.map fun text => "Configuration error: " ++ text
  | .dispatch cause => some ("Dispatch error: " ++ cause.text)
  | .typeMismatch expected actual =>
      some ("Type mismatch: expected " ++ expected.render ++ ", got " ++ actual.render)
  | .overrun => none

end Error

/-- The outcome of a computation that may fail and leaves a state in either
case. -/
abbrev Attempt (σ α : Type) : Type := Except Error α × σ

end QueryKernel
