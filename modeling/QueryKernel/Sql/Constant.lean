import QueryKernel.Number.Real
import QueryKernel.Sql.DataType

/-!
Contract: typed SQL constants.

A constant pairs a data type with a payload. The two may disagree: a plan is
free to carry a string payload under an integer type, and only code generation
refuses it.

Owns:
- payloads and constants, with their constructors;
- comparison by value, in which float payloads compare as reals;
- the text of a constant inside a plan, and the tagged text of a payload.
-/

namespace QueryKernel.Sql

open QueryKernel.Number (Real32 Real64)

/-- The payload of a constant. `bigInt` also holds the scaled integer of a
decimal, and `time` holds moments and spans alike. -/
inductive Datum where
  | bool (value : Bool)
  | smallInt (value : Int16)
  | int (value : Int32)
  | bigInt (value : Int64)
  | time (value : Int64)
  | float (value : Real32)
  | double (value : Real64)
  | text (value : String)
  | null
deriving DecidableEq, Repr

namespace Datum

/-- Payloads of different variants are different. -/
def sameValue : Datum → Datum → Bool
  | .float left, .float right => left.sameValue right
  | .double left, .double right => left.sameValue right
  | left, right => left == right

/-- The payload as it stands in a plan. String bytes are not escaped. -/
def render : Datum → String
  | .null => "NULL"
  | .bool value => if value then "t" else "f"
  | .smallInt value => toString value.toInt
  | .int value => toString value.toInt
  | .bigInt value => toString value.toInt
  | .time value => toString value.toInt
  | .float value => value.text
  | .double value => value.text
  | .text value => "'" ++ value ++ "'"

def inspect : Datum → String
  | .bool value => Text.tagged "Bool" (Text.truth value)
  | .smallInt value => Text.tagged "SmallInt" (toString value.toInt)
  | .int value => Text.tagged "Int" (toString value.toInt)
  | .bigInt value => Text.tagged "BigInt" (toString value.toInt)
  | .time value => Text.tagged "Time" (toString value.toInt)
  | .float value => Text.tagged "Float" value.markedText
  | .double value => Text.tagged "Double" value.markedText
  | .text value => Text.tagged "Str" (Text.quoted value)
  | .null => "Null"

end Datum

structure Constant where
  type : DataType
  datum : Datum
deriving DecidableEq, Repr

namespace Constant

def null (type : DataType) : Constant := ⟨type, .null⟩

def boolean (value : Bool) : Constant := ⟨.ofKind .boolean, .bool value⟩

def smallInt (value : Int16) : Constant := ⟨.ofKind .smallInt, .smallInt value⟩

def int (value : Int32) : Constant := ⟨.ofKind .int, .int value⟩

def bigInt (value : Int64) : Constant := ⟨.ofKind .bigInt, .bigInt value⟩

def float (value : Real32) : Constant := ⟨.ofKind .float, .float value⟩

def double (value : Real64) : Constant := ⟨.ofKind .double, .double value⟩

/-- A decimal constant from its scaled integer. -/
def decimal (scaled : Int64) (precision scale : UInt8) : Constant :=
  ⟨.decimal precision scale, .bigInt scaled⟩

/-- A moment or a span of the given kind. -/
def temporal (kind : Kind) (value : Int64) : Constant := ⟨.ofKind kind, .time value⟩

/-- An unencoded string constant. -/
def ofString (value : String) : Constant := ⟨.ofKind .text, .text value⟩

/-- A string constant encoded against a dictionary. -/
def encodedText (value : String) (dictionary : Int32) : Constant :=
  ⟨(DataType.ofKind .text).encodedBy dictionary, .text value⟩

/-- The same constant under a null constraint. -/
def constrained (constant : Constant) : Constant :=
  { constant with type := constant.type.constrained }

/-- A constant is null when it carries no payload. -/
def isNull (constant : Constant) : Bool := constant.datum == .null

def sameValue (left right : Constant) : Bool :=
  left.type == right.type && left.datum.sameValue right.datum

def render (constant : Constant) : String :=
  "(Const " ++ constant.datum.render ++ " " ++ constant.type.render ++ ")"

end Constant

end QueryKernel.Sql
