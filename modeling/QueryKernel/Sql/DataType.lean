import QueryKernel.Text.Quoted

/-!
Contract: what a SQL value is, apart from the value.

Owns:
- the kinds of SQL type and their families;
- the data type of a value: its kind, decimal shape, null constraint and encoding;
- the integer kind a decimal is stored as;
- the SQL spelling of a data type.

Does not own: storage widths and null sentinels, which can fail to exist.
-/

namespace QueryKernel.Sql

inductive Kind where
  | boolean
  | smallInt
  | int
  | bigInt
  | float
  | double
  | decimal
  | time
  | timestamp
  | date
  | intervalDayTime
  | intervalYearMonth
  | char
  | varchar
  | text
  | array
  | point
deriving DecidableEq, Repr

namespace Kind

def isString : Kind → Bool
  | .char | .varchar | .text => true
  | _ => false

def isInteger : Kind → Bool
  | .smallInt | .int | .bigInt => true
  | _ => false

/-- The kinds that name a moment. -/
def isTime : Kind → Bool
  | .time | .timestamp | .date => true
  | _ => false

/-- The kinds that name a span of time. -/
def isInterval : Kind → Bool
  | .intervalDayTime | .intervalYearMonth => true
  | _ => false

def isFloating : Kind → Bool
  | .float | .double => true
  | _ => false

def name : Kind → String
  | .boolean => "BOOLEAN"
  | .smallInt => "SMALLINT"
  | .int => "INTEGER"
  | .bigInt => "BIGINT"
  | .float => "FLOAT"
  | .double => "DOUBLE"
  | .decimal => "DECIMAL"
  | .time => "TIME"
  | .timestamp => "TIMESTAMP"
  | .date => "DATE"
  | .intervalDayTime => "INTERVAL_DAY_TIME"
  | .intervalYearMonth => "INTERVAL_YEAR_MONTH"
  | .char => "CHAR"
  | .varchar => "VARCHAR"
  | .text => "TEXT"
  | .array => "ARRAY"
  | .point => "POINT"

end Kind

/-- How a value is materialized: strings as their bytes, or as ids of a string
dictionary. -/
inductive Encoding where
  | plain
  | dictionary
deriving DecidableEq, Repr

/-- The type of a value. Precision and scale belong to decimals, and the
parameter is the dictionary id of a dictionary encoding. -/
structure DataType where
  kind : Kind
  notNull : Bool := false
  precision : UInt8 := 0
  scale : UInt8 := 0
  encoding : Encoding := .plain
  parameter : Int32 := 0
deriving DecidableEq, Repr

namespace DataType

/-- The nullable, unencoded type of a kind. -/
def ofKind (kind : Kind) : DataType := { kind }

def decimal (precision scale : UInt8) : DataType := { kind := .decimal, precision, scale }

def constrained (type : DataType) : DataType := { type with notNull := true }

def encodedBy (type : DataType) (dictionary : Int32) : DataType :=
  { type with encoding := .dictionary, parameter := dictionary }

def isDecimal (type : DataType) : Bool := type.kind == .decimal

def isString (type : DataType) : Bool := type.kind.isString

def isBoolean (type : DataType) : Bool := type.kind == .boolean

/-- The integer kind that holds a decimal of the type's precision: four digits
fit 16 bits and nine digits fit 32 bits. -/
def decimalStorage (type : DataType) : Kind :=
  if type.precision ≤ 4 then .smallInt
  else if type.precision ≤ 9 then .int
  else .bigInt

/-- The kind that a value of the type is stored as. -/
def storage (type : DataType) : Kind :=
  if type.isDecimal then type.decimalStorage else type.kind

def render (type : DataType) : String :=
  (if type.isDecimal then
    "DECIMAL(" ++ toString type.precision.toNat ++ "," ++ toString type.scale.toNat ++ ")"
  else
    type.kind.name) ++
  (match type.encoding with
    | .plain => ""
    | .dictionary => " ENCODING DICT(" ++ toString type.parameter.toInt ++ ")") ++
  (if type.notNull then " NOT NULL" else "")

end DataType

end QueryKernel.Sql
