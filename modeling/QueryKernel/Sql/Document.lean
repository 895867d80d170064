import QueryKernel.Document.Basic
import QueryKernel.Sql.DataType

/-!
Contract: the document form of SQL types.

Owns: the labels of kinds and encodings, and the fields of a data type.
-/

namespace QueryKernel.Sql

instance : Enumeration Kind where
  members := [.boolean, .smallInt, .int, .bigInt, .float, .double, .decimal, .time, .timestamp,
    .date, .intervalDayTime, .intervalYearMonth, .char, .varchar, .text, .array, .point]
  label
    | .boolean => "Boolean"
    | .smallInt => "SmallInt"
    | .int => "Int"
    | .bigInt => "BigInt"
    | .float => "Float"
    | .double => "Double"
    | .decimal => "Decimal"
    | .time => "Time"
    | .timestamp => "Timestamp"
    | .date => "Date"
    | .intervalDayTime => "IntervalDayTime"
    | .intervalYearMonth => "IntervalYearMonth"
    | .char => "Char"
    | .varchar => "Varchar"
    | .text => "Text"
    | .array => "Array"
    | .point => "Point"

instance : Enumeration Encoding where
  members := [.plain, .dictionary]
  label
    | .plain => "None"
    | .dictionary => "Dict"

instance : Documented DataType where
  write type := .table [
    ("sql_type", Documented.write type.kind),
    ("notnull", .bool type.notNull),
    ("precision", .int type.precision.toNat),
    ("scale", .int type.scale.toNat),
    ("compression", Documented.write type.encoding),
    ("comp_param", .int type.parameter.toInt)]
  read dialect document := do
    let fields ← document.fields? dialect
      ["sql_type", "notnull", "precision", "scale", "compression", "comp_param"]
    let byte := Document.intBetween? 0 255
    return {
      kind := ← Document.required fields "sql_type" (Documented.read dialect)
      notNull := ← Document.required fields "notnull" Document.bool?
      precision := UInt8.ofInt (← Document.required fields "precision" byte)
      scale := UInt8.ofInt (← Document.required fields "scale" byte)
      encoding := ← Document.required fields "compression" (Documented.read dialect)
      parameter := Int32.ofInt (← Document.required fields "comp_param"
        (Document.intBetween? Int32.minValue.toInt Int32.maxValue.toInt)) }

end QueryKernel.Sql
