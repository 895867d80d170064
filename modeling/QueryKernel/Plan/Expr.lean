import QueryKernel.Sql.Constant

/-!
Contract: analyzed expressions.

Owns: operators, column references, expression trees, their text, and the
constants at their leaves from left to right.
-/

namespace QueryKernel.Plan

open QueryKernel.Sql (Constant DataType)

inductive BinaryOp where
  | eq
  | ne
  | lt
  | le
  | gt
  | ge
  | and
  | or
  | plus
  | minus
  | multiply
  | divide
  | modulo
deriving DecidableEq, Repr

inductive UnaryOp where
  | not
  | negate
  | isNull
  | cast
deriving DecidableEq, Repr

inductive Aggregate where
  | count
  | sum
  | min
  | max
  | average
  | approxCountDistinct
deriving DecidableEq, Repr

def BinaryOp.render : BinaryOp → String
  | .eq => "="
  | .ne => "<>"
  | .lt => "<"
  | .le => "<="
  | .gt => ">"
  | .ge => ">="
  | .and => "AND"
  | .or => "OR"
  | .plus => "+"
  | .minus => "-"
  | .multiply => "*"
  | .divide => "/"
  | .modulo => "%"

def UnaryOp.render : UnaryOp → String
  | .not => "NOT"
  | .negate => "-"
  | .isNull => "IS NULL"
  | .cast => "CAST"

def Aggregate.render : Aggregate → String
  | .count => "COUNT"
  | .sum => "SUM"
  | .min => "MIN"
  | .max => "MAX"
  | .average => "AVG"
  | .approxCountDistinct => "APPROX_COUNT_DISTINCT"

/-- A column of a table, read at a nesting level. -/
structure ColumnRef where
  table : Int32
  column : Int32
  level : Nat
  type : DataType
deriving DecidableEq, Repr

def ColumnRef.render (column : ColumnRef) : String :=
  "(ColumnVar table: " ++ toString column.table.toInt ++ " column: " ++
    toString column.column.toInt ++ " rte: " ++ toString column.level ++ " " ++
    column.type.render ++ ")"

/-- Expressions with the types of their results. An aggregate over rows has no
argument. -/
inductive Expr where
  | constant (value : Constant)
  | column (reference : ColumnRef)
  | binary (type : DataType) (op : BinaryOp) (left right : Expr)
  | unary (type : DataType) (op : UnaryOp) (operand : Expr)
  | aggregate (type : DataType) (function : Aggregate) (distinct : Bool) (argument : Expr)
  | aggregateRows (type : DataType) (function : Aggregate) (distinct : Bool)
deriving DecidableEq, Repr

namespace Expr

def type : Expr → DataType
  | .constant value => value.type
  | .column reference => reference.type
  | .binary type _ _ _ => type
  | .unary type _ _ => type
  | .aggregate type _ _ _ => type
  | .aggregateRows type _ _ => type

/-- The constants at the leaves, from left to right. -/
def constants : Expr → List Constant
  | .constant value => [value]
  | .column _ => []
  | .binary _ _ left right => left.constants ++ right.constants
  | .unary _ _ operand => operand.constants
  | .aggregate _ _ _ argument => argument.constants
  | .aggregateRows _ _ _ => []

/-- The function of an aggregate with its modifier. -/
def renderAggregate (function : Aggregate) (distinct : Bool) : String :=
  "(" ++ function.render ++ " " ++ if distinct then "DISTINCT " else ""

/-- The expression in a plan. Result types of operators are left out. -/
def render : Expr → String
  | .constant value => value.render
  | .column reference => reference.render
  | .binary _ op left right =>
      "(BinOper " ++ op.render ++ " " ++ left.render ++ " " ++ right.render ++ ")"
  | .unary _ op operand => "(UOper " ++ op.render ++ " " ++ operand.render ++ ")"
  | .aggregate _ function distinct argument =>
      renderAggregate function distinct ++ argument.render ++ ")"
  | .aggregateRows _ function distinct => renderAggregate function distinct ++ "*)"

end Expr

def renderList (expressions : List Expr) : String :=
  ", ".intercalate (expressions.map Expr.render)

end QueryKernel.Plan
