import QueryKernel.Error
import QueryKernel.Plan.QueryStep

/-!
Contract: invocations of table functions.

Owns: signatures, invocations, the check of arguments against the signature,
and the text of both.
-/

namespace QueryKernel.Plan

open QueryKernel.Sql (Constant DataType)

/-- How a table function sizes its output. -/
inductive OutputSizing where
  | constantParameter
  | rowMultiplier
  | fixed
deriving DecidableEq, Repr

def OutputSizing.label : OutputSizing → String
  | .constantParameter => "UserSpecifiedConstantParameter"
  | .rowMultiplier => "UserSpecifiedRowMultiplier"
  | .fixed => "Constant"

/-- The signature of a table function. -/
structure TableFunction where
  name : String
  sizing : OutputSizing
  arguments : List DataType
  outputs : List DataType
deriving DecidableEq, Repr

def TableFunction.render (function : TableFunction) : String :=
  "TableFunction(name=" ++ function.name ++ ", output_sizer=" ++ function.sizing.label ++
    ", input_args=" ++ Text.bracketed (function.arguments.map DataType.render) ++
    ", output_args=" ++ Text.bracketed (function.outputs.map DataType.render) ++ ")"

structure TableFunctionCall where
  inputs : List Input := []
  columns : List InputColumn := []
  arguments : List Expr := []
  columnArguments : List ColumnRef := []
  targets : List Expr := []
  sizeParameter : Nat := 0
  function : TableFunction
deriving DecidableEq, Repr

/-- The first argument whose kind is not the signature's. -/
def firstMismatch : List Expr → List DataType → Except Error Unit
  | argument :: arguments, expected :: types =>
      if argument.type.kind = expected.kind then firstMismatch arguments types
      else .error (.typeMismatch expected argument.type)
  | _, _ => .ok ()

namespace TableFunctionCall

/-- Check the number and the kinds of the arguments. -/
def validate (call : TableFunctionCall) : Except Error Unit :=
  if call.arguments.length = call.function.arguments.length then
    firstMismatch call.arguments call.function.arguments
  else
    .error (.breach (.argumentCount call.function.name call.function.arguments.length
      call.arguments.length))

def constants (call : TableFunctionCall) : List Constant :=
  call.arguments.flatMap Expr.constants

def render (call : TableFunctionCall) : String :=
  "TableFunctionExecutionUnit(input_exprs=" ++ Text.bracketed (call.arguments.map Expr.render) ++
    ", table_func_inputs=" ++ Text.bracketed (call.columnArguments.map ColumnRef.render) ++
    ", target_exprs=" ++ Text.bracketed (call.targets.map Expr.render) ++
    ", output_buffer_size_param=" ++ toString call.sizeParameter ++
    ", table_func=" ++ call.function.render ++ ")"

end TableFunctionCall

end QueryKernel.Plan
