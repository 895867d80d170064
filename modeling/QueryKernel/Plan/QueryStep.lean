import QueryKernel.Plan.Expr

/-!
Contract: one step of a query plan, flattened for the compiler.

Owns: inputs, predicates, joins, grouping, targets, sort order, hints, and the
constants of a step in the order in which code is generated for them.

Does not own: the step's description.
-/

namespace QueryKernel.Plan

open QueryKernel.Sql (Constant)

inductive InputSource where
  | table
  | result
deriving DecidableEq, Repr

/-- A table of a step and its nesting level. Tables have positive ids; other ids
name results of earlier steps. -/
structure Input where
  table : Int32
  level : Nat
deriving DecidableEq, Repr

def Input.source (input : Input) : InputSource :=
  if 0 < input.table then .table else .result

structure InputColumn where
  column : Int32
  input : Input
deriving DecidableEq, Repr

/-- Join kinds of a nesting level. -/
inductive JoinKind where
  | inner
  | left
  | semi
  | anti
  | invalid
deriving DecidableEq, Repr

def JoinKind.render : JoinKind → String
  | .inner => "INNER"
  | .left => "LEFT"
  | .semi => "SEMI"
  | .anti => "ANTI"
  | .invalid => "INVALID"

/-- The predicates of one nesting level. -/
structure JoinLevel where
  predicates : List Expr := []
  kind : JoinKind := .invalid
deriving DecidableEq, Repr

structure Estimator where
  name : String
  bufferSize : Nat
deriving DecidableEq, Repr

/-- One entry of a sort order. Targets count from one. -/
structure OrderEntry where
  target : Nat
  descending : Bool
  nullsFirst : Bool
deriving DecidableEq, Repr

inductive SortAlgorithm where
  | exact
  | speculativeTopN
  | streamingTopN
deriving DecidableEq, Repr

/-- A sort order with its limit and offset. A limit of zero is none. -/
structure SortOrder where
  entries : List OrderEntry := []
  algorithm : SortAlgorithm := .exact
  limit : Nat := 0
  offset : Nat := 0
deriving DecidableEq, Repr

structure Hints where
  cpuMode : Bool := false
  columnarOutput : Bool := false
  rowwiseOutput : Bool := false
deriving DecidableEq, Repr

def Hints.any (hints : Hints) : Bool :=
  hints.cpuMode || hints.columnarOutput || hints.rowwiseOutput

structure QueryState where
  id : Nat
  session : String
  query : String
deriving DecidableEq, Repr

/-- Whether a union keeps duplicates. -/
inductive UnionKind where
  | all
  | distinct
deriving DecidableEq, Repr

/-- One compiled step of a query. -/
structure QueryStep where
  inputs : List Input := []
  columns : List InputColumn := []
  simplePredicates : List Expr := []
  predicates : List Expr := []
  joins : List JoinLevel := []
  grouping : List Expr := []
  targets : List Expr := []
  estimator : Option Estimator := none
  sort : SortOrder := {}
  scanLimit : Nat := 0
  hints : Hints := {}
  bumpAllocator : Bool := false
  union : Option UnionKind := none
  state : Option QueryState := none
deriving DecidableEq, Repr

/-- All expressions of a step: predicates, joins by level, grouping, targets. -/
def QueryStep.expressions (step : QueryStep) : List Expr :=
  step.simplePredicates ++ step.predicates ++ step.joins.flatMap JoinLevel.predicates ++
    step.grouping ++ step.targets

/-- The constants of a step, from left to right. -/
def QueryStep.constants (step : QueryStep) : List Constant :=
  step.expressions.flatMap Expr.constants

end QueryKernel.Plan
