import QueryKernel.Hash.Xxh3
import QueryKernel.Plan.QueryStep

/-!
Contract: the description of a query step.

One text describes a step to a reader, another to the code cache. The second
leaves out what does not reach the generated code: the estimator, the hints and
the owning query.

Owns: both texts and the digest of the second.
-/

namespace QueryKernel.Plan

def OrderEntry.render (entry : OrderEntry) : String :=
  toString entry.target ++ " " ++ (if entry.descending then "desc" else "asc") ++ " " ++
    if entry.nullsFirst then "nulls first" else "nulls last"

def SortAlgorithm.render : SortAlgorithm → String
  | .exact => "Default"
  | .speculativeTopN => "Speculative Top N"
  | .streamingTopN => "Streaming Top N"

def UnionKind.render : UnionKind → String
  | .all => "UNION ALL"
  | .distinct => "UNION"

def Hints.inspect (hints : Hints) : String :=
  Text.record "RegisteredQueryHint" [
    ("cpu_mode", Text.truth hints.cpuMode),
    ("columnar_output", Text.truth hints.columnarOutput),
    ("rowwise_output", Text.truth hints.rowwiseOutput)]

def InputColumn.render (column : InputColumn) : String :=
  "(" ++ toString column.input.table.toInt ++ ", " ++ toString column.column.toInt ++ ", " ++
    toString column.input.level ++ ") "

/-- A section of expressions, left out when there are none. -/
def renderSection (title : String) (expressions : List Expr) : String :=
  if expressions.isEmpty then "" else "\n\t" ++ title ++ ": " ++ renderList expressions

/-- The join levels from the given number on. -/
def renderJoins (level : Nat) : List JoinLevel → String
  | [] => ""
  | join :: rest =>
      "\t\t" ++ toString level ++ " " ++ join.kind.render ++ " " ++ renderList join.predicates ++
        renderJoins (level + 1) rest

def SortOrder.render (sort : SortOrder) : String :=
  "\n\tSort Info: " ++
    String.join (sort.entries.map fun entry => "\n\t  " ++ entry.render) ++
    "\n\t  Algorithm: " ++ sort.algorithm.render ++
    "\n\t  Limit: " ++ toString sort.limit ++
    "\n\t  Offset: " ++ toString sort.offset

namespace QueryStep

/-- The description of a step, with or without what the cache ignores. -/
def describe (step : QueryStep) (forCache : Bool) : String :=
  "\n\tTable/Col/Levels: " ++ String.join (step.columns.map InputColumn.render) ++
    renderSection "Simple Quals" step.simplePredicates ++
    renderSection "Quals" step.predicates ++
    (if step.joins.isEmpty then "" else "\n\tJoin Quals: " ++ renderJoins 0 step.joins) ++
    renderSection "Group By" step.grouping ++
    "\n\tProjected targets: " ++ renderList step.targets ++
    (if forCache then "" else "\n\tHas Estimator: " ++ Text.truth step.estimator.isSome) ++
    step.sort.render ++
    "\n\tScan Limit: " ++ toString step.scanLimit ++
    "\n\tBump Allocator: " ++ Text.truth step.bumpAllocator ++
    (match step.union with
      | some kind => "\n\tUnion: " ++ kind.render
      | none => "") ++
    if !forCache && step.hints.any then "\n\tHints: " ++ step.hints.inspect else ""

/-- The description for readers. -/
def render (step : QueryStep) : String := step.describe false

/-- The description that keys the code cache. -/
def cacheDescription (step : QueryStep) : String := step.describe true

def cacheKey [Hash.Digest] (step : QueryStep) : UInt64 :=
  Hash.Digest.text step.cacheDescription

end QueryStep

end QueryKernel.Plan
