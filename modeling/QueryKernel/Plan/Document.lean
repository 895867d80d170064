import QueryKernel.Plan.TableFunction
import QueryKernel.Sql.Document

/-!
Contract: the document form of the parts of a plan.

Owns: the labels of operators and kinds, and the fields of inputs, estimators,
sort orders, hints, query states and signatures.
-/

namespace QueryKernel.Plan

open Document (required)

instance : Enumeration BinaryOp where
  members := [.eq, .ne, .lt, .le, .gt, .ge, .and, .or, .plus, .minus, .multiply, .divide, .modulo]
  label
    | .eq => "Eq"
    | .ne => "Ne"
    | .lt => "Lt"
    | .le => "Le"
    | .gt => "Gt"
    | .ge => "Ge"
    | .and => "And"
    | .or => "Or"
    | .plus => "Plus"
    | .minus => "Minus"
    | .multiply => "Multiply"
    | .divide => "Divide"
    | .modulo => "Modulo"

instance : Enumeration UnaryOp where
  members := [.not, .negate, .isNull, .cast]
  label
    | .not => "Not"
    | .negate => "UMinus"
    | .isNull => "IsNull"
    | .cast => "Cast"

instance : Enumeration Aggregate where
  members := [.count, .sum, .min, .max, .average, .approxCountDistinct]
  label
    | .count => "Count"
    | .sum => "Sum"
    | .min => "Min"
    | .max => "Max"
    | .average => "Avg"
    | .approxCountDistinct => "ApproxCountDistinct"

instance : Enumeration InputSource where
  members := [.table, .result]
  label
    | .table => "Table"
    | .result => "Result"

instance : Enumeration JoinKind where
  members := [.inner, .left, .semi, .anti, .invalid]
  label
    | .inner => "Inner"
    | .left => "Left"
    | .semi => "Semi"
    | .anti => "Anti"
    | .invalid => "Invalid"

instance : Enumeration SortAlgorithm where
  members := [.exact, .speculativeTopN, .streamingTopN]
  label
    | .exact => "Default"
    | .speculativeTopN => "SpeculativeTopN"
    | .streamingTopN => "StreamingTopN"

instance : Enumeration OutputSizing where
  members := [.constantParameter, .rowMultiplier, .fixed]
  label := OutputSizing.label

def id32? (document : Document) : Option Int32 :=
  (document.intBetween? Int32.minValue.toInt Int32.maxValue.toInt).map Int32.ofInt

instance : Documented Input where
  write input := .table [
    ("table_id", .int input.table.toInt),
    ("nest_level", .int input.level)]
  read dialect document := do
    let fields ← document.fields? dialect ["table_id", "nest_level"]
    return {
      table := ← required fields "table_id" id32?
      level := ← required fields "nest_level" Document.count? }

instance : Documented InputColumn where
  write column := .table [
    ("col_id", .int column.column.toInt),
    ("scan_desc", Documented.write column.input)]
  read dialect document := do
    let fields ← document.fields? dialect ["col_id", "scan_desc"]
    return {
      column := ← required fields "col_id" id32?
      input := ← required fields "scan_desc" (Documented.read dialect) }

instance : Documented Estimator where
  write estimator := .table [
    ("name", .text estimator.name),
    ("buffer_size", .int estimator.bufferSize)]
  read dialect document := do
    let fields ← document.fields? dialect ["name", "buffer_size"]
    return {
      name := ← required fields "name" Document.text?
      bufferSize := ← required fields "buffer_size" Document.count? }

instance : Documented OrderEntry where
  write entry := .table [
    ("tle_no", .int entry.target),
    ("is_desc", .bool entry.descending),
    ("nulls_first", .bool entry.nullsFirst)]
  read dialect document := do
    let fields ← document.fields? dialect ["tle_no", "is_desc", "nulls_first"]
    return {
      target := ← required fields "tle_no" Document.count?
      descending := ← required fields "is_desc" Document.bool?
      nullsFirst := ← required fields "nulls_first" Document.bool? }

instance : Documented SortOrder where
  write sort := .table [
    ("order_entries", .list (sort.entries.map Documented.write)),
    ("algorithm", Documented.write sort.algorithm),
    ("limit", .int sort.limit),
    ("offset", .int sort.offset)]
  read dialect document := do
    let fields ← document.fields? dialect ["order_entries", "algorithm", "limit", "offset"]
    return {
      entries := ← required fields "order_entries" (Document.items? (Documented.read dialect))
      algorithm := ← required fields "algorithm" (Documented.read dialect)
      limit := ← required fields "limit" Document.count?
      offset := ← required fields "offset" Document.count? }

instance : Documented Hints where
  write hints := .table [
    ("cpu_mode", .bool hints.cpuMode),
    ("columnar_output", .bool hints.columnarOutput),
    ("rowwise_output", .bool hints.rowwiseOutput)]
  read dialect document := do
    let fields ← document.fields? dialect ["cpu_mode", "columnar_output", "rowwise_output"]
    return {
      cpuMode := ← required fields "cpu_mode" Document.bool?
      columnarOutput := ← required fields "columnar_output" Document.bool?
      rowwiseOutput := ← required fields "rowwise_output" Document.bool? }

instance : Documented QueryState where
  write state := .table [
    ("id", .int state.id),
    ("session_id", .text state.session),
    ("query_str", .text state.query)]
  read dialect document := do
    let fields ← document.fields? dialect ["id", "session_id", "query_str"]
    return {
      id := ← required fields "id" Document.count?
      session := ← required fields "session_id" Document.text?
      query := ← required fields "query_str" Document.text? }

instance : Documented TableFunction where
  write function := .table [
    ("name", .text function.name),
    ("output_sizer", Documented.write function.sizing),
    ("input_args", .list (function.arguments.map Documented.write)),
    ("output_args", .list (function.outputs.map Documented.write))]
  read dialect document := do
    let fields ← document.fields? dialect ["name", "output_sizer", "input_args", "output_args"]
    return {
      name := ← required fields "name" Document.text?
      sizing := ← required fields "output_sizer" (Documented.read dialect)
      arguments := ← required fields "input_args" (Document.items? (Documented.read dialect))
      outputs := ← required fields "output_args" (Document.items? (Documented.read dialect)) }

end QueryKernel.Plan
