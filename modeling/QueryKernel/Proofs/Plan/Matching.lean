import Mathlib.Data.List.Forall2
import QueryKernel.Proofs.Plan.Readability

/-!
Contract: a cache description tells its plan, and nothing more.

Two plans match when they differ at most in what the generated code does not see: result types
of operators, estimators, hints, the owning query, inputs that no column names, and variants of
payloads and types that are spelled alike.

Owns:
- matching expressions, join levels and steps;
- matching plans have one text;
- the main statement: where no string has a quote inside, one description means matching steps.

Does not own: how a text is read off.
-/

namespace QueryKernel.Plan

open QueryKernel.Sql (Constant DataType)

/-! ### Expressions -/

/-- Expressions of one shape, with the same operators, functions, modifiers and columns, and
with constants that are spelled alike. Result types are free. -/
inductive Expr.Matches : Expr → Expr → Prop where
  | constant {left right : Constant} (payload : left.datum.render = right.datum.render)
      (type : left.type.render = right.type.render) :
      Matches (.constant left) (.constant right)
  | column {left right : ColumnRef} (table : left.table = right.table)
      (column : left.column = right.column) (level : left.level = right.level)
      (type : left.type.render = right.type.render) :
      Matches (.column left) (.column right)
  | binary {leftType rightType : DataType} {op : BinaryOp} {left right otherLeft otherRight : Expr}
      (lefts : Matches left otherLeft) (rights : Matches right otherRight) :
      Matches (.binary leftType op left right) (.binary rightType op otherLeft otherRight)
  | unary {leftType rightType : DataType} {op : UnaryOp} {operand otherOperand : Expr}
      (operands : Matches operand otherOperand) :
      Matches (.unary leftType op operand) (.unary rightType op otherOperand)
  | aggregate {leftType rightType : DataType} {function : Aggregate} {distinct : Bool}
      {argument otherArgument : Expr} (arguments : Matches argument otherArgument) :
      Matches (.aggregate leftType function distinct argument)
        (.aggregate rightType function distinct otherArgument)
  | aggregateRows {leftType rightType : DataType} {function : Aggregate} {distinct : Bool} :
      Matches (.aggregateRows leftType function distinct)
        (.aggregateRows rightType function distinct)

namespace Expr

theorem matches_of_outline {left right : Expr} (same : left.outline = right.outline) :
    left.Matches right := by
  induction left generalizing right with
  | constant value =>
      cases right with
      | constant other =>
          rcases Outline.constant.inj same with ⟨payloads, types⟩
          exact .constant payloads types
      | _ => exact Outline.noConfusion same
  | column reference =>
      cases right with
      | column other =>
          rcases Outline.column.inj same with ⟨tables, columns, levels, types⟩
          exact .column tables columns levels types
      | _ => exact Outline.noConfusion same
  | binary type op first second firstHypothesis secondHypothesis =>
      cases right with
      | binary otherType otherOp otherFirst otherSecond =>
          rcases Outline.binary.inj same with ⟨rfl, firsts, seconds⟩
          exact .binary (firstHypothesis firsts) (secondHypothesis seconds)
      | _ => exact Outline.noConfusion same
  | unary type op operand inductionHypothesis =>
      cases right with
      | unary otherType otherOp otherOperand =>
          rcases Outline.unary.inj same with ⟨rfl, operands⟩
          exact .unary (inductionHypothesis operands)
      | _ => exact Outline.noConfusion same
  | aggregate type function distinct argument inductionHypothesis =>
      cases right with
      | aggregate otherType otherFunction otherDistinct otherArgument =>
          rcases Outline.aggregate.inj same with ⟨rfl, rfl, arguments⟩
          exact .aggregate (inductionHypothesis arguments)
      | _ => exact Outline.noConfusion same
  | aggregateRows type function distinct =>
      cases right with
      | aggregateRows otherType otherFunction otherDistinct =>
          rcases Outline.aggregateRows.inj same with ⟨rfl, rfl⟩
          exact .aggregateRows
      | _ => exact Outline.noConfusion same

/-- Matching expressions have one text. -/
theorem Matches.render {left right : Expr} (same : left.Matches right) :
    left.render = right.render := by
  induction same with
  | constant payload type =>
      show Constant.render _ = Constant.render _
      unfold Constant.render
      rw [payload, type]
  | column table column level type =>
      show ColumnRef.render _ = ColumnRef.render _
      unfold ColumnRef.render
      rw [table, column, level, type]
  | binary lefts rights leftHypothesis rightHypothesis =>
      unfold Expr.render
      rw [leftHypothesis, rightHypothesis]
  | unary operands inductionHypothesis =>
      unfold Expr.render
      rw [inductionHypothesis]
  | aggregate arguments inductionHypothesis =>
      unfold Expr.render
      rw [inductionHypothesis]
  | aggregateRows => rfl

end Expr

/-! ### Rows, sections and join levels -/

/-- Lists with one image are related one by one, if images tell the relation. -/
theorem forall₂_of_map_eq {α β : Type} {relation : α → α → Prop} {image : α → β}
    (tells : ∀ {one other : α}, image one = image other → relation one other)
    {left right : List α} (same : left.map image = right.map image) :
    List.Forall₂ relation left right := by
  have images : List.Forall₂ (· = ·) (left.map image) (right.map image) := by
    rw [List.forall₂_eq_eq_eq]
    exact same
  rw [List.forall₂_map_left_iff, List.forall₂_map_right_iff] at images
  exact images.imp fun _ _ => tells

/-- Rows of as many expressions that match one by one. -/
abbrev RowsMatch (left right : List Expr) : Prop := List.Forall₂ Expr.Matches left right

theorem rowsMatch_of_outlines {left right : List Expr}
    (same : left.map Expr.outline = right.map Expr.outline) : RowsMatch left right :=
  forall₂_of_map_eq Expr.matches_of_outline same

section Rows

variable {left right : List Expr} (same : RowsMatch left right)

include same

theorem RowsMatch.renderList : renderList left = renderList right := by
  have texts : List.Forall₂ (· = ·) (left.map Expr.render) (right.map Expr.render) := by
    rw [List.forall₂_map_left_iff, List.forall₂_map_right_iff]
    exact same.imp fun _ _ => Expr.Matches.render
  rw [List.forall₂_eq_eq_eq] at texts
  unfold Plan.renderList
  rw [texts]

theorem RowsMatch.isEmpty : left.isEmpty = right.isEmpty := by
  cases same with
  | nil => rfl
  | cons _ _ => rfl

theorem RowsMatch.renderSection (title : String) :
    renderSection title left = renderSection title right := by
  unfold Plan.renderSection
  rw [same.renderList, same.isEmpty]

end Rows

/-- Join levels of one kind with matching predicates. -/
structure JoinLevel.Matches (left right : JoinLevel) : Prop where
  kind : left.kind = right.kind
  predicates : RowsMatch left.predicates right.predicates

theorem JoinLevel.matches_of_outline {left right : JoinLevel}
    (same : left.outline = right.outline) : left.Matches right := by
  rcases Prod.mk.inj same with ⟨kinds, predicates⟩
  exact ⟨kinds, rowsMatch_of_outlines predicates⟩

theorem joinsMatch_of_outlines {left right : List JoinLevel}
    (same : left.map JoinLevel.outline = right.map JoinLevel.outline) :
    List.Forall₂ JoinLevel.Matches left right :=
  forall₂_of_map_eq JoinLevel.matches_of_outline same

theorem renderJoins_of_matches {left right : List JoinLevel}
    (same : List.Forall₂ JoinLevel.Matches left right) (level : Nat) :
    renderJoins level left = renderJoins level right := by
  induction same generalizing level with
  | nil => rfl
  | cons join joins inductionHypothesis =>
      unfold renderJoins
      rw [join.kind, join.predicates.renderList, inductionHypothesis]

theorem joinsText_of_matches {left right : List JoinLevel}
    (same : List.Forall₂ JoinLevel.Matches left right) : joinsText left = joinsText right := by
  have texts := renderJoins_of_matches same 0
  unfold joinsText
  rw [texts]
  cases same with
  | nil => rfl
  | cons _ _ => rfl

/-! ### Steps -/

/-- Steps that differ at most in what does not reach the generated code: the same columns, sort
order, scan limit, bump allocator and union marker, and matching expressions in every section. -/
structure QueryStep.Matches (left right : QueryStep) : Prop where
  columns : left.columns = right.columns
  simplePredicates : RowsMatch left.simplePredicates right.simplePredicates
  predicates : RowsMatch left.predicates right.predicates
  joins : List.Forall₂ JoinLevel.Matches left.joins right.joins
  grouping : RowsMatch left.grouping right.grouping
  targets : RowsMatch left.targets right.targets
  sort : left.sort = right.sort
  scanLimit : left.scanLimit = right.scanLimit
  bumpAllocator : left.bumpAllocator = right.bumpAllocator
  union : left.union = right.union

theorem QueryStep.matches_of_outline {left right : QueryStep}
    (same : left.outline = right.outline) : left.Matches right := by
  rcases StepOutline.mk.inj same with ⟨columns, simplePredicates, predicates, joins, grouping,
    targets, sort, scanLimit, bumpAllocator, union⟩
  constructor
  · exact columns
  · exact rowsMatch_of_outlines simplePredicates
  · exact rowsMatch_of_outlines predicates
  · exact joinsMatch_of_outlines joins
  · exact rowsMatch_of_outlines grouping
  · exact rowsMatch_of_outlines targets
  · exact sort
  · exact scanLimit
  · exact bumpAllocator
  · exact union

/-- Matching steps have one description, quotes or not. -/
theorem QueryStep.Matches.cacheDescription {left right : QueryStep} (same : left.Matches right) :
    left.cacheDescription = right.cacheDescription := by
  rw [cacheDescription_eq, cacheDescription_eq, same.columns,
    same.simplePredicates.renderSection, same.predicates.renderSection,
    joinsText_of_matches same.joins, same.grouping.renderSection, same.targets.renderList,
    same.sort, same.scanLimit, same.bumpAllocator, same.union]

/-- A cache description is uniquely readable where no string has a quote inside: two steps have
one description if and only if they match, section by section and expression by expression. -/
theorem descriptions_agree_iff_matches {left right : QueryStep} (leftFree : left.IsQuoteFree)
    (rightFree : right.IsQuoteFree) :
    left.cacheDescription = right.cacheDescription ↔ left.Matches right := by
  constructor
  · intro same
    exact QueryStep.matches_of_outline (outline_of_cacheDescription leftFree rightFree same)
  · exact QueryStep.Matches.cacheDescription

theorem descriptions_agree_iff_matches_retyped :
    let count (type : Sql.Kind) : Expr := .aggregateRows (.ofKind type) .count true
    let left : QueryStep :=
      { predicates := [.constant (.ofString "a TEXT), (Const b")]
        joins := [{ predicates := [.constant ⟨.ofKind .int, .int 7⟩], kind := .left }]
        targets := [count .int] }
    let right : QueryStep :=
      { predicates := [.constant (.ofString "a TEXT), (Const b")]
        joins := [{ predicates := [.constant ⟨.ofKind .int, .bigInt 7⟩], kind := .left }]
        targets := [count .bigInt]
        hints := { cpuMode := true } }
    left ≠ right ∧ left.IsQuoteFree ∧ right.IsQuoteFree ∧ left.Matches right := by
  intro count left right
  have leftFree : ∀ constant ∈ left.constants, constant.datum.isQuoteFree = true := by decide
  have rightFree : ∀ constant ∈ right.constants, constant.datum.isQuoteFree = true := by decide
  have same : left.cacheDescription = right.cacheDescription := rfl
  have told : left.Matches right := (descriptions_agree_iff_matches leftFree rightFree).mp same
  exact ⟨by decide, leftFree, rightFree, told⟩

end QueryKernel.Plan
