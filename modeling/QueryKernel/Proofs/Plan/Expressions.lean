import QueryKernel.Plan.Expr
import QueryKernel.Proofs.Sql.Spelling

/-!
Contract: the text of an expression is read off uniquely.

Owns:
- the outline of an expression: everything that its text shows;
- the parts of a text, and the names that begin it;
- the main statements, for one expression and for a row of them, where no string has a quote
  inside.

Does not own: the sections of a description.
-/

namespace QueryKernel.Plan

open QueryKernel.Sql (Constant DataType)
open QueryKernel.Text (Stops)

/-! ### Outlines -/

/-- What a text shows of an expression. Result types are left out, and a constant is shown by
two texts. -/
inductive Outline where
  | constant (payload type : String)
  | column (table column : Int32) (level : Nat) (type : String)
  | binary (op : BinaryOp) (left right : Outline)
  | unary (op : UnaryOp) (operand : Outline)
  | aggregate (function : Aggregate) (distinct : Bool) (argument : Outline)
  | aggregateRows (function : Aggregate) (distinct : Bool)
deriving DecidableEq

namespace Outline

/-- The texts of the constants at the leaves, from left to right. -/
def constants : Outline → List (String × String)
  | .constant payload type => [(payload, type)]
  | .column _ _ _ _ => []
  | .binary _ left right => left.constants ++ right.constants
  | .unary _ operand => operand.constants
  | .aggregate _ _ argument => argument.constants
  | .aggregateRows _ _ => []

end Outline

namespace Expr

def outline : Expr → Outline
  | .constant value => .constant value.datum.render value.type.render
  | .column reference =>
      .column reference.table reference.column reference.level reference.type.render
  | .binary _ op left right => .binary op left.outline right.outline
  | .unary _ op operand => .unary op operand.outline
  | .aggregate _ function distinct argument => .aggregate function distinct argument.outline
  | .aggregateRows _ function distinct => .aggregateRows function distinct

/-- The outline keeps the constants in place. -/
theorem constants_outline (expression : Expr) :
    expression.outline.constants =
      expression.constants.map fun constant => (constant.datum.render, constant.type.render) := by
  induction expression with
  | constant value => rfl
  | column reference => rfl
  | binary type op left right leftHypothesis rightHypothesis =>
      rw [outline, Outline.constants, leftHypothesis, rightHypothesis, constants, List.map_append]
  | unary type op operand inductionHypothesis => exact inductionHypothesis
  | aggregate type function distinct argument inductionHypothesis => exact inductionHypothesis
  | aggregateRows type function distinct => rfl

end Expr

/-! ### Parts of a text -/

/-- The form of an expression, as far as its first word tells. -/
inductive Form where
  | constant
  | column
  | binary
  | unary
  | aggregate (function : Aggregate)

namespace Form

/-- The word that the text of an expression begins with. -/
def word : Form → String
  | .constant => "Const"
  | .column => "ColumnVar"
  | .binary => "BinOper"
  | .unary => "UOper"
  | .aggregate function => function.render

theorem word_injective {left right : Form} (same : left.word.toList = right.word.toList) :
    left = right := by
  rcases left with _ | _ | _ | _ | leftFunction <;> rcases right with _ | _ | _ | _ | rightFunction
  all_goals first | rfl | (exfalso; revert same; decide) | skip
  all_goals first | cases leftFunction | skip
  all_goals first | cases rightFunction | skip
  all_goals first | rfl | (exfalso; revert same; decide)

theorem blank_notMem_word (form : Form) : ' ' ∉ form.word.toList := by
  cases form with
  | aggregate function => cases function <;> decide
  | _ => decide

end Form

namespace Expr

def form : Expr → Form
  | .constant _ => .constant
  | .column _ => .column
  | .binary _ _ _ _ => .binary
  | .unary _ _ _ => .unary
  | .aggregate _ function _ _ => .aggregate function
  | .aggregateRows _ function _ => .aggregate function

def distinctText (distinct : Bool) : String := if distinct then "DISTINCT " else ""

def body : Expr → String
  | .constant value => value.datum.render ++ " " ++ value.type.render ++ ")"
  | .column reference =>
      "table: " ++ toString reference.table.toInt ++ " column: " ++
        toString reference.column.toInt ++ " rte: " ++ toString reference.level ++ " " ++
        reference.type.render ++ ")"
  | .binary _ op left right => op.render ++ " " ++ left.render ++ " " ++ right.render ++ ")"
  | .unary _ op operand => op.render ++ " " ++ operand.render ++ ")"
  | .aggregate _ _ distinct argument => distinctText distinct ++ argument.render ++ ")"
  | .aggregateRows _ _ distinct => distinctText distinct ++ "*)"

theorem toList_render (expression : Expr) :
    expression.render.toList =
      '(' :: (expression.form.word.toList ++ ' ' :: expression.body.toList) := by
  cases expression with
  | constant value =>
      unfold render Constant.render form Form.word body
      simp only [String.toList_append, List.append_assoc]
      rfl
  | column reference =>
      unfold render ColumnRef.render form Form.word body
      simp only [String.toList_append, List.append_assoc]
      rfl
  | binary type op left right =>
      unfold render form Form.word body
      simp only [String.toList_append, List.append_assoc]
      rfl
  | unary type op operand =>
      unfold render form Form.word body
      simp only [String.toList_append, List.append_assoc]
      rfl
  | aggregate type function distinct argument =>
      unfold render renderAggregate form Form.word body distinctText
      simp only [String.toList_append, List.append_assoc]
      rfl
  | aggregateRows type function distinct =>
      unfold render renderAggregate form Form.word body distinctText
      simp only [String.toList_append, List.append_assoc]
      rfl

/-- Every expression begins with a parenthesis. -/
theorem begins (expression : Expr) : ∃ text, expression.render.toList = '(' :: text :=
  ⟨_, expression.toList_render⟩

theorem body_constant (value : Constant) (rest : List Char) :
    (Expr.constant value).body.toList ++ rest =
      value.datum.render.toList ++ ' ' :: (value.type.render.toList ++ ')' :: rest) := by
  show (value.datum.render ++ " " ++ value.type.render ++ ")").toList ++ rest = _
  simp only [String.toList_append, List.append_assoc]
  rfl

theorem body_binary (type : DataType) (op : BinaryOp) (left right : Expr) (rest : List Char) :
    (Expr.binary type op left right).body.toList ++ rest =
      op.render.toList ++ ' ' ::
        (left.render.toList ++ ' ' :: (right.render.toList ++ ')' :: rest)) := by
  show (op.render ++ " " ++ left.render ++ " " ++ right.render ++ ")").toList ++ rest = _
  simp only [String.toList_append, List.append_assoc]
  rfl

theorem body_unary (type : DataType) (op : UnaryOp) (operand : Expr) (rest : List Char) :
    (Expr.unary type op operand).body.toList ++ rest =
      op.render.toList ++ ' ' :: (operand.render.toList ++ ')' :: rest) := by
  show (op.render ++ " " ++ operand.render ++ ")").toList ++ rest = _
  simp only [String.toList_append, List.append_assoc]
  rfl

theorem body_aggregate (type : DataType) (function : Aggregate) (distinct : Bool) (argument : Expr)
    (rest : List Char) :
    (Expr.aggregate type function distinct argument).body.toList ++ rest =
      (distinctText distinct).toList ++ (argument.render.toList ++ ')' :: rest) := by
  show (distinctText distinct ++ argument.render ++ ")").toList ++ rest = _
  simp only [String.toList_append, List.append_assoc]
  rfl

theorem body_aggregateRows (type : DataType) (function : Aggregate) (distinct : Bool)
    (rest : List Char) :
    (Expr.aggregateRows type function distinct).body.toList ++ rest =
      (distinctText distinct).toList ++ '*' :: ')' :: rest := by
  show (distinctText distinct ++ "*)").toList ++ rest = _
  simp only [String.toList_append, List.append_assoc]
  rfl

end Expr

/-! ### Operators -/

theorem BinaryOp.render_injective {left right : BinaryOp}
    (same : left.render.toList = right.render.toList) : left = right := by
  revert same
  cases left <;> cases right <;> decide

theorem BinaryOp.blank_notMem (op : BinaryOp) : ' ' ∉ op.render.toList := by
  cases op <;> decide

theorem UnaryOp.render_injective {left right : UnaryOp}
    (same : left.render.toList = right.render.toList) : left = right := by
  revert same
  cases left <;> cases right <;> decide

theorem UnaryOp.open_notMem (op : UnaryOp) : '(' ∉ op.render.toList ++ [' '] := by
  cases op <;> decide

section Uniqueness

variable {leftRest rightRest : List Char}

/-- The first word of a text tells the form. -/
theorem form_unique {left right : Expr}
    (same : left.render.toList ++ leftRest = right.render.toList ++ rightRest) :
    left.form = right.form ∧ left.body.toList ++ leftRest = right.body.toList ++ rightRest := by
  rw [Expr.toList_render, Expr.toList_render] at same
  simp only [List.cons_append, List.append_assoc] at same
  rcases Text.separated_unique left.form.blank_notMem_word right.form.blank_notMem_word
    (List.cons.inj same).2 with ⟨words, bodies⟩
  exact ⟨Form.word_injective words, bodies⟩

/-- An operator is read off in front of its operand. A blank may be part of it. -/
theorem operator_unique {leftOp rightOp : UnaryOp} {left right : Expr}
    (same : leftOp.render.toList ++ ' ' :: (left.render.toList ++ leftRest) =
      rightOp.render.toList ++ ' ' :: (right.render.toList ++ rightRest)) :
    leftOp = rightOp ∧ left.render.toList ++ leftRest = right.render.toList ++ rightRest := by
  rcases left.begins with ⟨leftText, leftBegins⟩
  rcases right.begins with ⟨rightText, rightBegins⟩
  rw [leftBegins, rightBegins, List.cons_append, List.cons_append,
    List.append_cons leftOp.render.toList, List.append_cons rightOp.render.toList] at same
  rcases Text.separated_unique leftOp.open_notMem rightOp.open_notMem same with ⟨ops, operands⟩
  rw [leftBegins, rightBegins, List.cons_append, List.cons_append, operands]
  exact ⟨UnaryOp.render_injective (List.append_cancel_right ops), rfl⟩

/-- A modifier is read off in front of an argument or a star. -/
theorem distinct_unique {left right : Bool} {first second : Char} (leftArgument : first ≠ 'D')
    (rightArgument : second ≠ 'D')
    (same : (Expr.distinctText left).toList ++ first :: leftRest =
      (Expr.distinctText right).toList ++ second :: rightRest) :
    left = right ∧ first :: leftRest = second :: rightRest := by
  cases left <;> cases right
  · exact ⟨rfl, same⟩
  · exact absurd (List.cons.inj same).1 leftArgument
  · exact absurd (List.cons.inj same).1.symm rightArgument
  · exact ⟨rfl, List.append_cancel_left same⟩

end Uniqueness

/-! ### One constructor each -/

/-- No string in the expression has a quote inside. -/
def Expr.IsQuoteFree (expression : Expr) : Prop :=
  ∀ constant ∈ expression.constants, constant.datum.isQuoteFree = true

/-- The expression is read off the front of any text, up to its outline. -/
def Expr.ReadsOff (expression : Expr) : Prop :=
  ∀ (other : Expr) (rest otherRest : List Char), other.IsQuoteFree →
    expression.render.toList ++ rest = other.render.toList ++ otherRest →
    expression.outline = other.outline ∧ rest = otherRest

namespace Expr.ReadsOff

theorem constant {value : Constant} (free : value.datum.isQuoteFree = true) :
    (Expr.constant value).ReadsOff := by
  intro other rest otherRest otherFree same
  rcases form_unique same with ⟨forms, bodies⟩
  cases other with
  | constant otherValue =>
      rw [body_constant, body_constant] at bodies
      rcases Sql.datum_unique free (otherFree otherValue List.mem_cons_self) bodies with
        ⟨payloads, behind⟩
      rcases Sql.type_unique behind with ⟨-, types, rests⟩
      rw [outline, outline, payloads, types]
      exact ⟨rfl, rests⟩
  | _ => exact Form.noConfusion forms

theorem column (reference : ColumnRef) : (Expr.column reference).ReadsOff := by
  intro other rest otherRest otherFree same
  rcases form_unique same with ⟨forms, bodies⟩
  cases other with
  | column otherReference =>
      unfold body at bodies
      simp only [String.toList_append, List.append_assoc] at bodies
      rcases Text.integer_before (by decide) (List.append_cancel_left bodies) with
        ⟨tables, afterTable⟩
      rcases Text.integer_before (by decide) afterTable with ⟨columns, afterColumn⟩
      rcases Text.numeral_before (by decide) afterColumn with ⟨levels, afterLevel⟩
      rcases Sql.type_unique afterLevel with ⟨-, types, rests⟩
      rw [outline, outline, Int32.toInt_inj.mp tables, Int32.toInt_inj.mp columns, levels, types]
      exact ⟨rfl, rests⟩
  | _ => exact Form.noConfusion forms

theorem binary {type : DataType} {op : BinaryOp} {left right : Expr} (leftReads : left.ReadsOff)
    (rightReads : right.ReadsOff) : (Expr.binary type op left right).ReadsOff := by
  intro other rest otherRest otherFree same
  rcases form_unique same with ⟨forms, bodies⟩
  cases other with
  | binary otherType otherOp otherLeft otherRight =>
      have otherLeftFree : otherLeft.IsQuoteFree := fun constant member =>
        otherFree constant (List.mem_append_left _ member)
      have otherRightFree : otherRight.IsQuoteFree := fun constant member =>
        otherFree constant (List.mem_append_right _ member)
      rw [body_binary, body_binary] at bodies
      rcases Text.separated_unique op.blank_notMem otherOp.blank_notMem bodies with ⟨ops, operands⟩
      rcases leftReads _ _ _ otherLeftFree operands with ⟨lefts, afterLeft⟩
      rcases rightReads _ _ _ otherRightFree (List.cons.inj afterLeft).2 with ⟨rights, afterRight⟩
      rw [outline, outline, BinaryOp.render_injective ops, lefts, rights]
      exact ⟨rfl, (List.cons.inj afterRight).2⟩
  | _ => exact Form.noConfusion forms

theorem unary {type : DataType} {op : UnaryOp} {operand : Expr} (reads : operand.ReadsOff) :
    (Expr.unary type op operand).ReadsOff := by
  intro other rest otherRest otherFree same
  rcases form_unique same with ⟨forms, bodies⟩
  cases other with
  | unary otherType otherOp otherOperand =>
      rw [body_unary, body_unary] at bodies
      rcases operator_unique bodies with ⟨ops, operands⟩
      rcases reads otherOperand _ _ otherFree operands with ⟨outlines, rests⟩
      rw [outline, outline, ops, outlines]
      exact ⟨rfl, (List.cons.inj rests).2⟩
  | _ => exact Form.noConfusion forms

theorem aggregate {type : DataType} {function : Aggregate} {distinct : Bool} {argument : Expr}
    (reads : argument.ReadsOff) : (Expr.aggregate type function distinct argument).ReadsOff := by
  intro other rest otherRest otherFree same
  rcases form_unique same with ⟨forms, bodies⟩
  rcases argument.begins with ⟨first, argumentText⟩
  cases other with
  | aggregate otherType otherFunction otherDistinct otherArgument =>
      rcases otherArgument.begins with ⟨second, otherText⟩
      rw [body_aggregate, body_aggregate, argumentText, otherText, List.cons_append,
        List.cons_append] at bodies
      rcases distinct_unique (by decide) (by decide) bodies with ⟨flags, arguments⟩
      rw [← List.cons_append, ← List.cons_append, ← argumentText, ← otherText] at arguments
      rcases reads otherArgument _ _ otherFree arguments with ⟨outlines, rests⟩
      rw [outline, outline, Form.aggregate.inj forms, flags, outlines]
      exact ⟨rfl, (List.cons.inj rests).2⟩
  | aggregateRows otherType otherFunction otherDistinct =>
      rw [body_aggregate, body_aggregateRows, argumentText, List.cons_append] at bodies
      have arguments := (distinct_unique (by decide) (by decide) bodies).2
      exact absurd (List.cons.inj arguments).1 (by decide)
  | _ => exact Form.noConfusion forms

theorem aggregateRows {type : DataType} {function : Aggregate} {distinct : Bool} :
    (Expr.aggregateRows type function distinct).ReadsOff := by
  intro other rest otherRest otherFree same
  rcases form_unique same with ⟨forms, bodies⟩
  cases other with
  | aggregate otherType otherFunction otherDistinct otherArgument =>
      rcases otherArgument.begins with ⟨second, otherText⟩
      rw [body_aggregateRows, body_aggregate, otherText, List.cons_append] at bodies
      have arguments := (distinct_unique (by decide) (by decide) bodies).2
      exact absurd (List.cons.inj arguments).1 (by decide)
  | aggregateRows otherType otherFunction otherDistinct =>
      rw [body_aggregateRows, body_aggregateRows] at bodies
      rcases distinct_unique (by decide) (by decide) bodies with ⟨flags, arguments⟩
      rw [outline, outline, Form.aggregate.inj forms, flags]
      exact ⟨rfl, (List.cons.inj (List.cons.inj arguments).2).2⟩
  | _ => exact Form.noConfusion forms

end Expr.ReadsOff

/-! ### Main statements -/

/-- The text of an expression is read off uniquely. -/
theorem Expr.IsQuoteFree.readsOff {expression : Expr} (free : expression.IsQuoteFree) :
    expression.ReadsOff := by
  induction expression with
  | constant value => exact .constant (free value List.mem_cons_self)
  | column reference => exact .column reference
  | binary type op left right leftHypothesis rightHypothesis =>
      apply ReadsOff.binary
      · exact leftHypothesis fun constant member => free constant (List.mem_append_left _ member)
      · exact rightHypothesis fun constant member => free constant (List.mem_append_right _ member)
  | unary type op operand inductionHypothesis => exact .unary (inductionHypothesis free)
  | aggregate type function distinct argument inductionHypothesis =>
      exact .aggregate (inductionHypothesis free)
  | aggregateRows type function distinct => exact .aggregateRows

/-! ### Rows of expressions -/

def nextText (expression : Expr) : List Char := ',' :: ' ' :: expression.render.toList

theorem toList_renderList_cons (expression : Expr) (rest : List Expr) :
    (renderList (expression :: rest)).toList =
      expression.render.toList ++ rest.flatMap nextText := by
  induction rest generalizing expression with
  | nil => simp [renderList]
  | cons next others inductionHypothesis =>
      have behind := inductionHypothesis next
      unfold renderList at behind ⊢
      rw [List.map_cons, List.map_cons, String.intercalate_cons_cons]
      rw [List.map_cons] at behind
      simp [behind, nextText]

/-- A character that begins an expression, or goes on with a row. -/
def isRowChar (c : Char) : Bool := c == '(' || c == ','

/-- A row of expressions is read off uniquely in front of what does not go on with it. -/
theorem renderList_unique {left right : List Expr}
    (leftFree : ∀ expression ∈ left, expression.IsQuoteFree)
    (rightFree : ∀ expression ∈ right, expression.IsQuoteFree) {leftRest rightRest : List Char}
    (leftStops : Stops isRowChar leftRest) (rightStops : Stops isRowChar rightRest)
    (same : (renderList left).toList ++ leftRest = (renderList right).toList ++ rightRest) :
    left.map Expr.outline = right.map Expr.outline ∧ leftRest = rightRest := by
  have comma : ∀ {rest : List Char}, Stops isRowChar rest → Stops (· == ',') rest := by
    intro rest stops c member
    exact (Bool.or_eq_false_iff.mp (stops c member)).2
  -- What follows the row does not begin with an expression.
  have ended : ∀ {rest front : List Char} {expression : Expr}, Stops isRowChar rest →
      rest ≠ expression.render.toList ++ front := by
    intro rest front expression stops impossible
    rw [impossible, expression.toList_render] at stops
    exact absurd (stops '(' rfl) (by decide)
  cases left with
  | nil =>
      cases right with
      | nil => exact ⟨rfl, List.append_cancel_left same⟩
      | cons other others =>
          rw [toList_renderList_cons, List.append_assoc] at same
          exact absurd same (ended leftStops)
  | cons expression rest =>
      cases right with
      | nil =>
          rw [toList_renderList_cons, List.append_assoc] at same
          exact absurd same.symm (ended rightStops)
      | cons other others =>
          rw [toList_renderList_cons, toList_renderList_cons, List.append_assoc,
            List.append_assoc] at same
          rcases (leftFree _ List.mem_cons_self).readsOff _ _ _ (rightFree _ List.mem_cons_self)
            same with ⟨outlines, tails⟩
          have marked : ∀ item : Expr, ∃ c text, nextText item = c :: text ∧ (c == ',') = true :=
            fun item => ⟨',', _, rfl, rfl⟩
          rcases Text.row_unique marked
            (fun item itemMember next nextMember front back texts =>
              (leftFree item (List.mem_cons_of_mem _ itemMember)).readsOff _ _ _
                (rightFree next (List.mem_cons_of_mem _ nextMember))
                (List.cons.inj (List.cons.inj texts).2).2)
            (comma leftStops) (comma rightStops) tails with ⟨others, rests⟩
          rw [List.map_cons, List.map_cons, outlines, others]
          exact ⟨rfl, rests⟩

end QueryKernel.Plan
