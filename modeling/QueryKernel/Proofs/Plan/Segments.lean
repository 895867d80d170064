import QueryKernel.Plan.Description

/-!
Contract: the constants of a step are the segments of its description that can vary.

One traversal collects the constants of a step, another renders it. Both are compared with a
third, which keeps the constants and the texts around them apart.

Owns:
- texts with constants in them, and the replacement of one constant;
- the replacement of one constant in an expression, a row, a join level or a step, wherever it
  stands and whatever it is replaced by;
- the main statement: a description is the text of the constants in their order, between texts
  that no replacement changes.
-/

namespace QueryKernel.Plan

open QueryKernel.Sql (Constant)

/-! ### Texts with constants in them -/

/-- Texts around constants. -/
inductive Template where
  | last (text : String)
  | hole (text : String) (value : Constant) (rest : Template)

def weave : List String → List String → String
  | text :: texts, shown :: rest => text ++ shown ++ weave texts rest
  | text :: _, [] => text
  | [], _ => ""

namespace Template

def constants : Template → List Constant
  | last _ => []
  | hole _ value rest => value :: rest.constants

def texts : Template → List String
  | last text => [text]
  | hole text _ rest => text :: rest.texts

def render : Template → String
  | last text => text
  | hole text value rest => text ++ value.render ++ rest.render

def prepend (front : String) : Template → Template
  | last text => last (front ++ text)
  | hole text value rest => hole (front ++ text) value rest

def append : Template → Template → Template
  | last text, second => second.prepend text
  | hole text value rest, second => hole text value (rest.append second)

instance : Append Template := ⟨append⟩

/-- The second template is the first with one constant replaced. -/
inductive Replaced (new : Constant) : Template → Template → Prop where
  | here (text : String) (old : Constant) (rest : Template) :
      Replaced new (hole text old rest) (hole text new rest)
  | later (text : String) (value : Constant) {rest other : Template}
      (changed : Replaced new rest other) :
      Replaced new (hole text value rest) (hole text value other)

theorem last_append (text : String) (second : Template) :
    last text ++ second = second.prepend text := rfl

theorem hole_append (text : String) (value : Constant) (rest second : Template) :
    hole text value rest ++ second = hole text value (rest ++ second) := rfl

/-! #### Texts and constants -/

theorem length_texts (template : Template) :
    template.texts.length = template.constants.length + 1 := by
  induction template with
  | last text => rfl
  | hole text value rest inductionHypothesis =>
      rw [texts, constants, List.length_cons, List.length_cons, inductionHypothesis]

theorem render_eq_weave (template : Template) :
    template.render = weave template.texts (template.constants.map Constant.render) := by
  induction template with
  | last text => rfl
  | hole text value rest inductionHypothesis =>
      rw [render, texts, constants, List.map_cons, weave, inductionHypothesis]

theorem render_prepend (front : String) (template : Template) :
    (template.prepend front).render = front ++ template.render := by
  cases template with
  | last text => rfl
  | hole text value rest =>
      rw [prepend, render, render, String.append_assoc, String.append_assoc, String.append_assoc]

theorem constants_prepend (front : String) (template : Template) :
    (template.prepend front).constants = template.constants := by
  cases template <;> rfl

theorem render_append (first second : Template) :
    (first ++ second).render = first.render ++ second.render := by
  induction first with
  | last text => exact second.render_prepend text
  | hole text value rest inductionHypothesis =>
      rw [hole_append, render, render, inductionHypothesis]
      exact String.append_assoc.symm

theorem constants_append (first second : Template) :
    (first ++ second).constants = first.constants ++ second.constants := by
  induction first with
  | last text => exact second.constants_prepend text
  | hole text value rest inductionHypothesis =>
      rw [hole_append, constants, constants, inductionHypothesis, List.cons_append]

/-! #### Replacements -/

variable {new : Constant}

theorem Replaced.texts {before after : Template} (changed : Replaced new before after) :
    after.texts = before.texts := by
  induction changed with
  | here text old rest => rfl
  | later text value changed inductionHypothesis =>
      rw [Template.texts, Template.texts, inductionHypothesis]

theorem Replaced.constants {before after : Template} (changed : Replaced new before after) :
    ∃ place < before.constants.length, after.constants = before.constants.set place new := by
  induction changed with
  | here text old rest => exact ⟨0, Nat.zero_lt_succ _, rfl⟩
  | later text value changed inductionHypothesis =>
      rcases inductionHypothesis with ⟨place, inside, same⟩
      refine ⟨place + 1, Nat.succ_lt_succ inside, ?_⟩
      rw [Template.constants, Template.constants, same, List.set_cons_succ]

/-- In every place any constant can stand. -/
theorem exists_replaced (template : Template) (new : Constant) {place : Nat}
    (inside : place < template.constants.length) :
    ∃ after, Replaced new template after ∧
      after.constants = template.constants.set place new := by
  induction template generalizing place with
  | last text => exact absurd inside (Nat.not_lt_zero place)
  | hole text value rest inductionHypothesis =>
      cases place with
      | zero => exact ⟨_, .here text value rest, rfl⟩
      | succ place =>
          rcases inductionHypothesis (Nat.lt_of_succ_lt_succ inside) with ⟨after, changed, same⟩
          refine ⟨_, .later text value changed, ?_⟩
          rw [constants, constants, same, List.set_cons_succ]

theorem not_replaced_last {text : String} {after : Template} :
    ¬ Replaced new (last text) after := by
  intro changed
  cases changed

/-- A text in front has no constants. -/
theorem replaced_last_append_iff {front : String} {template after : Template} :
    Replaced new (last front ++ template) after ↔
      ∃ other, Replaced new template other ∧ last front ++ other = after := by
  constructor
  · intro changed
    rw [last_append] at changed
    cases template with
    | last text => exact absurd changed not_replaced_last
    | hole text value rest =>
        cases changed with
        | here => exact ⟨_, .here text value rest, rfl⟩
        | later _ _ changed => exact ⟨_, .later text value changed, rfl⟩
  · rintro ⟨other, changed, rfl⟩
    cases changed with
    | here text old rest => exact .here (front ++ text) old rest
    | later text value changed => exact .later (front ++ text) value changed

theorem Replaced.append {first other : Template} (changed : Replaced new first other)
    (second : Template) : Replaced new (first ++ second) (other ++ second) := by
  induction changed with
  | here text old rest => exact .here text old (rest ++ second)
  | later text value changed inductionHypothesis => exact .later text value inductionHypothesis

theorem Replaced.behind {second other : Template} (changed : Replaced new second other)
    (first : Template) : Replaced new (first ++ second) (first ++ other) := by
  induction first with
  | last text => exact replaced_last_append_iff.mpr ⟨other, changed, rfl⟩
  | hole text value rest inductionHypothesis => exact .later text value inductionHypothesis

/-- A constant of two templates is one of the first or one of the second. -/
theorem replaced_append_iff {first second after : Template} :
    Replaced new (first ++ second) after ↔
      (∃ other, Replaced new first other ∧ other ++ second = after) ∨
        ∃ other, Replaced new second other ∧ first ++ other = after := by
  constructor
  · intro changed
    induction first generalizing after with
    | last text => exact .inr (replaced_last_append_iff.mp changed)
    | hole text value rest inductionHypothesis =>
        rw [hole_append] at changed
        cases changed with
        | here => exact .inl ⟨_, .here text value rest, rfl⟩
        | later _ _ changed =>
            rcases inductionHypothesis changed with ⟨other, inner, rfl⟩ | ⟨other, inner, rfl⟩
            · exact .inl ⟨_, .later text value inner, rfl⟩
            · exact .inr ⟨other, inner, rfl⟩
  · rintro (⟨other, changed, rfl⟩ | ⟨other, changed, rfl⟩)
    · exact changed.append second
    · exact changed.behind first

/-- A text at the end has no constants. -/
theorem replaced_append_last_iff {template after : Template} {back : String} :
    Replaced new (template ++ last back) after ↔
      ∃ other, Replaced new template other ∧ other ++ last back = after := by
  rw [replaced_append_iff]
  constructor
  · rintro (changed | ⟨other, changed, -⟩)
    · exact changed
    · exact absurd changed not_replaced_last
  · exact .inl

/-- The templates of the entries of a list, one behind the other. -/
def ofList {α : Type} (entry : Nat → α → Template) (index : Nat) : List α → Template
  | [] => last ""
  | first :: rest => entry index first ++ ofList entry (index + 1) rest

theorem constants_ofList {α : Type} (entry : Nat → α → Template) {listed : α → List Constant}
    (same : ∀ index value, (entry index value).constants = listed value) (index : Nat)
    (values : List α) : (ofList entry index values).constants = values.flatMap listed := by
  induction values generalizing index with
  | nil => rfl
  | cons first rest inductionHypothesis =>
      rw [ofList, constants_append, same, inductionHypothesis, List.flatMap_cons]

end Template

/-! ### Replacements in plans -/

/-- One entry of a list is replaced. -/
inductive ReplacedIn {α : Type} (replaced : α → α → Prop) : List α → List α → Prop where
  | head {first other : α} (rest : List α) (changed : replaced first other) :
      ReplacedIn replaced (first :: rest) (other :: rest)
  | tail (first : α) {rest other : List α} (changed : ReplacedIn replaced rest other) :
      ReplacedIn replaced (first :: rest) (first :: other)

/-- The second expression is the first with the constant at one leaf replaced. -/
inductive Expr.Replaced (new : Constant) : Expr → Expr → Prop where
  | constant (old : Constant) : Replaced new (.constant old) (.constant new)
  | left (type : Sql.DataType) (op : BinaryOp) {left other : Expr} (right : Expr)
      (changed : Replaced new left other) :
      Replaced new (.binary type op left right) (.binary type op other right)
  | right (type : Sql.DataType) (op : BinaryOp) (left : Expr) {right other : Expr}
      (changed : Replaced new right other) :
      Replaced new (.binary type op left right) (.binary type op left other)
  | operand (type : Sql.DataType) (op : UnaryOp) {operand other : Expr}
      (changed : Replaced new operand other) :
      Replaced new (.unary type op operand) (.unary type op other)
  | argument (type : Sql.DataType) (function : Aggregate) (distinct : Bool) {argument other : Expr}
      (changed : Replaced new argument other) :
      Replaced new (.aggregate type function distinct argument)
        (.aggregate type function distinct other)

/-- One constant in the predicates of a join level is replaced. -/
def JoinLevel.Replaced (new : Constant) (before after : JoinLevel) : Prop :=
  ∃ predicates, ReplacedIn (Expr.Replaced new) before.predicates predicates ∧
    { before with predicates } = after

/-- One constant of a step is replaced in place, and the rest of the step stays. -/
inductive QueryStep.Replaced (new : Constant) (step : QueryStep) : QueryStep → Prop where
  | simplePredicates {simplePredicates : List Expr}
      (changed : ReplacedIn (Expr.Replaced new) step.simplePredicates simplePredicates) :
      Replaced new step { step with simplePredicates }
  | predicates {predicates : List Expr}
      (changed : ReplacedIn (Expr.Replaced new) step.predicates predicates) :
      Replaced new step { step with predicates }
  | joins {joins : List JoinLevel}
      (changed : ReplacedIn (JoinLevel.Replaced new) step.joins joins) :
      Replaced new step { step with joins }
  | grouping {grouping : List Expr}
      (changed : ReplacedIn (Expr.Replaced new) step.grouping grouping) :
      Replaced new step { step with grouping }
  | targets {targets : List Expr}
      (changed : ReplacedIn (Expr.Replaced new) step.targets targets) :
      Replaced new step { step with targets }

/-- To replace a constant in place is to replace it in the template, where every place can be
reached. -/
def Tracks {α : Type} (replaced : Constant → α → α → Prop) (template : α → Template) : Prop :=
  ∀ new before after, (template before).Replaced new after ↔
    ∃ other, replaced new before other ∧ template other = after

/-- An entry of a list is tracked wherever it stands. -/
theorem Tracks.ofList {α : Type} {replaced : Constant → α → α → Prop}
    {entry : Nat → α → Template} (tracks : ∀ index, Tracks replaced (entry index)) (index : Nat) :
    Tracks (fun new => ReplacedIn (replaced new)) (Template.ofList entry index) := by
  intro new before after
  induction before generalizing index after with
  | nil =>
      constructor
      · intro changed
        exact absurd changed Template.not_replaced_last
      · rintro ⟨other, changed, -⟩
        cases changed
  | cons first rest inductionHypothesis =>
      rw [Template.ofList, Template.replaced_append_iff]
      constructor
      · rintro (⟨other, changed, rfl⟩ | ⟨other, changed, rfl⟩)
        · rcases (tracks index new first other).mp changed with ⟨value, inner, rfl⟩
          exact ⟨_, .head rest inner, rfl⟩
        · rcases (inductionHypothesis (index + 1) other).mp changed with ⟨values, inner, rfl⟩
          exact ⟨_, .tail first inner, rfl⟩
      · rintro ⟨_, changed, rfl⟩
        cases changed with
        | head _ inner =>
            exact .inl ⟨_, (tracks index new first _).mpr ⟨_, inner, rfl⟩, rfl⟩
        | tail _ inner =>
            exact .inr ⟨_, (inductionHypothesis (index + 1) _).mpr ⟨_, inner, rfl⟩, rfl⟩

/-- A fixed text in front of what is tracked. -/
theorem Tracks.behind {α : Type} {replaced : Constant → α → α → Prop} {template : α → Template}
    (tracks : Tracks replaced template) (text : String) :
    Tracks replaced fun value => .last text ++ template value := by
  intro new before after
  rw [Template.replaced_last_append_iff]
  constructor
  · rintro ⟨other, changed, rfl⟩
    rcases (tracks new before other).mp changed with ⟨value, inner, rfl⟩
    exact ⟨value, inner, rfl⟩
  · rintro ⟨value, changed, rfl⟩
    exact ⟨_, (tracks new before _).mpr ⟨value, changed, rfl⟩, rfl⟩

/-! ### Expressions and rows -/

def Expr.template : Expr → Template
  | .constant value => .hole "" value (.last "")
  | .column reference => .last reference.render
  | .binary _ op left right =>
      .last ("(BinOper " ++ op.render ++ " ") ++ left.template ++ .last " " ++ right.template ++
        .last ")"
  | .unary _ op operand => .last ("(UOper " ++ op.render ++ " ") ++ operand.template ++ .last ")"
  | .aggregate _ function distinct argument =>
      .last (renderAggregate function distinct) ++ argument.template ++ .last ")"
  | .aggregateRows _ function distinct => .last (renderAggregate function distinct ++ "*)")

theorem Expr.render_template (expression : Expr) :
    expression.template.render = expression.render := by
  induction expression with
  | constant value => simp [template, Template.render, render]
  | column reference => rfl
  | binary type op left right leftHypothesis rightHypothesis =>
      simp only [template, Template.render_append, leftHypothesis, rightHypothesis]
      rfl
  | unary type op operand inductionHypothesis =>
      simp only [template, Template.render_append, inductionHypothesis]
      rfl
  | aggregate type function distinct argument inductionHypothesis =>
      simp only [template, Template.render_append, inductionHypothesis]
      rfl
  | aggregateRows type function distinct => rfl

theorem Expr.constants_template (expression : Expr) :
    expression.template.constants = expression.constants := by
  induction expression with
  | constant value => rfl
  | column reference => rfl
  | binary type op left right leftHypothesis rightHypothesis =>
      simp [template, Template.constants_append, Template.constants, constants, leftHypothesis,
        rightHypothesis]
  | unary type op operand inductionHypothesis =>
      simp [template, Template.constants_append, Template.constants, constants,
        inductionHypothesis]
  | aggregate type function distinct argument inductionHypothesis =>
      simp [template, Template.constants_append, Template.constants, constants,
        inductionHypothesis]
  | aggregateRows type function distinct => rfl

theorem Expr.tracks : Tracks Expr.Replaced Expr.template := by
  intro new before after
  induction before generalizing after with
  | constant value =>
      constructor
      · intro changed
        cases changed with
        | here => exact ⟨_, .constant value, rfl⟩
        | later _ _ inner => exact absurd inner Template.not_replaced_last
      · rintro ⟨_, changed, rfl⟩
        cases changed
        exact .here "" value (.last "")
  | column reference =>
      constructor
      · intro changed
        exact absurd changed Template.not_replaced_last
      · rintro ⟨_, changed, -⟩
        cases changed
  | binary type op left right leftHypothesis rightHypothesis =>
      rw [template, Template.replaced_append_last_iff]
      constructor
      · rintro ⟨_, changed, rfl⟩
        rcases Template.replaced_append_iff.mp changed with ⟨_, inFront, rfl⟩ | ⟨_, behind, rfl⟩
        · rcases Template.replaced_append_last_iff.mp inFront with ⟨_, opened, rfl⟩
          rcases Template.replaced_last_append_iff.mp opened with ⟨_, ofLeft, rfl⟩
          rcases (leftHypothesis _).mp ofLeft with ⟨other, inner, rfl⟩
          exact ⟨_, .left type op right inner, rfl⟩
        · rcases (rightHypothesis _).mp behind with ⟨other, inner, rfl⟩
          exact ⟨_, .right type op left inner, rfl⟩
      · rintro ⟨_, changed, rfl⟩
        cases changed with
        | left _ _ _ inner =>
            have ofLeft := (leftHypothesis _).mpr ⟨_, inner, rfl⟩
            exact ⟨_, ((ofLeft.behind _).append _).append _, rfl⟩
        | right _ _ _ inner =>
            have ofRight := (rightHypothesis _).mpr ⟨_, inner, rfl⟩
            exact ⟨_, ofRight.behind _, rfl⟩
  | unary type op operand inductionHypothesis =>
      simp only [template, Template.replaced_append_last_iff, Template.replaced_last_append_iff]
      constructor
      · rintro ⟨_, ⟨_, changed, rfl⟩, rfl⟩
        rcases (inductionHypothesis _).mp changed with ⟨other, inner, rfl⟩
        exact ⟨_, .operand type op inner, rfl⟩
      · rintro ⟨_, changed, rfl⟩
        cases changed with
        | operand _ _ inner =>
            exact ⟨_, ⟨_, (inductionHypothesis _).mpr ⟨_, inner, rfl⟩, rfl⟩, rfl⟩
  | aggregate type function distinct argument inductionHypothesis =>
      simp only [template, Template.replaced_append_last_iff, Template.replaced_last_append_iff]
      constructor
      · rintro ⟨_, ⟨_, changed, rfl⟩, rfl⟩
        rcases (inductionHypothesis _).mp changed with ⟨other, inner, rfl⟩
        exact ⟨_, .argument type function distinct inner, rfl⟩
      · rintro ⟨_, changed, rfl⟩
        cases changed with
        | argument _ _ _ inner =>
            exact ⟨_, ⟨_, (inductionHypothesis _).mpr ⟨_, inner, rfl⟩, rfl⟩, rfl⟩
  | aggregateRows type function distinct =>
      constructor
      · intro changed
        exact absurd changed Template.not_replaced_last
      · rintro ⟨_, changed, -⟩
        cases changed

/-- An expression of a row with the separator in front of it. -/
def rowEntry (index : Nat) (expression : Expr) : Template :=
  .last (if index = 0 then "" else ", ") ++ expression.template

def rowTemplate (row : List Expr) : Template := .ofList rowEntry 0 row

theorem constants_rowTemplate (row : List Expr) :
    (rowTemplate row).constants = row.flatMap Expr.constants := by
  apply Template.constants_ofList
  intro index expression
  rw [rowEntry, Template.constants_append, expression.constants_template]
  rfl

theorem tracks_rowTemplate :
    Tracks (fun new => ReplacedIn (Expr.Replaced new)) rowTemplate :=
  Tracks.ofList (fun index => Expr.tracks.behind (if index = 0 then "" else ", ")) 0

/-- Behind the first expression each has a separator in front of it. -/
theorem render_ofList_rowEntry (index : Nat) (row : List Expr) :
    (Template.ofList rowEntry (index + 1) row).render =
      String.join (row.map fun expression => ", " ++ expression.render) := by
  induction row generalizing index with
  | nil => rfl
  | cons expression rest inductionHypothesis =>
      rw [Template.ofList, Template.render_append, inductionHypothesis, rowEntry,
        if_neg (Nat.succ_ne_zero index), Template.render_append, expression.render_template,
        List.map_cons, String.join_cons]
      rfl

theorem intercalate_eq_join (first : String) (rest : List String) :
    ", ".intercalate (first :: rest) = first ++ String.join (rest.map (", " ++ ·)) := by
  induction rest generalizing first with
  | nil => simp [String.join]
  | cons second rest inductionHypothesis =>
      rw [String.intercalate_cons_cons, inductionHypothesis, List.map_cons, String.join_cons,
        String.append_assoc, String.append_assoc]

theorem render_rowTemplate (row : List Expr) : (rowTemplate row).render = renderList row := by
  cases row with
  | nil => rfl
  | cons expression rest =>
      rw [rowTemplate, Template.ofList, Template.render_append, render_ofList_rowEntry, rowEntry,
        Template.render_append, expression.render_template, renderList, List.map_cons,
        intercalate_eq_join, List.map_map]
      simp [Template.render]
      rfl

/-- The template of a section, left out when there are no expressions. -/
def sectionTemplate (title : String) (expressions : List Expr) : Template :=
  .last (if expressions.isEmpty then "" else "\n\t" ++ title ++ ": ") ++ rowTemplate expressions

theorem render_sectionTemplate (title : String) (expressions : List Expr) :
    (sectionTemplate title expressions).render = renderSection title expressions := by
  rw [sectionTemplate, Template.render_append, render_rowTemplate, renderSection]
  cases expressions with
  | nil => rfl
  | cons first rest => rfl

theorem constants_sectionTemplate (title : String) (expressions : List Expr) :
    (sectionTemplate title expressions).constants = expressions.flatMap Expr.constants := by
  rw [sectionTemplate, Template.constants_append, constants_rowTemplate]
  rfl

theorem ReplacedIn.isEmpty {α : Type} {replaced : α → α → Prop} {before after : List α}
    (changed : ReplacedIn replaced before after) : after.isEmpty = before.isEmpty := by
  cases changed with
  | head _ _ => rfl
  | tail _ _ => rfl

/-- The text in front of a list may tell whether the list is empty. -/
theorem Tracks.titled {α : Type} {replaced : Constant → α → α → Prop} {template : List α → Template}
    (tracks : Tracks (fun new => ReplacedIn (replaced new)) template) (title : Bool → String) :
    Tracks (fun new => ReplacedIn (replaced new)) fun values =>
      .last (title values.isEmpty) ++ template values := by
  intro new before after
  rw [Template.replaced_last_append_iff]
  constructor
  · rintro ⟨other, changed, rfl⟩
    rcases (tracks new before other).mp changed with ⟨values, inner, rfl⟩
    refine ⟨values, inner, ?_⟩
    show Template.last (title values.isEmpty) ++ template values = _
    rw [inner.isEmpty]
  · rintro ⟨values, changed, rfl⟩
    refine ⟨_, (tracks new before _).mpr ⟨values, changed, rfl⟩, ?_⟩
    show _ = Template.last (title values.isEmpty) ++ template values
    rw [changed.isEmpty]

theorem tracks_sectionTemplate (title : String) :
    Tracks (fun new => ReplacedIn (Expr.Replaced new)) (sectionTemplate title) :=
  tracks_rowTemplate.titled fun isEmpty => if isEmpty then "" else "\n\t" ++ title ++ ": "

/-! ### Joins -/

def JoinLevel.template (level : Nat) (join : JoinLevel) : Template :=
  .last ("\t\t" ++ toString level ++ " " ++ join.kind.render ++ " ") ++ rowTemplate join.predicates

theorem JoinLevel.tracks (level : Nat) : Tracks JoinLevel.Replaced (JoinLevel.template level) := by
  intro new before after
  rw [JoinLevel.template, Template.replaced_last_append_iff]
  constructor
  · rintro ⟨other, changed, rfl⟩
    rcases (tracks_rowTemplate new before.predicates other).mp changed with ⟨row, inner, rfl⟩
    exact ⟨_, ⟨row, inner, rfl⟩, rfl⟩
  · rintro ⟨_, ⟨row, inner, rfl⟩, rfl⟩
    exact ⟨_, (tracks_rowTemplate new before.predicates _).mpr ⟨row, inner, rfl⟩, rfl⟩

def joinsTemplate (joins : List JoinLevel) : Template :=
  .last (if joins.isEmpty then "" else "\n\tJoin Quals: ") ++
    Template.ofList JoinLevel.template 0 joins

theorem render_ofList_joins (level : Nat) (joins : List JoinLevel) :
    (Template.ofList JoinLevel.template level joins).render = renderJoins level joins := by
  induction joins generalizing level with
  | nil => rfl
  | cons join rest inductionHypothesis =>
      rw [Template.ofList, Template.render_append, inductionHypothesis, JoinLevel.template,
        Template.render_append, render_rowTemplate, renderJoins]
      rfl

theorem render_joinsTemplate (joins : List JoinLevel) :
    (joinsTemplate joins).render =
      if joins.isEmpty then "" else "\n\tJoin Quals: " ++ renderJoins 0 joins := by
  rw [joinsTemplate, Template.render_append, render_ofList_joins]
  cases joins with
  | nil => rfl
  | cons join rest => rfl

theorem constants_joinsTemplate (joins : List JoinLevel) :
    (joinsTemplate joins).constants =
      (joins.flatMap JoinLevel.predicates).flatMap Expr.constants := by
  rw [joinsTemplate, Template.constants_append, List.flatMap_assoc]
  apply Template.constants_ofList
  intro level join
  rw [JoinLevel.template, Template.constants_append, constants_rowTemplate]
  rfl

theorem tracks_joinsTemplate :
    Tracks (fun new => ReplacedIn (JoinLevel.Replaced new)) joinsTemplate :=
  (Tracks.ofList JoinLevel.tracks 0).titled fun isEmpty =>
    if isEmpty then "" else "\n\tJoin Quals: "

/-! ### Steps -/

namespace QueryStep

def opening (step : QueryStep) : String :=
  "\n\tTable/Col/Levels: " ++ String.join (step.columns.map InputColumn.render)

def closing (step : QueryStep) (forCache : Bool) : String :=
  (if forCache then "" else "\n\tHas Estimator: " ++ Text.truth step.estimator.isSome) ++
    step.sort.render ++
    "\n\tScan Limit: " ++ toString step.scanLimit ++
    "\n\tBump Allocator: " ++ Text.truth step.bumpAllocator ++
    (match step.union with
      | some kind => "\n\tUnion: " ++ kind.render
      | none => "") ++
    if !forCache && step.hints.any then "\n\tHints: " ++ step.hints.inspect else ""

def template (forCache : Bool) (step : QueryStep) : Template :=
  .last step.opening ++ sectionTemplate "Simple Quals" step.simplePredicates ++
    sectionTemplate "Quals" step.predicates ++ joinsTemplate step.joins ++
    sectionTemplate "Group By" step.grouping ++ .last "\n\tProjected targets: " ++
    rowTemplate step.targets ++ .last (step.closing forCache)

/-- The renderer visits the constants as the template does. -/
theorem render_template (forCache : Bool) (step : QueryStep) :
    (step.template forCache).render = step.describe forCache := by
  unfold template describe opening closing
  simp only [Template.render_append, render_sectionTemplate, render_joinsTemplate,
    render_rowTemplate, Template.render]
  cases step.union with
  | none => simp only [String.append_assoc]
  | some kind => simp only [String.append_assoc]

/-- The collector visits the constants as the template does. -/
theorem constants_template (forCache : Bool) (step : QueryStep) :
    (step.template forCache).constants = step.constants := by
  simp only [template, Template.constants_append, constants_sectionTemplate,
    constants_joinsTemplate, constants_rowTemplate, Template.constants, List.nil_append,
    List.append_nil, constants, expressions, List.flatMap_append]

theorem tracks (forCache : Bool) : Tracks QueryStep.Replaced (template forCache) := by
  intro new before after
  constructor
  · -- The sections are taken off from the last one.
    intro changed
    rcases Template.replaced_append_last_iff.mp changed with ⟨_, upToTargets, rfl⟩
    rcases Template.replaced_append_iff.mp upToTargets with ⟨_, titled, rfl⟩ | ⟨_, inTargets, rfl⟩
    · rcases Template.replaced_append_last_iff.mp titled with ⟨_, upToGrouping, rfl⟩
      rcases Template.replaced_append_iff.mp upToGrouping with
        ⟨_, upToJoins, rfl⟩ | ⟨_, inGrouping, rfl⟩
      · rcases Template.replaced_append_iff.mp upToJoins with
          ⟨_, upToPredicates, rfl⟩ | ⟨_, inJoins, rfl⟩
        · rcases Template.replaced_append_iff.mp upToPredicates with
            ⟨_, upToSimple, rfl⟩ | ⟨_, inPredicates, rfl⟩
          · rcases Template.replaced_last_append_iff.mp upToSimple with ⟨_, inSimple, rfl⟩
            rcases (tracks_sectionTemplate _ new _ _).mp inSimple with ⟨row, inner, rfl⟩
            exact ⟨_, .simplePredicates inner, rfl⟩
          · rcases (tracks_sectionTemplate _ new _ _).mp inPredicates with ⟨row, inner, rfl⟩
            exact ⟨_, .predicates inner, rfl⟩
        · rcases (tracks_joinsTemplate new _ _).mp inJoins with ⟨joins, inner, rfl⟩
          exact ⟨_, .joins inner, rfl⟩
      · rcases (tracks_sectionTemplate _ new _ _).mp inGrouping with ⟨row, inner, rfl⟩
        exact ⟨_, .grouping inner, rfl⟩
    · rcases (tracks_rowTemplate new _ _).mp inTargets with ⟨row, inner, rfl⟩
      exact ⟨_, .targets inner, rfl⟩
  · rintro ⟨_, changed, rfl⟩
    cases changed with
    | simplePredicates inner =>
        have inSimple := (tracks_sectionTemplate "Simple Quals" new _ _).mpr ⟨_, inner, rfl⟩
        exact ((((((inSimple.behind _).append _).append _).append _).append _).append _).append _
    | predicates inner =>
        have inPredicates := (tracks_sectionTemplate "Quals" new _ _).mpr ⟨_, inner, rfl⟩
        exact (((((inPredicates.behind _).append _).append _).append _).append _).append _
    | joins inner =>
        have inJoins := (tracks_joinsTemplate new _ _).mpr ⟨_, inner, rfl⟩
        exact ((((inJoins.behind _).append _).append _).append _).append _
    | grouping inner =>
        have inGrouping := (tracks_sectionTemplate "Group By" new _ _).mpr ⟨_, inner, rfl⟩
        exact (((inGrouping.behind _).append _).append _).append _
    | targets inner =>
        have inTargets := (tracks_rowTemplate new _ _).mpr ⟨_, inner, rfl⟩
        exact (inTargets.behind _).append _

def texts (forCache : Bool) (step : QueryStep) : List String := (step.template forCache).texts

end QueryStep

/-! ### The main statement -/

/-- A description is the text of the constants in their order, between texts that are the same
whatever the constants are. -/
structure Segmented (describe : QueryStep → String) (texts : QueryStep → List String) : Prop where
  surrounded : ∀ step, (texts step).length = step.constants.length + 1
  woven : ∀ step, describe step = weave (texts step) (step.constants.map Constant.render)
  /-- A replacement shows in one segment and in one place, which are those of the same number. -/
  kept : ∀ new before after, QueryStep.Replaced new before after →
    texts after = texts before ∧
    ∃ place < before.constants.length, after.constants = before.constants.set place new ∧
      describe after =
        weave (texts before) ((before.constants.map Constant.render).set place new.render)
  /-- No constant is out of reach. -/
  reached : ∀ new step place, place < step.constants.length →
    ∃ after, QueryStep.Replaced new step after ∧ after.constants = step.constants.set place new

theorem QueryStep.segmented (forCache : Bool) :
    Segmented (QueryStep.describe · forCache) (QueryStep.texts forCache) := by
  have woven : ∀ step : QueryStep, step.describe forCache =
      weave (step.texts forCache) (step.constants.map Constant.render) := by
    intro step
    rw [← render_template, ← constants_template forCache]
    exact Template.render_eq_weave _
  constructor
  case surrounded =>
    intro step
    rw [← constants_template forCache]
    exact Template.length_texts _
  case woven => exact woven
  case kept =>
    intro new before after changed
    have replaced := (tracks forCache new before _).mpr ⟨after, changed, rfl⟩
    have same : after.texts forCache = before.texts forCache := replaced.texts
    rcases replaced.constants with ⟨place, inside, set⟩
    rw [constants_template, constants_template] at set
    rw [constants_template] at inside
    refine ⟨same, place, inside, set, ?_⟩
    show after.describe forCache = _
    rw [woven after, same, set, List.map_set]
  case reached =>
    intro new step place inside
    rw [← constants_template forCache] at inside ⊢
    rcases Template.exists_replaced _ new inside with ⟨_, replaced, set⟩
    rcases (tracks forCache new step _).mp replaced with ⟨after, changed, rfl⟩
    rw [constants_template] at set
    exact ⟨after, changed, set⟩

/-- Both descriptions show every constant of the step, in the order in which the constants are
collected, and depend on each in its own segment only. -/
theorem descriptions_show_constants_in_order :
    Segmented QueryStep.cacheDescription (QueryStep.texts true) ∧
      Segmented QueryStep.render (QueryStep.texts false) :=
  ⟨QueryStep.segmented true, QueryStep.segmented false⟩

end QueryKernel.Plan
