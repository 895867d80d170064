import QueryKernel.Plan.Description
import QueryKernel.Proofs.Plan.Expressions

/-!
Contract: the cache description of a step is read off uniquely.

Owns:
- the outline of a step: everything that its cache description shows;
- the sections of a description, each read off in front of the next;
- the main statement, for steps where no string has a quote inside.
-/

namespace QueryKernel.Plan

open QueryKernel.Text (Stops)

/-! ### Outlines -/

/-- What the cache description shows of a step. -/
structure StepOutline where
  columns : List InputColumn
  simplePredicates : List Outline
  predicates : List Outline
  joins : List (JoinKind × List Outline)
  grouping : List Outline
  targets : List Outline
  sort : SortOrder
  scanLimit : Nat
  bumpAllocator : Bool
  union : Option UnionKind

def JoinLevel.outline (join : JoinLevel) : JoinKind × List Outline :=
  (join.kind, join.predicates.map Expr.outline)

namespace QueryStep

def outline (step : QueryStep) : StepOutline where
  columns := step.columns
  simplePredicates := step.simplePredicates.map Expr.outline
  predicates := step.predicates.map Expr.outline
  joins := step.joins.map JoinLevel.outline
  grouping := step.grouping.map Expr.outline
  targets := step.targets.map Expr.outline
  sort := step.sort
  scanLimit := step.scanLimit
  bumpAllocator := step.bumpAllocator
  union := step.union

end QueryStep

/-- The texts of the constants, in the order in which code is generated for them. -/
def StepOutline.constants (outline : StepOutline) : List (String × String) :=
  (outline.simplePredicates ++ outline.predicates ++ outline.joins.flatMap Prod.snd ++
    outline.grouping ++ outline.targets).flatMap Outline.constants

/-- The outline keeps the constants in place. -/
theorem QueryStep.constants_outline (step : QueryStep) :
    step.outline.constants =
      step.constants.map fun constant => (constant.datum.render, constant.type.render) := by
  have listed : step.outline.constants =
      (step.expressions.map Expr.outline).flatMap Outline.constants := by
    unfold StepOutline.constants QueryStep.outline QueryStep.expressions
    simp only [List.map_append, List.map_flatMap, List.flatMap_map]
    rfl
  rw [listed, List.flatMap_map, QueryStep.constants, List.map_flatMap]
  apply List.flatMap_congr
  intro expression _
  exact expression.constants_outline

/-! ### Sections -/

/-- The text begins a section of a description, with one of the letters. -/
def Opens (letters : List Char) (rest : List Char) : Prop :=
  ∃ c ∈ letters, ∃ tail, rest = '\n' :: '\t' :: c :: tail

section Sections

variable {letters : List Char}

theorem Opens.stops {accepts : Char → Bool} {rest : List Char} (opens : Opens letters rest)
    (refused : accepts '\n' = false) : Stops accepts rest := by
  rcases opens with ⟨c, -, tail, rfl⟩
  exact Text.stops_cons _ refused

theorem Opens.mono {more : List Char} {rest : List Char} (opens : Opens letters rest)
    (listed : letters ⊆ more) : Opens more rest := by
  rcases opens with ⟨c, member, tail, rfl⟩
  exact ⟨c, listed member, tail, rfl⟩

/-- The text of a section, if it is not left out. -/
theorem toList_renderSection (title : String) (expressions : List Expr) :
    (renderSection title expressions).toList =
      if expressions.isEmpty then []
      else '\n' :: '\t' :: (title.toList ++ ':' :: ' ' :: (renderList expressions).toList) := by
  unfold renderSection
  split <;> simp

def joinsText (joins : List JoinLevel) : String :=
  if joins.isEmpty then "" else "\n\tJoin Quals: " ++ renderJoins 0 joins

def unionText : Option UnionKind → String
  | some kind => "\n\tUnion: " ++ kind.render
  | none => ""

theorem cacheDescription_eq (step : QueryStep) :
    step.cacheDescription =
      "\n\tTable/Col/Levels: " ++ String.join (step.columns.map InputColumn.render) ++
        renderSection "Simple Quals" step.simplePredicates ++
        renderSection "Quals" step.predicates ++ joinsText step.joins ++
        renderSection "Group By" step.grouping ++ "\n\tProjected targets: " ++
        renderList step.targets ++ step.sort.render ++ "\n\tScan Limit: " ++
        toString step.scanLimit ++ "\n\tBump Allocator: " ++ Text.truth step.bumpAllocator ++
        unionText step.union := by
  unfold QueryStep.cacheDescription QueryStep.describe joinsText
  have hidden : (!true && step.hints.any) = false := rfl
  rw [if_pos rfl, String.append_empty, hidden, if_neg Bool.false_ne_true, String.append_empty]
  cases step.union <;> rfl

/-- Targets that are spelled alike can be exchanged. -/
theorem cacheDescription_congr_targets (step : QueryStep) {targets others : List Expr}
    (spelled : renderList targets = renderList others) :
    QueryStep.cacheDescription { step with targets } =
      QueryStep.cacheDescription { step with targets := others } := by
  rw [cacheDescription_eq, cacheDescription_eq, spelled]

end Sections

/-! ### Columns -/

theorem inputColumn_unique {left right : InputColumn} {leftRest rightRest : List Char}
    (same : left.render.toList ++ leftRest = right.render.toList ++ rightRest) :
    left = right ∧ leftRest = rightRest := by
  unfold InputColumn.render at same
  simp only [String.toList_append, List.append_assoc] at same
  rcases Text.integer_before (by decide) (List.append_cancel_left same) with ⟨tables, afterTable⟩
  rcases Text.integer_before (by decide) afterTable with ⟨columns, afterColumn⟩
  rcases Text.numeral_before (by decide) afterColumn with ⟨levels, rests⟩
  rcases left with ⟨leftColumn, leftTable, leftLevel⟩
  rcases right with ⟨rightColumn, rightTable, rightLevel⟩
  cases Int32.toInt_inj.mp tables
  cases Int32.toInt_inj.mp columns
  cases levels
  exact ⟨rfl, rests⟩

/-- Columns are read off in front of a section. -/
theorem columns_unique {left right : List InputColumn} {leftRest rightRest : List Char}
    (leftStops : Stops (· == '(') leftRest) (rightStops : Stops (· == '(') rightRest)
    (same : (String.join (left.map InputColumn.render)).toList ++ leftRest =
      (String.join (right.map InputColumn.render)).toList ++ rightRest) :
    left = right ∧ leftRest = rightRest := by
  rw [String.toList_join, String.toList_join, List.flatMap_map, List.flatMap_map] at same
  have marked : ∀ column : InputColumn, ∃ c tail, column.render.toList = c :: tail ∧
      (c == '(') = true := by
    intro column
    unfold InputColumn.render
    simp only [String.toList_append, List.append_assoc]
    exact ⟨'(', _, rfl, rfl⟩
  have readOff : ∀ column ∈ left, ∀ other ∈ right, ∀ front back,
      column.render.toList ++ front = other.render.toList ++ back →
      id column = id other ∧ front = back := by
    intro column _ other _ front back
    exact inputColumn_unique
  have rows := Text.row_unique marked readOff leftStops rightStops same
  rwa [List.map_id, List.map_id] at rows

/-! ### Sections of expressions -/

/-- No string in the expressions has a quote inside. -/
def AreQuoteFree (expressions : List Expr) : Prop :=
  ∀ expression ∈ expressions, expression.IsQuoteFree

/-- A section opens with its title, and what follows opens if it is left out. -/
theorem section_opens {title : String} {letter : Char} {tail : List Char} {letters : List Char}
    {rest : List Char} (begins : title.toList = letter :: tail) (listed : letter ∈ letters)
    (opens : Opens letters rest) (expressions : List Expr) :
    Opens letters ((renderSection title expressions).toList ++ rest) := by
  rw [toList_renderSection]
  split
  · exact opens
  · rw [begins]
    exact ⟨letter, listed, _, rfl⟩

/-- A section is read off in front of the others. If it is left out, the next letter tells. -/
theorem section_unique {title : String} {letter : Char} {tail : List Char} {letters : List Char}
    {left right : List Expr} {leftRest rightRest : List Char}
    (begins : title.toList = letter :: tail) (unlisted : letter ∉ letters)
    (leftFree : AreQuoteFree left) (rightFree : AreQuoteFree right)
    (leftOpens : Opens letters leftRest) (rightOpens : Opens letters rightRest)
    (same : (renderSection title left).toList ++ leftRest =
      (renderSection title right).toList ++ rightRest) :
    left.map Expr.outline = right.map Expr.outline ∧ leftRest = rightRest := by
  -- A section with the title is not one of the others.
  have other : ∀ {rest more : List Char}, Opens letters rest →
      rest ≠ '\n' :: '\t' :: (title.toList ++ more) := by
    rintro rest more ⟨c, listed, behind, rfl⟩ impossible
    rw [begins] at impossible
    cases impossible
    exact unlisted listed
  rw [toList_renderSection, toList_renderSection] at same
  cases left with
  | nil =>
      cases right with
      | nil => exact ⟨rfl, same⟩
      | cons expression rest =>
          simp only [List.isEmpty_cons, Bool.false_eq_true, if_false, List.cons_append,
            List.append_assoc] at same
          exact absurd same (other leftOpens)
  | cons expression rest =>
      cases right with
      | nil =>
          simp only [List.isEmpty_cons, Bool.false_eq_true, if_false, List.cons_append,
            List.append_assoc] at same
          exact absurd same.symm (other rightOpens)
      | cons otherExpression otherRest =>
          simp only [List.isEmpty_cons, Bool.false_eq_true, if_false, List.cons_append,
            List.append_assoc] at same
          have rows := List.append_cancel_left (List.cons.inj (List.cons.inj same).2).2
          exact renderList_unique leftFree rightFree (leftOpens.stops (by decide))
            (rightOpens.stops (by decide)) (List.cons.inj (List.cons.inj rows).2).2

/-! ### Join levels -/

theorem JoinKind.render_injective {kind other : JoinKind}
    (same : kind.render.toList = other.render.toList) : kind = other := by
  revert same
  cases kind <;> cases other <;> decide

theorem JoinKind.blank_notMem (kind : JoinKind) : ' ' ∉ kind.render.toList := by
  cases kind <;> decide

theorem toList_renderJoins_cons (level : Nat) (join : JoinLevel) (joins : List JoinLevel)
    (rest : List Char) :
    (renderJoins level (join :: joins)).toList ++ rest =
      '\t' :: '\t' :: ((toString level).toList ++ ' ' :: (join.kind.render.toList ++ ' ' ::
        ((renderList join.predicates).toList ++
          ((renderJoins (level + 1) joins).toList ++ rest)))) := by
  rw [renderJoins]
  simp only [String.toList_append, List.append_assoc]
  rfl

theorem joins_stop (level : Nat) (joins : List JoinLevel) {rest : List Char}
    (stops : Stops isRowChar rest) :
    Stops isRowChar ((renderJoins level joins).toList ++ rest) := by
  cases joins with
  | nil => exact stops
  | cons join joins =>
      rw [toList_renderJoins_cons]
      exact Text.stops_cons _ (by decide)

/-- Join levels are read off in front of a section. -/
theorem renderJoins_unique {left right : List JoinLevel} {leftRest rightRest : List Char}
    {letters : List Char} (level : Nat)
    (leftFree : ∀ join ∈ left, AreQuoteFree join.predicates)
    (rightFree : ∀ join ∈ right, AreQuoteFree join.predicates)
    (leftOpens : Opens letters leftRest) (rightOpens : Opens letters rightRest)
    (same : (renderJoins level left).toList ++ leftRest =
      (renderJoins level right).toList ++ rightRest) :
    left.map JoinLevel.outline = right.map JoinLevel.outline ∧ leftRest = rightRest := by
  -- A section does not begin like a join level.
  have other : ∀ {rest more : List Char}, Opens letters rest → rest ≠ '\t' :: more := by
    rintro rest more ⟨c, listed, behind, rfl⟩ impossible
    exact absurd (List.cons.inj impossible).1 (by decide)
  induction left generalizing right level with
  | nil =>
      cases right with
      | nil => exact ⟨rfl, same⟩
      | cons join joins =>
          rw [toList_renderJoins_cons] at same
          exact absurd same (other leftOpens)
  | cons join joins inductionHypothesis =>
      cases right with
      | nil =>
          rw [toList_renderJoins_cons] at same
          exact absurd same.symm (other rightOpens)
      | cons otherJoin otherJoins =>
          rw [toList_renderJoins_cons, toList_renderJoins_cons] at same
          have afterLevel := List.append_cancel_left (List.cons.inj (List.cons.inj same).2).2
          rcases Text.separated_unique join.kind.blank_notMem otherJoin.kind.blank_notMem
            (List.cons.inj afterLevel).2 with ⟨kinds, afterKind⟩
          rcases renderList_unique (leftFree _ List.mem_cons_self) (rightFree _ List.mem_cons_self)
            (joins_stop _ _ (leftOpens.stops (by decide)))
            (joins_stop _ _ (rightOpens.stops (by decide))) afterKind with
            ⟨predicates, afterPredicates⟩
          rcases inductionHypothesis (level + 1)
            (fun next member => leftFree next (List.mem_cons_of_mem _ member))
            (fun next member => rightFree next (List.mem_cons_of_mem _ member)) afterPredicates with
            ⟨others, rests⟩
          rw [List.map_cons, List.map_cons, others, JoinLevel.outline, JoinLevel.outline,
            JoinKind.render_injective kinds, predicates]
          exact ⟨rfl, rests⟩

theorem toList_joinsText_cons (join : JoinLevel) (joins : List JoinLevel) (rest : List Char) :
    (joinsText (join :: joins)).toList ++ rest =
      '\n' :: '\t' :: ("Join Quals: ".toList ++
        ((renderJoins 0 (join :: joins)).toList ++ rest)) := by
  unfold joinsText
  rw [if_neg (by simp), String.toList_append, List.append_assoc]
  rfl

theorem joins_open {letters : List Char} {rest : List Char} (listed : 'J' ∈ letters)
    (opens : Opens letters rest) (joins : List JoinLevel) :
    Opens letters ((joinsText joins).toList ++ rest) := by
  cases joins with
  | nil => exact opens
  | cons join joins =>
      rw [toList_joinsText_cons]
      exact ⟨'J', listed, _, rfl⟩

/-- The section of join levels is read off in front of the others. -/
theorem joins_unique {left right : List JoinLevel} {leftRest rightRest : List Char}
    {letters : List Char} (unlisted : 'J' ∉ letters)
    (leftFree : ∀ join ∈ left, AreQuoteFree join.predicates)
    (rightFree : ∀ join ∈ right, AreQuoteFree join.predicates)
    (leftOpens : Opens letters leftRest) (rightOpens : Opens letters rightRest)
    (same : (joinsText left).toList ++ leftRest = (joinsText right).toList ++ rightRest) :
    left.map JoinLevel.outline = right.map JoinLevel.outline ∧ leftRest = rightRest := by
  have other : ∀ {rest more : List Char}, Opens letters rest →
      rest ≠ '\n' :: '\t' :: ("Join Quals: ".toList ++ more) := by
    rintro rest more ⟨c, listed, behind, rfl⟩ impossible
    have letter : c = 'J' := (List.cons.inj (List.cons.inj (List.cons.inj impossible).2).2).1
    rw [letter] at listed
    exact unlisted listed
  cases left with
  | nil =>
      cases right with
      | nil => exact ⟨rfl, same⟩
      | cons join joins =>
          rw [toList_joinsText_cons] at same
          exact absurd same (other leftOpens)
  | cons join joins =>
      cases right with
      | nil =>
          rw [toList_joinsText_cons] at same
          exact absurd same.symm (other rightOpens)
      | cons otherJoin otherJoins =>
          rw [toList_joinsText_cons, toList_joinsText_cons] at same
          exact renderJoins_unique 0 leftFree rightFree leftOpens rightOpens
            (List.append_cancel_left (List.cons.inj (List.cons.inj same).2).2)

/-! ### The sort order -/

theorem SortAlgorithm.render_injective {left right : SortAlgorithm}
    (same : left.render.toList = right.render.toList) : left = right := by
  revert same
  cases left <;> cases right <;> decide

theorem SortAlgorithm.newline_notMem (algorithm : SortAlgorithm) :
    '\n' ∉ algorithm.render.toList := by
  cases algorithm <;> decide

/-- The text of an entry of a sort order, up to what follows it. -/
def entryText (entry : OrderEntry) : List Char := entry.render.toList ++ "\n\t  ".toList

theorem entry_unique {left right : OrderEntry} {leftRest rightRest : List Char}
    (same : entryText left ++ leftRest = entryText right ++ rightRest) :
    left = right ∧ leftRest = rightRest := by
  rcases left with ⟨leftTarget, leftDescending, leftFirst⟩
  rcases right with ⟨rightTarget, rightDescending, rightFirst⟩
  unfold entryText OrderEntry.render at same
  simp only [String.toList_append, List.append_assoc] at same
  rcases Text.numeral_before (by decide) same with ⟨targets, behind⟩
  cases targets
  revert behind
  cases leftDescending <;> cases rightDescending <;> cases leftFirst <;> cases rightFirst <;> simp

/-- Separators in front of all entries stand behind them as well. -/
theorem separators_shift (entries : List OrderEntry) (rest : List Char) :
    (entries.flatMap fun entry => "\n\t  ".toList ++ entry.render.toList) ++
        ("\n\t  ".toList ++ rest) =
      "\n\t  ".toList ++ (entries.flatMap entryText ++ rest) := by
  induction entries with
  | nil => rfl
  | cons entry entries inductionHypothesis =>
      rw [List.flatMap_cons, List.flatMap_cons, List.append_assoc, inductionHypothesis, entryText]
      simp only [List.append_assoc]

theorem toList_sort (sort : SortOrder) (rest : List Char) :
    sort.render.toList ++ rest =
      "\n\tSort Info: ".toList ++ ("\n\t  ".toList ++ (sort.entries.flatMap entryText ++
        ("Algorithm: ".toList ++ (sort.algorithm.render.toList ++ ("\n\t  Limit: ".toList ++
          ((toString sort.limit).toList ++ ("\n\t  Offset: ".toList ++
            ((toString sort.offset).toList ++ rest)))))))) := by
  have algorithm : ∀ more, "\n\t  Algorithm: ".toList ++ more =
      "\n\t  ".toList ++ ("Algorithm: ".toList ++ more) := fun _ => rfl
  unfold SortOrder.render
  simp only [String.toList_append, String.toList_join, List.flatMap_map, List.append_assoc]
  rw [algorithm, separators_shift]

/-- A sort order is read off in front of a section. -/
theorem sort_unique {left right : SortOrder} {letters : List Char} {leftRest rightRest : List Char}
    (leftOpens : Opens letters leftRest) (rightOpens : Opens letters rightRest)
    (same : left.render.toList ++ leftRest = right.render.toList ++ rightRest) :
    left = right ∧ leftRest = rightRest := by
  have marked : ∀ entry, ∃ c tail, entryText entry = c :: tail ∧ c.isDigit = true := by
    intro entry
    cases digits : (toString entry.target).toList with
    | nil => exact absurd (Text.toList_toString_nat _ ▸ digits) Nat.toDigits_ne_nil
    | cons c tail =>
        unfold entryText OrderEntry.render
        simp only [String.toList_append, List.append_assoc, digits]
        exact ⟨c, _, rfl, Text.isDigit_of_mem_numeral (by rw [digits]; exact List.mem_cons_self)⟩
  have readOff : ∀ entry ∈ left.entries, ∀ other ∈ right.entries, ∀ front back,
      entryText entry ++ front = entryText other ++ back → id entry = id other ∧ front = back := by
    intro entry _ other _ front back
    exact entry_unique
  have stops : ∀ rest, Stops Char.isDigit ("Algorithm: ".toList ++ rest) := fun rest =>
    Text.stops_text rest (by decide)
  rw [toList_sort, toList_sort] at same
  rcases Text.row_unique marked readOff (stops _) (stops _)
    (List.append_cancel_left (List.append_cancel_left same)) with ⟨entries, afterEntries⟩
  rw [List.map_id, List.map_id] at entries
  rcases Text.separated_unique left.algorithm.newline_notMem right.algorithm.newline_notMem
    (List.append_cancel_left afterEntries) with ⟨algorithms, afterAlgorithm⟩
  rcases Text.numeral_before (by decide) (List.append_cancel_left afterAlgorithm) with
    ⟨limits, afterLimit⟩
  rcases Text.numeral_unique (leftOpens.stops (by decide)) (rightOpens.stops (by decide))
    afterLimit with ⟨offsets, rests⟩
  have algorithm := SortAlgorithm.render_injective algorithms
  refine ⟨?_, rests⟩
  rcases left with ⟨leftEntries, leftAlgorithm, leftLimit, leftOffset⟩
  rcases right with ⟨rightEntries, rightAlgorithm, rightLimit, rightOffset⟩
  cases entries
  cases algorithm
  cases limits
  cases offsets
  rfl

/-! ### The whole description -/

theorem closing_unique {leftFlag rightFlag : Bool} {leftUnion rightUnion : Option UnionKind}
    (same : (Text.truth leftFlag).toList ++ (unionText leftUnion).toList =
      (Text.truth rightFlag).toList ++ (unionText rightUnion).toList) :
    leftFlag = rightFlag ∧ leftUnion = rightUnion := by
  revert same
  rcases leftUnion with _ | _ | _ <;> rcases rightUnion with _ | _ | _ <;> cases leftFlag <;>
    cases rightFlag <;> decide

/-- No string in the step has a quote inside. -/
def QueryStep.IsQuoteFree (step : QueryStep) : Prop :=
  ∀ constant ∈ step.constants, constant.datum.isQuoteFree = true

namespace QueryStep.IsQuoteFree

variable {step : QueryStep} (free : step.IsQuoteFree)

include free

theorem expressions : AreQuoteFree step.expressions := by
  intro expression member constant leaf
  exact free constant (List.mem_flatMap.mpr ⟨expression, member, leaf⟩)

theorem simple : AreQuoteFree step.simplePredicates := by
  intro expression member
  apply free.expressions
  simp [QueryStep.expressions, member]

theorem predicates : AreQuoteFree step.predicates := by
  intro expression member
  apply free.expressions
  simp [QueryStep.expressions, member]

theorem joins : ∀ join ∈ step.joins, AreQuoteFree join.predicates := by
  intro join listed expression member
  apply free.expressions
  have level : ∃ join ∈ step.joins, expression ∈ join.predicates := ⟨join, listed, member⟩
  simp [QueryStep.expressions, level]

theorem grouping : AreQuoteFree step.grouping := by
  intro expression member
  apply free.expressions
  simp [QueryStep.expressions, member]

theorem targets : AreQuoteFree step.targets := by
  intro expression member
  apply free.expressions
  simp [QueryStep.expressions, member]

end QueryStep.IsQuoteFree

/-- How the rest of a description opens, from each of the sections that can be left out. -/
theorem rest_opens (step : QueryStep) {rest : List Char} (opens : Opens ['P'] rest) :
    let fromGrouping := (renderSection "Group By" step.grouping).toList ++ rest
    let fromJoins := (joinsText step.joins).toList ++ fromGrouping
    let fromPredicates := (renderSection "Quals" step.predicates).toList ++ fromJoins
    let fromSimple := (renderSection "Simple Quals" step.simplePredicates).toList ++ fromPredicates
    Opens ['G', 'P'] fromGrouping ∧ Opens ['J', 'G', 'P'] fromJoins ∧
      Opens ['Q', 'J', 'G', 'P'] fromPredicates ∧ Opens ['S', 'Q', 'J', 'G', 'P'] fromSimple := by
  intro fromGrouping fromJoins fromPredicates fromSimple
  have grouping : Opens ['G', 'P'] fromGrouping :=
    section_opens rfl (by decide) (opens.mono (by simp)) step.grouping
  have joins : Opens ['J', 'G', 'P'] fromJoins :=
    joins_open (by decide) (grouping.mono (by simp)) step.joins
  have predicates : Opens ['Q', 'J', 'G', 'P'] fromPredicates :=
    section_opens rfl (by decide) (joins.mono (by simp)) step.predicates
  have simple : Opens ['S', 'Q', 'J', 'G', 'P'] fromSimple :=
    section_opens rfl (by decide) (predicates.mono (by simp)) step.simplePredicates
  exact ⟨grouping, joins, predicates, simple⟩

/-- Steps of one cache description have one outline. -/
theorem outline_of_cacheDescription {left right : QueryStep} (leftFree : left.IsQuoteFree)
    (rightFree : right.IsQuoteFree) (same : left.cacheDescription = right.cacheDescription) :
    left.outline = right.outline := by
  have texts := congrArg String.toList same
  rw [cacheDescription_eq, cacheDescription_eq] at texts
  simp only [String.toList_append, List.append_assoc] at texts
  have targetsOpen : ∀ rest, Opens ['P'] ("\n\tProjected targets: ".toList ++ rest) := fun rest =>
    ⟨'P', by decide, _, rfl⟩
  have sortStops : ∀ (sort : SortOrder) rest, Stops isRowChar (sort.render.toList ++ rest) := by
    intro sort rest
    rw [toList_sort]
    exact Text.stops_text _ (by decide)
  have closingOpens : ∀ rest, Opens ['S'] ("\n\tScan Limit: ".toList ++ rest) := fun rest =>
    ⟨'S', by decide, _, rfl⟩
  rcases rest_opens left (targetsOpen _) with ⟨leftGrouping, leftJoins, leftPredicates, leftSimple⟩
  rcases rest_opens right (targetsOpen _) with
    ⟨rightGrouping, rightJoins, rightPredicates, rightSimple⟩
  rcases columns_unique (leftSimple.stops (by decide)) (rightSimple.stops (by decide))
    (List.append_cancel_left texts) with ⟨columns, afterColumns⟩
  rcases section_unique rfl (by decide) leftFree.simple rightFree.simple leftPredicates
    rightPredicates afterColumns with ⟨simplePredicates, afterSimple⟩
  rcases section_unique rfl (by decide) leftFree.predicates rightFree.predicates leftJoins
    rightJoins afterSimple with ⟨predicates, afterPredicates⟩
  rcases joins_unique (by decide) leftFree.joins rightFree.joins leftGrouping rightGrouping
    afterPredicates with ⟨joins, afterJoins⟩
  rcases section_unique rfl (by decide) leftFree.grouping rightFree.grouping (targetsOpen _)
    (targetsOpen _) afterJoins with ⟨grouping, afterGrouping⟩
  rcases renderList_unique leftFree.targets rightFree.targets (sortStops _ _) (sortStops _ _)
    (List.append_cancel_left afterGrouping) with ⟨targets, afterTargets⟩
  rcases sort_unique (closingOpens _) (closingOpens _) afterTargets with ⟨sort, afterSort⟩
  rcases Text.numeral_before (by decide) (List.append_cancel_left afterSort) with
    ⟨scanLimits, afterScan⟩
  rcases closing_unique afterScan with ⟨flags, unions⟩
  unfold QueryStep.outline
  rw [columns, simplePredicates, predicates, joins, grouping, targets, sort, scanLimits, flags,
    unions]

end QueryKernel.Plan
