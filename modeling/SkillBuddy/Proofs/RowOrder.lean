/-
The rows of a query in their order, as an encoding of the query.

# What the rows keep

What the row format keeps of a query is `QueryBuilder.plain`: the root's
members and the rule tree as an outline, comparisons at the leaves and
conditions at the nodes. Gone are the spellings that have one row: null
rules, a null field beside an empty one, `Is` beside `Equals`, the values
of a null test, a false NOT beside a missing one. Everything else of a
well-formed query is there, and `rows_determine_query` says that two such
queries with the same rows have the same plain query.

# The lines

The rows of the rules are the outline's lines, written one by one
(`rulesRows_eq_map_lineRow`): a line is a depth with what stands there,
and its row has the depth for a group number. A line can be read off its
row (`lineRow_inj`): the type says what stands there, and the operators
and conditions have distinct texts. So the library's law for outlines,
that the lines give the forest back, is a law of the rows.

# The parts

The other members are told apart by the type of their rows: every row
belongs to one part of the query (`partOf`), and the rows of a part are
those the part has appended (`filter_partOf`). The one type that two parts
share is CONDITION, and there the number decides: the root's is one, a
nested group's is larger. A part's rows determine the part, each by its
own reason (`optionRows_inj`, `numberRow_inj`, `orderBy_inj`).
-/
import SkillBuddy.Data.DataHelper
import SkillBuddy.Entity.Filter
import SkillBuddy.Lib.Outline

namespace SkillBuddy

open DotNet Lib DataHelper

-- ======================================================= well-formed queries

/-- Null or a string, as the constructor of `QueryRule` makes values. -/
def PlainValue : Option Obj → Prop
  | none => True
  | some (.string _) => True
  | some _ => False

/-- A leaf with an operator, or a group with a condition and no field. -/
structure RuleOk (r : QueryRule Obj) : Prop where
  shape : (r.operator.isSome = true ∧ r.condition = none
      ∧ r.rules.getD [] = [])
    ∨ r.condition.isSome = true ∧ r.field = none
  value1 : PlainValue r.value1
  value2 : PlainValue r.value2

/-- Every rule of the query, at any depth, is one or the other. -/
def QueryBuilder.WellFormed (qb : QueryBuilder Obj) : Prop :=
  ∀ r, some r ∈ qb.entries → RuleOk r

-- ==================================================== what the rows keep

/-- The operators of the rows. -/
inductive SqlOperator where
  | equals | notEquals | lessThan | lessThanOrEquals | greaterThan
  | greaterThanOrEqual | in_ | notIn | between | notBetween | isNull
  | isNotNull
  deriving DecidableEq, Repr

/-- `Is` is merged into `Equals`, `IsNot` into `NotEquals`. -/
def QueryBuilderOperator.sql : QueryBuilderOperator → SqlOperator
  | .equals | .is => .equals
  | .notEquals | .isNot => .notEquals
  | .lessThan => .lessThan
  | .lessThanOrEquals => .lessThanOrEquals
  | .greaterThan => .greaterThan
  | .greaterThanOrEqual => .greaterThanOrEqual
  | .in_ => .in_
  | .notIn => .notIn
  | .between => .between
  | .notBetween => .notBetween
  | .isNull => .isNull
  | .isNotNull => .isNotNull

/-- An operator that stands for the merged ones. -/
def SqlOperator.operator : SqlOperator → QueryBuilderOperator
  | .equals => .equals
  | .notEquals => .notEquals
  | .lessThan => .lessThan
  | .lessThanOrEquals => .lessThanOrEquals
  | .greaterThan => .greaterThan
  | .greaterThanOrEqual => .greaterThanOrEqual
  | .in_ => .in_
  | .notIn => .notIn
  | .between => .between
  | .notBetween => .notBetween
  | .isNull => .isNull
  | .isNotNull => .isNotNull

/-- A comparison: null fields are empty, and a null test has no
values. -/
structure PlainComparison where
  field : Str
  operator : Option SqlOperator
  value1 : Option Str
  value2 : Option Str
  deriving DecidableEq, Repr

/-- The text of a value that is null or a string. -/
def plainText : Option Obj → Option Str
  | some (.string s) => some s
  | _ => none

/-- The comparison of a leaf. -/
def QueryRule.plainComparison (r : QueryRule Obj) : PlainComparison where
  field := r.field.getD []
  operator := r.operator.map QueryBuilderOperator.sql
  value1 := match r.operator with
    | some .isNull | some .isNotNull => none
    | _ => plainText r.value1
  value2 := match r.operator with
    | some .isNull | some .isNotNull => none
    | _ => plainText r.value2

/-- A rule as a tree: a group's own operator and values are gone, null
rules too. -/
def QueryRule.outline :
    QueryRule Obj → Outline PlainComparison QueryBuilderCondition :=
  QueryRule.fold fun r nested =>
    match r.condition with
    | none => .leaf r.plainComparison
    | some condition => .node condition ((nested.getD []).filterMap id)

/-- A list of rules as a forest. -/
def outlines (rules : List (Option (QueryRule Obj))) :
    List (Outline PlainComparison QueryBuilderCondition) :=
  rules.filterMap (Option.map QueryRule.outline)

/-- A query up to what the row format merges. -/
structure PlainQuery where
  condition : Option QueryBuilderCondition
  not : Bool
  count : Option Int32
  offset : Option Int64
  pageSize : Option Int64
  orderBy : List (Str × QueryOrderType)
  rules : List (Outline PlainComparison QueryBuilderCondition)

/-- The query a `QueryBuilder` is. -/
def QueryBuilder.plain (qb : QueryBuilder Obj) : PlainQuery where
  condition := qb.condition
  not := qb.not = some true
  count := qb.count
  offset := qb.offset
  pageSize := qb.pageSize
  orderBy := ((qb.orderBy.getD []).filterMap id).map fun order =>
    (order.field.getD [], order.type)
  rules := outlines (qb.rules.getD [])

-- ============================================================= the lines

/-- The fold, as the recursion it stands for. -/
theorem QueryRule.outline_eq (r : QueryRule Obj) :
    r.outline = match r.condition with
      | none => .leaf r.plainComparison
      | some condition => .node condition (outlines (r.rules.getD [])) := by
  unfold QueryRule.outline
  rw [QueryRule.fold_eq]
  cases r.condition with
  | none => rfl
  | some condition =>
      cases r.rules with
      | none => rfl
      | some rules =>
          simp only [Option.map_some, Option.getD_some, List.filterMap_map]
          rfl

/-- The level whose rows have the group number `d`. -/
def levelOf (d : Nat) : Option Int := if d = 1 then none else some (d - 1)

/-- A row of that level has the number. -/
theorem currentLevel_levelOf (d : Nat) : currentLevel (levelOf d) = d := by
  unfold currentLevel levelOf
  by_cases h : d = 1
  · rw [if_pos h, h]
    rfl
  · rw [if_neg h, Option.getD_some]
    omega

/-- And a group at the level has its rows at the next. -/
theorem levelOf_succ {d : Nat} (hd : 1 ≤ d) :
    levelOf (d + 1) = some (currentLevel (levelOf d)) := by
  rw [currentLevel_levelOf, levelOf, if_neg (by omega)]
  congr 1
  omega

/-- The row of a line. -/
def lineRow : Outline.Line PlainComparison QueryBuilderCondition → DataRow
  | (d, .inl comparison) =>
      { group := d
        parentGroup := levelOf d
        type := .rule
        field := comparison.field
        condition := some
          (operatorText (comparison.operator.map SqlOperator.operator))
        value1 := comparison.value1
        value2 := comparison.value2 }
  | (d, .inr condition) =>
      { group := d
        parentGroup := levelOf d
        type := .condition
        field := conditionText condition }

variable {toString : Obj → Str}

/-- The text a plain value has in its cell. -/
theorem cellText_plain {value : Option Obj} (h : PlainValue value) :
    value.map (cellText toString) = plainText value := by
  unfold PlainValue at h
  split at h
  · rfl
  · rfl
  · exact h.elim

/-- Merged operators have one text, so what is merged cannot be told. -/
theorem operatorText_sql (operator : Option QueryBuilderOperator) :
    operatorText ((operator.map QueryBuilderOperator.sql).map
      SqlOperator.operator) = operatorText operator := by
  cases operator with
  | none => rfl
  | some operator => cases operator <;> rfl

/-- The row of a leaf is that of its line. -/
theorem ruleRow_eq_lineRow {r : QueryRule Obj} (hr : RuleOk r) (d : Nat) :
    ruleRow toString (levelOf d) r.field r.operator r.value1 r.value2
      = lineRow (d, .inl r.plainComparison) := by
  unfold ruleRow
  rw [currentLevel_levelOf, ← operatorText_sql r.operator,
    cellText_plain hr.value1, cellText_plain hr.value2]
  rfl

/-- The row of a group's condition is that of its line. -/
theorem conditionRow_eq_lineRow (condition : QueryBuilderCondition)
    (d : Nat) :
    conditionRow (levelOf d) condition = lineRow (d, .inr condition) := by
  rw [conditionRow, lineRow, currentLevel_levelOf]

/-- The rows of a list of rules are the lines of their forest, given that
of the rules. Null rules have neither rows nor lines. -/
theorem rulesRows_eq_of {rules : List (Option (QueryRule Obj))} {d : Nat}
    (h : ∀ r, some r ∈ rules → ruleRows toString (levelOf d) r
      = (r.outline.lines d).map lineRow) :
    rulesRows toString (levelOf d) rules
      = (Outline.linesAll d (outlines rules)).map lineRow := by
  induction rules with
  | nil => rfl
  | cons entry rules ih =>
      have hrules := ih fun r hr => h r (List.mem_cons_of_mem entry hr)
      rw [rulesRows, hrules]
      cases entry with
      | none => rfl
      | some r =>
          have hcons : outlines (some r :: rules)
              = r.outline :: outlines rules := rfl
          rw [entryRows, h r List.mem_cons_self, hcons, Outline.linesAll,
            List.map_append]

/-- The rows of a well-formed rule are the lines of its tree. -/
theorem ruleRows_eq_map_lineRow (r : QueryRule Obj) :
    ∀ d, 1 ≤ d → (∀ q, some q ∈ r.entries → RuleOk q) →
      ruleRows toString (levelOf d) r
        = (r.outline.lines d).map lineRow := by
  induction r using QueryRule.induct with
  | step r ih =>
      intro d hd hok
      rw [QueryRule.entries_eq] at hok
      have hr : RuleOk r := hok r List.mem_cons_self
      rw [QueryRule.outline_eq]
      cases hc : r.condition with
      | none =>
          have hrow := @ruleRow_eq_lineRow toString r hr d
          obtain ⟨field, operator, value1, value2, rules, condition⟩ := r
          obtain rfl : condition = none := hc
          exact congrArg (fun row => [row]) hrow
      | some condition =>
          rw [ruleRows_group toString (levelOf d) r hc, ← levelOf_succ hd]
          have hnested : rulesRows toString (levelOf (d + 1))
              (r.rules.getD [])
              = (Outline.linesAll (d + 1) (outlines (r.rules.getD []))).map
                  lineRow := by
            apply rulesRows_eq_of
            intro q hq
            apply ih q hq (d + 1) (Nat.le_add_left 1 d)
            intro q' hq'
            refine hok q' (List.mem_cons_of_mem _ ?_)
            exact List.mem_flatMap.mpr ⟨some q, hq, hq'⟩
          have hlevel : levelOf (d + 1) ≠ none := by
            rw [levelOf_succ hd]
            exact Option.some_ne_none _
          rw [Outline.lines, List.map_cons, ← hnested,
            ← conditionRow_eq_lineRow]
          unfold queryBuilderRows
          rw [if_neg hlevel, hc]
          rfl

/-- The rows of a well-formed query's rules are the lines of its
forest. -/
theorem rulesRows_eq_map_lineRow {qb : QueryBuilder Obj}
    (hqb : qb.WellFormed) :
    rulesRows toString none (qb.rules.getD [])
      = (Outline.linesAll 1 qb.plain.rules).map lineRow := by
  refine @rulesRows_eq_of toString (qb.rules.getD []) 1 fun r hr => ?_
  refine ruleRows_eq_map_lineRow r 1 (Nat.le_refl 1) fun q hq => hqb q ?_
  exact List.mem_flatMap.mpr ⟨some r, hr, hq⟩

-- ================================================== from rows back to lines

/-- Operators that are not merged have different texts; a missing one has
the text of none of them. -/
theorem operatorText_inj {operator operator' : Option SqlOperator}
    (h : operatorText (operator.map SqlOperator.operator)
      = operatorText (operator'.map SqlOperator.operator)) :
    operator = operator' := by
  have hread : ∀ operator : Option SqlOperator,
      ([none, some .equals, some .notEquals, some .lessThan,
        some .lessThanOrEquals, some .greaterThan, some .greaterThanOrEqual,
        some .in_, some .notIn, some .between, some .notBetween,
        some .isNull, some .isNotNull].find? fun o : Option SqlOperator =>
          operatorText (o.map SqlOperator.operator)
            = operatorText (operator.map SqlOperator.operator))
        = some operator := by
    intro operator
    cases operator with
    | none => decide
    | some operator => cases operator <;> decide
  have hsame := hread operator
  rw [h, hread operator'] at hsame
  exact (Option.some.inj hsame).symm

/-- The two conditions have different texts. -/
theorem conditionText_inj {c c' : QueryBuilderCondition}
    (h : conditionText c = conditionText c') : c = c' := by
  cases c <;> cases c' <;> first | rfl | exact absurd h (by decide)

/-- So have the two directions of an order entry. -/
theorem orderTypeText_inj {t t' : QueryOrderType}
    (h : orderTypeText t = orderTypeText t') : t = t' := by
  cases t <;> cases t' <;> first | rfl | exact absurd h (by decide)

/-- A line is read off its row. -/
theorem lineRow_inj {line line' : Outline.Line PlainComparison
      QueryBuilderCondition} (h : lineRow line = lineRow line') :
    line = line' := by
  have hdepth := congrArg DataRow.group h
  have htype := congrArg DataRow.type h
  have hfield := congrArg DataRow.field h
  have hcondition := congrArg DataRow.condition h
  have hvalue1 := congrArg DataRow.value1 h
  have hvalue2 := congrArg DataRow.value2 h
  obtain ⟨d, c | b⟩ := line
  · obtain ⟨d', c' | b'⟩ := line'
    · obtain ⟨field, operator, value1, value2⟩ := c
      obtain ⟨field', operator', value1', value2'⟩ := c'
      obtain rfl : d = d' := Int.ofNat.inj hdepth
      obtain rfl : field = field' := hfield
      obtain rfl : value1 = value1' := hvalue1
      obtain rfl : value2 = value2' := hvalue2
      obtain rfl : operator = operator' :=
        operatorText_inj (Option.some.inj hcondition)
      rfl
    · cases htype
  · obtain ⟨d', c' | b'⟩ := line'
    · cases htype
    · obtain rfl : d = d' := Int.ofNat.inj hdepth
      rw [conditionText_inj hfield]

-- ======================================================= rows and their part

/-- The parts of a query that have rows of their own. -/
inductive Part where
  | condition | not | count | order | offset | page | rules
  deriving DecidableEq, Repr

/-- The part a row belongs to: the condition of the root is told from
those of nested groups by its number. -/
def partOf (row : DataRow) : Part :=
  match row.type with
  | .condition => if row.group = 1 then .condition else .rules
  | .not => .not
  | .count => .count
  | .order => .order
  | .offset => .offset
  | .rowCount | .totalCount => .page
  | .rule => .rules

/-- The rows a part of a query appends. -/
def partRows (toString : Obj → Str) (qb : QueryBuilder Obj) :
    Part → List DataRow
  | .condition => (qb.condition.map fun c => [conditionRow none c]).getD []
  | .not => if qb.not = some true then [notRow none] else []
  | .count => (qb.count.map fun n => [numberRow .count none n.toInt]).getD []
  | .order => orderRows none 0 (qb.orderBy.getD [])
  | .offset =>
      (qb.offset.map fun n => [numberRow .offset none n.toInt]).getD []
  | .page =>
      (qb.pageSize.map fun n => [numberRow .rowCount none n.toInt,
        numberRow .totalCount none n.toInt]).getD []
  | .rules => rulesRows toString none (qb.rules.getD [])

/-- The rows of a query are those of its parts, in this order. -/
theorem queryBuilderRows_eq_parts (qb : QueryBuilder Obj) :
    queryBuilderRows toString qb none
      = [Part.condition, .not, .count, .order, .offset, .page, .rules].flatMap
          (partRows toString qb) := by
  unfold queryBuilderRows rootRows partRows
  rw [if_pos rfl]
  simp only [List.flatMap_cons, List.flatMap_nil, List.append_nil,
    List.append_assoc]

/-- The rows of order entries are of their part. -/
theorem partOf_orderRow (orders : List (Option QueryOrder)) :
    ∀ i, ∀ row ∈ orderRows none i orders, partOf row = .order := by
  induction orders with
  | nil => exact fun i row h => absurd h List.not_mem_nil
  | cons order orders ih =>
      intro i row h
      cases order with
      | none => exact ih (i + 1) row h
      | some order =>
          rcases List.mem_cons.mp h with rfl | h
          · rfl
          · exact ih (i + 1) row h

/-- No line of a forest at depth 1 looks like the root's condition. -/
theorem partOf_lineRow
    {line : Outline.Line PlainComparison QueryBuilderCondition}
    (h : ¬Outline.EndsAt 1 line) : partOf (lineRow line) = .rules := by
  obtain ⟨d, c | b⟩ := line
  · rfl
  · have hd : (d : Int) ≠ 1 := fun hd => h (Or.inr ⟨by omega, rfl⟩)
    exact if_neg hd

/-- The rows of a member that may be missing are of one part if all it
can have are. -/
theorem partOf_optionRow {α : Type} {f : α → List DataRow} {k : Part}
    (hall : ∀ a, ∀ row ∈ f a, partOf row = k) {o : Option α}
    {row : DataRow} (h : row ∈ (o.map f).getD []) : partOf row = k := by
  cases o with
  | none => exact absurd h List.not_mem_nil
  | some a => exact hall a row h

/-- Rows know their part. -/
theorem partOf_of_mem {qb : QueryBuilder Obj} (hqb : qb.WellFormed)
    {k : Part} {row : DataRow} (h : row ∈ partRows toString qb k) :
    partOf row = k := by
  cases k with
  | condition =>
      refine partOf_optionRow ?_ h
      intro c row hrow
      obtain rfl := List.mem_singleton.mp hrow
      rfl
  | not =>
      rw [partRows] at h
      split at h
      · obtain rfl := List.mem_singleton.mp h
        rfl
      · exact absurd h List.not_mem_nil
  | count | offset =>
      refine partOf_optionRow ?_ h
      intro n row hrow
      obtain rfl := List.mem_singleton.mp hrow
      rfl
  | order => exact partOf_orderRow _ 0 row h
  | page =>
      refine partOf_optionRow ?_ h
      intro n row hrow
      rcases List.mem_pair.mp hrow with rfl | rfl
      · rfl
      · rfl
  | rules =>
      rw [partRows, rulesRows_eq_map_lineRow hqb] at h
      obtain ⟨line, hline, rfl⟩ := List.mem_map.mp h
      exact partOf_lineRow (Outline.not_endsAt_of_mem hline)

/-- The rows of a part are the rows it has appended: the others belong to
other parts, and those of one part stand together. -/
theorem filter_partOf {qb : QueryBuilder Obj} (hqb : qb.WellFormed)
    (k : Part) :
    (queryBuilderRows toString qb none).filter (fun row => partOf row = k)
      = partRows toString qb k := by
  have hpart : ∀ k', (partRows toString qb k').filter
      (fun row => partOf row = k)
      = if k' = k then partRows toString qb k' else [] := by
    intro k'
    by_cases hk : k' = k
    · rw [if_pos hk]
      refine List.filter_eq_self.mpr fun row hrow => ?_
      rw [partOf_of_mem hqb hrow, decide_eq_true hk]
    · rw [if_neg hk]
      refine List.filter_eq_nil_iff.mpr fun row hrow => ?_
      rw [partOf_of_mem hqb hrow, decide_eq_true_eq]
      exact hk
  rw [queryBuilderRows_eq_parts]
  simp only [List.flatMap_cons, List.flatMap_nil, List.filter_append,
    List.filter_nil, hpart]
  cases k <;> simp

-- =================================================== the parts, read back

/-- A member that has rows exactly if it is there is read off them. -/
theorem optionRows_inj {α : Type} {f : α → List DataRow}
    (hne : ∀ a, f a ≠ []) (hinj : ∀ a b, f a = f b → a = b)
    {o o' : Option α} (h : (o.map f).getD [] = (o'.map f).getD []) :
    o = o' := by
  cases o with
  | none =>
      cases o' with
      | none => rfl
      | some b => exact absurd h.symm (hne b)
  | some a =>
      cases o' with
      | none => exact absurd h (hne a)
      | some b => rw [hinj a b h]

/-- A number's row gives the number back. -/
theorem numberRow_inj {type : RowType} {m n : Int}
    (h : numberRow type none m = numberRow type none n) : m = n :=
  intText_inj (congrArg DataRow.field h)

/-- What the rows of order entries show. -/
theorem map_orderRows (orders : List (Option QueryOrder)) :
    ∀ i, (orderRows none i orders).map (fun row =>
        (row.field, row.condition))
      = (orders.filterMap id).map fun order =>
          (order.field.getD [], some (orderTypeText order.type)) := by
  induction orders with
  | nil => exact fun i => rfl
  | cons order orders ih =>
      intro i
      cases order with
      | none => exact ih (i + 1)
      | some order => exact congrArg (_ :: ·) (ih (i + 1))

/-- Order entries are read off their rows. -/
theorem orderBy_inj {orders orders' : List (Option QueryOrder)}
    (h : orderRows none 0 orders = orderRows none 0 orders') :
    (orders.filterMap id).map (fun order => (order.field.getD [], order.type))
      = (orders'.filterMap id).map fun order =>
          (order.field.getD [], order.type) := by
  have hshown := congrArg (List.map fun row => (row.field, row.condition)) h
  rw [map_orderRows, map_orderRows] at hshown
  have hinj : Function.Injective
      fun entry : Str × QueryOrderType =>
        (entry.1, some (orderTypeText entry.2)) := by
    rintro ⟨field, type⟩ ⟨field', type'⟩ heq
    injection heq with hfield htype
    injection htype with htype
    obtain rfl : field = field' := hfield
    obtain rfl : type = type' := orderTypeText_inj htype
    rfl
  refine List.map_injective_iff.mpr hinj ?_
  rw [List.map_map, List.map_map]
  exact hshown

/-- Two well-formed queries for which `QueryBuilderToDataTable` appends the
same rows in the same order are the same up to what the rows merge. Part
by part, the parts' rows are the same, and each part is read off its own. -/
theorem rows_determine_query {qb qb' : QueryBuilder Obj}
    (hqb : qb.WellFormed) (hqb' : qb'.WellFormed) {rows : List DataRow}
    (h : queryBuilderToDataTable toString qb (some {}) none
      = .ok (some ⟨true, rows⟩))
    (h' : queryBuilderToDataTable toString qb' (some {}) none
      = .ok (some ⟨true, rows⟩)) :
    qb.plain = qb'.plain := by
  rw [queryBuilderToDataTable_some] at h h'
  have hrows : queryBuilderRows toString qb none
      = queryBuilderRows toString qb' none := by
    simp only [Except.ok.injEq, Option.some.injEq, DataTable.mk.injEq] at h h'
    exact (h.2.trans h'.2.symm)
  have hparts : ∀ k, partRows toString qb k = partRows toString qb' k := by
    intro k
    rw [← filter_partOf hqb, ← filter_partOf hqb', hrows]
  have hcondition : qb.condition = qb'.condition :=
    optionRows_inj (fun _ => List.cons_ne_nil _ _)
      (fun c c' h => conditionText_inj
        (congrArg DataRow.field (List.cons.inj h).1)) (hparts .condition)
  have hnot : decide (qb.not = some true)
      = decide (qb'.not = some true) := by
    have hnot := hparts .not
    unfold partRows at hnot
    by_cases hq : qb.not = some true
    · by_cases hq' : qb'.not = some true
      · rw [hq, hq']
      · rw [if_pos hq, if_neg hq'] at hnot
        cases hnot
    · by_cases hq' : qb'.not = some true
      · rw [if_neg hq, if_pos hq'] at hnot
        cases hnot
      · rw [decide_eq_false hq, decide_eq_false hq']
  have hcount : qb.count = qb'.count :=
    optionRows_inj (fun _ => List.cons_ne_nil _ _)
      (fun n n' h => Int32.toInt_inj.mp (numberRow_inj (List.cons.inj h).1))
      (hparts .count)
  have hoffset : qb.offset = qb'.offset :=
    optionRows_inj (fun _ => List.cons_ne_nil _ _)
      (fun n n' h => Int64.toInt_inj.mp (numberRow_inj (List.cons.inj h).1))
      (hparts .offset)
  have hpage : qb.pageSize = qb'.pageSize :=
    optionRows_inj (fun _ => List.cons_ne_nil _ _)
      (fun n n' h => Int64.toInt_inj.mp (numberRow_inj (List.cons.inj h).1))
      (hparts .page)
  have hrules : qb.plain.rules = qb'.plain.rules := by
    have hrules := hparts .rules
    rw [partRows, partRows, rulesRows_eq_map_lineRow hqb,
      rulesRows_eq_map_lineRow hqb'] at hrules
    have hlines := List.map_injective_iff.mpr (fun _ _ => lineRow_inj) hrules
    exact Outline.linesAll_inj hlines
  unfold QueryBuilder.plain at hrules ⊢
  rw [PlainQuery.mk.injEq]
  exact ⟨hcondition, hnot, hcount, hoffset, hpage,
    orderBy_inj (hparts .order), hrules⟩

-- =============================================================== examples

/-- A comparison of the field `a` with the text `1`. -/
private def comparesA (operator : QueryBuilderOperator) : QueryRule Obj :=
  ⟨some (str "a"), some operator, some (.string (str "1")), none, none, none⟩

/-- `a = 1` in a group, with a null rule beside it. -/
private def spelledOut : QueryBuilder Obj where
  condition := some .and
  rules := some [none, some ⟨none, some .in_, none, none,
    some [some (comparesA .equals)], some .or⟩]
  orderBy := some [some ⟨none, .asc⟩]

/-- The same query in other words. -/
private def spelledAgain : QueryBuilder Obj where
  condition := some .and
  rules := some [some ⟨none, none, none, none,
    some [some (comparesA .is), none], some .or⟩]
  not := some false
  orderBy := some [some ⟨some [], .asc⟩]

private theorem ruleOk_comparesA (operator : QueryBuilderOperator) :
    RuleOk (comparesA operator) :=
  ⟨Or.inl ⟨rfl, rfl, rfl⟩, trivial, trivial⟩

/-- Two spellings of one query have the same rows and are the same. -/
theorem rows_determine_respelled :
    spelledOut.WellFormed ∧ spelledAgain.WellFormed
    ∧ queryBuilderRows (fun _ => []) spelledOut none
      = queryBuilderRows (fun _ => []) spelledAgain none
    ∧ spelledOut.plain = spelledAgain.plain := by
  have hout : spelledOut.WellFormed := by
    intro r hr
    have hentries : spelledOut.entries = [none, some ⟨none, some .in_, none,
        none, some [some (comparesA .equals)], some .or⟩,
        some (comparesA .equals)] := rfl
    rw [hentries] at hr
    simp only [List.mem_cons, List.not_mem_nil, or_false, Option.some.injEq]
      at hr
    rcases hr with hr | rfl | rfl
    · cases hr
    · exact ⟨Or.inr ⟨rfl, rfl⟩, trivial, trivial⟩
    · exact ruleOk_comparesA .equals
  have hagain : spelledAgain.WellFormed := by
    intro r hr
    have hentries : spelledAgain.entries = [some ⟨none, none, none, none,
        some [some (comparesA .is), none], some .or⟩,
        some (comparesA .is), none] := rfl
    rw [hentries] at hr
    simp only [List.mem_cons, List.not_mem_nil, or_false, Option.some.injEq]
      at hr
    rcases hr with rfl | rfl | hr
    · exact ⟨Or.inr ⟨rfl, rfl⟩, trivial, trivial⟩
    · exact ruleOk_comparesA .is
    · cases hr
  refine ⟨hout, hagain, rfl, ?_⟩
  exact @rows_determine_query (fun _ => []) _ _ hout hagain _ rfl rfl

end SkillBuddy
