/-
`SkillBuddy.Data.General.DataHelper`: the third list renderer, and the
relational form of a query.

# `ToCsvString`

The renderer dispatches on the type code of the element type before it
asks for an enum. The type code of an enum type is that of its underlying
type, so the enums over `byte`, `short`, `int` and `long` take the first
arm and are joined by their names, unquoted, whatever type is asked for;
the enum arm is left with those over the other types.

# `QueryBuilderToDataTable`

The method walks the rule tree and appends a row for the condition of
every group and for every comparison, each with a group number and its
parent's number. The number is the depth: the recursive call passes its
own `currentLevel` down, and a group adds one. Two groups at one depth
have one number.

The rows a call appends do not depend on the table, so they are computed
first (`queryBuilderRows`) and then added one by one; adding fails exactly
when there is no table, which is the only exception the method lets out
(`queryBuilderToDataTable_some`, `queryBuilderToDataTable_none`).

A rule with a condition is a group here, whatever else it holds, and a
rule without one is a comparison, whatever rules are nested in it. The
source converts a group by calling itself on a filter made of the group's
condition and rules; the rows of that call are the group's
(`ruleRows_group`).
-/
import SkillBuddy.Entity.QueryBuilder

namespace SkillBuddy.DataHelper

open DotNet

-- =========================================================== ToCsvString

/-- `Convert.ChangeType(x, typeof(char))` for an enum value. -/
def changeTypeToChar {e : EnumType} (x : EnumValue e) :
    Except Exn CodeUnit :=
  if 0 ≤ x.value ∧ x.value < 2 ^ 16 then .ok (UInt16.ofInt x.value)
  else .error .overflow

/-- `Convert.ToInt64(x)` for an enum value. -/
def toInt64 {e : EnumType} (x : EnumValue e) : Except Exn Int64 :=
  if x.value < 2 ^ 63 then .ok (Int64.ofInt x.value) else .error .overflow

/-- The arm of `ToCsvString` for the element types it joins unquoted. -/
def joinTexts (texts : List Str) : Str := joinComma texts

/-- The arm of `ToCsvString` for the element types it quotes. -/
def joinQuoted (texts : List Str) : Str :=
  joinComma (texts.map Helper.quoted)

/-- The enum arm of `ToCsvString`, by the requested type. -/
def enumToCsvString {e : EnumType} (list : List (EnumValue e)) :
    Option ElemType → Except Exn Str
  | none | some .char => do
      let chars ← list.mapM changeTypeToChar
      return joinQuoted (chars.map fun c => [c])
  | some .byte | some .short | some .int | some .long => do
      let numbers ← list.mapM toInt64
      return joinTexts (numbers.map fun n => intText n.toInt)
  | some .string => return joinQuoted (list.map EnumValue.toText)
  | some _ => return []

/-- `list.ToCsvString(toType)`. The type code of an enum type is that of
its underlying type, so the first arm takes the enums over `byte`,
`short`, `int` and `long` along and writes their names. -/
def toCsvString (t : ElemType) (list : Option (List t.Carrier))
    (toType : Option ElemType) : Except Exn Str :=
  match list with
  | none | some [] => return []
  | some list =>
    match t, list with
    | .byte, list =>
        return joinTexts (list.map fun n => intText (UInt8.toNat n))
    | .short, list =>
        return joinTexts (list.map fun n => intText (Int16.toInt n))
    | .int, list =>
        return joinTexts (list.map fun n => intText (Int32.toInt n))
    | .long, list =>
        return joinTexts (list.map fun n => intText (Int64.toInt n))
    | .char, list => return joinQuoted (list.map fun c => [c])
    | .string, list => return joinQuoted (list.map fun s => Option.getD s [])
    | .guid, list => return joinQuoted (list.map Guid.toText)
    | .enum e, list =>
      match e.underlying with
      | .byte | .short | .int | .long =>
          return joinTexts (list.map EnumValue.toText)
      | .sbyte | .ushort | .uint | .ulong => enumToCsvString list toType
    | .sbyte, _ | .ushort, _ | .uint, _ | .ulong, _ | .float, _
    | .double, _ | .decimal, _ | .bool, _ | .dateTime, _ => return []

-- ============================================================= the table

/-- The texts of the `Type` column. -/
inductive RowType where
  | condition
  | not
  | count
  | order
  | offset
  | rowCount
  | totalCount
  | rule
  deriving DecidableEq, Repr

/-- A row: its cells by column, `none` for DBNull, which
`GetValueWithDefaults` puts in the place of a null. -/
structure DataRow where
  group : Int
  parentGroup : Option Int
  type : RowType
  field : Str
  condition : Option Str := none
  value1 : Option Str := none
  value2 : Option Str := none
  deriving DecidableEq, Repr

/-- A `DataTable`: without columns, or with the seven this method adds. -/
structure DataTable where
  hasColumns : Bool := false
  rows : List DataRow := []
  deriving DecidableEq, Repr

/-- `dataTable.Rows.Add(dataRow)`, behind its null test. -/
def addRow (dataTable : Option DataTable) (dataRow : DataRow) :
    Except Exn (Option DataTable) :=
  match dataTable with
  | none => .error (.argumentNull "dataTable")
  | some table => .ok (some { table with rows := table.rows ++ [dataRow] })

-- ============================================================== the rows

/-- `condition.ToString()`. -/
def conditionText : QueryBuilderCondition → Str
  | .and => str "AND"
  | .or => str "OR"

/-- `order.Type.ToString()`. -/
def orderTypeText : QueryOrderType → Str
  | .asc => str "ASC"
  | .desc => str "DESC"

/-- The operator's text in SQL. -/
def operatorText : Option QueryBuilderOperator → Str
  | some .equals | some .is => str "="
  | some .notEquals | some .isNot => str "<>"
  | some .greaterThan => str ">"
  | some .greaterThanOrEqual => str ">="
  | some .lessThan => str "<"
  | some .lessThanOrEquals => str "<="
  | some .in_ => str "IN"
  | some .notIn => str "NOT IN"
  | some .between => str "BETWEEN"
  | some .notBetween => str "NOT BETWEEN"
  | some .isNull => str "IS NULL"
  | some .isNotNull => str "IS NOT NULL"
  | none => []

/-- `(level ?? 0) + 1`. -/
def currentLevel (level : Option Int) : Int := level.getD 0 + 1

/-- The row of a group's condition. -/
def conditionRow (level : Option Int) (condition : QueryBuilderCondition) :
    DataRow where
  group := currentLevel level
  parentGroup := level
  type := .condition
  field := conditionText condition

/-- The row of a NOT flag. -/
def notRow (level : Option Int) : DataRow where
  group := currentLevel level
  parentGroup := level
  type := .not
  field := str "NOT"

/-- The row of one of the root's numbers. -/
def numberRow (type : RowType) (level : Option Int) (n : Int) :
    DataRow where
  group := currentLevel level
  parentGroup := level
  type := type
  field := intText n

/-- The row of the order entry at index `i`. -/
def orderRow (level : Option Int) (i : Nat) (order : QueryOrder) :
    DataRow where
  group := currentLevel level
  parentGroup := level
  type := .order
  field := order.field.getD []
  condition := some (orderTypeText order.type)
  value2 := some (padZero 10 (natText i))

/-- The rows of the order entries from index `i` on. -/
def orderRows (level : Option Int) :
    Nat → List (Option QueryOrder) → List DataRow
  | _, [] => []
  | i, none :: orders => orderRows level (i + 1) orders
  | i, some order :: orders =>
      orderRow level i order :: orderRows level (i + 1) orders

/-- What a `string` column stores of an object: `value.ToString()`. -/
def cellText (toString : Obj → Str) : Obj → Str
  | .string s => s
  | value => toString value

variable (toString : Obj → Str)

/-- The row of a comparison; a null test takes no values. -/
def ruleRow (level : Option Int) (field : Option Str)
    (operator : Option QueryBuilderOperator) (value1 value2 : Option Obj) :
    DataRow where
  group := currentLevel level
  parentGroup := level
  type := .rule
  field := field.getD []
  condition := some (operatorText operator)
  value1 := match operator with
    | some .isNull | some .isNotNull => none
    | _ => value1.map (cellText toString)
  value2 := match operator with
    | some .isNull | some .isNotNull => none
    | _ => value2.map (cellText toString)

mutual
/-- The rows of a rule at `level`: its comparison, or the rows of the
group it is, one level down. -/
def ruleRows (level : Option Int) : QueryRule Obj → List DataRow
  | ⟨field, operator, value1, value2, rules, condition⟩ =>
      match condition with
      | none => [ruleRow toString level field operator value1 value2]
      | some condition =>
          conditionRow (some (currentLevel level)) condition
            :: nestedRows (some (currentLevel level)) rules
/-- The rows of a group's rules; a group without a list has none. -/
def nestedRows (level : Option Int) :
    Option (List (Option (QueryRule Obj))) → List DataRow
  | none => []
  | some rules => rulesRows level rules
/-- The rows of a list of rules. -/
def rulesRows (level : Option Int) :
    List (Option (QueryRule Obj)) → List DataRow
  | [] => []
  | entry :: rules => entryRows level entry ++ rulesRows level rules
/-- The rows of an entry; null entries are skipped. -/
def entryRows (level : Option Int) :
    Option (QueryRule Obj) → List DataRow
  | none => []
  | some rule => ruleRows level rule
end

/-- The rows only the root has. -/
def rootRows (level : Option Int) (queryBuilder : QueryBuilder Obj) :
    List DataRow :=
  ((queryBuilder.count.map fun n => [numberRow .count level n.toInt]).getD []
    ++ orderRows level 0 (queryBuilder.orderBy.getD [])
    ++ (queryBuilder.offset.map fun n =>
        [numberRow .offset level n.toInt]).getD []
    ++ (queryBuilder.pageSize.map fun n =>
        [numberRow .rowCount level n.toInt,
          numberRow .totalCount level n.toInt]).getD [])

/-- The rows `QueryBuilderToDataTable` appends, in order. -/
def queryBuilderRows (queryBuilder : QueryBuilder Obj)
    (level : Option Int) : List DataRow :=
  (queryBuilder.condition.map fun c => [conditionRow level c]).getD []
    ++ (if queryBuilder.not = some true then [notRow level] else [])
    ++ (if level = none then rootRows level queryBuilder else [])
    ++ rulesRows toString level (queryBuilder.rules.getD [])

/-- `DataHelper.QueryBuilderToDataTable(queryBuilder, ref dataTable,
level)`: the table it leaves. -/
def queryBuilderToDataTable (queryBuilder : QueryBuilder Obj)
    (dataTable : Option DataTable) (level : Option Int) :
    Except Exn (Option DataTable) :=
  (queryBuilderRows toString queryBuilder level).foldlM addRow
    (dataTable.map fun table => { table with hasColumns := true })

-- ======================================================== one call, plainly

/-- A group's rows are those of the recursive call on the filter the
source builds for it. -/
theorem ruleRows_group (level : Option Int) (r : QueryRule Obj)
    {condition : QueryBuilderCondition} (h : r.condition = some condition) :
    ruleRows toString level r
      = queryBuilderRows toString
          { condition := r.condition, rules := some (r.rules.getD []) }
          (some (currentLevel level)) := by
  obtain ⟨field, operator, value1, value2, rules, _⟩ := r
  subst h
  cases rules <;> rfl

/-- The rows of a list of rules are those of its rules, one after the other;
null entries have none. -/
theorem rulesRows_eq (level : Option Int)
    (rules : List (Option (QueryRule Obj))) :
    rulesRows toString level rules
      = (rules.filterMap id).flatMap (ruleRows toString level) := by
  induction rules with
  | nil => rfl
  | cons e es ih => cases e <;> rw [rulesRows, ih] <;> rfl

/-- Rows are appended to a table one after the other. -/
theorem foldlM_addRow (rows : List DataRow) (table : DataTable) :
    rows.foldlM addRow (some table)
      = .ok (some { table with rows := table.rows ++ rows }) := by
  induction rows generalizing table with
  | nil => rw [List.append_nil]; rfl
  | cons row rows ih =>
      rw [List.foldlM_cons, addRow]
      show rows.foldlM addRow (some _) = _
      rw [ih, List.append_assoc]
      rfl

/-- With a table the method returns normally and appends its rows. -/
theorem queryBuilderToDataTable_some (queryBuilder : QueryBuilder Obj)
    (table : DataTable) (level : Option Int) :
    queryBuilderToDataTable toString queryBuilder (some table) level
      = .ok (some
          { hasColumns := true
            rows := table.rows
              ++ queryBuilderRows toString queryBuilder level }) :=
  foldlM_addRow _ _

/-- Without a table it fails as soon as there is a row to add. -/
theorem queryBuilderToDataTable_none (queryBuilder : QueryBuilder Obj)
    (level : Option Int) :
    queryBuilderToDataTable toString queryBuilder none level
      = if queryBuilderRows toString queryBuilder level = [] then .ok none
        else .error (.argumentNull "dataTable") := by
  unfold queryBuilderToDataTable
  cases queryBuilderRows toString queryBuilder level with
  | nil => rfl
  | cons row rows => rfl

end SkillBuddy.DataHelper
