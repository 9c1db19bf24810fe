/-
`QueryBuilderToDataTable` on objects: rules are references, and a
conversion writes to the rules it passes.

# Objects

The tree of a query is what the references lead to (`readQuery`). One
rule object may be listed several times, in one query or in several, so
what one conversion writes another one may read: null tests lose their
values for good. Reading a tree needs a depth, because an object may be
listed below itself; such a query has no tree.

# Conversions

The method is written over a memory of objects and one table, in the order
of its statements: the columns, the rows of the query's own members, and
for every rule its row, or the recursive call for a group. A null test's
values are dropped before its row is made, and in the object. The
recursion has so many stack frames and no more; a query without a tree
ends it by a stack overflow, with the rows it has added so far.

# Runs

A run is a list of conversions, each into one of several tables or into
none. The objects are common to all of them; a table that is not the
target stays as it is.
-/
import SkillBuddy.Data.DataHelper
import SkillBuddy.Lib.Effect

namespace SkillBuddy.DataHelper

open DotNet Lib

-- ============================================================= the objects

/-- A `QueryRule` object; the rules it lists are references. -/
structure RuleObject where
  field : Option Str := none
  operator : Option QueryBuilderOperator := none
  value1 : Option Obj := none
  value2 : Option Obj := none
  rules : Option (List (Option Nat)) := none
  condition : Option QueryBuilderCondition := none

/-- A `QueryBuilder` object. -/
structure QueryObject where
  condition : Option QueryBuilderCondition := none
  rules : Option (List (Option Nat)) := some []
  not : Option Bool := none
  count : Option Int32 := none
  offset : Option Int64 := none
  pageSize : Option Int64 := none
  orderBy : Option (List (Option QueryOrder)) := none

/-- What the references refer to. -/
abbrev RuleObjects := Nat → RuleObject

/-- `rule.Value1 = null; rule.Value2 = null;`. -/
def RuleObjects.dropValues (objects : RuleObjects) (ref : Nat) :
    RuleObjects :=
  Function.update objects ref
    { objects ref with value1 := none, value2 := none }

/-- `IsNull or IsNotNull`. -/
def isNullTest : Option QueryBuilderOperator → Bool
  | some .isNull | some .isNotNull => true
  | _ => false

-- ================================================================ the trees

/-- A list of references, read by `read`. -/
def readAll (read : Nat → Option (QueryRule Obj)) :
    List (Option Nat) → Option (List (Option (QueryRule Obj)))
  | [] => some []
  | none :: refs => (readAll read refs).map fun entries => none :: entries
  | some ref :: refs =>
      (read ref).bind fun rule =>
        (readAll read refs).map fun entries => some rule :: entries

/-- The rules of an object; it may have no list of them. -/
def readRules (read : Nat → Option (QueryRule Obj)) :
    Option (List (Option Nat)) →
      Option (Option (List (Option (QueryRule Obj))))
  | none => some none
  | some refs => (readAll read refs).map some

/-- The tree of a rule object, if it is not deeper than `depth`. -/
def readRule (objects : RuleObjects) :
    (depth ref : Nat) → Option (QueryRule Obj)
  | 0, _ => none
  | depth + 1, ref =>
      (readRules (readRule objects depth)
        (objects ref).rules).map fun rules =>
        { field := (objects ref).field
          operator := (objects ref).operator
          value1 := (objects ref).value1
          value2 := (objects ref).value2
          rules
          condition := (objects ref).condition }

/-- The query of an object. -/
def readQuery (objects : RuleObjects) (depth : Nat) (query : QueryObject) :
    Option (QueryBuilder Obj) :=
  (readRules (readRule objects depth) query.rules).map fun rules =>
    { condition := query.condition
      rules
      not := query.not
      count := query.count
      offset := query.offset
      pageSize := query.pageSize
      orderBy := query.orderBy }

-- ============================================================ a conversion

/-- What a conversion works on: the objects, and what `dataTable` refers
to. -/
structure Memory where
  objects : RuleObjects
  dataTable : Option DataTable

/-- How a conversion is broken off. -/
inductive Abort where
  | threw (exn : Exn)
  | stackOverflow
  deriving DecidableEq, Repr

abbrev Convert := Eff Abort Memory Unit

/-- The columns are added to a table without any. -/
def addColumns : Convert :=
  Eff.modify fun memory =>
    { memory with dataTable := memory.dataTable.map fun table =>
        { table with hasColumns := true } }

/-- The null test and `dataTable.Rows.Add(dataRow)`. -/
def add (dataRow : DataRow) : Convert where
  run memory :=
    match addRow memory.dataTable dataRow with
    | .ok dataTable => (.ok (), { memory with dataTable })
    | .error exn => (.error (.threw exn), memory)

/-- Rows one after the other. -/
def addAll : List DataRow → Convert
  | [] => pure ()
  | row :: rows => do
      add row
      addAll rows

variable (toString : Obj → Str)

/-- The rows of a query's own members. -/
def QueryObject.headRows (query : QueryObject) (level : Option Int) :
    List DataRow :=
  queryBuilderRows toString
    { condition := query.condition
      rules := none
      not := query.not
      count := query.count
      offset := query.offset
      pageSize := query.pageSize
      orderBy := query.orderBy } level

/-- The row of a comparison, with the values its object has. -/
def RuleObject.row (rule : RuleObject) (level : Option Int) : DataRow where
  group := currentLevel level
  parentGroup := level
  type := .rule
  field := rule.field.getD []
  condition := some (operatorText rule.operator)
  value1 := rule.value1.map (cellText toString)
  value2 := rule.value2.map (cellText toString)

/-- A round of the loop; `nested` is the recursive call. -/
def convertRule (nested : QueryObject → Convert) (level : Option Int)
    (ref : Nat) : Convert := do
  let memory ← Eff.get
  match (memory.objects ref).condition with
  | none =>
      if isNullTest (memory.objects ref).operator then
        Eff.modify fun memory =>
          { memory with objects := memory.objects.dropValues ref }
      let memory ← Eff.get
      add ((memory.objects ref).row toString level)
  | some condition =>
      nested
        { condition := some condition
          rules := some ((memory.objects ref).rules.getD []) }

/-- The loop over the rules; null entries are skipped. -/
def convertRules (nested : QueryObject → Convert) (level : Option Int) :
    List (Option Nat) → Convert
  | [] => pure ()
  | none :: refs => convertRules nested level refs
  | some ref :: refs => do
      convertRule toString nested level ref
      convertRules nested level refs

/-- `QueryBuilderToDataTable(queryBuilder, ref dataTable, level)` with
`frames` stack frames left. -/
def convert : (frames : Nat) → Option Int → QueryObject → Convert
  | 0, _, _ => Eff.throw .stackOverflow
  | frames + 1, level, query => do
      addColumns
      addAll (query.headRows toString level)
      convertRules toString (convert frames (some (currentLevel level)))
        level (query.rules.getD [])

-- ==================================================================== runs

/-- A call: what is converted, and into which table. -/
structure Conversion where
  query : QueryObject
  level : Option Int := none
  target : Option Nat

/-- The objects, and the tables of the callers. -/
structure Tables where
  objects : RuleObjects
  tables : Nat → DataTable

/-- One call: how it ends, and what it leaves. -/
def Conversion.run (frames : Nat) (conversion : Conversion)
    (state : Tables) : Except Abort Unit × Tables :=
  let outcome :=
    (convert toString frames conversion.level conversion.query).run
      ⟨state.objects, conversion.target.map state.tables⟩
  (outcome.1,
    { objects := outcome.2.objects
      tables := match conversion.target, outcome.2.dataTable with
        | some target, some table =>
            Function.update state.tables target table
        | _, _ => state.tables })

/-- Calls one after the other, however they end. -/
def runConversions (frames : Nat) :
    List Conversion → Tables → List (Except Abort Unit) × Tables
  | [], state => ([], state)
  | conversion :: conversions, state =>
      let called := conversion.run toString frames state
      let rest := runConversions frames conversions called.2
      (called.1 :: rest.1, rest.2)

end SkillBuddy.DataHelper
