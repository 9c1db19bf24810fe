/-
Conversions of objects refine the conversion of trees.

# Two levels

`queryBuilderToDataTable` takes a tree and returns its rows. The program
takes objects, which several queries may share, and writes to them on the
way: the values of a null test are set to null before its row is made. A
conversion writes to the objects it passes, and another conversion may
pass the same objects. What it writes are the values of null tests, and
these are what no row shows (`row_of_nullTest`).

# The refinement

`ValuesDropped` says where the objects can have got to by dropping such
values; it is reflexive and transitive, and keeps what a traversal goes
by, the conditions and the nested rules. `Appends` says of a computation
that wherever the objects have got to in this way, it appends the rows
that it would have appended in the beginning, and drops values at most.
It is closed under sequencing, so the traversal has one lemma for each
of its parts: a comparison, a group, the loop over the rules.

The nesting of the objects need not be a tree: a rule may be nested in
itself, and then there is no tree to read, and the traversal does not
end. So the objects are read as a tree down to some depth, and the
traversal of what can be read takes as many frames and one
(`appends_convertRule`).

Every run appends, table by table, the rows of the trees it began with
(`conversions_append_rows`), and changes nothing else about the objects.
-/
import SkillBuddy.Data.Conversions

namespace SkillBuddy.DataHelper

open DotNet Lib

-- ========================================================== what is dropped

/-- Objects whose null tests may have lost their values. -/
def ValuesDropped (before after : RuleObjects) : Prop :=
  ∀ ref, after ref = before ref
    ∨ (before ref).condition = none
      ∧ isNullTest (before ref).operator = true
      ∧ after ref = { before ref with value1 := none, value2 := none }

theorem ValuesDropped.refl (objects : RuleObjects) :
    ValuesDropped objects objects := fun _ => Or.inl rfl

/-- Dropping values again is dropping them. -/
theorem ValuesDropped.trans {first second third : RuleObjects}
    (h : ValuesDropped first second) (h' : ValuesDropped second third) :
    ValuesDropped first third := by
  intro ref
  rcases h ref with hsame | ⟨hcondition, htest, hdropped⟩
  · have hthird := h' ref
    rw [hsame] at hthird
    exact hthird
  · right
    refine ⟨hcondition, htest, ?_⟩
    rcases h' ref with hsame | ⟨-, -, hagain⟩
    · rw [hsame, hdropped]
    · rw [hagain, hdropped]

/-- A null test drops its values. -/
theorem ValuesDropped.drop {objects : RuleObjects} {ref : Nat}
    (hcondition : (objects ref).condition = none)
    (htest : isNullTest (objects ref).operator = true) :
    ValuesDropped objects (objects.dropValues ref) := by
  intro ref'
  unfold RuleObjects.dropValues
  by_cases h : ref' = ref
  · right
    subst h
    exact ⟨hcondition, htest, Function.update_self ..⟩
  · left
    exact Function.update_of_ne h ..

section
variable {before after : RuleObjects} (h : ValuesDropped before after)
  (ref : Nat)
include h

/-- What is dropped leaves the conditions, -/
theorem ValuesDropped.condition :
    (after ref).condition = (before ref).condition := by
  rcases h ref with h | ⟨-, -, h⟩ <;> rw [h]

/-- the nested rules, -/
theorem ValuesDropped.rules : (after ref).rules = (before ref).rules := by
  rcases h ref with h | ⟨-, -, h⟩ <;> rw [h]

/-- and the operators. -/
theorem ValuesDropped.operator :
    (after ref).operator = (before ref).operator := by
  rcases h ref with h | ⟨-, -, h⟩ <;> rw [h]

end

-- ===================================================== rows are appended

/-- How adding rows ends, and the table it leaves. -/
def added : Option DataTable → List DataRow →
    Except Abort Unit × Option DataTable
  | some table, rows =>
      (.ok (), some { table with rows := table.rows ++ rows })
  | none, [] => (.ok (), none)
  | none, _ :: _ => (.error (.threw (.argumentNull "dataTable")), none)

/-- Without rows nothing happens. -/
@[simp] theorem added_nil (table : Option DataTable) :
    added table [] = (.ok (), table) := by
  cases table with
  | none => rfl
  | some table => rw [added, List.append_nil]

/-- Rows that are added after others; where there is no table, the first of
them throws. -/
theorem added_append (table : Option DataTable) (rows rows' : List DataRow) :
    added table (rows ++ rows') = match added table rows with
      | (.ok _, table') => added table' rows'
      | (.error e, table') => (.error e, table') := by
  cases table with
  | none =>
      cases rows with
      | nil => rfl
      | cons row rows => rfl
  | some table =>
      show added (some table) _ = added (some _) rows'
      simp only [added, List.append_assoc]

/-- Wherever the objects have got to, the computation appends the rows,
and drops values at most. -/
def Appends (objects : RuleObjects) (x : Convert) (rows : List DataRow) :
    Prop :=
  ∀ current table, ValuesDropped objects current →
    (∀ t ∈ table, t.hasColumns = true) →
    ∃ after, ValuesDropped current after
      ∧ x.run ⟨current, table⟩
        = ((added table rows).1, ⟨after, (added table rows).2⟩)

variable {objects : RuleObjects} {x y : Convert} {rows rows' : List DataRow}

theorem appends_pure : Appends objects (pure ()) [] := by
  intro current table _ _
  refine ⟨current, ValuesDropped.refl current, ?_⟩
  rw [added_nil, Eff.run_pure]

/-- A row is added as to any table. -/
theorem appends_add (row : DataRow) : Appends objects (add row) [row] := by
  intro current table _ _
  refine ⟨current, ValuesDropped.refl current, ?_⟩
  cases table with
  | none => rfl
  | some table => rfl

/-- A table's columns stay with it. -/
theorem hasColumns_added {table : Option DataTable}
    (h : ∀ t ∈ table, t.hasColumns = true) :
    ∀ t ∈ (added table rows).2, t.hasColumns = true := by
  intro t ht
  cases table with
  | none => cases rows <;> cases ht
  | some table =>
      obtain rfl := Option.some.inj ht
      exact h table rfl

/-- One computation after the other appends the rows of both. -/
theorem Appends.seq (hx : Appends objects x rows)
    (hy : Appends objects y rows') :
    Appends objects (x >>= fun _ => y) (rows ++ rows') := by
  intro current table hcurrent hcolumns
  obtain ⟨middle, hmiddle, hrun⟩ := hx current table hcurrent hcolumns
  have hcolumns' := @hasColumns_added rows table hcolumns
  rw [Eff.run_bind, hrun, added_append]
  cases hadded : added table rows with
  | mk ending table' =>
      rw [hadded] at hcolumns'
      cases ending with
      | ok u =>
          obtain ⟨after, hafter, hrun'⟩ :=
            hy middle table' (hcurrent.trans hmiddle) hcolumns'
          exact ⟨after, hmiddle.trans hafter, hrun'⟩
      | error e => exact ⟨middle, hmiddle, rfl⟩

/-- Adding rows one by one appends them. -/
theorem appends_addAll (rows : List DataRow) :
    Appends objects (addAll rows) rows := by
  induction rows with
  | nil => exact appends_pure
  | cons row rows ih => exact (appends_add row).seq ih

/-- A table that has its columns is left alone. -/
theorem appends_addColumns : Appends objects addColumns [] := by
  intro current table _ hcolumns
  refine ⟨current, ValuesDropped.refl current, ?_⟩
  have hsame :
      table.map (fun t => { t with hasColumns := true }) = table := by
    cases table with
    | none => rfl
    | some t =>
        rw [Option.map_some, ← hcolumns t rfl]
  rw [added_nil, addColumns, Eff.run_modify, hsame]

-- ========================================================= the traversal

variable {toString : Obj → Str}

/-- What an object without its values shows is what a null test shows. -/
theorem row_of_nullTest {rule : RuleObject} (level : Option Int)
    (h : isNullTest rule.operator = true) :
    { rule with value1 := none, value2 := none : RuleObject }.row toString
        level
      = ruleRow toString level rule.field rule.operator rule.value1
          rule.value2 := by
  obtain ⟨field, operator, value1, value2, rules, condition⟩ := rule
  cases operator with
  | none => cases h
  | some operator =>
      cases operator <;> first | rfl | cases h

/-- Any other comparison shows its values. -/
theorem row_of_comparison {rule : RuleObject} (level : Option Int)
    (h : isNullTest rule.operator = false) :
    rule.row toString level
      = ruleRow toString level rule.field rule.operator rule.value1
          rule.value2 := by
  obtain ⟨field, operator, value1, value2, rules, condition⟩ := rule
  cases operator with
  | none => rfl
  | some operator =>
      cases operator <;> first | rfl | cases h

/-- A comparison appends its row. -/
theorem appends_comparison (nested : QueryObject → Convert)
    (level : Option Int) {ref : Nat}
    (hcondition : (objects ref).condition = none) :
    Appends objects (convertRule toString nested level ref)
      [ruleRow toString level (objects ref).field (objects ref).operator
        (objects ref).value1 (objects ref).value2] := by
  intro current table hcurrent hcolumns
  have hcondition' : (current ref).condition = none :=
    (hcurrent.condition ref).trans hcondition
  have hoperator := hcurrent.operator ref
  cases htest : isNullTest (objects ref).operator with
  | true =>
      have hdrop := ValuesDropped.drop hcondition'
        (by rw [hoperator, htest])
      -- the object ends without its values, whether it still had them or not
      have hobject : current.dropValues ref ref
          = { objects ref with value1 := none, value2 := none } := by
        unfold RuleObjects.dropValues
        rw [Function.update_self]
        rcases hcurrent ref with h | ⟨-, -, h⟩ <;> rw [h]
      obtain ⟨after, hafter, hrun⟩ := appends_add
        (ruleRow toString level (objects ref).field (objects ref).operator
          (objects ref).value1 (objects ref).value2)
        (current.dropValues ref) table (hcurrent.trans hdrop) hcolumns
      refine ⟨after, hdrop.trans hafter, ?_⟩
      rw [← hrun, ← row_of_nullTest level htest, ← hobject]
      simp only [convertRule, Eff.run_bind, Eff.run_get, hcondition',
        hoperator, htest, if_true, Eff.run_modify]
  | false =>
      have hobject : current ref = objects ref := by
        rcases hcurrent ref with h | ⟨-, htrue, -⟩
        · exact h
        · rw [htest] at htrue
          cases htrue
      obtain ⟨after, hafter, hrun⟩ := appends_add
        (ruleRow toString level (objects ref).field (objects ref).operator
          (objects ref).value1 (objects ref).value2)
        current table hcurrent hcolumns
      refine ⟨after, hafter, ?_⟩
      rw [← hrun, ← row_of_comparison level htest, ← hobject]
      simp only [convertRule, Eff.run_bind, Eff.run_get, hcondition',
        hoperator, htest]
      rfl

/-- A group appends what the recursive call on its rules appends. The call
is given a query of its own, made of the group's condition and its rules. -/
theorem appends_group {nested : QueryObject → Convert} (level : Option Int)
    {ref : Nat} {condition : QueryBuilderCondition}
    (hcondition : (objects ref).condition = some condition)
    (hnested : Appends objects
      (nested { condition := some condition
                rules := some ((objects ref).rules.getD []) }) rows) :
    Appends objects (convertRule toString nested level ref) rows := by
  intro current table hcurrent hcolumns
  obtain ⟨after, hafter, hrun⟩ := hnested current table hcurrent hcolumns
  refine ⟨after, hafter, ?_⟩
  rw [← hrun]
  simp only [convertRule, Eff.run_bind, Eff.run_get, hcurrent.condition ref,
    hcondition, hcurrent.rules ref]

/-- The loop appends the rows of its rules, given that each round does. -/
theorem appends_convertRules {read : Nat → Option (QueryRule Obj)}
    {nested : QueryObject → Convert} {level : Option Int}
    (h : ∀ ref rule, read ref = some rule →
      Appends objects (convertRule toString nested level ref)
        (ruleRows toString level rule))
    {refs : List (Option Nat)} {entries : List (Option (QueryRule Obj))}
    (hread : readAll read refs = some entries) :
    Appends objects (convertRules toString nested level refs)
      (rulesRows toString level entries) := by
  induction refs generalizing entries with
  | nil =>
      obtain rfl := Option.some.inj hread
      exact appends_pure
  | cons entry refs ih =>
      cases entry with
      | none =>
          rw [readAll, Option.map_eq_some_iff] at hread
          obtain ⟨entries, hentries, rfl⟩ := hread
          show Appends _ _ (rulesRows toString level entries)
          exact ih hentries
      | some ref =>
          rw [readAll, Option.bind_eq_some_iff] at hread
          obtain ⟨rule, hrule, hread⟩ := hread
          obtain ⟨entries, hentries, rfl⟩ := Option.map_eq_some_iff.mp hread
          exact (h ref rule hrule).seq (ih hentries)

/-- The rows of a query are those of its own members and those of its
rules. -/
theorem headRows_append (query : QueryObject) (level : Option Int)
    (rules : Option (List (Option (QueryRule Obj)))) :
    query.headRows toString level ++ rulesRows toString level (rules.getD [])
      = queryBuilderRows toString
          { condition := query.condition
            rules
            not := query.not
            count := query.count
            offset := query.offset
            pageSize := query.pageSize
            orderBy := query.orderBy } level := by
  unfold QueryObject.headRows queryBuilderRows
  rw [Option.getD_none, rulesRows, List.append_nil]
  rfl

/-- A query appends the rows of its tree, given that each of its rules
does. -/
theorem appends_convert_of {depth frames : Nat}
    (h : ∀ level ref rule, readRule objects depth ref = some rule →
      Appends objects
        (convertRule toString
          (convert toString frames (some (currentLevel level))) level ref)
        (ruleRows toString level rule))
    {query : QueryObject} {queryBuilder : QueryBuilder Obj}
    (level : Option Int)
    (hread : readQuery objects depth query = some queryBuilder) :
    Appends objects (convert toString (frames + 1) level query)
      (queryBuilderRows toString queryBuilder level) := by
  obtain ⟨rules, hrules, rfl⟩ := Option.map_eq_some_iff.mp hread
  have hloop : Appends objects
      (convertRules toString
        (convert toString frames (some (currentLevel level))) level
        (query.rules.getD []))
      (rulesRows toString level (rules.getD [])) := by
    cases hlist : query.rules with
    | none =>
        rw [hlist] at hrules
        obtain rfl := Option.some.inj hrules
        exact appends_pure
    | some refs =>
        rw [hlist] at hrules
        obtain ⟨entries, hentries, rfl⟩ := Option.map_eq_some_iff.mp hrules
        exact appends_convertRules (h level) hentries
  rw [← headRows_append]
  exact appends_addColumns.seq ((appends_addAll _).seq hloop)

/-- A rule appends its rows if there is a frame for every level of it. The
induction is on the depth: a group is a query one level less deep. -/
theorem appends_convertRule (depth : Nat) :
    ∀ level ref rule, readRule objects depth ref = some rule →
      Appends objects
        (convertRule toString
          (convert toString depth (some (currentLevel level))) level ref)
        (ruleRows toString level rule) := by
  induction depth with
  | zero =>
      intro level ref rule h
      cases h
  | succ depth ih =>
      intro level ref rule h
      obtain ⟨rules, hrules, rfl⟩ := Option.map_eq_some_iff.mp h
      cases hcondition : (objects ref).condition with
      | none => exact appends_comparison _ level hcondition
      | some condition =>
          rw [ruleRows_group toString level _ rfl]
          refine appends_group level hcondition (appends_convert_of ih _ ?_)
          unfold readQuery
          cases hlist : (objects ref).rules with
          | none =>
              rw [hlist] at hrules
              obtain rfl := Option.some.inj hrules
              rfl
          | some refs =>
              rw [hlist] at hrules
              obtain ⟨entries, hentries, rfl⟩ :=
                Option.map_eq_some_iff.mp hrules
              show Option.map _ (Option.map _ _) = _
              rw [Option.getD_some, hentries]
              rfl

-- ================================================================= one call

/-- A call with any table: it gets its columns first. -/
theorem run_convert {depth : Nat} {query : QueryObject}
    {queryBuilder : QueryBuilder Obj} (level : Option Int)
    (hread : readQuery objects depth query = some queryBuilder)
    {current : RuleObjects} (hcurrent : ValuesDropped objects current)
    (table : Option DataTable) :
    ∃ after, ValuesDropped current after
      ∧ (convert toString (depth + 1) level query).run ⟨current, table⟩
        = ((added (table.map fun t => { t with hasColumns := true })
              (queryBuilderRows toString queryBuilder level)).1,
          ⟨after, (added (table.map fun t => { t with hasColumns := true })
              (queryBuilderRows toString queryBuilder level)).2⟩) := by
  obtain ⟨after, hafter, hrun⟩ :=
    appends_convert_of (appends_convertRule depth) level hread current
      (table.map fun t => { t with hasColumns := true }) hcurrent (by
        intro t ht
        obtain ⟨t', -, rfl⟩ := Option.map_eq_some_iff.mp ht
        rfl)
  refine ⟨after, hafter, ?_⟩
  rw [← hrun]
  -- adding the columns twice adds them once
  unfold convert addColumns
  simp only [Eff.run_bind, Eff.run_modify, Option.map_map]
  rfl

-- ===================================================================== runs

/-- The rows of what a call converts, as the objects are. -/
def Conversion.treeRows (toString : Obj → Str) (objects : RuleObjects)
    (depth : Nat) (conversion : Conversion) : List DataRow :=
  ((readQuery objects depth conversion.query).map fun queryBuilder =>
    queryBuilderRows toString queryBuilder conversion.level).getD []

/-- How a call ends: without a table it throws if it has a row to add. -/
def Conversion.ending (conversion : Conversion) (rows : List DataRow) :
    Except Abort Unit :=
  if conversion.target = none ∧ rows ≠ [] then
    .error (.threw (.argumentNull "dataTable"))
  else .ok ()

/-- One call in a run that began with `objects`. -/
theorem run_conversion {depth : Nat} {conversion : Conversion}
    (hread : (readQuery objects depth conversion.query).isSome = true)
    {state : Tables} (hstate : ValuesDropped objects state.objects) :
    (conversion.run toString (depth + 1) state).1
        = conversion.ending (conversion.treeRows toString objects depth)
      ∧ (∀ t, ((conversion.run toString (depth + 1) state).2.tables t).rows
        = (state.tables t).rows
          ++ if conversion.target = some t then
              conversion.treeRows toString objects depth
            else [])
      ∧ ValuesDropped objects
          (conversion.run toString (depth + 1) state).2.objects := by
  obtain ⟨queryBuilder, hquery⟩ := Option.isSome_iff_exists.mp hread
  have hrows : conversion.treeRows toString objects depth
      = queryBuilderRows toString queryBuilder conversion.level := by
    unfold Conversion.treeRows
    rw [hquery]
    rfl
  obtain ⟨after, hafter, hrun⟩ := @run_convert objects toString depth
    conversion.query queryBuilder conversion.level hquery state.objects
    hstate (conversion.target.map state.tables)
  rw [hrows]
  unfold Conversion.run Conversion.ending
  rw [hrun]
  generalize queryBuilderRows toString queryBuilder conversion.level = rows
  refine ⟨?_, ?_, hstate.trans hafter⟩
  · cases conversion.target with
    | none => cases rows <;> rfl
    | some target => rfl
  · intro t
    cases conversion.target with
    | none => simp
    | some target =>
        by_cases h : target = t
        · subst h
          simp [added]
        · simp [added, h, Ne.symm h]

/-- What a run of conversions does, the trees being those of `objects`. -/
structure ConvertsTrees (toString : Obj → Str) (objects : RuleObjects)
    (depth : Nat) (conversions : List Conversion) (state : Tables)
    (result : List (Except Abort Unit) × Tables) : Prop where
  endings : result.1 = conversions.map fun conversion =>
    conversion.ending (conversion.treeRows toString objects depth)
  rows : ∀ t, (result.2.tables t).rows = (state.tables t).rows
    ++ (conversions.filter (·.target = some t)).flatMap
        (Conversion.treeRows toString objects depth)
  dropped : ValuesDropped objects result.2.objects

/-- A run, wherever the objects have got to before it. -/
theorem convertsTrees_run {depth : Nat} {conversions : List Conversion} :
    ∀ {state : Tables}, ValuesDropped objects state.objects →
      (∀ conversion ∈ conversions,
        (readQuery objects depth conversion.query).isSome = true) →
      ConvertsTrees toString objects depth conversions state
        (runConversions toString (depth + 1) conversions state) := by
  induction conversions with
  | nil =>
      intro state hstate _
      refine ⟨rfl, fun t => ?_, hstate⟩
      simp [runConversions]
  | cons conversion conversions ih =>
      intro state hstate hread
      rw [List.forall_mem_cons] at hread
      obtain ⟨hending, htables, hobjects⟩ :=
        @run_conversion objects toString depth conversion hread.1 state
          hstate
      obtain ⟨hendings, hrest, hlast⟩ := ih hobjects hread.2
      refine ⟨?_, fun t => ?_, hlast⟩
      · rw [List.map_cons, ← hending, ← hendings]
        rfl
      · have hnext := hrest t
        rw [htables t] at hnext
        refine hnext.trans ?_
        by_cases h : conversion.target = some t <;> simp [h]

/-- In every run of conversions, of queries that may share their rules in
any way, each call ends as its tree says, every table gets the rows of the
trees converted into it, as these were before the run, and no object
changes but for the values of null tests. -/
theorem conversions_append_rows (toString : Obj → Str) {depth : Nat}
    {conversions : List Conversion} {state : Tables}
    (hread : ∀ conversion ∈ conversions,
      (readQuery state.objects depth conversion.query).isSome = true) :
    ConvertsTrees toString state.objects depth conversions state
      (runConversions toString (depth + 1) conversions state) :=
  convertsTrees_run (ValuesDropped.refl _) hread

/-- Three calls with queries that share a null test, one of them without a
table. -/
def sharedNullTest : List Conversion :=
  [⟨{ rules := some [some 0] }, none, some 7⟩,
    ⟨{ condition := some .and, rules := some [some 0] }, none, none⟩,
    ⟨{ rules := some [some 0, some 0] }, none, some 7⟩]

theorem conversions_append_rows_shared :
    ((runConversions (fun _ => []) 2 sharedNullTest
      ⟨fun _ => { operator := some .isNull, value1 := some (.string []) },
        fun _ => {}⟩).2.tables 7).rows.length = 3 := by
  rw [(@conversions_append_rows (fun _ => []) 1 sharedNullTest
    ⟨fun _ => { operator := some .isNull, value1 := some (.string []) },
      fun _ => {}⟩ (by
        intro conversion hconversion
        simp only [sharedNullTest, List.mem_cons, List.not_mem_nil,
          or_false] at hconversion
        rcases hconversion with rfl | rfl | rfl <;> rfl)).rows 7]
  rfl

end SkillBuddy.DataHelper
