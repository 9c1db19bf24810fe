/-
From a filter document to the table: `FromJson`, then
`QueryBuilderToDataTable`.

# The first pass

It fails at a null entry, wherever it is nested, and else keeps every rule
with a field, at any depth, in document order (`getQueryRules_eq`). Both
halves are one induction over the rule: its own entry first, then what is
nested in it. Reading the document into objects changes neither the
entries nor their order, only the values (`entriesOf_fillAll`), so the
statement can be made of the document.

# The second pass

All that is kept are comparisons, since the constructor takes neither
nested rules nor a condition. So the second pass writes one RULE row for
each, on the level of the root (`rulesRows_keptRule`), behind the rows of
the root's own members: the table shows nothing of how the document was
nested (`saved_filter`).

The document is what Newtonsoft.Json has read; what it makes of the values
is the parameter `nj`.
-/
import SkillBuddy.Data.DataHelper
import SkillBuddy.Proofs.FromJson

namespace SkillBuddy

open DotNet DataHelper

variable {V W : Type}

-- ================================================= the rules that are kept

/-- What `GetQueryRules` keeps of an entry, its values read by `f`. -/
def keptRule (f : V → Option Obj) (entry : Option (QueryRule V)) :
    Option (QueryRule Obj) :=
  entry.bind fun r => r.field.map fun field =>
    QueryRule.new field (r.operator.getD .equals) (r.value1.bind f)
      (r.value2.bind f)

/-- Flattening, given what it does to the rules of the list. -/
theorem getQueryRules_eq_of {rules : List (Option (QueryRule Obj))}
    (h : ∀ r, some r ∈ rules →
      (none ∈ r.entries → getQueryRule r = .error .nullReference)
        ∧ (none ∉ r.entries →
          getQueryRule r = .ok (r.entries.filterMap (keptRule some)))) :
    (none ∈ entriesOf rules → getQueryRules rules = .error .nullReference)
      ∧ (none ∉ entriesOf rules →
        getQueryRules rules
          = .ok ((entriesOf rules).filterMap (keptRule some))) := by
  induction rules with
  | nil =>
      refine ⟨fun hnull => ?_, fun _ => rfl⟩
      exact absurd hnull List.not_mem_nil
  | cons entry rules ih =>
      obtain ⟨hthrows, hkeeps⟩ := ih fun r hr =>
        h r (List.mem_cons_of_mem entry hr)
      have hentries : entriesOf (entry :: rules)
          = (entry.map QueryRule.entries).getD [none] ++ entriesOf rules :=
        List.flatMap_cons
      rw [hentries, getQueryRules]
      cases entry with
      | none =>
          refine ⟨fun _ => rfl, fun hnull => ?_⟩
          exact absurd (List.mem_append_left _ List.mem_cons_self) hnull
      | some r =>
          obtain ⟨hthrows', hkeeps'⟩ := h r List.mem_cons_self
          rw [getQueryRulesEntry, Option.map_some, Option.getD_some]
          constructor
          · intro hnull
            by_cases hfirst : none ∈ r.entries
            · rw [hthrows' hfirst]
              rfl
            · have hlater := (List.mem_append.mp hnull).resolve_left hfirst
              rw [hkeeps' hfirst, hthrows hlater]
              rfl
          · intro hnull
            rw [List.mem_append, not_or] at hnull
            rw [hkeeps' hnull.1, hkeeps hnull.2, List.filterMap_append]
            rfl

/-- A rule contributes itself and what is nested in it. -/
theorem getQueryRule_entries (r : QueryRule Obj) :
    (none ∈ r.entries → getQueryRule r = .error .nullReference)
      ∧ (none ∉ r.entries →
        getQueryRule r = .ok (r.entries.filterMap (keptRule some))) := by
  induction r using QueryRule.induct with
  | step r ih =>
      obtain ⟨hthrows, hkeeps⟩ := getQueryRules_eq_of ih
      rw [QueryRule.entries_eq, getQueryRule_eq]
      constructor
      · intro hnull
        rcases List.mem_cons.mp hnull with hnull | hnull
        · cases hnull
        · rw [hthrows hnull]
          rfl
      · intro hnull
        rw [hkeeps fun h => hnull (List.mem_cons_of_mem _ h)]
        obtain ⟨field, operator, value1, value2, rules, condition⟩ := r
        cases field with
        | none => rfl
        | some field => cases value1 <;> cases value2 <;> rfl

/-- `GetQueryRules` fails at a null entry, wherever it is, and keeps the
rules with a field in document order. -/
theorem getQueryRules_eq (rules : List (Option (QueryRule Obj))) :
    (none ∈ entriesOf rules → getQueryRules rules = .error .nullReference)
      ∧ (none ∉ entriesOf rules →
        getQueryRules rules
          = .ok ((entriesOf rules).filterMap (keptRule some))) :=
  getQueryRules_eq_of fun r _ => getQueryRule_entries r

-- ================================================== through the document

/-- Reading a list of rules, given what it does to the rules of the list. -/
theorem entriesOf_fillAll_of {f : V → Option W}
    {rules : List (Option (QueryRule V))}
    (h : ∀ r, some r ∈ rules →
      (r.fill f).entries = r.entries.map (fillEntry f)) :
    entriesOf (fillAll f rules) = (entriesOf rules).map (fillEntry f) := by
  induction rules with
  | nil => rfl
  | cons entry rules ih =>
      have hrest := ih fun r hr => h r (List.mem_cons_of_mem entry hr)
      have hcons : ∀ {U : Type} (e : Option (QueryRule U))
          (es : List (Option (QueryRule U))), entriesOf (e :: es)
            = (e.map QueryRule.entries).getD [none] ++ entriesOf es :=
        fun _ _ => List.flatMap_cons
      rw [fillAll, hcons, hcons, hrest, List.map_append]
      cases entry with
      | none => rfl
      | some r =>
          rw [fillEntry, Option.map_some, Option.map_some, Option.getD_some,
            Option.getD_some, h r List.mem_cons_self]

/-- The entries of a rule that is read are those of the rule, read. -/
theorem entries_fill (f : V → Option W) (r : QueryRule V) :
    (r.fill f).entries = r.entries.map (fillEntry f) := by
  induction r using QueryRule.induct with
  | step r ih =>
      have hnested := entriesOf_fillAll_of ih
      rw [QueryRule.entries_eq, QueryRule.entries_eq, List.map_cons,
        ← hnested]
      congr 2
      obtain ⟨field, operator, value1, value2, rules, condition⟩ := r
      cases rules <;> rfl

/-- The entries of the objects are those of the document, read one by
one. -/
theorem entriesOf_fillAll (f : V → Option W)
    (rules : List (Option (QueryRule V))) :
    entriesOf (fillAll f rules) = (entriesOf rules).map (fillEntry f) :=
  entriesOf_fillAll_of fun r _ => entries_fill f r

/-- What is kept of an entry that was read is what is kept of it,
reading. -/
theorem keptRule_fillEntry (f : V → Option Obj)
    (entry : Option (QueryRule V)) :
    keptRule some (fillEntry f entry) = keptRule f entry := by
  cases entry with
  | none => rfl
  | some r =>
      obtain ⟨field, operator, value1, value2, rules, condition⟩ := r
      cases field with
      | none => rfl
      | some field =>
          show some (QueryRule.new field _ ((value1.bind f).bind some)
            ((value2.bind f).bind some)) = _
          rw [Option.bind_fun_some, Option.bind_fun_some]
          rfl

/-- A null entry is read as null, and nothing else is. -/
theorem none_mem_map_fillEntry {f : V → Option W}
    {entries : List (Option (QueryRule V))} :
    none ∈ entries.map (fillEntry f) ↔ none ∈ entries := by
  rw [List.mem_map]
  constructor
  · intro h
    obtain ⟨entry, hentry, hnone⟩ := h
    cases entry with
    | none => exact hentry
    | some r => cases hnone
  · intro h
    exact ⟨none, h, rfl⟩

-- ================================================================ the rows

/-- The text of a value that `ValueOf` stores. -/
def valueText : Obj → Str
  | .list t items => listText t items
  | value => Helper.getQuotedDbString (some value)

/-- The values of a row, the ones a null test loses. -/
def shownValue (operator : Option QueryBuilderOperator)
    (value : Option Obj) : Option Str :=
  match operator with
  | some .isNull | some .isNotNull => none
  | _ => value.map valueText

/-- The row of an entry of a document, if it is a rule with a field. -/
def savedRow (nj : Newtonsoft) (level : Option Int) :
    Option (QueryRule (Json Str)) → Option DataRow
  | none => none
  | some r => r.field.map fun field =>
      { group := currentLevel level
        parentGroup := level
        type := .rule
        field := field
        condition := some (operatorText (some (r.operator.getD .equals)))
        value1 := shownValue r.operator (r.value1.bind nj.received)
        value2 := shownValue r.operator (r.value2.bind nj.received) }

/-- The rows of the members of a document's root. -/
def savedRootRows (level : Option Int) (doc : QueryBuilder V) :
    List DataRow :=
  (doc.condition.map fun c => [conditionRow level c]).getD []
    ++ (if doc.not = some true then [notRow level] else [])
    ++ if level = none then
        (doc.count.map fun n => [numberRow .count level n.toInt]).getD []
          ++ orderRows level 0 (doc.orderBy.getD [])
          ++ (doc.offset.map fun n =>
              [numberRow .offset level n.toInt]).getD []
          ++ (doc.pageSize.map fun n =>
              [numberRow .rowCount level n.toInt,
                numberRow .totalCount level n.toInt]).getD []
      else []

variable (toString : Obj → Str)

/-- The cell of a value is the text `ValueOf` stores. -/
theorem cellText_valueOf (value : Option Obj) :
    (valueOf value).map (cellText toString) = value.map valueText := by
  cases value with
  | none => rfl
  | some value => cases value <;> rfl

/-- The row of a rule that is kept. -/
theorem ruleRows_keptRule (nj : Newtonsoft) (level : Option Int)
    (entry : Option (QueryRule (Json Str))) :
    (keptRule nj.received entry).map (ruleRows toString level)
      = (savedRow nj level entry).map fun row => [row] := by
  cases entry with
  | none => rfl
  | some r =>
      obtain ⟨field, operator, value1, value2, rules, condition⟩ := r
      cases field with
      | none => rfl
      | some field =>
          have hrow : ruleRow toString level (some field)
              (some (operator.getD .equals))
              (valueOf (value1.bind nj.received))
              (valueOf (value2.bind nj.received))
            = { group := currentLevel level
                parentGroup := level
                type := .rule
                field := field
                condition := some
                  (operatorText (some (operator.getD .equals)))
                value1 := shownValue operator (value1.bind nj.received)
                value2 := shownValue operator
                  (value2.bind nj.received) } := by
            unfold ruleRow shownValue
            rw [cellText_valueOf, cellText_valueOf]
            cases operator with
            | none => rfl
            | some operator => cases operator <;> rfl
          exact congrArg (fun row => some [row]) hrow

/-- The rows of all that is kept. -/
theorem rulesRows_keptRule (nj : Newtonsoft) (level : Option Int)
    (entries : List (Option (QueryRule (Json Str)))) :
    rulesRows toString level
        ((entries.filterMap (keptRule nj.received)).map some)
      = entries.filterMap (savedRow nj level) := by
  rw [rulesRows_eq, List.filterMap_map]
  induction entries with
  | nil => rfl
  | cons entry entries ih =>
      have hrow := ruleRows_keptRule toString nj level entry
      cases hkept : keptRule nj.received entry with
      | none =>
          rw [hkept] at hrow
          have hsaved : savedRow nj level entry = none := by
            cases hsaved : savedRow nj level entry with
            | none => rfl
            | some row =>
                rw [hsaved] at hrow
                cases hrow
          rw [List.filterMap_cons_none hkept,
            List.filterMap_cons_none hsaved]
          exact ih
      | some rule =>
          rw [hkept] at hrow
          cases hsaved : savedRow nj level entry with
          | none =>
              rw [hsaved] at hrow
              cases hrow
          | some row =>
              rw [hsaved] at hrow
              rw [List.filterMap_cons_some hkept,
                List.filterMap_cons_some hsaved, ← ih]
              show ruleRows toString level rule ++ _ = [row] ++ _
              rw [Option.some.inj hrow]

/-- A filter document that is normalised and written to a table: null
entries, at any depth, make `FromJson` throw, and are the only reason why
it does; else the table gets the rows of the root's members and one RULE
row for every rule with a field, nested or not, in document order. -/
theorem saved_filter (nj : Newtonsoft) (doc : QueryBuilder (Json Str))
    (table : DataTable) (level : Option Int) :
    (none ∈ doc.entries
        ∧ fromJson nj (some doc) = .error .nullReference)
      ∨ none ∉ doc.entries
        ∧ ∃ qb, fromJson nj (some doc) = .ok qb
          ∧ queryBuilderToDataTable toString qb (some table) level
            = .ok (some
                { hasColumns := true
                  rows := table.rows ++ savedRootRows level doc
                    ++ doc.entries.filterMap (savedRow nj level) }) := by
  obtain ⟨hthrows, hkeeps⟩ :=
    getQueryRules_eq (fillAll nj.received (doc.rules.getD []))
  rw [entriesOf_fillAll, none_mem_map_fillEntry] at hthrows hkeeps
  rw [fromJson_some]
  by_cases hnull : none ∈ doc.entries
  · left
    refine ⟨hnull, ?_⟩
    rw [hthrows hnull]
    rfl
  · right
    have hkept : (doc.entries.map (fillEntry nj.received)).filterMap
        (keptRule some) = doc.entries.filterMap (keptRule nj.received) := by
      rw [List.filterMap_map]
      exact congrArg (List.filterMap · doc.entries)
        (funext (keptRule_fillEntry nj.received))
    refine ⟨hnull, _, by rw [hkeeps hnull]; rfl, ?_⟩
    have hrows := rulesRows_keptRule toString nj level doc.entries
    rw [← hkept] at hrows
    rw [queryBuilderToDataTable_some, queryBuilderRows, ← hrows]
    unfold savedRootRows rootRows
    simp only [List.append_assoc]
    rfl

end SkillBuddy
