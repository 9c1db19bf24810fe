/-
The two walks over a rule tree: `GetQueryRules`, which flattens it, and
`QueryBuilderToDataTable`, which writes it as rows.

# Visits

Both are read off one list, the visits to the rules in document order
(`visits`), where a visit knows whether the table walk gets there: it
does not go below a rule without a condition. At each visit the table
writes a comparison (`shown`) or does not, and the flattening keeps one
(`kept`) or does not:

- the rows of the tree are what is shown along the visits
  (`comparisons_rulesRows`), and a filter has no comparisons but those of
  its rules (`comparisons_queryBuilderRows`);
- without a null entry flattening does not throw, and the rows of the
  flat list are what is kept (`comparisons_kept`); at a null entry,
  wherever it is, it does throw (`null_notMem`).

So the two walks agree exactly if no entry is null and what is shown is
what is kept (`traversalsAgree_iff`), as sequences.

# From sequences to visits

If the two agree at every visit the sequences are equal. Conversely, where
no field is the empty text, equal sequences agree at every visit
(`eq_of_filterMap_eq`): what the table alone shows has an empty field and
cannot be among what is kept, so nothing is shown that is not kept, and
then there are not enough shown for one that is kept only. With an empty
field a comparison that one walk drops can be made up for by another, so
there the condition is sufficient only (`traversals_agree_of_clean`).
-/
import SkillBuddy.Data.DataHelper
import SkillBuddy.Proofs.FromJson

namespace SkillBuddy

open DotNet DataHelper

-- =========================================================== the property

/-- The (Field, Condition) pairs of the RULE rows, in order. -/
def comparisons (rows : List DataRow) : List (Str × Option Str) :=
  (rows.filter fun row => row.type = .rule).map fun row =>
    (row.field, row.condition)

/-- Flattening the rules does not throw, and the table of the filter shows
the same comparisons in the same order for the rules and for the flattened
rules. -/
def TraversalsAgree (toString : Obj → Str) (qb : QueryBuilder Obj)
    (rules : List (Option (QueryRule Obj))) : Prop :=
  ∃ flat rows flatRows, getQueryRules rules = .ok flat
    ∧ queryBuilderToDataTable toString { qb with rules := some rules }
        (some {}) none = .ok (some ⟨true, rows⟩)
    ∧ queryBuilderToDataTable toString
        { qb with rules := some (flat.map some) } (some {}) none
        = .ok (some ⟨true, flatRows⟩)
    ∧ comparisons rows = comparisons flatRows

/-- The visits to a rule and the rules nested in it, in document order,
and whether the table walk makes them; `none` for a null entry. -/
def QueryRule.visits (r : QueryRule Obj) :
    Bool → List (Option (Bool × QueryRule Obj)) :=
  r.fold fun r nested shownAt =>
    some (shownAt, r) :: (nested.getD []).flatMap fun
      | none => [none]
      | some visits => visits (shownAt && r.condition.isSome)

/-- The visits to a list of rules. -/
def visits (shownAt : Bool) (rules : List (Option (QueryRule Obj))) :
    List (Option (Bool × QueryRule Obj)) :=
  rules.flatMap fun
    | none => [none]
    | some r => r.visits shownAt

/-- A rule without a condition that the table walk gets to has a field and
an operator; every other rule has no field. -/
def Alike (shownAt : Bool) (r : QueryRule Obj) : Prop :=
  if shownAt = true ∧ r.condition = none then
    r.field.isSome = true ∧ r.operator.isSome = true
  else r.field = none

/-- No entry is null, and the two walks agree about every rule. -/
def Clean (rules : List (Option (QueryRule Obj))) : Prop :=
  ∀ v ∈ visits true rules, ∃ shownAt r, v = some (shownAt, r)
    ∧ Alike shownAt r

/-- No rule has the empty text for its field. -/
def NoEmptyField (rules : List (Option (QueryRule Obj))) : Prop :=
  ∀ shownAt r, some (shownAt, r) ∈ visits true rules → r.field ≠ some []

-- =============================================================== the walks

/-- The fold, as the recursion it stands for: the rule itself, and below it
the table walk goes on only if it has a condition. -/
theorem QueryRule.visits_eq (r : QueryRule Obj) (shownAt : Bool) :
    r.visits shownAt
      = some (shownAt, r)
        :: SkillBuddy.visits (shownAt && r.condition.isSome)
            (r.rules.getD []) := by
  unfold QueryRule.visits SkillBuddy.visits
  rw [QueryRule.fold_eq]
  cases r.rules with
  | none => rfl
  | some rules =>
      simp only [Option.map_some, Option.getD_some, List.flatMap_map]
      congr 2
      funext entry
      cases entry <;> rfl

theorem visits_cons_some (shownAt : Bool) (r : QueryRule Obj)
    (rules : List (Option (QueryRule Obj))) :
    visits shownAt (some r :: rules)
      = some (shownAt, r)
        :: (visits (shownAt && r.condition.isSome) (r.rules.getD [])
          ++ visits shownAt rules) := by
  rw [← List.cons_append, ← QueryRule.visits_eq]
  rfl

theorem visits_cons_none (shownAt : Bool)
    (rules : List (Option (QueryRule Obj))) :
    visits shownAt (none :: rules) = none :: visits shownAt rules := rfl

/-- The comparison the table shows at a visit. -/
def shown : Option (Bool × QueryRule Obj) → Option (Str × Option Str)
  | none => none
  | some (shownAt, r) =>
      if shownAt = true ∧ r.condition = none then
        some (r.field.getD [], some (operatorText r.operator))
      else none

/-- The comparison the flattening keeps at a visit. -/
def kept : Option (Bool × QueryRule Obj) → Option (Str × Option Str)
  | none => none
  | some (_, r) =>
      r.field.map fun field =>
        (field, some (operatorText (some (r.operator.getD .equals))))

-- ================================================== what the table shows

variable {toString : Obj → Str}

/-- Rows behind others show their comparisons behind those. -/
theorem comparisons_append (rows rows' : List DataRow) :
    comparisons (rows ++ rows') = comparisons rows ++ comparisons rows' := by
  rw [comparisons, List.filter_append, List.map_append]
  rfl

/-- A list of rules shows what its rules show, in order. -/
theorem comparisons_rulesRows_of {level : Option Int}
    {rules : List (Option (QueryRule Obj))}
    (h : ∀ r, some r ∈ rules → comparisons (ruleRows toString level r)
      = (r.visits true).filterMap shown) :
    comparisons (rulesRows toString level rules)
      = (visits true rules).filterMap shown := by
  induction rules with
  | nil => rfl
  | cons entry rules ih =>
      have hrules := ih fun r hr => h r (List.mem_cons_of_mem entry hr)
      rw [rulesRows, comparisons_append, hrules]
      cases entry with
      | none =>
          rw [visits_cons_none, List.filterMap_cons_none rfl]
          rfl
      | some r =>
          rw [entryRows, h r List.mem_cons_self, visits_cons_some,
            ← List.cons_append, ← QueryRule.visits_eq,
            List.filterMap_append]

/-- A rule without a condition is shown, where the table walk gets to it. -/
theorem shown_comparison {shownAt : Bool} {r : QueryRule Obj}
    (h : shownAt = true ∧ r.condition = none) :
    shown (some (shownAt, r))
      = some (r.field.getD [], some (operatorText r.operator)) := by
  unfold shown
  exact if_pos h

/-- A group is not, nor is what stands below a comparison. -/
theorem shown_none {shownAt : Bool} {r : QueryRule Obj}
    (h : ¬(shownAt = true ∧ r.condition = none)) :
    shown (some (shownAt, r)) = none := by
  unfold shown
  exact if_neg h

/-- Below a rule without a condition nothing is shown. -/
theorem shown_of_mem_visits (r : QueryRule Obj) :
    ∀ v ∈ r.visits false, shown v = none := by
  induction r using QueryRule.induct with
  | step r ih =>
      intro v hv
      rw [QueryRule.visits_eq] at hv
      rcases List.mem_cons.mp hv with rfl | hv
      · exact shown_none fun h => Bool.false_ne_true h.1
      · obtain ⟨entry, hentry, hv⟩ := List.mem_flatMap.mp hv
        cases entry with
        | none =>
            obtain rfl := List.mem_singleton.mp hv
            rfl
        | some q => exact ih q hentry v hv

theorem filterMap_shown_below (rules : List (Option (QueryRule Obj))) :
    (visits false rules).filterMap shown = [] := by
  refine List.filterMap_eq_nil_iff.mpr fun v hv => ?_
  obtain ⟨entry, -, hv⟩ := List.mem_flatMap.mp hv
  cases entry with
  | none =>
      obtain rfl := List.mem_singleton.mp hv
      rfl
  | some q => exact shown_of_mem_visits q v hv

/-- The rows of a rule show what is shown along its visits. By induction on
the rule: a comparison has one row, and nothing is shown below it. -/
theorem comparisons_ruleRows (r : QueryRule Obj) :
    ∀ level, comparisons (ruleRows toString level r)
      = (r.visits true).filterMap shown := by
  induction r using QueryRule.induct with
  | step r ih =>
      intro level
      rw [QueryRule.visits_eq]
      obtain ⟨field, operator, value1, value2, rules, condition⟩ := r
      cases condition with
      | none =>
          rw [List.filterMap_cons_some (shown_comparison ⟨rfl, rfl⟩)]
          exact congrArg (_ :: ·) (filterMap_shown_below _).symm
      | some condition =>
          have hgroup : ¬(true = true ∧ some condition = none) := fun h =>
            Option.some_ne_none condition h.2
          rw [List.filterMap_cons_none (shown_none hgroup)]
          cases rules with
          | none => rfl
          | some rules =>
              exact comparisons_rulesRows_of fun q hq => ih q hq _

theorem comparisons_rulesRows (level : Option Int)
    (rules : List (Option (QueryRule Obj))) :
    comparisons (rulesRows toString level rules)
      = (visits true rules).filterMap shown :=
  comparisons_rulesRows_of fun r _ => comparisons_ruleRows r level

/-- No other row of a filter shows a comparison. -/
theorem comparisons_queryBuilderRows (qb : QueryBuilder Obj)
    (level : Option Int) :
    comparisons (queryBuilderRows toString qb level)
      = (visits true (qb.rules.getD [])).filterMap shown := by
  have hcondition : comparisons
      ((qb.condition.map fun c => [conditionRow level c]).getD []) = [] := by
    cases qb.condition <;> rfl
  have hnot : comparisons
      (if qb.not = some true then [notRow level] else []) = [] := by
    split <;> rfl
  have horder : ∀ (orders : List (Option QueryOrder)) (i : Nat),
      comparisons (orderRows level i orders) = [] := by
    intro orders
    induction orders with
    | nil => exact fun _ => rfl
    | cons order orders ih =>
        intro i
        cases order with
        | none => exact ih (i + 1)
        | some order => exact ih (i + 1)
  have hroot : comparisons
      (if level = none then rootRows level qb else []) = [] := by
    split
    · unfold rootRows
      rw [comparisons_append, comparisons_append, comparisons_append, horder]
      cases qb.count <;> cases qb.offset <;> cases qb.pageSize <;> rfl
    · rfl
  rw [queryBuilderRows, comparisons_append, comparisons_append,
    comparisons_append, hcondition, hnot, hroot, comparisons_rulesRows]
  rfl

-- ============================================= what the flattening keeps

/-- A rule with a field is kept, as the constructor makes it. -/
theorem kept_field {shownAt : Bool} {r : QueryRule Obj} {field : Str}
    (h : r.field = some field) :
    kept (some (shownAt, r)) = some (field,
      some (operatorText (some (r.operator.getD .equals)))) := by
  rw [kept, h]
  rfl

/-- A rule without one is dropped; the rules nested in it are not. -/
theorem kept_none {shownAt : Bool} {r : QueryRule Obj}
    (h : r.field = none) : kept (some (shownAt, r)) = none := by
  rw [kept, h]
  rfl

/-- Without null entries flattening does not throw, and its table shows what
is kept along the visits. -/
theorem comparisons_kept_of {rules : List (Option (QueryRule Obj))}
    {shownAt : Bool}
    (h : ∀ r, some r ∈ rules → ∀ shownAt, none ∉ r.visits shownAt →
      ∃ flat, getQueryRule r = .ok flat ∧ ∀ level,
        comparisons (rulesRows toString level (flat.map some))
          = (r.visits shownAt).filterMap kept)
    (hnull : none ∉ visits shownAt rules) :
    ∃ flat, getQueryRules rules = .ok flat ∧ ∀ level,
      comparisons (rulesRows toString level (flat.map some))
        = (visits shownAt rules).filterMap kept := by
  induction rules with
  | nil => exact ⟨[], rfl, fun _ => rfl⟩
  | cons entry rules ih =>
      cases entry with
      | none =>
          rw [visits_cons_none] at hnull
          exact absurd List.mem_cons_self hnull
      | some r =>
          rw [visits_cons_some, ← List.cons_append, ← QueryRule.visits_eq]
            at hnull ⊢
          rw [List.mem_append, not_or] at hnull
          obtain ⟨flat, hflat, hrows⟩ :=
            h r List.mem_cons_self shownAt hnull.1
          obtain ⟨flats, hflats, hmore⟩ := ih
            (fun q hq => h q (List.mem_cons_of_mem _ hq)) hnull.2
          refine ⟨flat ++ flats, ?_, fun level => ?_⟩
          · rw [getQueryRules, getQueryRulesEntry, hflat, hflats]
            rfl
          · rw [List.map_append, rulesRows_eq, List.filterMap_append,
              List.flatMap_append, ← rulesRows_eq, ← rulesRows_eq,
              comparisons_append, hrows, hmore, List.filterMap_append]

/-- The same for one rule, by induction on it. -/
theorem comparisons_kept_rule (r : QueryRule Obj) :
    ∀ shownAt, none ∉ r.visits shownAt →
      ∃ flat, getQueryRule r = .ok flat ∧ ∀ level,
        comparisons (rulesRows toString level (flat.map some))
          = (r.visits shownAt).filterMap kept := by
  induction r using QueryRule.induct with
  | step r ih =>
      intro shownAt hnull
      rw [QueryRule.visits_eq] at hnull ⊢
      obtain ⟨nested, hnested, hrows⟩ := comparisons_kept_of ih
        fun h => hnull (List.mem_cons_of_mem _ h)
      rw [getQueryRule_eq, hnested]
      refine ⟨_, rfl, fun level => ?_⟩
      cases hfield : r.field with
      | none =>
          rw [List.filterMap_cons_none (kept_none hfield)]
          exact hrows level
      | some field =>
          rw [List.filterMap_cons_some (kept_field hfield), ← hrows level]
          rfl

/-- The flat rules show what is kept along the visits. -/
theorem comparisons_kept {rules : List (Option (QueryRule Obj))}
    {shownAt : Bool} (hnull : none ∉ visits shownAt rules) :
    ∃ flat, getQueryRules rules = .ok flat ∧ ∀ level,
      comparisons (rulesRows toString level (flat.map some))
        = (visits shownAt rules).filterMap kept :=
  comparisons_kept_of (fun r _ => comparisons_kept_rule r) hnull

/-- A list that can be flattened has no null entry, given that of its
rules. -/
theorem null_notMem_of {rules : List (Option (QueryRule Obj))}
    {shownAt : Bool}
    (h : ∀ r, some r ∈ rules → ∀ shownAt flat, getQueryRule r = .ok flat →
      none ∉ r.visits shownAt) :
    ∀ {flat}, getQueryRules rules = .ok flat →
      none ∉ visits shownAt rules := by
  induction rules with
  | nil => exact fun _ => List.not_mem_nil
  | cons entry rules ih =>
      intro flat hflat
      rw [getQueryRules] at hflat
      cases entry with
      | none => cases hflat
      | some r =>
          rw [getQueryRulesEntry] at hflat
          cases hr : getQueryRule r with
          | error e =>
              rw [hr] at hflat
              cases hflat
          | ok first =>
              cases hrules : getQueryRules rules with
              | error e =>
                  rw [hr, hrules] at hflat
                  cases hflat
              | ok rest =>
                  rw [visits_cons_some, ← List.cons_append,
                    ← QueryRule.visits_eq, List.mem_append, not_or]
                  refine ⟨h r List.mem_cons_self _ _ hr, ?_⟩
                  exact ih (fun q hq => h q (List.mem_cons_of_mem _ hq))
                    hrules

/-- Flattening fails at a null entry, wherever it is: it goes into every
rule, with or without a field. -/
theorem null_notMem_rule (r : QueryRule Obj) :
    ∀ shownAt flat, getQueryRule r = .ok flat →
      none ∉ r.visits shownAt := by
  induction r using QueryRule.induct with
  | step r ih =>
      intro shownAt flat hflat
      rw [getQueryRule_eq] at hflat
      rw [QueryRule.visits_eq]
      cases hnested : getQueryRules (r.rules.getD []) with
      | error e =>
          rw [hnested] at hflat
          cases hflat
      | ok nested =>
          intro hmem
          rcases List.mem_cons.mp hmem with h | h
          · cases h
          · exact null_notMem_of ih hnested h

theorem null_notMem {rules : List (Option (QueryRule Obj))}
    {flat : List (QueryRule Obj)} (shownAt : Bool)
    (hflat : getQueryRules rules = .ok flat) :
    none ∉ visits shownAt rules :=
  null_notMem_of (fun r _ => null_notMem_rule r) hflat

/-- The two walks agree exactly if no entry is null and what is shown along
the visits is what is kept. The rest of the filter shows no comparisons,
so it does not matter. -/
theorem traversalsAgree_iff (toString : Obj → Str) (qb : QueryBuilder Obj)
    (rules : List (Option (QueryRule Obj))) :
    TraversalsAgree toString qb rules
      ↔ none ∉ visits true rules
        ∧ (visits true rules).filterMap shown
          = (visits true rules).filterMap kept := by
  have htable : ∀ rules', queryBuilderToDataTable toString
      { qb with rules := some rules' } (some {}) none
      = .ok (some ⟨true, queryBuilderRows toString
          { qb with rules := some rules' } none⟩) := fun _ =>
    queryBuilderToDataTable_some toString _ {} none
  constructor
  · intro hagree
    obtain ⟨flat, rows, flatRows, hflat, hrows, hflatRows, h⟩ := hagree
    have hnull := null_notMem true hflat
    rw [htable] at hrows hflatRows
    cases hrows
    cases hflatRows
    obtain ⟨flat', hflat', hkept⟩ :=
      @comparisons_kept toString rules true hnull
    obtain rfl := Except.ok.inj (hflat.symm.trans hflat')
    rw [comparisons_queryBuilderRows, comparisons_queryBuilderRows] at h
    refine ⟨hnull, h.trans ?_⟩
    rw [← hkept none, comparisons_rulesRows]
    rfl
  · intro hboth
    obtain ⟨hnull, h⟩ := hboth
    obtain ⟨flat, hflat, hkept⟩ :=
      @comparisons_kept toString rules true hnull
    refine ⟨flat, _, _, hflat, htable _, htable _, ?_⟩
    rw [comparisons_queryBuilderRows, comparisons_queryBuilderRows]
    refine h.trans ?_
    rw [← hkept none, comparisons_rulesRows]
    rfl

-- ======================================================== visit by visit

/-- Lists of options that keep the same values keep them in the same
places, if every value of the first keeps its place in the second. -/
theorem eq_of_filterMap_eq {α β : Type} {f g : α → Option β} {l : List α}
    (hfg : ∀ a ∈ l, g a = none → f a = none)
    (h : l.filterMap f = l.filterMap g) : ∀ a ∈ l, f a = g a := by
  have hlength : ∀ {l : List α}, (∀ a ∈ l, g a = none → f a = none) →
      (l.filterMap f).length ≤ (l.filterMap g).length := by
    intro l hfg
    induction l with
    | nil => exact Nat.le_refl 0
    | cons a l ih =>
        have hrest := ih fun b hb => hfg b (List.mem_cons_of_mem a hb)
        cases hg : g a with
        | none =>
            rw [List.filterMap_cons_none hg, List.filterMap_cons_none
              (hfg a List.mem_cons_self hg)]
            exact hrest
        | some b =>
            rw [List.filterMap_cons_some hg, List.length_cons]
            cases hf : f a with
            | none => rw [List.filterMap_cons_none hf]; omega
            | some b' =>
                rw [List.filterMap_cons_some hf, List.length_cons]
                omega
  induction l with
  | nil => exact fun a ha => absurd ha List.not_mem_nil
  | cons a l ih =>
      have hrest : ∀ b ∈ l, g b = none → f b = none := fun b hb =>
        hfg b (List.mem_cons_of_mem a hb)
      rw [List.forall_mem_cons]
      cases hg : g a with
      | none =>
          have hf := hfg a List.mem_cons_self hg
          rw [List.filterMap_cons_none hg, List.filterMap_cons_none hf] at h
          exact ⟨hf, ih hrest h⟩
      | some b =>
          rw [List.filterMap_cons_some hg] at h
          cases hf : f a with
          | none =>
              -- one value too few is left for the rest
              rw [List.filterMap_cons_none hf] at h
              have hshort := hlength hrest
              rw [h, List.length_cons] at hshort
              omega
          | some b' =>
              rw [List.filterMap_cons_some hf] at h
              injection h with hhead htail
              exact ⟨congrArg some hhead, ih hrest htail⟩

/-- No operator's text is empty; the text of a missing one is. -/
theorem operatorText_ne_nil (operator : QueryBuilderOperator) :
    operatorText (some operator) ≠ [] := by
  cases operator <;> decide

/-- At a visit the walks agree exactly if the rule is alike for both. -/
theorem shown_eq_kept_iff (shownAt : Bool) (r : QueryRule Obj) :
    shown (some (shownAt, r)) = kept (some (shownAt, r))
      ↔ Alike shownAt r := by
  unfold Alike
  by_cases hs : shownAt = true ∧ r.condition = none
  · rw [if_pos hs, shown_comparison hs]
    cases hfield : r.field with
    | none =>
        rw [kept_none hfield]
        exact ⟨(fun h => by cases h), fun h => by cases h.1⟩
    | some field =>
        rw [kept_field hfield, Option.getD_some, Option.some.injEq,
          Prod.mk.injEq, Option.some.injEq]
        cases r.operator with
        | none =>
            refine ⟨fun h => ?_, fun h => by cases h.2⟩
            exact absurd h.2.symm (operatorText_ne_nil .equals)
        | some operator => exact ⟨fun _ => ⟨rfl, rfl⟩, fun _ => ⟨rfl, rfl⟩⟩
  · rw [if_neg hs, shown_none hs]
    cases hfield : r.field with
    | none =>
        rw [kept_none hfield]
        exact ⟨fun _ => rfl, fun _ => rfl⟩
    | some field =>
        rw [kept_field hfield]
        exact ⟨(fun h => by cases h), fun h => by cases h⟩

/-- What is shown and not kept has an empty field. -/
theorem field_of_shown {v : Option (Bool × QueryRule Obj)}
    {comparison : Str × Option Str} (hs : shown v = some comparison)
    (hk : kept v = none) : comparison.1 = [] := by
  cases v with
  | none => cases hs
  | some visit =>
      obtain ⟨shownAt, r⟩ := visit
      have hfield : r.field = none := by
        cases hfield : r.field with
        | none => rfl
        | some field =>
            rw [kept_field hfield] at hk
            cases hk
      by_cases hr : shownAt = true ∧ r.condition = none
      · rw [shown_comparison hr, hfield] at hs
        cases hs
        rfl
      · rw [shown_none hr] at hs
        cases hs

/-- What is kept has the field of its rule. -/
theorem field_of_kept {v : Option (Bool × QueryRule Obj)}
    {comparison : Str × Option Str} (hk : kept v = some comparison) :
    ∃ shownAt r, v = some (shownAt, r) ∧ r.field = some comparison.1 := by
  cases v with
  | none => cases hk
  | some visit =>
      obtain ⟨shownAt, r⟩ := visit
      refine ⟨shownAt, r, rfl, ?_⟩
      cases hfield : r.field with
      | none =>
          rw [kept_none hfield] at hk
          cases hk
      | some field =>
          rw [kept_field hfield] at hk
          cases hk
          rfl

/-- If no entry of the rule tree is null, every rule without a condition
that the table walk gets to has a field and an operator, and every other
rule has no field, then the two walks agree; and where no field is the
empty text they agree only then. -/
theorem traversals_agree_of_clean (toString : Obj → Str)
    (qb : QueryBuilder Obj) (rules : List (Option (QueryRule Obj))) :
    (Clean rules → TraversalsAgree toString qb rules)
      ∧ (NoEmptyField rules → TraversalsAgree toString qb rules →
          Clean rules) := by
  rw [traversalsAgree_iff]
  constructor
  · intro hclean
    constructor
    · intro hnull
      obtain ⟨_, _, h, _⟩ := hclean none hnull
      cases h
    · refine List.filterMap_congr fun v hv => ?_
      obtain ⟨shownAt, r, rfl, halike⟩ := hclean v hv
      exact (shown_eq_kept_iff shownAt r).mpr halike
  · intro hfields hboth
    obtain ⟨hnull, h⟩ := hboth
    have hshown : ∀ v ∈ visits true rules, kept v = none →
        shown v = none := by
      intro v hv hkept
      cases hs : shown v with
      | none => rfl
      | some comparison =>
          -- its field is empty, and that of what is kept is not
          have hmem : comparison ∈ (visits true rules).filterMap kept := by
            rw [← h]
            exact List.mem_filterMap.mpr ⟨v, hv, hs⟩
          obtain ⟨v', hv', hk'⟩ := List.mem_filterMap.mp hmem
          obtain ⟨shownAt, r, rfl, hfield⟩ := field_of_kept hk'
          rw [field_of_shown hs hkept] at hfield
          exact absurd hfield (hfields shownAt r hv')
    intro v hv
    cases v with
    | none => exact absurd hv hnull
    | some visit =>
        obtain ⟨shownAt, r⟩ := visit
        refine ⟨shownAt, r, rfl, (shown_eq_kept_iff shownAt r).mp ?_⟩
        exact eq_of_filterMap_eq hshown h _ hv

-- =============================================================== examples

/-- A comparison of a field with nothing. -/
private def isNullRule (field : Option Str) : QueryRule Obj :=
  ⟨field, some .isNull, none, none, none, none⟩

/-- A comparison and a nested group of two. -/
private def nestedRules : List (Option (QueryRule Obj)) :=
  [some (isNullRule (some (str "a"))),
    some ⟨none, none, none, none,
      some [some (isNullRule (some (str "b"))),
        some (isNullRule (some (str "c")))], some .or⟩]

/-- The two walks agree about it. -/
theorem traversals_agree_nested :
    TraversalsAgree (fun _ => []) {} nestedRules := by
  refine (traversals_agree_of_clean (fun _ => []) {} nestedRules).1 ?_
  intro v hv
  have hvisits : visits true nestedRules
      = [some (true, isNullRule (some (str "a"))),
          some (true, ⟨none, none, none, none,
            some [some (isNullRule (some (str "b"))),
              some (isNullRule (some (str "c")))], some .or⟩),
          some (true, isNullRule (some (str "b"))),
          some (true, isNullRule (some (str "c")))] := rfl
  rw [hvisits] at hv
  simp only [List.mem_cons, List.not_mem_nil, or_false] at hv
  rcases hv with rfl | rfl | rfl | rfl
  · exact ⟨_, _, rfl, ⟨rfl, rfl⟩⟩
  · exact ⟨_, _, rfl, rfl⟩
  · exact ⟨_, _, rfl, ⟨rfl, rfl⟩⟩
  · exact ⟨_, _, rfl, ⟨rfl, rfl⟩⟩

/-- The flattening throws at a null entry; it drops the comparison of a
rule without a field, keeps one of a rule that is a group to the table,
and gives a missing operator a text. -/
theorem traversals_disagree :
    getQueryRules [none] = .error .nullReference
    ∧ ¬TraversalsAgree (fun _ => []) {} [none]
    ∧ ¬TraversalsAgree (fun _ => []) {} [some (isNullRule none)]
    ∧ ¬TraversalsAgree (fun _ => []) {}
        [some ⟨some (str "a"), some .isNull, none, none, none, some .and⟩]
    ∧ ¬TraversalsAgree (fun _ => []) {}
        [some ⟨some (str "a"), none, none, none, none, none⟩] := by
  refine ⟨rfl, ?_, ?_, ?_, ?_⟩
  · rw [traversalsAgree_iff]
    exact fun h => h.1 List.mem_cons_self
  · rw [traversalsAgree_iff]
    exact fun h => by cases h.2
  · rw [traversalsAgree_iff]
    exact fun h => by cases h.2
  · rw [traversalsAgree_iff]
    exact fun h => absurd h.2 (by decide)

end SkillBuddy
