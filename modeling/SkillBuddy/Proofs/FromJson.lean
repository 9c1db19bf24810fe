/-
`FromJson` and the meaning of a filter.

`GetQueryRules` returns the leaves of the rule tree in document order,
rebuilt by the `QueryRule` constructor, and nothing else: the groups and
their conditions are gone (`getQueryRule_fill`). The object `FromJson`
returns is therefore the document flattened under the root's condition
(`fromJson_eq`).

# What it is to preserve the meaning

Two things are asked of the returned filter. Its leaf comparisons are
the document's: the `n`-th returned leaf is the `n`-th leaf of the
document, with the same field and operator and with the values the
constructor renders from the document's (`leafRules_flattened`). And
under every assignment of truth values to these comparisons, one value
to each position, the filter evaluates like the document. The first part
is what ties an assignment on one side to the same assignment on the
other: position `n` names the same comparison in both. A comparison
that occurs twice has two positions, each with a value of its own; an
assignment to comparisons is the case where they are equal.

# When it holds

The first part always does. The second is the flattening law of and/or
trees (`AndOr.flatten_iff`): it holds exactly when every nested group of
at least two rules repeats the root's condition
(`fromJson_preserves_meaning_iff`). A group of one rule is that rule,
whatever its condition says. The smallest document where the law fails
has one OR group of two comparisons under an AND root
(`fromJson_loses_nested_or`).
-/
import SkillBuddy.Entity.Filter

namespace SkillBuddy

open DotNet
open Lib

variable {V : Type}

-- =================================================== GetQueryRules, plainly

/-- What `GetQueryRules` makes of a rule with a field: its comparison,
without nested rules and condition. -/
def QueryRule.rebuilt (f : V → Option Obj) (r : QueryRule V) :
    QueryRule Obj :=
  QueryRule.new (r.field.getD []) (r.operator.getD .equals)
    (r.value1.bind f) (r.value2.bind f)

/-- A rule contributes itself, if it has a field, and what its nested
rules contribute. -/
theorem getQueryRule_eq (r : QueryRule Obj) :
    getQueryRule r = (getQueryRules (r.rules.getD [])).map fun nested =>
      (match r.field with
        | some field => [QueryRule.new field (r.operator.getD .equals)
            r.value1 r.value2]
        | none => []) ++ nested := by
  obtain ⟨field, operator, value1, value2, rules, condition⟩ := r
  have hnested : getNestedRules rules = getQueryRules (rules.getD []) := by
    cases rules <;> rfl
  rw [getQueryRule, hnested]
  cases getQueryRules (rules.getD []) with
  | error e => rfl
  | ok nested => cases field <;> rfl

/-- A list without null entries contributes what its rules do, in
order. -/
theorem getQueryRules_fillAll {f : V → Option Obj}
    {g : QueryRule V → List (QueryRule Obj)} {rs : List (QueryRule V)}
    (h : ∀ r ∈ rs, getQueryRule (r.fill f) = .ok (g r)) :
    getQueryRules (fillAll f (rs.map some)) = .ok (rs.flatMap g) := by
  induction rs with
  | nil => rfl
  | cons r rs ih =>
      rw [List.forall_mem_cons] at h
      rw [List.map_cons, fillAll, fillEntry, getQueryRules,
        getQueryRulesEntry, h.1, ih h.2, List.flatMap_cons]
      rfl

theorem fill_rules_getD (f : V → Option Obj) (r : QueryRule V) :
    (r.fill f).rules.getD [] = fillAll f (r.rules.getD []) := by
  obtain ⟨field, operator, value1, value2, rules, condition⟩ := r
  cases rules <;> rfl

/-- A well-formed rule contributes its leaves, rebuilt. -/
theorem getQueryRule_fill (f : V → Option Obj) (r : QueryRule V) :
    (∀ e ∈ r.entries, EntryOk e) →
      getQueryRule (r.fill f)
        = .ok (r.tree.leaves.map (QueryRule.rebuilt f)) := by
  induction r using QueryRule.induct with
  | step r ih =>
      intro h
      rw [QueryRule.entries_eq, List.forall_mem_cons] at h
      obtain ⟨⟨r', hr', hself⟩, hbelow⟩ := h
      obtain rfl := Option.some.inj hr'
      obtain ⟨rs, hrs⟩ := exists_rules_of_entryOk hbelow
      rw [hrs, entriesOf_map_some] at hbelow
      have hnested : getQueryRules (fillAll f (r.rules.getD []))
          = .ok (rs.flatMap fun q =>
              q.tree.leaves.map (QueryRule.rebuilt f)) := by
        rw [hrs]
        apply getQueryRules_fillAll
        intro q hq
        apply ih q
        · rw [hrs]
          exact List.mem_map_of_mem hq
        · exact fun e he => hbelow e (List.mem_flatMap.mpr ⟨q, hq, he⟩)
      rw [getQueryRule_eq, fill_rules_getD, hnested, QueryRule.tree_eq]
      have hfields : (r.fill f).field = r.field
          ∧ (r.fill f).operator = r.operator
          ∧ (r.fill f).value1 = r.value1.bind f
          ∧ (r.fill f).value2 = r.value2.bind f := by
        obtain ⟨field, operator, value1, value2, rules, condition⟩ := r
        exact ⟨rfl, rfl, rfl, rfl⟩
      rw [hfields.1, hfields.2.1, hfields.2.2.1, hfields.2.2.2]
      by_cases hg : r.isGroup
      · -- a group has no field, so only its rules contribute
        rw [if_pos hg] at hself
        rw [if_pos hg, hself.2, hrs, treesOf_map_some, AndOr.leaves,
          AndOr.leavesAll_eq_flatMap, List.flatMap_map, List.map_flatMap]
        rfl
      · -- a leaf has a field and nothing nested
        rw [if_neg hg] at hself
        have hnil : rs = [] := by
          simpa [QueryRule.isGroup, hrs] using hg
        obtain ⟨field, hfield⟩ := Option.isSome_iff_exists.mp hself
        subst hnil
        rw [if_neg hg, hfield]
        show Except.ok [_] = Except.ok [QueryRule.rebuilt f r]
        rw [QueryRule.rebuilt, hfield]
        rfl

-- ================================================================ FromJson

/-- A filter's own members over its leaves, rebuilt, as one flat list. -/
def QueryBuilder.flattened (f : V → Option Obj) (doc : QueryBuilder V) :
    QueryBuilder Obj where
  condition := doc.condition
  rules := some ((doc.leafRules.map (QueryRule.rebuilt f)).map some)
  not := doc.not
  valid := doc.valid
  count := doc.count
  offset := doc.offset
  pageSize := doc.pageSize
  orderBy := doc.orderBy

/-- `FromJson` keeps the document's members and lists what its rules
contribute. -/
theorem fromJson_some (nj : Newtonsoft) (doc : QueryBuilder (Json Str)) :
    fromJson nj (some doc)
      = (getQueryRules (fillAll nj.received (doc.rules.getD []))).map
          fun rules =>
            { condition := doc.condition
              rules := some (rules.map some)
              not := doc.not
              valid := doc.valid
              count := doc.count
              offset := doc.offset
              pageSize := doc.pageSize
              orderBy := doc.orderBy } := by
  unfold fromJson deserializeObject
  cases hrules : getQueryRules (fillAll nj.received (doc.rules.getD [])) with
  | error e => simp only [hrules]; rfl
  | ok rules => simp only [hrules]; rfl

/-- On a filter document `FromJson` returns the document flattened. -/
theorem fromJson_eq (nj : Newtonsoft) {doc : QueryBuilder (Json Str)}
    (hdoc : FilterDocument doc) :
    fromJson nj (some doc) = .ok (doc.flattened nj.received) := by
  have hentries := hdoc.entries
  unfold QueryBuilder.entries at hentries
  obtain ⟨rs, hrs⟩ := exists_rules_of_entryOk hentries
  rw [hrs, entriesOf_map_some] at hentries
  have hrules : getQueryRules (fillAll nj.received (doc.rules.getD []))
      = .ok (doc.leafRules.map (QueryRule.rebuilt nj.received)) := by
    unfold QueryBuilder.leafRules
    rw [hrs, treesOf_map_some, AndOr.leavesAll_eq_flatMap,
      List.flatMap_map, List.map_flatMap]
    apply getQueryRules_fillAll
    intro r hr
    apply getQueryRule_fill
    exact fun e he => hentries e (List.mem_flatMap.mpr ⟨r, hr, he⟩)
  rw [fromJson_some, hrules]
  rfl

/-- The flattened filter's trees are its rebuilt leaves: a rule the
constructor has built nests nothing. -/
theorem treesOf_flattened (f : V → Option Obj) (doc : QueryBuilder V) :
    treesOf ((doc.flattened f).rules.getD [])
      = (doc.leafRules.map (QueryRule.rebuilt f)).map AndOr.leaf := by
  show treesOf ((doc.leafRules.map (QueryRule.rebuilt f)).map some) = _
  rw [treesOf_map_some]
  apply List.map_congr_left
  intro r hr
  obtain ⟨q, -, rfl⟩ := List.mem_map.mp hr
  rfl

/-- The flattened filter has the document's leaf comparisons, rebuilt,
in the document's order. -/
theorem leafRules_flattened (f : V → Option Obj) (doc : QueryBuilder V) :
    (doc.flattened f).leafRules
      = doc.leafRules.map (QueryRule.rebuilt f) := by
  rw [QueryBuilder.leafRules, treesOf_flattened,
    AndOr.leavesAll_eq_flatMap, List.flatMap_map]
  exact List.flatMap_singleton' _

/-- The flattened filter evaluates all leaves under the root's
condition. -/
theorem evaluate_flattened (f : V → Option Obj) (doc : QueryBuilder V)
    (v : Nat → Bool) :
    (doc.flattened f).evaluate v = (connective doc.condition).combine
      ((List.range' 0 doc.leafRules.length).map v) := by
  rw [QueryBuilder.evaluate, treesOf_flattened,
    AndOr.evalAll_numberAll_leaf, List.length_map]
  rfl

/-- The groups of a filter document repeat the root's condition exactly
when its trees carry no other connective. -/
theorem nestedConditionsAgree_iff {doc : QueryBuilder V}
    (hdoc : FilterDocument doc) :
    NestedConditionsAgree doc
      ↔ AndOr.UniformAll (connective doc.condition)
          (treesOf (doc.rules.getD [])) := by
  have hentries := hdoc.entries
  unfold NestedConditionsAgree QueryBuilder.entries at *
  obtain ⟨rs, hrs⟩ := exists_rules_of_entryOk hentries
  rw [hrs, entriesOf_map_some] at hentries ⊢
  rw [treesOf_map_some, AndOr.uniformAll_iff, List.forall_mem_map]
  have hrule := fun r (hr : r ∈ rs) =>
    QueryRule.uniform_tree_iff (connective doc.condition) r fun e he =>
      hentries e (List.mem_flatMap.mpr ⟨r, hr, he⟩)
  -- a group of the document has a condition, and so has the root
  have hcond : ∀ q, some q ∈ rs.flatMap QueryRule.entries →
      2 ≤ (q.rules.getD []).length →
      (connective q.condition = connective doc.condition
        ↔ q.condition = doc.condition) := by
    intro q hq hlen
    obtain ⟨q', hq', hok⟩ := hentries _ hq
    obtain rfl := Option.some.inj hq'
    have hg : q.isGroup := by
      unfold QueryRule.isGroup
      rw [Bool.not_eq_true', List.isEmpty_eq_false_iff]
      intro hnil
      rw [hnil] at hlen
      simp at hlen
    rw [if_pos hg] at hok
    obtain ⟨c, hc⟩ := Option.isSome_iff_exists.mp hok.1
    obtain ⟨d, hd⟩ := Option.isSome_iff_exists.mp hdoc.condition
    rw [hc, hd]
    cases c <;> cases d <;> simp [connective]
  constructor
  · intro hall r hr
    rw [hrule r hr]
    intro q hq hlen
    have hmem := List.mem_flatMap.mpr ⟨r, hr, hq⟩
    exact (hcond q hmem hlen).mpr (hall q hmem hlen)
  · intro hall q hq hlen
    obtain ⟨r, hr, hqr⟩ := List.mem_flatMap.mp hq
    exact (hcond q hq hlen).mp ((hrule r hr).mp (hall r hr) q hqr hlen)

/-- The trees of a filter document have no empty group. -/
theorem fullAll_treesOf {doc : QueryBuilder V}
    (hdoc : FilterDocument doc) :
    AndOr.FullAll (treesOf (doc.rules.getD [])) := by
  have hentries := hdoc.entries
  unfold QueryBuilder.entries at hentries
  obtain ⟨rs, hrs⟩ := exists_rules_of_entryOk hentries
  rw [hrs, entriesOf_map_some] at hentries
  rw [hrs, treesOf_map_some, AndOr.fullAll_iff, List.forall_mem_map]
  intro r hr
  apply QueryRule.full_tree
  exact fun e he => hentries e (List.mem_flatMap.mpr ⟨r, hr, he⟩)

/-- `FromJson` preserves the meaning of a filter document exactly when
every nested group of two or more rules repeats the condition of the
root. To preserve the meaning is to return a filter whose leaf
comparisons are the document's, one for one and in the document's order
(the field, the operator and the values as the `QueryRule` constructor
takes them), and which has the document's value under every assignment
to them. -/
theorem fromJson_preserves_meaning_iff (nj : Newtonsoft)
    (doc : QueryBuilder (Json Str)) (hdoc : FilterDocument doc) :
    (∃ qb, fromJson nj (some doc) = .ok qb
        ∧ qb.leafRules
          = doc.leafRules.map (QueryRule.rebuilt nj.received)
        ∧ ∀ v : Nat → Bool, qb.evaluate v = doc.evaluate v)
      ↔ NestedConditionsAgree doc := by
  rw [nestedConditionsAgree_iff hdoc, ← AndOr.uniformAll_numberAll _ 0,
    ← AndOr.flatten_iff
      (AndOr.fullAll_numberAll (fullAll_treesOf hdoc))
      (by rw [AndOr.leavesAll_numberAll]; exact List.nodup_range'),
    AndOr.leavesAll_numberAll, fromJson_eq nj hdoc]
  show _ ↔ ∀ v : Nat → Bool, (connective doc.condition).combine
    ((List.range' 0 doc.leafRules.length).map v) = doc.evaluate v
  simp only [← evaluate_flattened nj.received]
  constructor
  · rintro ⟨qb, hqb, -, hmean⟩
    obtain rfl := Except.ok.inj hqb
    exact hmean
  · exact fun hmean =>
      ⟨_, rfl, leafRules_flattened nj.received doc, hmean⟩

/-- A leaf rule of a document. -/
private def comparison (field : Str) (value : Int) :
    QueryRule (Json Str) where
  field := some field
  operator := some .equals
  value1 := some (.number (.integer value))
  value2 := none
  rules := none
  condition := none

/-- A group of a document. -/
private def group (condition : QueryBuilderCondition)
    (rules : List (QueryRule (Json Str))) : QueryRule (Json Str) where
  field := none
  operator := none
  value1 := none
  value2 := none
  rules := some (rules.map some)
  condition := some condition

/-- `age = 1 AND (id = 2 ? id = 3)`, with `condition` for the `?`. -/
private def nestedDocument (condition : QueryBuilderCondition) :
    QueryBuilder (Json Str) where
  condition := some .and
  rules := some [some (comparison (str "age") 1),
    some (group condition
      [comparison (str "id") 2, comparison (str "id") 3])]

private theorem filterDocument_nestedDocument
    (condition : QueryBuilderCondition) :
    FilterDocument (nestedDocument condition) := by
  constructor
  · rfl
  · intro e he
    rw [show (nestedDocument condition).entries
      = [some (comparison (str "age") 1),
        some (group condition
          [comparison (str "id") 2, comparison (str "id") 3]),
        some (comparison (str "id") 2), some (comparison (str "id") 3)]
      from rfl] at he
    simp only [List.mem_cons, List.not_mem_nil, or_false] at he
    rcases he with rfl | rfl | rfl | rfl
    · exact ⟨_, rfl, rfl⟩
    · exact ⟨_, rfl, rfl, rfl⟩
    · exact ⟨_, rfl, rfl⟩
    · exact ⟨_, rfl, rfl⟩

/-- A deserialiser that reads no string as a date; the documents here
hold neither strings nor fractions. -/
private def plainNewtonsoft : Newtonsoft where
  parseDate _ := none
  parseDouble _ := 0

/-- The equivalence at a document whose nested group is an AND too. -/
theorem fromJson_preserves_meaning_and :
    (∃ qb, fromJson plainNewtonsoft (some (nestedDocument .and)) = .ok qb
        ∧ qb.leafRules = (nestedDocument .and).leafRules.map
          (QueryRule.rebuilt plainNewtonsoft.received)
        ∧ ∀ v : Nat → Bool,
          qb.evaluate v = (nestedDocument .and).evaluate v)
      ↔ NestedConditionsAgree (nestedDocument .and) :=
  fromJson_preserves_meaning_iff plainNewtonsoft _
    (filterDocument_nestedDocument .and)

/-- With a nested OR group the meaning is lost. The returned filter has
the document's three comparisons, but where `age = 1` and `id = 2` hold
and the third, `id = 3`, does not, the document holds and the returned
filter does not. -/
theorem fromJson_loses_nested_or :
    FilterDocument (nestedDocument .or)
      ∧ ∃ qb, fromJson plainNewtonsoft (some (nestedDocument .or)) = .ok qb
        ∧ qb.leafRules = (nestedDocument .or).leafRules.map
          (QueryRule.rebuilt plainNewtonsoft.received)
        ∧ (nestedDocument .or).evaluate (fun leaf => leaf != 2) = true
        ∧ qb.evaluate (fun leaf => leaf != 2) = false :=
  ⟨filterDocument_nestedDocument .or, _, rfl, rfl, rfl, rfl⟩

end SkillBuddy
