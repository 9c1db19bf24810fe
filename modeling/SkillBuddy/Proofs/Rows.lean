/-
The rows of `QueryBuilderToDataTable`, and the groups they came from.

# The numbers

A row's `Group` is the depth of its group, one for the root, so two groups
at one depth share their number. To say "the same group" at all the rows
need a tag: `rowsAt` computes them again, each with the group node it
comes from, a node being the indices on the way to it. Forgetting the
tags gives the rows the method appends (`map_snd_rowsAt`), so what is
proved of the tagged rows is proved of the code's.

The argument runs over the CONDITION rows. Every nested group has exactly
one (`exists_condition_row`, `nodup_conditionNodes`), so the numbers tell
the groups apart exactly when the CONDITION rows have distinct numbers
(`groupsIdentified_iff`). In the rows of one list of rules each group
contributes its own level, the same for all of them, and then larger
numbers only; so they are distinct exactly when the list holds one group
at most, and so do the groups in it (`nodup_conditions_rulesRows_iff`).
The two halves use the tree differently: the tagged rows follow the
nodes, the numbers only the depth.

# The decoding

Whether the CONDITION numbers are distinct does not depend on the order
of the rows, so a query whose rows are a permutation of such a query's
has groups that form a chain as well. A chain is read back one level at a
time. By their numbers the rows part into the group's own, its
comparisons' and those of its one group (`parts_perm`); AND and OR do not
see the order of their operands, so the comparisons' rows give their part
of the value, and the induction the group's (`denote_eq_of_perm`).

Put together this is `rows_identify_groups_iff`. Two sibling groups are
the smallest query it excludes; `sibling_groups_collide` exchanges a
comparison between them, and the table is the same up to order.
-/
import SkillBuddy.Data.DataHelper
import SkillBuddy.Entity.Filter

namespace SkillBuddy

open DotNet
open DataHelper
open Lib

variable (toString : Obj → Str)

-- ====================================================== groups and leaves

/-- The groups in a list of rules. -/
def groupsOf (rules : List (Option (QueryRule Obj))) :
    List (QueryRule Obj) :=
  (rules.filterMap id).filter fun r => r.condition.isSome

/-- The comparisons in a list of rules. -/
def comparisonsOf (rules : List (Option (QueryRule Obj))) :
    List (QueryRule Obj) :=
  (rules.filterMap id).filter fun r => !r.condition.isSome

/-- No group in the rule holds two groups. -/
def QueryRule.AtMostOneNested : QueryRule Obj → Prop :=
  QueryRule.fold fun r kids => r.condition.isSome →
    (groupsOf (r.rules.getD [])).length ≤ 1
      ∧ ∀ kid ∈ kids.getD [], kid.getD True

/-- No group of the list, and not the list itself, holds two groups. -/
def AtMostOneNestedIn (rules : List (Option (QueryRule Obj))) : Prop :=
  (groupsOf rules).length ≤ 1 ∧ ∀ g ∈ groupsOf rules, g.AtMostOneNested

/-- What a row says besides its place. -/
structure Comparison where
  field : Str
  condition : Option Str
  value1 : Option Str
  value2 : Option Str
  deriving DecidableEq, Repr

/-- The comparison of a row. -/
def rowComparison (row : DataRow) : Comparison :=
  ⟨row.field, row.condition, row.value1, row.value2⟩

/-- The row of a comparison, at a level. -/
def comparisonRow (level : Option Int) (r : QueryRule Obj) : DataRow :=
  ruleRow toString level r.field r.operator r.value1 r.value2

/-- The comparison of a rule, as its row shows it. -/
def QueryRule.comparison (r : QueryRule Obj) : Comparison :=
  rowComparison (comparisonRow toString none r)

/-- The Boolean function of a rule: a group combines its rules. -/
def QueryRule.denote (v : Comparison → Bool) : QueryRule Obj → Bool :=
  QueryRule.fold fun r kids =>
    if r.condition.isSome then
      (connective r.condition).combine ((kids.getD []).filterMap id)
    else v (r.comparison toString)

/-- The values of a list of rules. -/
def denoteAll (v : Comparison → Bool)
    (rules : List (Option (QueryRule Obj))) : List Bool :=
  (rules.filterMap id).map (QueryRule.denote toString v)

/-- The Boolean function of a query. -/
def QueryBuilder.denote (v : Comparison → Bool) (qb : QueryBuilder Obj) :
    Bool :=
  xor (qb.not == some true)
    ((connective qb.condition).combine
      (denoteAll toString v (qb.rules.getD [])))

-- ============================================================= provenance

/-- A group node: the indices on the way to it, the root's being `[]`. -/
abbrev Node := List Nat

/-- The level `QueryBuilderToDataTable` is called with for a group. -/
def levelAt : Node → Option Int
  | [] => none
  | _ :: parent => some (parent.length + 1)

/-- The results of a list of functions, each applied to its index. -/
def indexed {β : Type} : Nat → List (Option (Nat → List β)) → List β
  | _, [] => []
  | i, f :: fs => (f.map fun g => g i).getD [] ++ indexed (i + 1) fs

/-- The rows of the rule at index `i` of the group `node`, each with the
group node it comes from. -/
def QueryRule.rowsAt : QueryRule Obj → Node → Nat → List (Node × DataRow) :=
  QueryRule.fold fun r kids node i =>
    match r.condition with
    | none => [(node, comparisonRow toString (levelAt node) r)]
    | some condition =>
        (i :: node, conditionRow (levelAt (i :: node)) condition)
          :: indexed 0 ((kids.getD []).map (Option.map fun f => f (i :: node)))

/-- The tagged rows of the rules of the group `node`. -/
def rulesRowsAt (node : Node) (i : Nat)
    (rules : List (Option (QueryRule Obj))) : List (Node × DataRow) :=
  indexed i (rules.map (Option.map fun r => r.rowsAt toString node))

/-- The rows of a group besides its rules'. -/
def ownRows (level : Option Int) (qb : QueryBuilder Obj) : List DataRow :=
  (qb.condition.map fun c => [conditionRow level c]).getD []
    ++ (if qb.not = some true then [notRow level] else [])
    ++ (if level = none then rootRows level qb else [])

/-- The rows of a query, each with the group node it comes from. -/
def QueryBuilder.rowsAt (qb : QueryBuilder Obj) : List (Node × DataRow) :=
  (ownRows none qb).map (fun row => ([], row))
    ++ rulesRowsAt toString [] 0 (qb.rules.getD [])

/-- The rows that belong to a group: CONDITION, NOT and RULE rows. -/
def OfGroup (row : DataRow) : Prop :=
  row.type = .condition ∨ row.type = .not ∨ row.type = .rule

/-- The group numbers name the groups: rows share a number exactly when
they come from one group, and a row's parent number is its parent
group's number. -/
structure GroupsIdentified (rows : List (Node × DataRow)) : Prop where
  group : ∀ x ∈ rows, ∀ y ∈ rows, OfGroup x.2 → OfGroup y.2 →
    (x.2.group = y.2.group ↔ x.1 = y.1)
  root : ∀ x ∈ rows, OfGroup x.2 → x.1 = [] → x.2.parentGroup = none
  parent : ∀ x ∈ rows, ∀ y ∈ rows, OfGroup x.2 → OfGroup y.2 →
    (∃ i, x.1 = i :: y.1) → x.2.parentGroup = some y.2.group

-- ======================================================= one rule at a time

theorem mem_groupsOf {g : QueryRule Obj}
    {rules : List (Option (QueryRule Obj))} :
    g ∈ groupsOf rules ↔ some g ∈ rules ∧ g.condition.isSome := by
  unfold groupsOf
  rw [List.mem_filter, List.mem_filterMap]
  simp only [id, exists_eq_right]

/-- A statement about the results for the nested rules of a rule is one
about the nested rules. -/
private theorem forall_kids {P : QueryRule Obj → Prop}
    (rules : Option (List (Option (QueryRule Obj)))) :
    (∀ kid ∈ (rules.map fun es => es.map (Option.map P)).getD [],
        kid.getD True)
      ↔ ∀ q, some q ∈ rules.getD [] → P q := by
  cases rules with
  | none => simp
  | some es =>
      show (∀ kid ∈ es.map (Option.map P), kid.getD True) ↔ _
      rw [List.forall_mem_map]
      constructor
      · exact fun h q hq => h (some q) hq
      · intro h e he
        cases e with
        | none => exact trivial
        | some q => exact h q he

/-- The fold, as the recursion it stands for: a group asks it of its rules,
a comparison asks nothing. -/
theorem atMostOneNested_iff (r : QueryRule Obj) :
    r.AtMostOneNested
      ↔ (r.condition.isSome → AtMostOneNestedIn (r.rules.getD [])) := by
  have hstep : ∀ q : QueryRule Obj, q.AtMostOneNested
      ↔ (q.condition.isSome → (groupsOf (q.rules.getD [])).length ≤ 1
        ∧ ∀ p, some p ∈ q.rules.getD [] → p.AtMostOneNested) := by
    intro q
    rw [← forall_kids]
    unfold QueryRule.AtMostOneNested
    rw [QueryRule.fold_eq]
  rw [hstep]
  unfold AtMostOneNestedIn
  constructor
  · intro h hr
    exact ⟨(h hr).1, fun g hg => (h hr).2 g (mem_groupsOf.mp hg).1⟩
  · intro h hr
    refine ⟨(h hr).1, fun p hp => ?_⟩
    rw [hstep]
    intro hcond
    exact (hstep p).mp ((h hr).2 p (mem_groupsOf.mpr ⟨hp, hcond⟩)) hcond

/-- A comparison has one row, on the level it stands at. -/
theorem ruleRows_leaf (level : Option Int) {r : QueryRule Obj}
    (h : r.condition = none) :
    ruleRows toString level r = [comparisonRow toString level r] := by
  obtain ⟨field, operator, value1, value2, rules, _⟩ := r
  subst h
  rfl

/-- A group has its CONDITION row, one level further down, and then the rows
of its rules on the level of that row. -/
theorem ruleRows_cons (level : Option Int) {r : QueryRule Obj}
    {condition : QueryBuilderCondition} (h : r.condition = some condition) :
    ruleRows toString level r
      = conditionRow (some (currentLevel level)) condition
        :: rulesRows toString (some (currentLevel level))
          (r.rules.getD []) := by
  obtain ⟨field, operator, value1, value2, rules, _⟩ := r
  subst h
  cases rules <;> rfl

theorem denote_leaf (v : Comparison → Bool) {r : QueryRule Obj}
    (h : r.condition = none) :
    r.denote toString v = v (r.comparison toString) := by
  unfold QueryRule.denote
  rw [QueryRule.fold_eq, h]
  rfl

theorem denote_group (v : Comparison → Bool) {r : QueryRule Obj}
    (h : r.condition.isSome) :
    r.denote toString v = (connective r.condition).combine
      (denoteAll toString v (r.rules.getD [])) := by
  unfold QueryRule.denote
  rw [QueryRule.fold_eq, if_pos h]
  congr 1
  unfold denoteAll
  cases r.rules with
  | none => rfl
  | some es =>
      show List.filterMap id (es.map _) = (es.filterMap id).map _
      rw [List.filterMap_map, List.map_filterMap]
      rfl

theorem rowsAt_leaf {r : QueryRule Obj} (h : r.condition = none)
    (node : Node) (i : Nat) :
    r.rowsAt toString node i
      = [(node, comparisonRow toString (levelAt node) r)] := by
  unfold QueryRule.rowsAt
  rw [QueryRule.fold_eq]
  simp only [h]

theorem rowsAt_group {r : QueryRule Obj}
    {condition : QueryBuilderCondition} (h : r.condition = some condition)
    (node : Node) (i : Nat) :
    r.rowsAt toString node i
      = (i :: node, conditionRow (levelAt (i :: node)) condition)
        :: rulesRowsAt toString (i :: node) 0 (r.rules.getD []) := by
  unfold QueryRule.rowsAt
  rw [QueryRule.fold_eq]
  simp only [h]
  unfold rulesRowsAt
  cases r.rules with
  | none => rfl
  | some es =>
      show _ :: indexed 0 ((es.map _).map _) = _ :: indexed 0 (es.map _)
      rw [List.map_map]
      congr 2
      apply List.map_congr_left
      intro e he
      cases e <;> rfl

-- ============================================================ the numbers

/-- The numbers of the CONDITION rows. -/
def conditions (rows : List DataRow) : List Int :=
  (rows.filter fun row => row.type = .condition).map DataRow.group

theorem conditions_append (xs ys : List DataRow) :
    conditions (xs ++ ys) = conditions xs ++ conditions ys := by
  unfold conditions
  rw [List.filter_append, List.map_append]

/-- A comparison's row stands at the number of its group. -/
theorem comparisonRow_group (level : Option Int) (r : QueryRule Obj) :
    (comparisonRow toString level r).group = currentLevel level
      ∧ (comparisonRow toString level r).type = .rule :=
  ⟨rfl, rfl⟩

/-- The rows of a group are numbered above its parent. -/
theorem lt_group_of_mem {r : QueryRule Obj} :
    ∀ {level : Option Int}, r.condition.isSome →
      ∀ row ∈ ruleRows toString level r,
        currentLevel level < row.group := by
  induction r using QueryRule.induct with
  | step r ih =>
      intro level hr row hrow
      obtain ⟨c, hc⟩ := Option.isSome_iff_exists.mp hr
      rw [ruleRows_cons toString level hc, rulesRows_eq] at hrow
      have hlevel : currentLevel (some (currentLevel level))
          = currentLevel level + 1 := rfl
      rcases List.mem_cons.mp hrow with rfl | hrow
      · show currentLevel level < currentLevel (some (currentLevel level))
        omega
      · obtain ⟨q, hq, hrow⟩ := List.mem_flatMap.mp hrow
        obtain ⟨e, he, rfl⟩ := List.mem_filterMap.mp hq
        cases hcond : q.condition with
        | none =>
            rw [ruleRows_leaf toString _ hcond, List.mem_singleton] at hrow
            rw [hrow, (comparisonRow_group toString _ q).1]
            omega
        | some d =>
            have := ih q he (by rw [hcond]; rfl) row hrow
            omega

/-- A list of rules yields its comparisons' rows and its groups' rows, in
some order. -/
theorem rulesRows_perm (level : Option Int)
    (rules : List (Option (QueryRule Obj))) :
    (rulesRows toString level rules).Perm
      ((comparisonsOf rules).map (comparisonRow toString level)
        ++ (groupsOf rules).flatMap (ruleRows toString level)) := by
  rw [rulesRows_eq]
  have hleaves : (comparisonsOf rules).flatMap (ruleRows toString level)
      = (comparisonsOf rules).map (comparisonRow toString level) := by
    rw [List.map_eq_flatMap]
    unfold List.flatMap
    congr 1
    apply List.map_congr_left
    intro r hr
    obtain ⟨-, hr⟩ := List.mem_filter.mp hr
    apply ruleRows_leaf
    simpa using hr
  rw [← hleaves, ← List.flatMap_append]
  apply List.Perm.flatMap_right
  refine ((List.filter_append_perm (fun r => r.condition.isSome)
    (rules.filterMap id)).symm).trans ?_
  exact List.perm_append_comm

/-- Only groups have CONDITION rows. -/
theorem conditions_rulesRows (level : Option Int)
    (rules : List (Option (QueryRule Obj))) :
    conditions (rulesRows toString level rules)
      = (groupsOf rules).flatMap fun g =>
          conditions (ruleRows toString level g) := by
  rw [rulesRows_eq]
  unfold groupsOf
  induction rules.filterMap id with
  | nil => rfl
  | cons r rs ih =>
      rw [List.flatMap_cons, conditions_append, ih, List.filter_cons]
      cases hr : r.condition with
      | none =>
          rw [ruleRows_leaf toString level hr]
          rfl
      | some c =>
          rw [Option.isSome_some, if_pos rfl, List.flatMap_cons]

/-- A group's CONDITION rows: its own, then its groups'. -/
theorem conditions_ruleRows (level : Option Int) {r : QueryRule Obj}
    (hr : r.condition.isSome) :
    conditions (ruleRows toString level r)
      = (currentLevel level + 1) :: conditions (rulesRows toString
          (some (currentLevel level)) (r.rules.getD [])) := by
  obtain ⟨c, hc⟩ := Option.isSome_iff_exists.mp hr
  rw [ruleRows_cons toString level hc]
  rfl

/-- Lists that all hold `b` are jointly without duplicates when there is
at most one of them. -/
private theorem nodup_flatMap_iff {α β : Type} {f : α → List β} {b : β}
    {xs : List α} (h : ∀ x ∈ xs, b ∈ f x) :
    (xs.flatMap f).Nodup
      ↔ xs.length ≤ 1 ∧ ∀ x ∈ xs, (f x).Nodup := by
  match xs with
  | [] => simp
  | [x] => simp
  | x :: y :: zs =>
      have hx := h x (by simp)
      have hy := h y (by simp)
      constructor
      · intro hnd
        rw [List.flatMap_cons, List.nodup_append] at hnd
        exact absurd rfl (hnd.2.2 b hx b
          (List.mem_flatMap.mpr ⟨y, by simp, hy⟩))
      · rintro ⟨hlen, -⟩
        simp at hlen

/-- One list of rules, given its groups. -/
private theorem nodup_conditions_of_groups (level : Option Int)
    {rules : List (Option (QueryRule Obj))}
    (h : ∀ g ∈ groupsOf rules,
      (conditions (ruleRows toString level g)).Nodup ↔ g.AtMostOneNested) :
    (conditions (rulesRows toString level rules)).Nodup
      ↔ AtMostOneNestedIn rules := by
  rw [conditions_rulesRows,
    nodup_flatMap_iff (b := currentLevel level + 1)]
  · unfold AtMostOneNestedIn
    exact and_congr_right fun _ =>
      forall_congr' fun g => forall_congr' fun hg => h g hg
  · intro g hg
    rw [conditions_ruleRows toString level (mem_groupsOf.mp hg).2]
    exact List.mem_cons_self ..

/-- The numbers of CONDITION rows, at a level and below. -/
theorem lt_of_mem_conditions {level : Option Int}
    {rules : List (Option (QueryRule Obj))} {n : Int}
    (h : n ∈ conditions (rulesRows toString level rules)) :
    currentLevel level < n := by
  rw [conditions_rulesRows] at h
  obtain ⟨g, hg, hn⟩ := List.mem_flatMap.mp h
  obtain ⟨row, hrow, rfl⟩ := List.mem_map.mp hn
  exact lt_group_of_mem toString (mem_groupsOf.mp hg).2 row
    (List.mem_filter.mp hrow).1

/-- The CONDITION rows of a rule have distinct numbers exactly when no
group in it holds two groups. -/
theorem nodup_conditions_ruleRows_iff (r : QueryRule Obj) :
    ∀ level, (conditions (ruleRows toString level r)).Nodup
      ↔ r.AtMostOneNested := by
  induction r using QueryRule.induct with
  | step r ih =>
      intro level
      rw [atMostOneNested_iff]
      by_cases hr : r.condition.isSome
      · rw [conditions_ruleRows toString level hr, List.nodup_cons,
          nodup_conditions_of_groups toString _ fun g hg =>
            ih g (mem_groupsOf.mp hg).1 _]
        have hown : currentLevel level + 1 ∉ conditions (rulesRows toString
            (some (currentLevel level)) (r.rules.getD [])) := by
          intro hmem
          have hlt := lt_of_mem_conditions toString hmem
          have : currentLevel (some (currentLevel level))
              = currentLevel level + 1 := rfl
          omega
        exact ⟨fun h _ => h.2, fun h => ⟨hown, h hr⟩⟩
      · have hc : r.condition = none := by simpa using hr
        rw [ruleRows_leaf toString level hc]
        exact ⟨fun _ h => absurd h hr, fun _ => List.nodup_nil⟩

/-- The same for a list of rules: the list itself counts as a group, since
its groups all have their CONDITION rows on the level below it. -/
theorem nodup_conditions_rulesRows_iff (level : Option Int)
    (rules : List (Option (QueryRule Obj))) :
    (conditions (rulesRows toString level rules)).Nodup
      ↔ AtMostOneNestedIn rules :=
  nodup_conditions_of_groups toString level fun g _ =>
    nodup_conditions_ruleRows_iff toString g level

-- ======================================================== the root's rows

theorem queryBuilderRows_eq (level : Option Int) (qb : QueryBuilder Obj) :
    queryBuilderRows toString qb level
      = ownRows level qb
        ++ rulesRows toString level (qb.rules.getD []) :=
  rfl

theorem mem_orderRows {level : Option Int} {row : DataRow}
    {orders : List (Option QueryOrder)} :
    ∀ {i : Nat}, row ∈ orderRows level i orders →
      ∃ j o, row = orderRow level j o := by
  induction orders with
  | nil => exact fun h => absurd h List.not_mem_nil
  | cons o orders ih =>
      intro i h
      cases o with
      | none => exact ih h
      | some o =>
          rcases List.mem_cons.mp h with h | h
          · exact ⟨i, o, h⟩
          · exact ih h

/-- A row a member has rows for shows that the member is there. -/
theorem exists_mem_of_mem_getD {α : Type} {row : DataRow}
    {o : Option α} {f : α → List DataRow} (h : row ∈ (o.map f).getD []) :
    ∃ a, o = some a ∧ row ∈ f a := by
  cases o with
  | none => exact absurd h List.not_mem_nil
  | some a => exact ⟨a, rfl, h⟩

/-- The rows only the root has are of the other types. -/
theorem mem_rootRows {level : Option Int} {qb : QueryBuilder Obj}
    {row : DataRow} (h : row ∈ rootRows level qb) :
    row.group = currentLevel level ∧ row.parentGroup = level
      ∧ row.type ∉ [.condition, .not, .rule] := by
  have hnumber : ∀ t n, row = numberRow t level n →
      t ∉ [.condition, .not, .rule] →
      row.group = currentLevel level ∧ row.parentGroup = level
        ∧ row.type ∉ [.condition, .not, .rule] := by
    rintro t n rfl ht
    exact ⟨rfl, rfl, ht⟩
  unfold rootRows at h
  simp only [List.mem_append] at h
  rcases h with ((h | h) | h) | h
  · obtain ⟨n, -, hrow⟩ := exists_mem_of_mem_getD h
    exact hnumber .count _ (List.mem_singleton.mp hrow) (by decide)
  · obtain ⟨j, o, rfl⟩ := mem_orderRows h
    refine ⟨rfl, rfl, ?_⟩
    show RowType.order ∉ _
    decide
  · obtain ⟨n, -, hrow⟩ := exists_mem_of_mem_getD h
    exact hnumber .offset _ (List.mem_singleton.mp hrow) (by decide)
  · obtain ⟨n, -, hrow⟩ := exists_mem_of_mem_getD h
    rcases List.mem_cons.mp hrow with hrow | hrow
    · exact hnumber .rowCount _ hrow (by decide)
    · exact hnumber .totalCount _ (List.mem_singleton.mp hrow) (by decide)

/-- The root's own rows: its condition, its NOT flag, or a row of another
type, all at the root's number. -/
theorem mem_ownRows {level : Option Int} {qb : QueryBuilder Obj}
    {row : DataRow} (h : row ∈ ownRows level qb) :
    row.group = currentLevel level ∧ row.parentGroup = level
      ∧ ((∃ c, qb.condition = some c ∧ row = conditionRow level c)
        ∨ (qb.not = some true ∧ row = notRow level)
        ∨ row.type ∉ [.condition, .not, .rule]) := by
  unfold ownRows at h
  simp only [List.mem_append] at h
  rcases h with (h | h) | h
  · obtain ⟨c, hc, hrow⟩ := exists_mem_of_mem_getD h
    obtain rfl := List.mem_singleton.mp hrow
    exact ⟨rfl, rfl, Or.inl ⟨c, hc, rfl⟩⟩
  · split at h
    case isFalse => exact absurd h List.not_mem_nil
    case isTrue hnot =>
      obtain rfl := List.mem_singleton.mp h
      exact ⟨rfl, rfl, Or.inr (Or.inl ⟨hnot, rfl⟩)⟩
  · split at h
    case isFalse => exact absurd h List.not_mem_nil
    case isTrue =>
      obtain ⟨hgroup, hparent, htype⟩ := mem_rootRows h
      exact ⟨hgroup, hparent, Or.inr (Or.inr htype)⟩

/-- The root has a CONDITION row for its condition and no other. -/
theorem conditions_ownRows (level : Option Int) (qb : QueryBuilder Obj) :
    conditions (ownRows level qb)
      = (qb.condition.map fun _ => [currentLevel level]).getD [] := by
  have hroot : conditions (rootRows level qb) = [] := by
    unfold conditions
    rw [List.map_eq_nil_iff, List.filter_eq_nil_iff]
    intro row hrow htype
    have hother := (mem_rootRows hrow).2.2
    rw [of_decide_eq_true htype] at hother
    exact hother (by decide)
  unfold ownRows
  rw [conditions_append, conditions_append]
  have hnot : conditions (if qb.not = some true then [notRow level] else [])
      = [] := by
    split <;> rfl
  have hrest : conditions (if level = none then rootRows level qb else [])
      = [] := by
    split
    · exact hroot
    · rfl
  rw [hnot, hrest, List.append_nil, List.append_nil]
  cases qb.condition <;> rfl

/-- The CONDITION rows of a query have distinct numbers exactly when no
group of it holds two groups. -/
theorem nodup_conditions_iff (qb : QueryBuilder Obj) :
    (conditions (queryBuilderRows toString qb none)).Nodup
      ↔ AtMostOneNestedIn (qb.rules.getD []) := by
  rw [queryBuilderRows_eq, conditions_append, conditions_ownRows,
    ← nodup_conditions_rulesRows_iff toString none]
  cases qb.condition with
  | none => exact Iff.rfl
  | some c =>
      show (_ :: conditions _).Nodup ↔ _
      rw [List.nodup_cons]
      refine ⟨fun h => h.2, fun h => ⟨fun hmem => ?_, h⟩⟩
      have hlt := lt_of_mem_conditions toString hmem
      omega

-- ========================================================== tagged rows

theorem levelAt_cons (i : Nat) (node : Node) :
    levelAt (i :: node) = some (currentLevel (levelAt node)) := by
  cases node with
  | nil => rfl
  | cons j node =>
      show some (((j :: node).length : Int) + 1)
        = some ((node.length : Int) + 1 + 1)
      rw [List.length_cons]
      rfl

theorem rulesRowsAt_cons (node : Node) (n : Nat)
    (e : Option (QueryRule Obj)) (es : List (Option (QueryRule Obj))) :
    rulesRowsAt toString node n (e :: es)
      = (e.map fun r => r.rowsAt toString node n).getD []
        ++ rulesRowsAt toString node (n + 1) es := by
  cases e <;> rfl

/-- A tagged row of a list of rules is one of the rule at some index, tagged
for that index. -/
theorem mem_rulesRowsAt {x : Node × DataRow} {node : Node}
    {rules : List (Option (QueryRule Obj))} :
    ∀ {n : Nat}, x ∈ rulesRowsAt toString node n rules
      ↔ ∃ (i : Nat) (q : QueryRule Obj), rules[i]? = some (some q)
        ∧ x ∈ q.rowsAt toString node (n + i) := by
  induction rules with
  | nil =>
      intro n
      exact ⟨fun h => absurd h List.not_mem_nil,
        fun ⟨i, q, hq, _⟩ => nomatch hq⟩
  | cons e es ih =>
      intro n
      rw [rulesRowsAt_cons, List.mem_append, ih]
      constructor
      · rintro (h | ⟨i, q, hq, h⟩)
        · cases e with
          | none => exact absurd h List.not_mem_nil
          | some r => exact ⟨0, r, rfl, h⟩
        · refine ⟨i + 1, q, hq, ?_⟩
          rwa [Nat.add_right_comm] at h
      · rintro ⟨i, q, hq, h⟩
        cases i with
        | zero =>
            obtain rfl : e = some q := Option.some.inj hq
            exact Or.inl h
        | succ i =>
            refine Or.inr ⟨i, q, hq, ?_⟩
            rwa [Nat.add_right_comm]

private theorem map_snd_rulesRowsAt (node : Node)
    {rules : List (Option (QueryRule Obj))}
    (h : ∀ q, some q ∈ rules → ∀ i,
      (q.rowsAt toString node i).map Prod.snd
        = ruleRows toString (levelAt node) q) :
    ∀ n, (rulesRowsAt toString node n rules).map Prod.snd
      = rulesRows toString (levelAt node) rules := by
  induction rules with
  | nil => exact fun _ => rfl
  | cons e es ih =>
      intro n
      rw [rulesRowsAt_cons, List.map_append, rulesRows,
        ih fun q hq => h q (List.mem_cons_of_mem _ hq)]
      cases e with
      | none => rfl
      | some q =>
          show (q.rowsAt toString node n).map Prod.snd ++ _ = _
          rw [h q (List.mem_cons_self ..)]
          rfl

/-- Forgetting the tags of a rule's rows. -/
theorem map_snd_rowsAt_rule (r : QueryRule Obj) :
    ∀ node i, (r.rowsAt toString node i).map Prod.snd
      = ruleRows toString (levelAt node) r := by
  induction r using QueryRule.induct with
  | step r ih =>
      intro node i
      cases hc : r.condition with
      | none =>
          rw [rowsAt_leaf toString hc, ruleRows_leaf toString _ hc]
          rfl
      | some c =>
          rw [rowsAt_group toString hc, ruleRows_cons toString _ hc,
            List.map_cons, ← levelAt_cons i node,
            map_snd_rulesRowsAt toString _ fun q hq => ih q hq _]

/-- Forgetting the tags leaves the rows the method appends. -/
theorem map_snd_rowsAt (qb : QueryBuilder Obj) :
    (qb.rowsAt toString).map Prod.snd
      = queryBuilderRows toString qb none := by
  unfold QueryBuilder.rowsAt
  rw [List.map_append, List.map_map, queryBuilderRows_eq,
    map_snd_rulesRowsAt toString [] fun q _ =>
      map_snd_rowsAt_rule toString q []]
  congr 1
  exact List.map_id _

/-- A rule's rows carry the numbers of the node they come from. -/
theorem numbers_of_mem_rowsAt {x : Node × DataRow} (r : QueryRule Obj) :
    ∀ {node i}, x ∈ r.rowsAt toString node i →
      x.2.group = currentLevel (levelAt x.1)
        ∧ x.2.parentGroup = levelAt x.1 := by
  induction r using QueryRule.induct with
  | step r ih =>
      intro node i hx
      cases hc : r.condition with
      | none =>
          rw [rowsAt_leaf toString hc, List.mem_singleton] at hx
          rw [hx]
          exact ⟨rfl, rfl⟩
      | some c =>
          rw [rowsAt_group toString hc] at hx
          rcases List.mem_cons.mp hx with rfl | hx
          · exact ⟨rfl, rfl⟩
          · obtain ⟨j, q, hq, hx⟩ := (mem_rulesRowsAt toString).mp hx
            exact ih q (List.mem_of_getElem? hq) hx

/-- Every node below the one a rule stands in has a CONDITION row: the row
that is tagged with it first. -/
theorem exists_condition_row {x : Node × DataRow} (r : QueryRule Obj) :
    ∀ {node i}, x ∈ r.rowsAt toString node i → x.1 ≠ node →
      ∃ y ∈ r.rowsAt toString node i,
        y.2.type = .condition ∧ y.1 = x.1 := by
  induction r using QueryRule.induct with
  | step r ih =>
      intro node i hx hne
      cases hc : r.condition with
      | none =>
          rw [rowsAt_leaf toString hc, List.mem_singleton] at hx
          rw [hx] at hne
          exact absurd rfl hne
      | some c =>
          rw [rowsAt_group toString hc] at hx ⊢
          by_cases hself : x.1 = i :: node
          · exact ⟨_, List.mem_cons_self .., rfl, hself.symm⟩
          · rcases List.mem_cons.mp hx with rfl | hx
            · exact absurd rfl hself
            · obtain ⟨j, q, hq, hx⟩ := (mem_rulesRowsAt toString).mp hx
              obtain ⟨y, hy, htype, heq⟩ :=
                ih q (List.mem_of_getElem? hq) hx hself
              exact ⟨y, List.mem_cons_of_mem _
                ((mem_rulesRowsAt toString).mpr ⟨j, q, hq, hy⟩),
                htype, heq⟩

/-- The nodes of the CONDITION rows. -/
def conditionNodes (rows : List (Node × DataRow)) : List Node :=
  (rows.filter fun x => x.2.type = .condition).map Prod.fst

theorem conditionNodes_append (xs ys : List (Node × DataRow)) :
    conditionNodes (xs ++ ys) = conditionNodes xs ++ conditionNodes ys := by
  unfold conditionNodes
  rw [List.filter_append, List.map_append]

/-- The groups in the rule at index `i` are nodes below `i :: node`. -/
theorem suffix_of_mem_conditionNodes {p : Node} (r : QueryRule Obj) :
    ∀ {node i}, p ∈ conditionNodes (r.rowsAt toString node i) →
      (i :: node) <:+ p := by
  induction r using QueryRule.induct with
  | step r ih =>
      intro node i hp
      obtain ⟨x, hx, rfl⟩ := List.mem_map.mp hp
      obtain ⟨hx, htype⟩ := List.mem_filter.mp hx
      cases hc : r.condition with
      | none =>
          rw [rowsAt_leaf toString hc, List.mem_singleton] at hx
          rw [hx] at htype
          exact absurd (of_decide_eq_true htype) (fun h => nomatch h)
      | some c =>
          rw [rowsAt_group toString hc] at hx
          rcases List.mem_cons.mp hx with rfl | hx
          · exact List.suffix_refl _
          · obtain ⟨j, q, hq, hx⟩ := (mem_rulesRowsAt toString).mp hx
            have hsub := ih q (List.mem_of_getElem? hq)
              (List.mem_map_of_mem (List.mem_filter.mpr ⟨hx, htype⟩))
            exact (List.suffix_cons _ _).trans hsub

/-- A node lies below one child of another only. -/
private theorem eq_of_suffix {i j : Nat} {node p : Node}
    (hi : (i :: node) <:+ p) (hj : (j :: node) <:+ p) : i = j := by
  have h := List.suffix_of_suffix_length_le hi hj (by simp)
  have heq := h.eq_of_length (by simp)
  exact (List.cons.inj heq).1

private theorem nodup_conditionNodes_rules {node : Node}
    {rules : List (Option (QueryRule Obj))}
    (h : ∀ q, some q ∈ rules → ∀ i,
      (conditionNodes (q.rowsAt toString node i)).Nodup) :
    ∀ n, (conditionNodes (rulesRowsAt toString node n rules)).Nodup := by
  induction rules with
  | nil => exact fun _ => List.nodup_nil
  | cons e es ih =>
      intro n
      have hrest := ih (fun q hq => h q (List.mem_cons_of_mem _ hq)) (n + 1)
      rw [rulesRowsAt_cons, conditionNodes_append]
      cases e with
      | none => exact hrest
      | some q =>
          refine List.nodup_append.mpr
            ⟨h q (List.mem_cons_self ..) n, hrest, ?_⟩
          intro p hp p' hp' heq
          obtain ⟨x, hx, rfl⟩ := List.mem_map.mp hp'
          obtain ⟨hx, htype⟩ := List.mem_filter.mp hx
          obtain ⟨j, q', hq', hx⟩ := (mem_rulesRowsAt toString).mp hx
          have hleft := suffix_of_mem_conditionNodes toString q hp
          have hright := suffix_of_mem_conditionNodes toString q'
            (List.mem_map_of_mem (List.mem_filter.mpr ⟨hx, htype⟩))
          rw [heq] at hleft
          have := eq_of_suffix hleft hright
          omega

/-- Every group has one CONDITION row. -/
theorem nodup_conditionNodes (r : QueryRule Obj) :
    ∀ node i, (conditionNodes (r.rowsAt toString node i)).Nodup := by
  induction r using QueryRule.induct with
  | step r ih =>
      intro node i
      cases hc : r.condition with
      | none =>
          rw [rowsAt_leaf toString hc]
          exact List.nodup_nil
      | some c =>
          rw [rowsAt_group toString hc]
          refine List.nodup_cons.mpr
            ⟨?_, nodup_conditionNodes_rules toString (fun q hq => ih q hq _) 0⟩
          intro hmem
          obtain ⟨x, hx, heq⟩ := List.mem_map.mp hmem
          obtain ⟨hx, htype⟩ := List.mem_filter.mp hx
          obtain ⟨j, q, hq, hx⟩ := (mem_rulesRowsAt toString).mp hx
          have hsub := suffix_of_mem_conditionNodes toString q
            (List.mem_map_of_mem (List.mem_filter.mpr ⟨hx, htype⟩))
          have hlen := hsub.length_le
          rw [heq] at hlen
          simp only [List.length_cons] at hlen
          omega

-- =============================================== when groups are told apart

theorem currentLevel_levelAt (node : Node) :
    currentLevel (levelAt node) = node.length + 1 := by
  cases node <;> rfl

/-- Every row of a query carries the numbers of the node it comes from. -/
theorem numbers_of_mem (qb : QueryBuilder Obj) {x : Node × DataRow}
    (hx : x ∈ qb.rowsAt toString) :
    x.2.group = currentLevel (levelAt x.1)
      ∧ x.2.parentGroup = levelAt x.1 := by
  rcases List.mem_append.mp hx with hx | hx
  · obtain ⟨row, hrow, rfl⟩ := List.mem_map.mp hx
    exact ⟨(mem_ownRows hrow).1, (mem_ownRows hrow).2.1⟩
  · obtain ⟨i, q, -, hx⟩ := (mem_rulesRowsAt toString).mp hx
    exact numbers_of_mem_rowsAt toString q hx

/-- Every nested group a row comes from has a CONDITION row. -/
theorem exists_condition_row_of_mem (qb : QueryBuilder Obj)
    {x : Node × DataRow} (hx : x ∈ qb.rowsAt toString) (hne : x.1 ≠ []) :
    ∃ y ∈ qb.rowsAt toString, y.2.type = .condition ∧ y.1 = x.1 := by
  rcases List.mem_append.mp hx with hx | hx
  · obtain ⟨row, -, rfl⟩ := List.mem_map.mp hx
    exact absurd rfl hne
  · obtain ⟨i, q, hq, hx⟩ := (mem_rulesRowsAt toString).mp hx
    obtain ⟨y, hy, htype, heq⟩ := exists_condition_row toString q hx hne
    exact ⟨y, List.mem_append_right _
      ((mem_rulesRowsAt toString).mpr ⟨i, q, hq, hy⟩), htype, heq⟩

/-- Every group of a query has one CONDITION row. -/
theorem nodup_conditionNodes_of_query (qb : QueryBuilder Obj) :
    (conditionNodes (qb.rowsAt toString)).Nodup := by
  have hrules : (conditionNodes
      (rulesRowsAt toString [] 0 (qb.rules.getD []))).Nodup :=
    nodup_conditionNodes_rules toString
      (fun q _ => nodup_conditionNodes toString q []) 0
  have hown : conditionNodes ((ownRows none qb).map fun row => ([], row))
      = (conditions (ownRows none qb)).map fun _ => [] := by
    unfold conditionNodes conditions
    rw [List.filter_map, List.map_map, List.map_map]
    rfl
  unfold QueryBuilder.rowsAt
  rw [conditionNodes_append, hown, conditions_ownRows]
  cases qb.condition with
  | none => exact hrules
  | some c =>
      refine List.nodup_cons.mpr ⟨fun hmem => ?_, hrules⟩
      obtain ⟨x, hx, heq⟩ := List.mem_map.mp hmem
      obtain ⟨hx, htype⟩ := List.mem_filter.mp hx
      obtain ⟨j, q, -, hx⟩ := (mem_rulesRowsAt toString).mp hx
      have hsub := suffix_of_mem_conditionNodes toString q
        (List.mem_map_of_mem (List.mem_filter.mpr ⟨hx, htype⟩))
      rw [heq] at hsub
      exact absurd (List.suffix_nil.mp hsub) (List.cons_ne_nil _ _)

/-- The group numbers name the groups exactly when the CONDITION rows have
distinct numbers. Forwards, two CONDITION rows with one number come from
one group, which has one; backwards, the groups of two rows with one
number have CONDITION rows with that number. -/
theorem groupsIdentified_iff (qb : QueryBuilder Obj) :
    GroupsIdentified (qb.rowsAt toString)
      ↔ (conditions (queryBuilderRows toString qb none)).Nodup := by
  -- the CONDITION rows, by node and by number
  have hnodes := nodup_conditionNodes_of_query toString qb
  rw [← map_snd_rowsAt]
  unfold conditions
  rw [List.filter_map, List.map_map]
  unfold conditionNodes at hnodes
  have hnumber := fun x (hx : x ∈ qb.rowsAt toString) =>
    numbers_of_mem toString qb hx
  constructor
  · intro h
    rw [List.nodup_iff_pairwise_ne, List.pairwise_map] at hnodes ⊢
    refine hnodes.imp_of_mem fun {x y} hx hy hne heq => hne ?_
    obtain ⟨hx, hxtype⟩ := List.mem_filter.mp hx
    obtain ⟨hy, hytype⟩ := List.mem_filter.mp hy
    exact (h.group x hx y hy (Or.inl (of_decide_eq_true hxtype))
      (Or.inl (of_decide_eq_true hytype))).mp heq
  · intro hnd
    refine ⟨fun x hx y hy _ _ => ⟨fun heq => ?_, fun heq => ?_⟩,
      fun x hx _ hroot => ?_, fun x hx y hy _ _ ⟨i, hi⟩ => ?_⟩
    · have hlen : x.1.length = y.1.length := by
        rw [(hnumber x hx).1, (hnumber y hy).1, currentLevel_levelAt,
          currentLevel_levelAt] at heq
        omega
      by_cases hroot : x.1 = []
      · rw [hroot] at hlen ⊢
        exact (List.length_eq_zero_iff.mp hlen.symm).symm
      · have hroot' : y.1 ≠ [] := by
          intro hy'
          rw [hy'] at hlen
          exact hroot (List.length_eq_zero_iff.mp hlen)
        obtain ⟨a, ha, hatype, hax⟩ :=
          exists_condition_row_of_mem toString qb hx hroot
        obtain ⟨b, hb, hbtype, hby⟩ :=
          exists_condition_row_of_mem toString qb hy hroot'
        have hab : a = b := by
          apply List.inj_on_of_nodup_map hnd
            (List.mem_filter.mpr ⟨ha, decide_eq_true hatype⟩)
            (List.mem_filter.mpr ⟨hb, decide_eq_true hbtype⟩)
          show a.2.group = b.2.group
          rw [(hnumber a ha).1, (hnumber b hb).1, hax, hby,
            ← (hnumber x hx).1, heq, (hnumber y hy).1]
        rw [← hax, hab, hby]
    · rw [(hnumber x hx).1, (hnumber y hy).1, heq]
    · rw [(hnumber x hx).2, hroot]
      rfl
    · rw [(hnumber x hx).2, (hnumber y hy).1, hi, levelAt_cons]

-- ================================================ reading a chain back

/-- Which part of a group's rows a row belongs to: the group's own rows,
its comparisons', or its groups'. -/
private def part (level : Option Int) (row : DataRow) : Nat :=
  if currentLevel level < row.group then 2
  else if row.type = .rule then 1 else 0

private theorem filter_const {α : Type} {f : α → Nat} {k : Nat}
    {xs : List α} (h : ∀ x ∈ xs, f x = k) (n : Nat) :
    xs.filter (fun x => f x = n) = if k = n then xs else [] := by
  split
  case isTrue hk =>
    rw [List.filter_eq_self]
    exact fun x hx => decide_eq_true ((h x hx).trans hk)
  case isFalse hk =>
    rw [List.filter_eq_nil_iff]
    exact fun x hx heq => hk ((h x hx).symm.trans (of_decide_eq_true heq))

/-- The rows of a group, part by part. -/
private theorem filter_part {level : Option Int} {own : List DataRow}
    (hown : ∀ row ∈ own, row.group = currentLevel level
      ∧ row.type ≠ .rule)
    (rules : List (Option (QueryRule Obj))) (n : Nat) :
    ((own ++ rulesRows toString level rules).filter
        fun row => part level row = n).Perm
      ((if 0 = n then own else [])
        ++ ((if 1 = n then
            (comparisonsOf rules).map (comparisonRow toString level)
          else [])
        ++ (if 2 = n then
            (groupsOf rules).flatMap (ruleRows toString level)
          else []))) := by
  have hperm := ((rulesRows_perm toString level rules).append_left own).filter
    fun row => part level row = n
  rw [List.filter_append, List.filter_append, List.filter_append] at hperm
  rw [List.filter_append]
  have h0 : ∀ row ∈ own, part level row = 0 := by
    intro row hrow
    obtain ⟨hgroup, htype⟩ := hown row hrow
    unfold part
    rw [if_neg (by omega), if_neg htype]
  have h1 : ∀ row ∈ (comparisonsOf rules).map (comparisonRow toString level),
      part level row = 1 := by
    intro row hrow
    obtain ⟨r, -, rfl⟩ := List.mem_map.mp hrow
    obtain ⟨hgroup, htype⟩ := comparisonRow_group toString level r
    unfold part
    rw [if_neg (by omega), if_pos htype]
  have h2 : ∀ row ∈ (groupsOf rules).flatMap (ruleRows toString level),
      part level row = 2 := by
    intro row hrow
    obtain ⟨g, hg, hrow⟩ := List.mem_flatMap.mp hrow
    unfold part
    rw [if_pos (lt_group_of_mem toString (mem_groupsOf.mp hg).2 row hrow)]
  rw [filter_const h0, filter_const h1, filter_const h2] at hperm
  rwa [filter_const h0]

/-- Rows of two groups, permuted, are permuted part by part: the part a row
belongs to can be told from the row. -/
theorem parts_perm {level : Option Int} {own own' : List DataRow}
    (hown : ∀ row ∈ own, row.group = currentLevel level
      ∧ row.type ≠ .rule)
    (hown' : ∀ row ∈ own', row.group = currentLevel level
      ∧ row.type ≠ .rule)
    {rules rules' : List (Option (QueryRule Obj))}
    (h : (own ++ rulesRows toString level rules).Perm
      (own' ++ rulesRows toString level rules')) :
    own.Perm own'
      ∧ ((comparisonsOf rules).map (comparisonRow toString level)).Perm
        ((comparisonsOf rules').map (comparisonRow toString level))
      ∧ ((groupsOf rules).flatMap (ruleRows toString level)).Perm
        ((groupsOf rules').flatMap (ruleRows toString level)) := by
  have hpart := fun n =>
    ((filter_part toString hown rules n).symm.trans
      (h.filter fun row => part level row = n)).trans
      (filter_part toString hown' rules' n)
  exact ⟨by simpa using hpart 0, by simpa using hpart 1,
    by simpa using hpart 2⟩

/-- The values of a list of rules: its comparisons' and its groups', in
some order. -/
theorem denoteAll_perm (v : Comparison → Bool)
    (rules : List (Option (QueryRule Obj))) :
    (denoteAll toString v rules).Perm
      (((comparisonsOf rules).map fun r => v (r.comparison toString))
        ++ (groupsOf rules).map (QueryRule.denote toString v)) := by
  have hleaves : (comparisonsOf rules).map (QueryRule.denote toString v)
      = (comparisonsOf rules).map fun r => v (r.comparison toString) := by
    apply List.map_congr_left
    intro r hr
    obtain ⟨-, hr⟩ := List.mem_filter.mp hr
    apply denote_leaf
    simpa using hr
  unfold denoteAll
  rw [← hleaves, ← List.map_append]
  apply List.Perm.map
  refine ((List.filter_append_perm (fun r => r.condition.isSome)
    (rules.filterMap id)).symm).trans ?_
  exact List.perm_append_comm

/-- Two lists of rules with the same comparison rows and, if they hold a
group, groups of the same meaning have the same values. -/
private theorem denoteAll_perm_of_parts (v : Comparison → Bool)
    {level : Option Int} {rules rules' : List (Option (QueryRule Obj))}
    (hcomparisons :
      ((comparisonsOf rules).map (comparisonRow toString level)).Perm
        ((comparisonsOf rules').map (comparisonRow toString level)))
    (hgroups : (groupsOf rules).map (QueryRule.denote toString v)
      = (groupsOf rules').map (QueryRule.denote toString v)) :
    (denoteAll toString v rules).Perm (denoteAll toString v rules') := by
  refine (denoteAll_perm toString v rules).trans
    (List.Perm.trans ?_ (denoteAll_perm toString v rules').symm)
  rw [hgroups]
  apply List.Perm.append_right
  have hvalues := hcomparisons.map fun row => v (rowComparison row)
  rw [List.map_map, List.map_map] at hvalues
  exact hvalues

/-- A condition's row determines it. -/
theorem conditionRow_inj {level : Option Int}
    {c d : QueryBuilderCondition}
    (h : conditionRow level c = conditionRow level d) : c = d := by
  have htext : conditionText c = conditionText d := congrArg DataRow.field h
  revert htext
  cases c <;> cases d <;> decide

/-- A group has a row. -/
theorem ruleRows_ne_nil {level : Option Int} {g : QueryRule Obj}
    (h : g.condition.isSome) : ruleRows toString level g ≠ [] := by
  obtain ⟨c, hc⟩ := Option.isSome_iff_exists.mp h
  rw [ruleRows_cons toString level hc]
  exact List.cons_ne_nil _ _

/-- Lists holding at most one group each, with permuted rows, have groups
of the same meaning if groups with permuted rows do. -/
private theorem denote_groups_eq (v : Comparison → Bool)
    {level : Option Int} {rules rules' : List (Option (QueryRule Obj))}
    (hlen : (groupsOf rules).length ≤ 1)
    (hlen' : (groupsOf rules').length ≤ 1)
    (heq : ∀ g ∈ groupsOf rules, ∀ g' ∈ groupsOf rules',
      (ruleRows toString level g).Perm (ruleRows toString level g') →
      g.denote toString v = g'.denote toString v)
    (h : ((groupsOf rules).flatMap (ruleRows toString level)).Perm
      ((groupsOf rules').flatMap (ruleRows toString level))) :
    (groupsOf rules).map (QueryRule.denote toString v)
      = (groupsOf rules').map (QueryRule.denote toString v) := by
  have hne : ∀ es, ∀ g ∈ groupsOf es, ruleRows toString level g ≠ [] :=
    fun es g hg => ruleRows_ne_nil toString (mem_groupsOf.mp hg).2
  have hne₁ := hne rules
  have hne₂ := hne rules'
  revert hlen hlen' heq h hne₁ hne₂
  generalize groupsOf rules = gs
  generalize groupsOf rules' = gs'
  intro hlen hlen' heq h hne₁ hne₂
  match gs, gs' with
  | [], [] => rfl
  | [], [g] =>
      rw [List.flatMap_singleton] at h
      exact absurd h.symm.eq_nil (hne₂ g (List.mem_singleton_self g))
  | [g], [] =>
      rw [List.flatMap_singleton] at h
      exact absurd h.eq_nil (hne₁ g (List.mem_singleton_self g))
  | [g], [g'] =>
      rw [List.flatMap_singleton, List.flatMap_singleton] at h
      rw [List.map_singleton, List.map_singleton,
        heq g (List.mem_singleton_self g) g' (List.mem_singleton_self g') h]
  | _ :: _ :: _, _ => simp at hlen
  | _, _ :: _ :: _ => simp at hlen'

/-- Groups in which no group holds two groups have the same meaning if their
rows are the same up to order. By induction on the first: its own row
gives the condition, and the parts below give the values. -/
theorem denote_eq_of_perm (v : Comparison → Bool) (r : QueryRule Obj) :
    ∀ {level : Option Int} {r' : QueryRule Obj}, r.condition.isSome →
      r'.condition.isSome → r.AtMostOneNested → r'.AtMostOneNested →
      (ruleRows toString level r).Perm (ruleRows toString level r') →
      r.denote toString v = r'.denote toString v := by
  induction r using QueryRule.induct with
  | step r ih =>
      intro level r' hr hr' hone hone' h
      obtain ⟨c, hc⟩ := Option.isSome_iff_exists.mp hr
      obtain ⟨c', hc'⟩ := Option.isSome_iff_exists.mp hr'
      obtain ⟨hlen, hnested⟩ := (atMostOneNested_iff r).mp hone hr
      obtain ⟨hlen', hnested'⟩ := (atMostOneNested_iff r').mp hone' hr'
      rw [ruleRows_cons toString level hc, ruleRows_cons toString level hc']
        at h
      have hown : ∀ d, ∀ row ∈ [conditionRow (some (currentLevel level)) d],
          row.group = currentLevel (some (currentLevel level))
            ∧ row.type ≠ .rule := by
        intro d row hrow
        rw [List.mem_singleton.mp hrow]
        exact ⟨rfl, fun h => nomatch h⟩
      obtain ⟨hconditions, hcomparisons, hgroups⟩ :=
        parts_perm toString (hown c) (hown c') h
      have hcc : c = c' := conditionRow_inj
        (List.singleton_perm_singleton.mp hconditions)
      have hvalues := denoteAll_perm_of_parts toString v hcomparisons
        (denote_groups_eq toString v hlen hlen'
          (fun g hg g' hg' => ih g (mem_groupsOf.mp hg).1
            (mem_groupsOf.mp hg).2 (mem_groupsOf.mp hg').2
            (hnested g hg) (hnested' g' hg'))
          hgroups)
      rw [denote_group toString v hr, denote_group toString v hr', hc, hc',
        hcc]
      exact Connective.combine_perm _ hvalues

/-- Own rows of two roots, permuted: the same condition and NOT flag. -/
theorem root_eq_of_perm {qb qb' : QueryBuilder Obj}
    (h : (ownRows none qb).Perm (ownRows none qb')) :
    qb.condition = qb'.condition
      ∧ (qb.not = some true ↔ qb'.not = some true) := by
  have hcondition : ∀ {p q : QueryBuilder Obj},
      (ownRows none p).Perm (ownRows none q) →
      ∀ c, p.condition = some c → q.condition = some c := by
    intro p q hpq c hc
    have hmem : conditionRow none c ∈ ownRows none p := by
      unfold ownRows
      rw [hc]
      exact List.mem_append_left _
        (List.mem_append_left _ (List.mem_singleton_self _))
    obtain ⟨-, -, hrow⟩ := mem_ownRows (hpq.mem_iff.mp hmem)
    rcases hrow with ⟨d, hd, hrow⟩ | ⟨-, hrow⟩ | htype
    · rw [hd, conditionRow_inj hrow]
    · exact absurd (congrArg DataRow.type hrow) (fun h => nomatch h)
    · exact absurd (List.mem_cons_self ..) htype
  have hnot : ∀ {p q : QueryBuilder Obj},
      (ownRows none p).Perm (ownRows none q) →
      p.not = some true → q.not = some true := by
    intro p q hpq hp
    have hmem : notRow none ∈ ownRows none p := by
      unfold ownRows
      rw [if_pos hp]
      exact List.mem_append_left _
        (List.mem_append_right _ (List.mem_singleton_self _))
    obtain ⟨-, -, hrow⟩ := mem_ownRows (hpq.mem_iff.mp hmem)
    rcases hrow with ⟨d, -, hrow⟩ | ⟨hq, -⟩ | htype
    · exact absurd (congrArg DataRow.type hrow) (fun h => nomatch h)
    · exact hq
    · exact absurd (List.mem_cons_of_mem _ (List.mem_cons_self ..)) htype
  refine ⟨?_, hnot h, hnot h.symm⟩
  cases hc : qb.condition with
  | some c => exact (hcondition h c hc).symm
  | none =>
      cases hc' : qb'.condition with
      | none => rfl
      | some c =>
          rw [hcondition h.symm c hc'] at hc
          exact absurd hc (fun h => nomatch h)

/-- Queries in which no group holds two groups denote the same function if
they append the same rows up to order. -/
theorem denote_query_eq_of_perm (v : Comparison → Bool)
    {qb qb' : QueryBuilder Obj}
    (hone : AtMostOneNestedIn (qb.rules.getD []))
    (hone' : AtMostOneNestedIn (qb'.rules.getD []))
    (h : (queryBuilderRows toString qb none).Perm
      (queryBuilderRows toString qb' none)) :
    qb.denote toString v = qb'.denote toString v := by
  have hown : ∀ q : QueryBuilder Obj, ∀ row ∈ ownRows none q,
      row.group = currentLevel none ∧ row.type ≠ .rule := by
    intro q row hrow
    obtain ⟨hgroup, -, hrow⟩ := mem_ownRows hrow
    refine ⟨hgroup, fun htype => ?_⟩
    rcases hrow with ⟨c, -, rfl⟩ | ⟨-, rfl⟩ | hother
    · exact nomatch htype
    · exact nomatch htype
    · rw [htype] at hother
      exact hother (by decide)
  rw [queryBuilderRows_eq, queryBuilderRows_eq] at h
  obtain ⟨hroot, hcomparisons, hgroups⟩ :=
    parts_perm toString (hown qb) (hown qb') h
  obtain ⟨hcondition, hnot⟩ := root_eq_of_perm hroot
  have hflag : (qb.not == some true) = (qb'.not == some true) := by
    rw [Bool.eq_iff_iff, beq_iff_eq, beq_iff_eq]
    exact hnot
  have hvalues := denoteAll_perm_of_parts toString v hcomparisons
    (denote_groups_eq toString v hone.1 hone'.1
      (fun g hg g' hg' => denote_eq_of_perm toString v g
        (mem_groupsOf.mp hg).2 (mem_groupsOf.mp hg').2
        (hone.2 g hg) (hone'.2 g' hg'))
      hgroups)
  unfold QueryBuilder.denote
  rw [hflag, hcondition, Connective.combine_perm _ hvalues]

-- ===================================================== the exact condition

/-- Converted into an empty table, a query leaves rows whose group numbers
name its groups, and that determine its Boolean function whatever their
order, exactly when no group of the query holds two groups. The other
query in the statement is any: that its groups form a chain, too, follows
from its rows. -/
theorem rows_identify_groups_iff (qb : QueryBuilder Obj) :
    (∃ table, queryBuilderToDataTable toString qb (some {}) none
          = .ok (some table)
        ∧ table.rows = (qb.rowsAt toString).map Prod.snd
        ∧ GroupsIdentified (qb.rowsAt toString)
        ∧ ∀ qb' table', queryBuilderToDataTable toString qb' (some {}) none
              = .ok (some table') →
            table.rows.Perm table'.rows →
            ∀ v, qb.denote toString v = qb'.denote toString v)
      ↔ AtMostOneNestedIn (qb.rules.getD []) := by
  rw [← nodup_conditions_iff toString qb]
  simp only [queryBuilderToDataTable_some, List.nil_append]
  constructor
  · rintro ⟨table, -, -, hgroups, -⟩
    exact (groupsIdentified_iff toString qb).mp hgroups
  · intro hnd
    refine ⟨_, rfl, (map_snd_rowsAt toString qb).symm,
      (groupsIdentified_iff toString qb).mpr hnd, ?_⟩
    intro qb' table' htable hperm v
    obtain rfl := Option.some.inj (Except.ok.inj htable)
    -- distinct numbers do not depend on the order of the rows
    have hnd' : (conditions (queryBuilderRows toString qb' none)).Nodup :=
      (((hperm.filter _).map _).nodup_iff).mp hnd
    exact denote_query_eq_of_perm toString v
      ((nodup_conditions_iff toString qb).mp hnd)
      ((nodup_conditions_iff toString qb').mp hnd') hperm

/-- `field = '1'`, as a rule. -/
private def isOne (field : Str) : QueryRule Obj where
  field := some field
  operator := some .equals
  value1 := some (.string (str "1"))
  value2 := none
  rules := none
  condition := none

/-- `p OR q`, as a rule. -/
private def either (p q : Str) : QueryRule Obj where
  field := none
  operator := none
  value1 := none
  value2 := none
  rules := some [some (isOne p), some (isOne q)]
  condition := some .or

/-- `(p OR q) AND (r OR s)`. -/
private def twoGroups (p q r s : Str) : QueryBuilder Obj where
  condition := some .and
  rules := some [some (either p q), some (either r s)]

/-- `(a OR b) AND (c OR d)` and `(a OR c) AND (b OR d)` append the same
rows in another order, and differ where only `a` and `b` hold; either
puts its two groups under one number. -/
theorem sibling_groups_collide :
    ∃ table table',
      queryBuilderToDataTable (fun _ => [])
          (twoGroups (str "a") (str "b") (str "c") (str "d")) (some {}) none
        = .ok (some table)
      ∧ queryBuilderToDataTable (fun _ => [])
          (twoGroups (str "a") (str "c") (str "b") (str "d")) (some {}) none
        = .ok (some table')
      ∧ table.rows.Perm table'.rows
      ∧ (twoGroups (str "a") (str "b") (str "c") (str "d")).denote
          (fun _ => []) (fun c => c.field ∈ [str "a", str "b"]) = false
      ∧ (twoGroups (str "a") (str "c") (str "b") (str "d")).denote
          (fun _ => []) (fun c => c.field ∈ [str "a", str "b"]) = true
      ∧ ¬ GroupsIdentified
          ((twoGroups (str "a") (str "b") (str "c") (str "d")).rowsAt
            fun _ => []) := by
  refine ⟨_, _, rfl, rfl, by decide, by decide, by decide, ?_⟩
  rw [groupsIdentified_iff]
  decide

end SkillBuddy
