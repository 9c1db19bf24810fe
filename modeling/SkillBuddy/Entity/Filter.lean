/-
What a filter means: the and/or tree of a rule list, evaluation under a
truth assignment to its leaf comparisons, and well-formed filter
documents.

# Meaning

A rule with a non-empty `rules` list is a group; every other rule is a
leaf. The leaves of a filter are numbered in document order, and an
assignment gives a truth value to each number: two occurrences of one
comparison are two variables. Which comparison a number is for is
`leafRules`. The same evaluation is applied to a document and to the
object `FromJson` makes of it, since both are `QueryBuilder`s.

The tree is one of `Lib.AndOr`, with leaf rules at its leaves. What is
known there of such trees, when groups can be dropped and when they
cannot, is used here of filters.

# Documents

`entries` lists every entry of every rule list at every depth, so that
"every rule of the document" is a plain membership statement. In a
well-formed document every group has a condition and no field, and every
leaf has a field (`FilterDocument`). Its groups all have a rule
(`QueryRule.full_tree`), and that its conditions agree is a statement
about its tree (`QueryRule.uniform_tree_iff`).
-/
import SkillBuddy.Entity.QueryBuilder
import SkillBuddy.Lib.AndOr

namespace SkillBuddy

open Lib

variable {V W : Type}

-- ============================================================== meaning

/-- The connective a group's condition names. A group of a well-formed
filter has one; elsewhere a missing condition reads as AND. -/
def connective : Option QueryBuilderCondition → Connective
  | some .or => .or
  | some .and => .and
  | none => .and

/-- A rule carrying a non-empty `rules` list. -/
def QueryRule.isGroup (r : QueryRule V) : Bool :=
  !(r.rules.getD []).isEmpty

/-- The and/or tree of a rule, its leaves being leaf rules. -/
def QueryRule.tree : QueryRule V → AndOr (QueryRule V) :=
  QueryRule.fold fun r kids =>
    if r.isGroup then
      .node (connective r.condition) ((kids.getD []).filterMap id)
    else .leaf r

/-- The trees of a list of rules. -/
def treesOf (rules : List (Option (QueryRule V))) :
    List (AndOr (QueryRule V)) :=
  (rules.filterMap id).map QueryRule.tree

/-- The leaf comparisons of a filter, in document order: the `n`-th of
them is the one an assignment's value at `n` is for. -/
def QueryBuilder.leafRules (qb : QueryBuilder V) : List (QueryRule V) :=
  AndOr.leavesAll (treesOf (qb.rules.getD []))

/-- The value of a filter under an assignment to its leaf comparisons,
numbered in document order (`leafRules`): every group combines the
results of its rules with its own condition. -/
def QueryBuilder.evaluate (v : Nat → Bool) (qb : QueryBuilder V) : Bool :=
  (connective qb.condition).combine
    (AndOr.evalAll v (AndOr.numberAll 0 (treesOf (qb.rules.getD []))))

-- ========================================================== all the rules

/-- A rule together with every entry of every list nested in it. -/
def QueryRule.entries : QueryRule V → List (Option (QueryRule V)) :=
  QueryRule.fold fun r kids =>
    some r :: (kids.getD []).flatMap fun kid => kid.getD [none]

/-- Every entry of a list of rules, at every depth. -/
def entriesOf (rules : List (Option (QueryRule V))) :
    List (Option (QueryRule V)) :=
  rules.flatMap fun e => (e.map QueryRule.entries).getD [none]

/-- Every entry of every rule list of a filter. -/
def QueryBuilder.entries (qb : QueryBuilder V) :
    List (Option (QueryRule V)) :=
  entriesOf (qb.rules.getD [])

/-- An entry a filter document may hold: a group with a condition and no
field, or a leaf with a field. -/
def EntryOk (e : Option (QueryRule V)) : Prop :=
  ∃ r, e = some r ∧
    if r.isGroup then r.condition.isSome ∧ r.field = none
    else r.field.isSome

/-- A filter document: every group has a condition and no field, every
leaf has a field. -/
structure FilterDocument (doc : QueryBuilder V) : Prop where
  condition : doc.condition.isSome
  entries : ∀ e ∈ doc.entries, EntryOk e

/-- Every nested group of at least two rules repeats the root's
condition. -/
def NestedConditionsAgree (doc : QueryBuilder V) : Prop :=
  ∀ r, some r ∈ doc.entries → 2 ≤ (r.rules.getD []).length →
    r.condition = doc.condition

-- ======================================================= one rule at a time

/-- The tree of a rule, by the two kinds of rules. -/
theorem QueryRule.tree_eq (r : QueryRule V) :
    r.tree = if r.isGroup then
        .node (connective r.condition) (treesOf (r.rules.getD []))
      else .leaf r := by
  unfold QueryRule.tree
  rw [QueryRule.fold_eq]
  cases r.rules with
  | none => rfl
  | some es =>
      show (if r.isGroup then AndOr.node _ (List.filterMap id (es.map _))
        else _) = _
      rw [List.filterMap_map, treesOf, List.map_filterMap]
      rfl

/-- A rule comes first among its entries. -/
theorem QueryRule.entries_eq (r : QueryRule V) :
    r.entries = some r :: entriesOf (r.rules.getD []) := by
  unfold QueryRule.entries
  rw [QueryRule.fold_eq]
  cases r.rules with
  | none => rfl
  | some es =>
      show _ :: List.flatMap _ (es.map _) = _ :: List.flatMap _ es
      rw [List.flatMap_map]
      rfl

/-- Entries that are all rules are a list of rules. -/
theorem exists_rules_of_entryOk {es : List (Option (QueryRule V))}
    (h : ∀ e ∈ entriesOf es, EntryOk e) :
    ∃ rs : List (QueryRule V), es = rs.map some := by
  induction es with
  | nil => exact ⟨[], rfl⟩
  | cons e es ih =>
      have hmem : e ∈ entriesOf (e :: es) := by
        refine List.mem_flatMap.mpr ⟨e, List.mem_cons_self .., ?_⟩
        cases e with
        | none => exact List.mem_singleton_self _
        | some r =>
            show some r ∈ r.entries
            rw [QueryRule.entries_eq]
            exact List.mem_cons_self ..
      obtain ⟨r, rfl, -⟩ := h e hmem
      obtain ⟨rs, rfl⟩ := ih fun e he => h e (by
        unfold entriesOf
        rw [List.flatMap_cons]
        exact List.mem_append_right _ he)
      exact ⟨r :: rs, rfl⟩

/-- Without null entries the trees are those of the rules. -/
@[simp] theorem treesOf_map_some (rs : List (QueryRule V)) :
    treesOf (rs.map some) = rs.map QueryRule.tree := by
  rw [treesOf, List.filterMap_map]
  exact congrArg _ (List.filterMap_some)

/-- Without null entries the entries are those of the rules. -/
@[simp] theorem entriesOf_map_some (rs : List (QueryRule V)) :
    entriesOf (rs.map some) = rs.flatMap QueryRule.entries := by
  rw [entriesOf, List.flatMap_map]
  rfl

-- ============================================== well-formed rules, as trees

/-- Every group of a well-formed rule has a rule: that is what makes it one.
By induction on the rule. -/
theorem QueryRule.full_tree (r : QueryRule V) :
    (∀ e ∈ r.entries, EntryOk e) → r.tree.Full := by
  induction r using QueryRule.induct with
  | step r ih =>
      intro h
      rw [QueryRule.entries_eq] at h
      have hbelow := fun e he => h e (List.mem_cons_of_mem _ he)
      obtain ⟨rs, hrs⟩ := exists_rules_of_entryOk hbelow
      rw [QueryRule.tree_eq]
      split
      case isFalse => exact trivial
      case isTrue hg =>
        rw [hrs, treesOf_map_some, AndOr.Full, AndOr.fullAll_iff]
        rw [hrs, entriesOf_map_some] at hbelow
        constructor
        · intro hnil
          rw [QueryRule.isGroup, hrs, List.map_eq_nil_iff.mp hnil] at hg
          cases hg
        · intro t ht
          obtain ⟨q, hq, rfl⟩ := List.mem_map.mp ht
          refine ih q ?_ fun e he =>
            hbelow e (List.mem_flatMap.mpr ⟨q, hq, he⟩)
          rw [hrs]
          exact List.mem_map_of_mem hq

/-- A well-formed rule's tree is uniform in `c` when all groups below it
with two or more rules name `c`. -/
theorem QueryRule.uniform_tree_iff (c : Connective) (r : QueryRule V) :
    (∀ e ∈ r.entries, EntryOk e) →
      (r.tree.Uniform c ↔ ∀ q, some q ∈ r.entries →
        2 ≤ (q.rules.getD []).length → connective q.condition = c) := by
  induction r using QueryRule.induct with
  | step r ih =>
      intro h
      rw [QueryRule.entries_eq] at h ⊢
      have hbelow := fun e he => h e (List.mem_cons_of_mem _ he)
      obtain ⟨rs, hrs⟩ := exists_rules_of_entryOk hbelow
      rw [hrs, entriesOf_map_some] at hbelow
      -- the nested rules' trees, by the induction hypothesis
      have hkids : AndOr.UniformAll c (rs.map QueryRule.tree)
          ↔ ∀ q, some q ∈ rs.flatMap QueryRule.entries →
            2 ≤ (q.rules.getD []).length → connective q.condition = c := by
        rw [AndOr.uniformAll_iff, List.forall_mem_map]
        have hsub := fun q (hq : q ∈ rs) =>
          ih q (by rw [hrs]; exact List.mem_map_of_mem hq) fun e he =>
            hbelow e (List.mem_flatMap.mpr ⟨q, hq, he⟩)
        constructor
        · intro hall q hq
          obtain ⟨p, hp, hqp⟩ := List.mem_flatMap.mp hq
          exact (hsub p hp).mp (hall p hp) q hqp
        · intro hall p hp
          exact (hsub p hp).mpr fun q hq =>
            hall q (List.mem_flatMap.mpr ⟨p, hp, hq⟩)
      rw [QueryRule.tree_eq, hrs, entriesOf_map_some, treesOf_map_some]
      have hself : (r.rules.getD []).length = rs.length := by
        rw [hrs, List.length_map]
      split
      case isTrue hg =>
        rw [AndOr.Uniform, hkids, List.length_map]
        constructor
        · rintro ⟨hthis, hrest⟩ q hq hlen
          rcases List.mem_cons.mp hq with hq | hq
          · obtain rfl := Option.some.inj hq
            exact hthis (hself ▸ hlen)
          · exact hrest q hq hlen
        · intro hall
          exact ⟨fun hlen => hall r (List.mem_cons_self ..) (hself ▸ hlen),
            fun q hq => hall q (List.mem_cons_of_mem _ hq)⟩
      case isFalse hg =>
        -- a leaf has no nested rules at all
        have hnil : rs = [] := by
          simpa [QueryRule.isGroup, hrs] using hg
        subst hnil
        refine ⟨fun _ q hq hlen => ?_, fun _ => trivial⟩
        rcases List.mem_cons.mp hq with hq | hq
        · obtain rfl := Option.some.inj hq
          rw [hself] at hlen
          simp at hlen
        · simp at hq

end SkillBuddy
