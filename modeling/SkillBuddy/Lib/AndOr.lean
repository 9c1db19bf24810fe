/-
And/or trees over arbitrary leaves: evaluation under a truth assignment,
the leaf sequence, and the exact condition under which dropping the
inner groups is harmless.

# Groups

A connective has a neutral value, which does not decide a group, and an
absorbing one, its negation, which does (`combine_eq_neutral_iff`,
`combine_eq_not_neutral_iff`). The two connectives differ in which value
is which, so one child that is neutral for the one decides a group of the
other (`combine_of_ne`).

# The flattening law

A tree `node c ts` and its flattening (all leaves of `ts` directly under
`c`) agree under every assignment exactly when every inner node with at
least two children carries the connective `c` (`flatten_iff`). The
interesting half is the converse: a node of the other connective with
two children admits an assignment that is neutral for `c` everywhere
except at one leaf below that node. The tree still evaluates to the
neutral value, because the node's second child outvotes the first, while
the flat list evaluates to the absorbing one.

Both halves need leaves to be told apart, hence the `Nodup` hypothesis;
`number` supplies it for a tree whose leaves are occurrences, and changes
neither the shape nor the connectives (`full_number`, `uniform_number`).
Groups without children have a value but no leaf, hence `Full`.
-/
import Mathlib.Data.List.Basic
import Mathlib.Data.List.Range
import Mathlib.Data.List.Nodup

namespace SkillBuddy.Lib

universe u

-- ========================================================= connectives

/-- The connective of a group. -/
inductive Connective where
  | and
  | or
  deriving DecidableEq, Repr

namespace Connective

/-- A group's value, from the values of its children. -/
def combine : Connective → List Bool → Bool
  | .and, bs => bs.all id
  | .or, bs => bs.any id

/-- The value a child may take without deciding the group. -/
def neutral : Connective → Bool
  | .and => true
  | .or => false

/-- A group is neutral exactly when every child is. -/
theorem combine_eq_neutral_iff {c : Connective} {bs : List Bool} :
    c.combine bs = c.neutral ↔ ∀ b ∈ bs, b = c.neutral := by
  cases c <;> simp [combine, neutral]

/-- A group is absorbed exactly when some child is absorbing. -/
theorem combine_eq_not_neutral_iff {c : Connective} {bs : List Bool} :
    c.combine bs = !c.neutral ↔ (!c.neutral) ∈ bs := by
  cases c <;> simp [combine, neutral]

/-- A one-child group is its child, whatever its connective. -/
@[simp] theorem combine_singleton (c : Connective) (b : Bool) :
    c.combine [b] = b := by
  cases c <;> simp [combine]

/-- Grouping two lists of children separately changes nothing. -/
theorem combine_append (c : Connective) (xs ys : List Bool) :
    c.combine (xs ++ ys) = c.combine [c.combine xs, c.combine ys] := by
  cases c <;> simp [combine]

/-- Neither does grouping the head apart. -/
theorem combine_cons (c : Connective) (b : Bool) (bs : List Bool) :
    c.combine (b :: bs) = c.combine [b, c.combine bs] := by
  cases c <;> simp [combine]

/-- The order of the children is immaterial. -/
theorem combine_perm (c : Connective) {xs ys : List Bool}
    (h : xs.Perm ys) : c.combine xs = c.combine ys := by
  cases c with
  | and => exact h.all_eq
  | or => exact h.any_eq

/-- A non-empty group whose children all have the value `b` has it. -/
theorem combine_const (c : Connective) {bs : List Bool} {b : Bool}
    (hne : bs ≠ []) (h : ∀ x ∈ bs, x = b) : c.combine bs = b := by
  obtain ⟨x, xs, rfl⟩ := List.exists_cons_of_ne_nil hne
  have hx : x = b := h x (List.mem_cons_self ..)
  have hrep : x :: xs = List.replicate (xs.length + 1) b :=
    List.eq_replicate_iff.mpr ⟨by simp, h⟩
  rw [hrep]
  cases c <;> cases b <;> simp [combine, List.replicate_succ]

/-- Under the other connective one neutral child decides the group. -/
theorem combine_of_ne {c d : Connective} (hd : d ≠ c) {bs : List Bool}
    (h : c.neutral ∈ bs) : d.combine bs = c.neutral := by
  cases c <;> cases d <;> simp_all [combine, neutral]

end Connective

-- =============================================================== trees

/-- A tree of groups over leaves in `α`. -/
inductive AndOr (α : Type u) where
  | leaf (a : α)
  | node (c : Connective) (ts : List (AndOr α))

namespace AndOr

variable {α : Type u}

mutual
/-- The value of a tree: every group combines its children with its own
connective. -/
def eval (v : α → Bool) : AndOr α → Bool
  | .leaf a => v a
  | .node c ts => c.combine (evalAll v ts)
/-- The values of a group's children. -/
def evalAll (v : α → Bool) : List (AndOr α) → List Bool
  | [] => []
  | t :: ts => t.eval v :: evalAll v ts
end

mutual
/-- The leaves, left to right. -/
def leaves : AndOr α → List α
  | .leaf a => [a]
  | .node _ ts => leavesAll ts
/-- The leaves of a list of trees, left to right. -/
def leavesAll : List (AndOr α) → List α
  | [] => []
  | t :: ts => t.leaves ++ leavesAll ts
end

mutual
/-- The tree with its leaves replaced by their positions, counted from
`n`: every leaf occurrence becomes a variable of its own. -/
def number (n : Nat) : AndOr α → AndOr Nat
  | .leaf _ => .leaf n
  | .node c ts => .node c (numberAll n ts)
/-- A list of trees numbered through. -/
def numberAll (n : Nat) : List (AndOr α) → List (AndOr Nat)
  | [] => []
  | t :: ts => t.number n :: numberAll (n + t.leaves.length) ts
end

mutual
/-- Every group has a child. -/
def Full : AndOr α → Prop
  | .leaf _ => True
  | .node _ ts => ts ≠ [] ∧ FullAll ts
/-- Every group of every listed tree has a child. -/
def FullAll : List (AndOr α) → Prop
  | [] => True
  | t :: ts => t.Full ∧ FullAll ts
end

mutual
/-- Every group with at least two children carries the connective `c`. -/
def Uniform (c : Connective) : AndOr α → Prop
  | .leaf _ => True
  | .node d ts => (2 ≤ ts.length → d = c) ∧ UniformAll c ts
/-- `Uniform` of every listed tree. -/
def UniformAll (c : Connective) : List (AndOr α) → Prop
  | [] => True
  | t :: ts => t.Uniform c ∧ UniformAll c ts
end

-- ============================================== the list forms, plainly

theorem evalAll_eq_map (v : α → Bool) (ts : List (AndOr α)) :
    evalAll v ts = ts.map (eval v) := by
  induction ts with
  | nil => rfl
  | cons t ts ih => rw [evalAll, ih, List.map_cons]

theorem leavesAll_eq_flatMap (ts : List (AndOr α)) :
    leavesAll ts = ts.flatMap leaves := by
  induction ts with
  | nil => rfl
  | cons t ts ih => rw [leavesAll, ih, List.flatMap_cons]

theorem fullAll_iff {ts : List (AndOr α)} :
    FullAll ts ↔ ∀ t ∈ ts, t.Full := by
  induction ts with
  | nil => simp [FullAll]
  | cons t ts ih => rw [FullAll, ih, List.forall_mem_cons]

theorem uniformAll_iff {c : Connective} {ts : List (AndOr α)} :
    UniformAll c ts ↔ ∀ t ∈ ts, t.Uniform c := by
  induction ts with
  | nil => simp [UniformAll]
  | cons t ts ih => rw [UniformAll, ih, List.forall_mem_cons]

/-- Structural induction with the children's hypotheses as a `∀`. -/
theorem induct {P : AndOr α → Prop} (leaf : ∀ a, P (.leaf a))
    (node : ∀ c ts, (∀ t ∈ ts, P t) → P (.node c ts)) : ∀ t, P t := by
  intro t
  refine @AndOr.rec α P (fun ts => ∀ t ∈ ts, P t) leaf node ?_ ?_ t
  · intro t ht
    exact absurd ht List.not_mem_nil
  · intro t ts ht hts
    exact List.forall_mem_cons.mpr ⟨ht, hts⟩

-- ============================================================ numbering

/-- Numbered through, the leaves of a tree are an interval. -/
theorem leaves_number (t : AndOr α) :
    ∀ n, (t.number n).leaves = List.range' n t.leaves.length := by
  refine @AndOr.rec α
    (fun t => ∀ n, (t.number n).leaves = List.range' n t.leaves.length)
    (fun ts => ∀ n,
      leavesAll (numberAll n ts) = List.range' n (leavesAll ts).length)
    ?_ ?_ ?_ ?_ t
  · intro a n
    rfl
  · intro c ts ih n
    exact ih n
  · intro n
    rfl
  · intro t ts iht ihts n
    rw [numberAll, leavesAll, leavesAll, iht, ihts, List.length_append,
      List.range'_append_1]

/-- Numbered through, the leaves of a list of trees are an interval. -/
theorem leavesAll_numberAll (n : Nat) (ts : List (AndOr α)) :
    leavesAll (numberAll n ts) = List.range' n (leavesAll ts).length :=
  leaves_number (.node .and ts) n

/-- Numbering keeps every group's children, -/
theorem full_number (t : AndOr α) : ∀ n, (t.number n).Full ↔ t.Full := by
  refine @AndOr.rec α (fun t => ∀ n, (t.number n).Full ↔ t.Full)
    (fun ts => ∀ n,
      (FullAll (numberAll n ts) ↔ FullAll ts)
        ∧ (numberAll n ts).length = ts.length) ?_ ?_ ?_ ?_ t
  · intro a n
    exact Iff.rfl
  · intro c ts ih n
    obtain ⟨hfull, hlen⟩ := ih n
    rw [number, Full, Full, hfull, ne_eq, ne_eq,
      ← List.length_eq_zero_iff, hlen, List.length_eq_zero_iff]
  · intro n
    exact ⟨Iff.rfl, rfl⟩
  · intro t ts iht ihts n
    obtain ⟨hfull, hlen⟩ := ihts (n + t.leaves.length)
    exact ⟨by rw [numberAll, FullAll, FullAll, iht, hfull],
      by rw [numberAll, List.length_cons, List.length_cons, hlen]⟩

/-- and its connective. -/
theorem uniform_number (c : Connective) (t : AndOr α) :
    ∀ n, (t.number n).Uniform c ↔ t.Uniform c := by
  refine @AndOr.rec α
    (fun t => ∀ n, (t.number n).Uniform c ↔ t.Uniform c)
    (fun ts => ∀ n,
      (UniformAll c (numberAll n ts) ↔ UniformAll c ts)
        ∧ (numberAll n ts).length = ts.length) ?_ ?_ ?_ ?_ t
  · intro a n
    exact Iff.rfl
  · intro d ts ih n
    obtain ⟨huni, hlen⟩ := ih n
    rw [number, Uniform, Uniform, huni, hlen]
  · intro n
    exact ⟨Iff.rfl, rfl⟩
  · intro t ts iht ihts n
    obtain ⟨huni, hlen⟩ := ihts (n + t.leaves.length)
    exact ⟨by rw [numberAll, UniformAll, UniformAll, iht, huni],
      by rw [numberAll, List.length_cons, List.length_cons, hlen]⟩

/-- Numbering a list of trees through keeps every group non-empty. -/
theorem fullAll_numberAll {n : Nat} {ts : List (AndOr α)}
    (h : FullAll ts) : FullAll (numberAll n ts) := by
  cases ts with
  | nil => exact trivial
  | cons t ts =>
      have hnode : (node .and (t :: ts)).Full := ⟨List.cons_ne_nil _ _, h⟩
      exact ((full_number _ n).mpr hnode).2

/-- Numbering a list of trees through keeps its connectives. -/
theorem uniformAll_numberAll (c : Connective) (n : Nat)
    (ts : List (AndOr α)) :
    UniformAll c (numberAll n ts) ↔ UniformAll c ts := by
  have hnode := uniform_number c (node c ts) n
  simpa only [number, Uniform, imp_true_iff, true_and] using hnode

/-- A list of leaves, numbered through and evaluated. -/
theorem evalAll_numberAll_leaf (v : Nat → Bool) (as : List α) :
    ∀ n, evalAll v (numberAll n (as.map leaf))
      = (List.range' n as.length).map v := by
  induction as with
  | nil => exact fun _ => rfl
  | cons a as ih =>
      intro n
      rw [List.map_cons, numberAll, evalAll, List.length_cons,
        List.range'_succ, List.map_cons]
      exact congrArg _ (ih (n + 1))

-- ================================================== flattening, forward

/-- Combining the children's flat values is combining all leaves. -/
theorem combine_flatMap_leaves (c : Connective) (v : α → Bool)
    (ts : List (AndOr α)) :
    c.combine (ts.map fun t => c.combine (t.leaves.map v))
      = c.combine ((ts.flatMap leaves).map v) := by
  induction ts with
  | nil => rfl
  | cons t ts ih =>
      rw [List.map_cons, Connective.combine_cons, ih, List.flatMap_cons,
        List.map_append, ← Connective.combine_append]

/-- A tree uniform in `c` evaluates like its leaves under `c`. A group of
the other connective has one child, and is this child. -/
theorem eval_of_uniform {c : Connective} (v : α → Bool) (t : AndOr α) :
    t.Full → t.Uniform c → t.eval v = c.combine (t.leaves.map v) := by
  induction t using AndOr.induct with
  | leaf a =>
      intro _ _
      rw [eval, leaves, List.map_singleton, Connective.combine_singleton]
  | node d ts ih =>
      intro hfull huni
      rw [Full, fullAll_iff] at hfull
      rw [Uniform, uniformAll_iff] at huni
      have hkids : ts.map (eval v)
          = ts.map fun t => c.combine (t.leaves.map v) :=
        List.map_congr_left fun t ht =>
          ih t ht (hfull.2 t ht) (huni.2 t ht)
      rw [eval, evalAll_eq_map, leaves, leavesAll_eq_flatMap,
        ← combine_flatMap_leaves, hkids]
      by_cases hlen : 2 ≤ ts.length
      · rw [huni.1 hlen]
      · -- a single child: its own connective is never consulted
        obtain ⟨t, rest, rfl⟩ := List.exists_cons_of_ne_nil hfull.1
        have hrest : rest = [] := by
          rw [← List.length_eq_zero_iff]
          simp only [List.length_cons] at hlen
          omega
        subst hrest
        rw [List.map_singleton, Connective.combine_singleton,
          Connective.combine_singleton]

-- ================================================= flattening, backward

/-- The assignment that is neutral for `c` except at the leaf `x`. -/
def except [DecidableEq α] (c : Connective) (x : α) : α → Bool :=
  fun y => if y = x then !c.neutral else c.neutral

theorem except_self [DecidableEq α] (c : Connective) (x : α) :
    except c x x = !c.neutral := if_pos rfl

theorem except_of_ne [DecidableEq α] (c : Connective) {x y : α}
    (h : y ≠ x) : except c x y = c.neutral := if_neg h

/-- A full tree has a leaf. -/
theorem leaves_ne_nil (t : AndOr α) : t.Full → t.leaves ≠ [] := by
  induction t using AndOr.induct with
  | leaf a => exact fun _ => List.cons_ne_nil _ _
  | node c ts ih =>
      intro hfull
      rw [Full, fullAll_iff] at hfull
      obtain ⟨t, rest, rfl⟩ := List.exists_cons_of_ne_nil hfull.1
      have ht := ih t (List.mem_cons_self ..)
        (hfull.2 t (List.mem_cons_self ..))
      rw [leaves, leavesAll]
      exact fun h => ht (List.append_eq_nil_iff.mp h).1

/-- A full tree all of whose leaves have the value `b` has it. -/
theorem eval_const {v : α → Bool} {b : Bool} (t : AndOr α) :
    t.Full → (∀ a ∈ t.leaves, v a = b) → t.eval v = b := by
  induction t using AndOr.induct with
  | leaf a => exact fun _ h => h a (List.mem_singleton_self a)
  | node c ts ih =>
      intro hfull hleaves
      rw [Full, fullAll_iff] at hfull
      rw [leaves, leavesAll_eq_flatMap] at hleaves
      rw [eval, evalAll_eq_map]
      refine Connective.combine_const c (by simpa using hfull.1) ?_
      intro x hx
      obtain ⟨t, ht, rfl⟩ := List.mem_map.mp hx
      exact ih t ht (hfull.2 t ht) fun a ha =>
        hleaves a (List.mem_flatMap.mpr ⟨t, ht, ha⟩)

variable [DecidableEq α]

/-- A tree without the leaf `x` does not see the exception at `x`. -/
theorem eval_except_of_notMem {c : Connective} {x : α} {t : AndOr α}
    (hfull : t.Full) (hx : x ∉ t.leaves) :
    t.eval (except c x) = c.neutral :=
  eval_const t hfull fun _ ha =>
    except_of_ne c fun h => hx (h ▸ ha)

/-- Among trees with pairwise different leaves, only the one owning `x`
can see the exception at `x`. -/
theorem eval_except_of_mem {c : Connective} {x : α}
    {ts : List (AndOr α)} (hfull : ∀ t ∈ ts, t.Full)
    (hnd : (ts.flatMap leaves).Nodup) {t : AndOr α} (ht : t ∈ ts)
    (hx : x ∈ t.leaves) (heval : t.eval (except c x) = c.neutral) :
    ∀ s ∈ ts, s.eval (except c x) = c.neutral := by
  intro s hs
  by_cases hxs : x ∈ s.leaves
  · -- two positions of the list sharing `x` are the same position
    have hsame : s = t := by
      have : Std.Symm (Function.onFun List.Disjoint (leaves (α := α))) :=
        ⟨fun _ _ h _ hx hy => h hy hx⟩
      by_contra hne
      exact (List.nodup_flatMap.mp hnd).2.forall hs ht hne hxs hx
    rw [hsame, heval]
  · exact eval_except_of_notMem (hfull s hs) hxs

/-- A tree with a group of the other connective and two children stays
neutral under a well-chosen exception: at a leaf of the first of the two. -/
theorem exists_except_of_not_uniform {c : Connective} (t : AndOr α) :
    t.Full → t.leaves.Nodup → ¬ t.Uniform c →
      ∃ x ∈ t.leaves, t.eval (except c x) = c.neutral := by
  induction t using AndOr.induct with
  | leaf a => exact fun _ _ h => absurd trivial h
  | node d ts ih =>
      intro hfull hnd hnot
      rw [Full, fullAll_iff] at hfull
      rw [leaves, leavesAll_eq_flatMap] at hnd
      rw [Uniform, uniformAll_iff, not_and_or] at hnot
      simp only [leaves, leavesAll_eq_flatMap, eval, evalAll_eq_map]
      rcases hnot with hthis | hkid
      · -- this group: except a leaf of the first child, keep the second
        rw [Classical.not_imp] at hthis
        obtain ⟨hlen, hd⟩ := hthis
        match ts, hlen with
        | t₁ :: t₂ :: rest, _ =>
            obtain ⟨x, l, hxl⟩ := List.exists_cons_of_ne_nil
              (leaves_ne_nil t₁ (hfull.2 t₁ (by simp)))
            have hx₁ : x ∈ t₁.leaves := by rw [hxl]; simp
            have hx₂ : x ∉ t₂.leaves := by
              rw [List.nodup_flatMap] at hnd
              have hdis := (List.pairwise_cons.mp hnd.2).1 t₂ (by simp)
              exact fun h => hdis hx₁ h
            refine ⟨x, List.mem_flatMap.mpr ⟨t₁, by simp, hx₁⟩, ?_⟩
            refine Connective.combine_of_ne hd ?_
            refine List.mem_map.mpr ⟨t₂, by simp, ?_⟩
            exact eval_except_of_notMem (hfull.2 t₂ (by simp)) hx₂
      · -- a group further down: every other child is neutral anyway
        rw [Classical.not_forall] at hkid
        obtain ⟨t, hkid⟩ := hkid
        rw [Classical.not_imp] at hkid
        obtain ⟨ht, hnot⟩ := hkid
        obtain ⟨x, hx, heval⟩ := ih t ht (hfull.2 t ht)
          ((List.nodup_flatMap.mp hnd).1 t ht) hnot
        refine ⟨x, List.mem_flatMap.mpr ⟨t, ht, hx⟩, ?_⟩
        refine Connective.combine_const d (by simpa using hfull.1) ?_
        intro b hb
        obtain ⟨s, hs, rfl⟩ := List.mem_map.mp hb
        exact eval_except_of_mem hfull.2 hnd ht hx heval s hs

-- ==================================================== the flattening law

/-- Listing all leaves directly under `c` preserves the meaning of the
children `ts` of a `c`-group, under every assignment, exactly when every
group among them with two or more children is itself a `c`-group. The
assignments are all of them, so a single one that differs refutes it. -/
theorem flatten_iff {c : Connective} {ts : List (AndOr α)}
    (hfull : FullAll ts) (hnd : (leavesAll ts).Nodup) :
    (∀ v : α → Bool,
        c.combine ((leavesAll ts).map v) = c.combine (evalAll v ts))
      ↔ UniformAll c ts := by
  rw [fullAll_iff] at hfull
  rw [leavesAll_eq_flatMap] at hnd ⊢
  simp only [evalAll_eq_map]
  constructor
  · intro hall
    rw [uniformAll_iff]
    by_contra hnot
    rw [Classical.not_forall] at hnot
    obtain ⟨t, hnot⟩ := hnot
    rw [Classical.not_imp] at hnot
    obtain ⟨ht, hnot⟩ := hnot
    obtain ⟨x, hx, heval⟩ := exists_except_of_not_uniform t (hfull t ht)
      ((List.nodup_flatMap.mp hnd).1 t ht) hnot
    -- flat, the exception absorbs the group; nested, it is outvoted
    have hflat : c.combine ((ts.flatMap leaves).map (except c x))
        = !c.neutral := by
      rw [Connective.combine_eq_not_neutral_iff]
      exact List.mem_map.mpr
        ⟨x, List.mem_flatMap.mpr ⟨t, ht, hx⟩, except_self c x⟩
    have htree : c.combine (ts.map (eval (except c x))) = c.neutral := by
      rw [Connective.combine_eq_neutral_iff]
      intro b hb
      obtain ⟨s, hs, rfl⟩ := List.mem_map.mp hb
      exact eval_except_of_mem hfull hnd ht hx heval s hs
    have hclash := hall (except c x)
    rw [hflat, htree] at hclash
    simp at hclash
  · intro huni v
    rw [uniformAll_iff] at huni
    rw [← combine_flatMap_leaves]
    exact congrArg c.combine (List.map_congr_left fun t ht =>
      (eval_of_uniform v t (hfull t ht) (huni t ht)).symm)

end AndOr

end SkillBuddy.Lib
