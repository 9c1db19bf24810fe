/-
Joining texts with a separator: when the pieces can be read back.

# Reading back

Two reasons a join is injective are used. Either no piece contains the
separator, and core's `splitOn` undoes the join
(`intercalate_inj_of_notMem`); or all pieces have one fixed length, and
the join is cut by counting (`intercalate_inj_of_length`). The second
covers pieces that may themselves contain the separator. In both the
lists have at least one piece: no pieces and one empty piece make the
same join.

# Counting

Where a piece does contain the separator, `splitOn` finds more pieces than
there were, one more for each (`length_splitOn`), so the number of pieces
tells whether one does (`length_splitOn_intercalate`). In the same way two
joins of as many pieces, one of them piece by piece no longer, are
different as soon as one piece is shorter
(`length_eq_of_intercalate_eq`): equal sums leave no room for a strict
inequality anywhere.
-/
import Mathlib.Algebra.Order.BigOperators.Group.List
import Mathlib.Algebra.Order.Ring.Nat

namespace SkillBuddy.Lib

universe u

variable {α : Type u}

-- ================================================== pointwise, from sums

/-- Two sums of one length agree under a pointwise bound only if the
bound is attained everywhere. -/
theorem eq_of_sum_map_eq {β : Type u} {f g : β → Nat} {xs : List β}
    (hle : ∀ x ∈ xs, f x ≤ g x)
    (hsum : (xs.map f).sum = (xs.map g).sum) : ∀ x ∈ xs, f x = g x := by
  induction xs with
  | nil => exact fun x hx => absurd hx List.not_mem_nil
  | cons x xs ih =>
      rw [List.map_cons, List.map_cons, List.sum_cons, List.sum_cons]
        at hsum
      rw [List.forall_mem_cons] at hle ⊢
      have hrest : (xs.map f).sum ≤ (xs.map g).sum :=
        List.sum_le_sum hle.2
      exact ⟨by omega, ih hle.2 (by omega)⟩

-- ======================================================== joins by pieces

/-- A join is its first piece and the others, each behind a separator. -/
theorem intercalate_cons_eq (sep : α) (x : List α) (xs : List (List α)) :
    List.intercalate [sep] (x :: xs)
      = x ++ xs.flatMap fun y => sep :: y := by
  induction xs generalizing x with
  | nil => simp
  | cons y ys ih =>
      rw [List.intercalate_cons_cons, ih, List.flatMap_cons]
      simp

/-- The length of a join of at least one piece. -/
theorem length_intercalate_cons (sep : α) (x : List α)
    (xs : List (List α)) :
    (List.intercalate [sep] (x :: xs)).length
      = x.length + ((xs.map List.length).sum + xs.length) := by
  induction xs generalizing x with
  | nil => simp
  | cons y ys ih =>
      rw [List.intercalate_cons_cons, List.length_append,
        List.length_append, ih, List.map_cons, List.sum_cons]
      simp only [List.length_cons, List.length_nil]
      omega

/-- Two joins of as many pieces, none of them longer in the first, agree
only if the pieces have the same lengths. -/
theorem length_eq_of_intercalate_eq {β : Type u} {f g : β → List α}
    {sep : α} {xs : List β} (hle : ∀ x ∈ xs, (f x).length ≤ (g x).length)
    (h : List.intercalate [sep] (xs.map f)
      = List.intercalate [sep] (xs.map g)) :
    ∀ x ∈ xs, (f x).length = (g x).length := by
  apply eq_of_sum_map_eq hle
  cases xs with
  | nil => rfl
  | cons x xs =>
      have hlength := congrArg List.length h
      rw [List.map_cons, List.map_cons, length_intercalate_cons,
        length_intercalate_cons, List.map_map, List.map_map,
        List.length_map, List.length_map] at hlength
      rw [List.map_cons, List.map_cons, List.sum_cons, List.sum_cons]
      have hf : (xs.map fun x => (f x).length)
          = xs.map (List.length ∘ f) := rfl
      have hg : (xs.map fun x => (g x).length)
          = xs.map (List.length ∘ g) := rfl
      rw [hf, hg]
      omega

-- ==================================================== separator-free pieces

/-- Pieces free of the separator can be read back off their join: cutting it
at the separators undoes it. -/
theorem intercalate_inj_of_notMem [DecidableEq α] {sep : α}
    {xs ys : List (List α)} (hx : xs ≠ []) (hy : ys ≠ [])
    (hxs : ∀ x ∈ xs, sep ∉ x) (hys : ∀ y ∈ ys, sep ∉ y)
    (h : List.intercalate [sep] xs = List.intercalate [sep] ys) :
    xs = ys := by
  have hsplit := congrArg (List.splitOn sep) h
  rwa [List.splitOn_intercalate sep hxs hx,
    List.splitOn_intercalate sep hys hy] at hsplit

/-- A join is cut at its separators and at those inside its pieces. -/
theorem splitOn_intercalate_flatMap [DecidableEq α] {sep : α} {x : List α}
    {xs : List (List α)} :
    (List.intercalate [sep] (x :: xs)).splitOn sep
      = (x :: xs).flatMap (List.splitOn sep) := by
  induction xs generalizing x with
  | nil =>
      rw [List.intercalate_singleton, List.flatMap_singleton]
  | cons y ys ih =>
      rw [List.intercalate_cons_cons, List.append_assoc,
        List.singleton_append, List.splitOn_append_cons_self, ih,
        List.flatMap_cons (x := x)]

/-- A text is cut into one piece more than it has separators. -/
theorem length_splitOn [DecidableEq α] (sep : α) (x : List α) :
    (x.splitOn sep).length = x.count sep + 1 := by
  induction x with
  | nil => rfl
  | cons c cs ih =>
      rw [List.splitOn_eq_splitOnP] at ih ⊢
      rw [List.splitOnP_cons_eq_if_modifyHead, List.count_cons]
      by_cases hc : (c == sep) = true
      · rw [if_pos hc, if_pos hc, List.length_cons, ih]
      · rw [if_neg hc, if_neg hc, List.length_modifyHead, ih]

/-- A text is cut into one piece or more, and into one only if there is no
separator in it. -/
theorem one_le_length_splitOn [DecidableEq α] (sep : α) (x : List α) :
    1 ≤ (x.splitOn sep).length
      ∧ (1 = (x.splitOn sep).length ↔ sep ∉ x) := by
  rw [length_splitOn, ← List.count_eq_zero]
  omega

/-- A join is cut into as many pieces as it was made of exactly if none of
them contains the separator: each piece is cut into one or more, and the
numbers add up. -/
theorem length_splitOn_intercalate [DecidableEq α] {sep : α}
    {xs : List (List α)} (hne : xs ≠ []) :
    ((List.intercalate [sep] xs).splitOn sep).length = xs.length
      ↔ ∀ x ∈ xs, sep ∉ x := by
  constructor
  · intro hlength
    obtain ⟨x, xs, rfl⟩ := List.exists_cons_of_ne_nil hne
    rw [splitOn_intercalate_flatMap, List.length_flatMap] at hlength
    have hsum : ((x :: xs).map fun _ => 1).sum
        = ((x :: xs).map fun x => (x.splitOn sep).length).sum := by
      rw [hlength, List.map_const', List.sum_replicate, nsmul_eq_mul,
        mul_one, Nat.cast_id]
    have hall := eq_of_sum_map_eq
      (fun x _ => (one_le_length_splitOn sep x).1) hsum
    exact fun x hx => (one_le_length_splitOn sep x).2.mp (hall x hx)
  · intro hnone
    rw [List.splitOn_intercalate sep hnone hne]

/-- All letters of a join are of a kind exactly if those of its pieces
are, and the separator, where there is one. -/
theorem forall_mem_intercalate {p : α → Prop} {sep : α}
    {xs : List (List α)} :
    (∀ c ∈ List.intercalate [sep] xs, p c)
      ↔ (∀ x ∈ xs, ∀ c ∈ x, p c) ∧ (2 ≤ xs.length → p sep) := by
  induction xs with
  | nil => simp
  | cons x xs ih =>
      cases xs with
      | nil => simp
      | cons y ys =>
          have htwo : 2 ≤ (x :: y :: ys).length :=
            Nat.le_add_left 2 ys.length
          rw [List.intercalate_cons_cons, List.forall_mem_append,
            List.forall_mem_append, List.forall_mem_singleton, ih,
            List.forall_mem_cons (a := x)]
          constructor
          · intro h
            obtain ⟨⟨hx, hsep⟩, hall, -⟩ := h
            exact ⟨⟨hx, hall⟩, fun _ => hsep⟩
          · intro h
            obtain ⟨⟨hx, hall⟩, hsep⟩ := h
            exact ⟨⟨hx, hsep htwo⟩, hall, fun _ => hsep htwo⟩

-- ======================================================= pieces by length

/-- Two pieces or more make a longer join than one of the same length as
the first. -/
theorem intercalate_cons_cons_ne {sep : α} {x y : List α} (x' : List α)
    (xs : List (List α)) (h : x.length = y.length) :
    List.intercalate [sep] (x :: x' :: xs) ≠ List.intercalate [sep] [y] := by
  intro heq
  have hlen := congrArg List.length heq
  rw [length_intercalate_cons, length_intercalate_cons] at hlen
  simp only [List.map_nil, List.sum_nil, List.length_nil,
    List.length_cons] at hlen
  omega

/-- Pieces of one fixed positive length can be read back off their join,
whatever they contain. -/
theorem intercalate_inj_of_length {sep : α} {k : Nat} :
    ∀ {xs ys : List (List α)}, xs ≠ [] → ys ≠ [] →
      (∀ x ∈ xs, x.length = k) → (∀ y ∈ ys, y.length = k) →
      List.intercalate [sep] xs = List.intercalate [sep] ys → xs = ys := by
  intro xs
  induction xs with
  | nil => exact fun h => absurd rfl h
  | cons x xs ih =>
      intro ys _ hy hxs hys h
      obtain ⟨y, ys, rfl⟩ := List.exists_cons_of_ne_nil hy
      have hlx : x.length = k := hxs x (List.mem_cons_self ..)
      have hly : y.length = k := hys y (List.mem_cons_self ..)
      match xs, ys with
      | [], [] =>
          rw [List.intercalate_singleton, List.intercalate_singleton] at h
          rw [h]
      | x' :: xs, [] =>
          exact absurd h (intercalate_cons_cons_ne _ _ (hlx.trans hly.symm))
      | [], y' :: ys =>
          exact absurd h.symm (intercalate_cons_cons_ne _ _
            (hly.trans hlx.symm))
      | x' :: xs, y' :: ys =>
          rw [List.intercalate_cons_cons, List.intercalate_cons_cons,
            List.append_assoc, List.append_assoc] at h
          obtain ⟨hhead, htail⟩ :=
            List.append_inj h (by rw [hlx, hly])
          have hrest := List.append_cancel_left htail
          rw [hhead, ih (List.cons_ne_nil _ _) (List.cons_ne_nil _ _)
            (fun z hz => hxs z (List.mem_cons_of_mem _ hz))
            (fun z hz => hys z (List.mem_cons_of_mem _ hz)) hrest]

/-- A join of empty pieces is separators only: one less than pieces. -/
theorem intercalate_replicate_nil (sep : α) (n : Nat) :
    List.intercalate [sep] (List.replicate (n + 1) [])
      = List.replicate n sep := by
  induction n with
  | zero => rfl
  | succ n ih =>
      rw [List.replicate_succ, List.replicate_succ,
        List.intercalate_cons_cons, ← List.replicate_succ, ih]
      rfl

end SkillBuddy.Lib
