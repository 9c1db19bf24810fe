/-
A window over a row of items, as paging views and carousels have it.

A `Window` shows `size` neighbouring items of a row, from position `pos`.
Its field says that it never runs over the end of a row that is long
enough for it, so what moves it (`prev`, `next`, `resize`) has to keep
that. What follows is what a user of such a view relies on.

# How many items are in view

As many as there are places or items (`countP_contains`). A view that
marks its items shows a window if it marks those the window contains, and
then it has marked as many (`countP_marked`).

# Every item can be brought into view

`k` moves on go `k` positions on, or to the last one
(`iterate_next_pos`), and `k` moves back go `k` positions back, or to the
front. An item that is not in view is to the right of the window or to
the left; so many moves on, or back, bring it into view
(`contains_iterate_next`, `contains_iterate_prev`).

A system need not have a window among its variables. If an invariant
relates its states to windows, and some events make the two moves, then
repeating these events brings every item into view (`brings_by_moves`).
-/
import SkillBuddy.Lib.Run
import Mathlib.Data.List.Basic
import Mathlib.Logic.Function.Iterate
import Mathlib.Data.List.Range

namespace SkillBuddy.Lib

/-- A window of `size` places over `items` items, from `pos` on. -/
@[ext] structure Window where
  items : Nat
  size : Nat
  pos : Nat
  pos_le : pos ≤ items - size

namespace Window

variable (w : Window)

-- ================================================================== moves

/-- The last position. -/
def last : Nat := w.items - w.size

/-- Item `i` is in view. -/
def Contains (i : Nat) : Prop := w.pos ≤ i ∧ i < w.pos + w.size

instance (i : Nat) : Decidable (w.Contains i) :=
  inferInstanceAs (Decidable (_ ∧ _))

/-- The window at the front of a row. -/
def front (items size : Nat) : Window :=
  ⟨items, size, 0, Nat.zero_le _⟩

/-- One position back is still within the row. -/
theorem prev_le : w.pos - 1 ≤ w.items - w.size :=
  (Nat.sub_le _ _).trans w.pos_le

/-- One item back, if there is one. -/
def prev : Window := ⟨w.items, w.size, w.pos - 1, w.prev_le⟩

/-- One item on, if there is room. -/
def next : Window :=
  ⟨w.items, w.size, min (w.pos + 1) w.last, Nat.min_le_right _ _⟩

/-- Another size: the window is moved back where it would run over. -/
def resize (size : Nat) : Window :=
  ⟨w.items, size, min w.pos (w.items - size), Nat.min_le_right _ _⟩

@[simp] theorem prev_size : w.prev.size = w.size := rfl
@[simp] theorem prev_pos : w.prev.pos = w.pos - 1 := rfl

@[simp] theorem next_size : w.next.size = w.size := rfl

@[simp] theorem next_pos : w.next.pos = min (w.pos + 1) w.last := rfl

@[simp] theorem resize_pos (k : Nat) :
    (w.resize k).pos = min w.pos (w.items - k) := rfl

@[simp] theorem next_last : w.next.last = w.last := rfl

-- ========================================================== what is in view

/-- The items below `n` that a window from `p` on of `k` places shows. -/
theorem countP_between (p k n : Nat) :
    (List.range n).countP (fun i => decide (p ≤ i ∧ i < p + k))
      = min n (p + k) - min n p := by
  induction n with
  | zero => simp
  | succ n ih =>
      rw [List.range_succ, List.countP_append, ih, List.countP_singleton]
      by_cases h : p ≤ n ∧ n < p + k
      · rw [if_pos (decide_eq_true h)]
        omega
      · rw [if_neg (by simpa using h)]
        omega

/-- As many items are in view as there are places or items. -/
theorem countP_contains :
    (List.range w.items).countP (fun i => decide (w.Contains i))
      = min w.items w.size := by
  have hpos := w.pos_le
  refine (countP_between w.pos w.size w.items).trans ?_
  omega

/-- Counting the marked entries of a row by their places. -/
theorem countP_eq_countP_range {α : Type*} {marked : α → Bool}
    {place : Nat → Bool} {row : List α}
    (h : ∀ i a, row[i]? = some a → marked a = place i) :
    row.countP marked = (List.range row.length).countP place := by
  induction row using List.reverseRecOn with
  | nil => rfl
  | append_singleton row a ih =>
      have hrow : ∀ i b, row[i]? = some b → marked b = place i := by
        intro i b hb
        refine h i b ?_
        rw [List.getElem?_append_left (List.getElem?_eq_some_iff.mp hb).1]
        exact hb
      have hlast : marked a = place row.length :=
        h row.length a List.getElem?_concat_length
      rw [List.countP_append, ih hrow, List.length_append,
        List.length_singleton, List.range_succ, List.countP_append,
        List.countP_singleton, List.countP_singleton, hlast]

/-- A row whose marked entries are those in view has as many of them as
there are places or items. -/
theorem countP_marked {α : Type*} {marked : α → Bool} {row : List α}
    (hitems : row.length = w.items)
    (h : ∀ i a, row[i]? = some a → (marked a = true ↔ w.Contains i)) :
    row.countP marked = min w.items w.size := by
  rw [← w.countP_contains, ← hitems]
  refine countP_eq_countP_range fun i a ha => ?_
  rw [Bool.eq_iff_iff, decide_eq_true_iff]
  exact h i a ha

/-- At the front no move goes back. -/
theorem prev_eq_self (h : w.pos = 0) : w.prev = w := by
  refine Window.ext rfl rfl ?_
  rw [prev_pos, h]

/-- At the end no move goes on. -/
theorem next_eq_self (h : w.last ≤ w.pos) : w.next = w := by
  refine Window.ext rfl rfl ?_
  rw [next_pos]
  exact (Nat.min_eq_right (h.trans (Nat.le_succ _))).trans
    (Nat.le_antisymm h w.pos_le)

/-- After `k` moves on. -/
theorem iterate_next_pos (k : Nat) :
    (next^[k] w).pos = min (w.pos + k) w.last := by
  induction k generalizing w with
  | zero => exact (Nat.min_eq_left w.pos_le).symm
  | succ k ih =>
      rw [Function.iterate_succ_apply, ih, next_last, next_pos]
      omega

/-- After `k` moves back. -/
theorem iterate_prev_pos (k : Nat) : (prev^[k] w).pos = w.pos - k := by
  induction k generalizing w with
  | zero => rfl
  | succ k ih =>
      rw [Function.iterate_succ_apply, ih, prev_pos]
      omega

/-- What a move leaves alone, any number of moves does. -/
theorem iterate_keeps {α : Type*} {F : Window → α} {move : Window → Window}
    (hmove : ∀ v, F (move v) = F v) (k : Nat) : F (move^[k] w) = F w := by
  induction k generalizing w with
  | zero => rfl
  | succ k ih => rw [Function.iterate_succ_apply, ih, hmove]

/-- An item to the right of the window comes into view by moving on. -/
theorem contains_iterate_next {i : Nat} (hsize : 0 < w.size)
    (hi : i < w.items) (hright : w.pos + w.size ≤ i) :
    (next^[i + 1 - (w.pos + w.size)] w).Contains i := by
  rw [Contains, iterate_next_pos, w.iterate_keeps next_size, last]
  omega

/-- An item to the left of the window comes into view by moving back. -/
theorem contains_iterate_prev {i : Nat} (hsize : 0 < w.size)
    (hleft : i < w.pos) : (prev^[w.pos - i] w).Contains i := by
  rw [Contains, iterate_prev_pos, w.iterate_keeps prev_size]
  omega

-- ======================================================== moves as runs

variable {σ ε : Type*} {step : σ → ε → Option σ}

/-- A run that makes one move, made again and again. -/
theorem run_moves {I : σ → Window → Prop} {move : Window → Window}
    {events : List ε}
    (hmove : ∀ s v, I s v → ∃ t, run step s events = some t ∧ I t (move v))
    (k : Nat) :
    ∀ {s : σ} {v : Window}, I s v →
      ∃ t, run step s (List.replicate k events).flatten = some t
        ∧ I t (move^[k] v) := by
  induction k with
  | zero => exact fun {s v} hI => ⟨s, rfl, hI⟩
  | succ k ih =>
      intro s v hI
      obtain ⟨u, hu, hnext⟩ := hmove s v hI
      obtain ⟨t, ht, hlast⟩ := ih hnext
      refine ⟨t, ?_, hlast⟩
      rw [List.replicate_succ, List.flatten_cons]
      exact run_append_eq_some.mpr ⟨u, hu, ht⟩

/-- Where some events move the window back and some move it on, repeating
one of the two brings every item into view. -/
theorem brings_by_moves {I : σ → Window → Prop} {back on : List ε}
    (hback : ∀ s v, I s v → ∃ t, run step s back = some t ∧ I t v.prev)
    (hon : ∀ s v, I s v → ∃ t, run step s on = some t ∧ I t v.next)
    {s : σ} (hI : I s w) (hsize : 0 < w.size) {i : Nat}
    (hi : i < w.items) :
    ∃ events k t v, (events = back ∨ events = on)
      ∧ run step s (List.replicate k events).flatten = some t
      ∧ I t v ∧ v.Contains i := by
  by_cases hleft : i < w.pos
  · obtain ⟨t, ht, hlast⟩ := run_moves hback (w.pos - i) hI
    exact ⟨back, _, t, _, .inl rfl, ht, hlast,
      w.contains_iterate_prev hsize hleft⟩
  · by_cases hright : w.pos + w.size ≤ i
    · obtain ⟨t, ht, hlast⟩ :=
        run_moves hon (i + 1 - (w.pos + w.size)) hI
      exact ⟨on, _, t, _, .inr rfl, ht, hlast,
        w.contains_iterate_next hsize hi hright⟩
    · refine ⟨back, 0, s, w, .inl rfl, rfl, hI, ?_⟩
      rw [Contains]
      omega

end Window

end SkillBuddy.Lib
