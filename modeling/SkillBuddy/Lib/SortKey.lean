/-
Sorting by a text, and numbers written to one width as such keys.

# Numerals

Texts compare letter by letter. On numerals of one length the first letter
that differs is the first digit that differs, and no later digits make up
for it (`value_lt`): the order of the texts is the order of the numbers
(`lt_iff_value_lt`). The width matters, since a shorter numeral may come
behind a longer one. Which letters the digits are does not, as long as
they are in the order of the digits (`Digits`).

# Sorting

Rows whose keys grow strictly are found back from any arrangement of them
by sorting (`sortBy_eq_of_perm`): no two have one key, so there is only
one order that is sorted, and it is theirs.
-/
import Mathlib.Data.List.Sort
import Mathlib.Tactic.Ring

namespace SkillBuddy.Lib.SortKey

universe u v

-- ============================================================== numerals

/-- Letters that stand for digits, in the order of the digits. -/
structure Digits (α : Type u) [LT α] (base : Nat) where
  isDigit : α → Prop
  digit : α → Nat
  digit_lt : ∀ {a}, isDigit a → digit a < base
  lt_iff : ∀ {a b}, isDigit a → isDigit b → (a < b ↔ digit a < digit b)
  eq_of_digit_eq : ∀ {a b}, isDigit a → isDigit b → digit a = digit b → a = b

namespace Digits

variable {α : Type u} [LT α] {base : Nat} (D : Digits α base)

/-- The number of a numeral, most significant digit first. -/
def value (text : List α) : Nat :=
  text.foldl (fun n a => base * n + D.digit a) 0

/-- All letters are digits. -/
def IsNumeral (text : List α) : Prop := ∀ a ∈ text, D.isDigit a

/-- A number that was read before the text counts for as many places. -/
theorem foldl_eq (text : List α) (n : Nat) :
    text.foldl (fun n a => base * n + D.digit a) n
      = base ^ text.length * n + D.value text := by
  unfold value
  induction text generalizing n with
  | nil => simp
  | cons a as ih =>
      rw [List.foldl_cons, List.foldl_cons, ih, ih (base * 0 + D.digit a),
        List.length_cons]
      ring

/-- A digit in front counts for as many places as there are behind it. -/
theorem value_cons (a : α) (as : List α) :
    D.value (a :: as) = base ^ as.length * D.digit a + D.value as := by
  unfold value
  rw [List.foldl_cons, D.foldl_eq, Nat.mul_zero, Nat.zero_add]
  rfl

/-- The digits behind a place never make up for one there. -/
theorem value_lt {text : List α} (h : D.IsNumeral text) :
    D.value text < base ^ text.length := by
  induction text with
  | nil => exact Nat.lt_of_lt_of_eq Nat.zero_lt_one (Nat.pow_zero _).symm
  | cons a as ih =>
      obtain ⟨ha, has⟩ := List.forall_mem_cons.mp h
      have hrest := ih has
      have hdigit : D.digit a + 1 ≤ base := D.digit_lt ha
      calc D.value (a :: as)
          = base ^ as.length * D.digit a + D.value as := D.value_cons a as
        _ < base ^ as.length * D.digit a + base ^ as.length := by omega
        _ = base ^ as.length * (D.digit a + 1) := by ring
        _ ≤ base ^ as.length * base := Nat.mul_le_mul_left _ hdigit
        _ = base ^ (a :: as).length := (Nat.pow_succ ..).symm

/-- Among numerals of one length the order of the texts is the order of
the numbers. By induction on the two; where the first digits are equal it
is the order of what is behind them. -/
theorem lt_iff_value_lt {as bs : List α} (hlength : as.length = bs.length)
    (has : D.IsNumeral as) (hbs : D.IsNumeral bs) :
    as < bs ↔ D.value as < D.value bs := by
  induction as generalizing bs with
  | nil =>
      obtain rfl := List.length_eq_zero_iff.mp hlength.symm
      exact iff_of_false (List.not_lt_nil []) (Nat.lt_irrefl _)
  | cons a as ih =>
      cases bs with
      | nil => cases hlength
      | cons b bs =>
          obtain ⟨ha, has⟩ := List.forall_mem_cons.mp has
          obtain ⟨hb, hbs⟩ := List.forall_mem_cons.mp hbs
          have hrest : as.length = bs.length := Nat.succ.inj hlength
          have hvalueA := D.value_lt has
          have hvalueB := D.value_lt hbs
          rw [hrest] at hvalueA
          rw [List.cons_lt_cons_iff, D.lt_iff ha hb, D.value_cons,
            D.value_cons, hrest, ih hrest has hbs]
          rcases Nat.lt_trichotomy (D.digit a) (D.digit b) with h | h | h
          · -- the first digit decides
            have hstep := Nat.mul_le_mul_left (base ^ bs.length)
              (Nat.succ_le_of_lt h)
            rw [Nat.mul_succ] at hstep
            exact iff_of_true (Or.inl h) (by omega)
          · have hab : a = b := D.eq_of_digit_eq ha hb h
            subst hab
            constructor
            · intro hor
              obtain hlt | ⟨-, hlt⟩ := hor
              · exact absurd hlt (Nat.lt_irrefl _)
              · omega
            · intro hlt
              exact Or.inr ⟨rfl, by omega⟩
          · have hstep := Nat.mul_le_mul_left (base ^ bs.length)
              (Nat.succ_le_of_lt h)
            rw [Nat.mul_succ] at hstep
            refine iff_of_false ?_ (by omega)
            intro hor
            obtain hlt | ⟨hab, -⟩ := hor
            · omega
            · rw [hab] at h
              exact absurd h (Nat.lt_irrefl _)

end Digits

-- =============================================================== sorting

section Sorting

variable {α : Type u} {κ : Type v} [LE κ] [LT κ] [Std.IsLinearOrder κ]
  [Std.LawfulOrderLT κ] [DecidableLE κ]

/-- `rows` sorted by their keys. -/
def sortBy (key : α → κ) (rows : List α) : List α :=
  rows.mergeSort fun a b => decide (key a ≤ key b)

omit [Std.IsLinearOrder κ] [DecidableLE κ] in
/-- Rows whose keys grow strictly have different keys. -/
theorem nodup_map_of_pairwise_lt {key : α → κ} {rows : List α}
    (h : rows.Pairwise fun a b => key a < key b) :
    (rows.map key).Nodup := by
  rw [List.Nodup, List.pairwise_map]
  refine h.imp ?_
  intro a b hlt heq
  rw [heq] at hlt
  exact Std.lt_irrefl hlt

/-- Rows whose keys grow strictly are found back from every arrangement of
them. -/
theorem sortBy_eq_of_perm {key : α → κ} {rows stored : List α}
    (h : rows.Pairwise fun a b => key a < key b)
    (hperm : stored.Perm rows) : sortBy key stored = rows := by
  have hsorted : (sortBy key stored).Pairwise
      fun a b => decide (key a ≤ key b) = true := by
    apply List.pairwise_mergeSort
    · intro a b c hab hbc
      simp only [decide_eq_true_eq] at hab hbc ⊢
      exact Std.le_trans hab hbc
    · intro a b
      simp only [Bool.or_eq_true, decide_eq_true_eq]
      exact Std.le_total
  have hrows : rows.Pairwise fun a b => decide (key a ≤ key b) = true := by
    refine h.imp ?_
    intro a b hlt
    rw [decide_eq_true_eq]
    exact Std.le_of_lt hlt
  have hsort : (sortBy key stored).Perm rows :=
    (List.mergeSort_perm _ _).trans hperm
  refine List.Perm.eq_of_pairwise ?_ hsorted hrows hsort
  intro a b ha hb hab hba
  rw [decide_eq_true_eq] at hab hba
  exact List.inj_on_of_nodup_map (nodup_map_of_pairwise_lt h)
    (hsort.mem_iff.mp ha) hb (Std.le_antisymm hab hba)

end Sorting

end SkillBuddy.Lib.SortKey
