/-
Cutting a text at a set of positions.

# Two readings

`slices` is the declarative one: given the cuts in order, a piece reaches
from behind one cut to before the next, and the letter at a cut belongs to
no piece. `cutFrom` is one pass over the letters that asks at each
position whether to cut. `slices_filter_range` says they agree.

# When a cut loses nothing

The pieces joined with a letter are the text with that letter written at
every cut. So the join gives the text back iff that letter stood at every
cut (`intercalate_cutFrom_eq_iff`), and no piece has the letter iff every
one of them was a cut (`forall_notMem_cutFrom_iff`).
-/
import SkillBuddy.Lib.Quoted

namespace SkillBuddy.Lib.Cut

open Lib.Quoted (consHead foldr_consHead)
open Lib (intercalate_cons_eq)

universe u

variable {α : Type u}

-- ================================================================ pieces

/-- The pieces of a text from `start` on, between the given cuts. -/
def slices (text : List α) : Nat → List Nat → List (List α)
  | start, [] => [text.drop start]
  | start, cut :: cuts =>
      (text.drop start).take (cut - start) :: slices text (cut + 1) cuts

/-- The pieces of a text whose first letter stands at position `i`, cut
where `p` holds. -/
def cutFrom (p : Nat → Prop) [DecidablePred p] :
    Nat → List α → List (List α)
  | _, [] => [[]]
  | i, c :: cs =>
      if p i then [] :: cutFrom p (i + 1) cs
      else consHead c (cutFrom p (i + 1) cs)

variable {p : Nat → Prop} [DecidablePred p]

/-- There is always a first piece. -/
theorem exists_cutFrom_eq_cons (i : Nat) (text : List α) :
    ∃ piece pieces, cutFrom p i text = piece :: pieces := by
  induction text generalizing i with
  | nil => exact ⟨[], [], rfl⟩
  | cons c cs ih =>
      obtain ⟨piece, pieces, h⟩ := ih (i + 1)
      rw [cutFrom]
      by_cases hp : p i
      · rw [if_pos hp]
        exact ⟨[], _, rfl⟩
      · rw [if_neg hp, h]
        exact ⟨c :: piece, pieces, rfl⟩

/-- Only the answers at the text's own positions matter. -/
theorem cutFrom_congr {q : Nat → Prop} [DecidablePred q] {i j : Nat}
    {text : List α} (h : ∀ k < text.length, p (i + k) ↔ q (j + k)) :
    cutFrom p i text = cutFrom q j text := by
  induction text generalizing i j with
  | nil => rfl
  | cons c cs ih =>
      have hrest : cutFrom p (i + 1) cs = cutFrom q (j + 1) cs := by
        apply ih
        intro k hk
        have hk' := h (k + 1) (Nat.succ_lt_succ hk)
        rwa [Nat.add_comm k 1, ← Nat.add_assoc, ← Nat.add_assoc] at hk'
      rw [cutFrom, cutFrom, hrest]
      exact if_congr (h 0 (Nat.succ_pos _)) rfl rfl

/-- The pass and the slices agree, letters passed since the last cut
included. -/
theorem slices_filter_range' (before pending rest : List α) :
    slices (before ++ (pending ++ rest)) before.length
        ((List.range' (before.length + pending.length) rest.length).filter
          (p ·))
      = pending.foldr consHead
        (cutFrom p (before.length + pending.length) rest) := by
  induction rest generalizing before pending with
  | nil =>
      rw [List.append_nil, cutFrom, foldr_consHead, List.append_nil]
      show [(before ++ pending).drop before.length] = _
      rw [List.drop_left]
  | cons c cs ih =>
      rw [List.length_cons, List.range'_succ, cutFrom]
      by_cases hp : p (before.length + pending.length)
      · have hnext := ih (before ++ (pending ++ [c])) []
        have hposition : (before ++ (pending ++ [c])).length + 0
            = before.length + pending.length + 1 := by
          simp only [List.length_append, List.length_singleton]
          omega
        rw [List.length_nil, hposition, List.foldr_nil] at hnext
        rw [List.filter_cons_of_pos (by simpa using hp), if_pos hp,
          foldr_consHead, List.append_nil, slices, ← hnext, List.drop_left,
          Nat.add_sub_cancel_left, List.take_left]
        have htext : before ++ (pending ++ c :: cs)
            = before ++ (pending ++ [c]) ++ ([] ++ cs) := by simp
        rw [htext, ← hposition, Nat.add_zero]
      · have hnext := ih before (pending ++ [c])
        have hposition : before.length + (pending ++ [c]).length
            = before.length + pending.length + 1 := by
          rw [List.length_append, List.length_singleton, Nat.add_assoc]
        rw [hposition, List.foldr_append, List.append_assoc] at hnext
        rw [List.filter_cons_of_neg (by simpa using hp), if_neg hp]
        exact hnext

/-- Cutting a text where `p` holds, both ways. -/
theorem slices_filter_range (text : List α) :
    slices text 0 ((List.range text.length).filter (p ·))
      = cutFrom p 0 text := by
  rw [List.range_eq_range']
  exact slices_filter_range' [] [] text

-- ============================================================== lossless

/-- Putting a letter in front of the first piece puts it in front of the
join. -/
theorem intercalate_consHead (d c : α) {pieces : List (List α)}
    (h : pieces ≠ []) :
    List.intercalate [d] (consHead c pieces)
      = c :: List.intercalate [d] pieces := by
  obtain ⟨piece, pieces, rfl⟩ := List.exists_cons_of_ne_nil h
  rw [consHead, intercalate_cons_eq, intercalate_cons_eq, List.cons_append]

/-- An empty piece in front puts the letter there. -/
theorem intercalate_nil_cons (d : α) {pieces : List (List α)}
    (h : pieces ≠ []) :
    List.intercalate [d] ([] :: pieces)
      = d :: List.intercalate [d] pieces := by
  obtain ⟨piece, pieces, rfl⟩ := List.exists_cons_of_ne_nil h
  rw [List.intercalate_cons_cons]
  rfl

theorem cutFrom_ne_nil (i : Nat) (text : List α) :
    cutFrom p i text ≠ [] := by
  obtain ⟨piece, pieces, h⟩ := @exists_cutFrom_eq_cons α p _ i text
  rw [h]
  exact List.cons_ne_nil _ _

/-- The join is the text iff the letter stood at every cut. -/
theorem intercalate_cutFrom_eq_iff (d : α) (i : Nat) (text : List α) :
    List.intercalate [d] (cutFrom p i text) = text
      ↔ ∀ k c, text[k]? = some c → p (i + k) → c = d := by
  induction text generalizing i with
  | nil =>
      refine iff_of_true rfl ?_
      intro k c hc
      exact absurd hc (by simp)
  | cons c cs ih =>
      have hshift : (∀ k e, (c :: cs)[k]? = some e → p (i + k) → e = d)
          ↔ (p i → c = d)
            ∧ ∀ k e, cs[k]? = some e → p (i + 1 + k) → e = d := by
        constructor
        · intro h
          refine ⟨h 0 c rfl, ?_⟩
          intro k e he hp
          refine h (k + 1) e he ?_
          rwa [Nat.add_comm k 1, ← Nat.add_assoc]
        · intro h k e he hp
          obtain ⟨hhead, htail⟩ := h
          cases k with
          | zero =>
              rw [← Option.some.inj he]
              exact hhead hp
          | succ k =>
              refine htail k e he ?_
              rwa [Nat.add_assoc, Nat.add_comm 1 k]
      rw [hshift, ← ih, cutFrom]
      by_cases hp : p i
      · rw [if_pos hp, intercalate_nil_cons d (cutFrom_ne_nil _ _),
          List.cons.injEq]
        refine and_congr_left ?_
        intro _
        exact ⟨fun h _ => h.symm, fun h => (h hp).symm⟩
      · rw [if_neg hp, intercalate_consHead d c (cutFrom_ne_nil _ _),
          List.cons.injEq]
        refine and_congr_left ?_
        intro _
        exact iff_of_true rfl (fun h => absurd h hp)

/-- No piece has the letter iff each of them was a cut. -/
theorem forall_notMem_cutFrom_iff (d : α) (i : Nat) (text : List α) :
    (∀ piece ∈ cutFrom p i text, d ∉ piece)
      ↔ ∀ k, text[k]? = some d → p (i + k) := by
  induction text generalizing i with
  | nil => simp [cutFrom]
  | cons c cs ih =>
      have hshift : (∀ k, (c :: cs)[k]? = some d → p (i + k))
          ↔ (c = d → p i) ∧ ∀ k, cs[k]? = some d → p (i + 1 + k) := by
        constructor
        · intro h
          refine ⟨fun hc => h 0 (congrArg some hc), ?_⟩
          intro k hk
          have hp := h (k + 1) hk
          rwa [Nat.add_comm k 1, ← Nat.add_assoc] at hp
        · intro h k hk
          obtain ⟨hhead, htail⟩ := h
          cases k with
          | zero => exact hhead (Option.some.inj hk)
          | succ k =>
              have hp := htail k hk
              rwa [Nat.add_assoc, Nat.add_comm 1 k] at hp
      rw [hshift, ← ih, cutFrom]
      by_cases hp : p i
      · rw [if_pos hp, List.forall_mem_cons]
        exact and_congr (iff_of_true List.not_mem_nil fun _ => hp) Iff.rfl
      · obtain ⟨piece, pieces, h⟩ := @exists_cutFrom_eq_cons α p _ (i + 1) cs
        rw [if_neg hp, h, consHead, List.forall_mem_cons,
          List.forall_mem_cons, List.mem_cons, not_or, and_assoc]
        refine and_congr ?_ Iff.rfl
        exact ⟨fun hd hc => absurd hc.symm hd,
          fun hc hd => hp (hc hd.symm)⟩

end SkillBuddy.Lib.Cut
