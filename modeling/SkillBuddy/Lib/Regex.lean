/-
Regular expressions with lookaheads and anchors, matched by backtracking.

# Two readings

`run` is the matcher: on the text that is left it lists what can be left
behind a match, in the order in which a greedy backtracking search comes
to them. `Matches` is the declarative meaning, the loop being the
reflexive and transitive closure of its body. They agree
(`mem_run_iff`); the order only matters to which match is the first. A
round of a loop that consumes nothing is its last one, so the text bounds
the number of rounds; that nothing is lost by this is
`mem_runStar_iff`: a way through a closure need not stay where it is.

# Positions

A position is the text from there on. The anchor at the start needs the
length of the whole text, which both readings carry along.

# Splitting

`split` looks for matches from left to right, behind each one again, and
one letter further behind an empty one; what stands between them are the
pieces. Two kinds of expressions are understood completely:

- where an expression matches just the next letter, at the positions that
  have a property, splitting is cutting there (`split_of_letter`);
- where it matches only the empty text no letter is taken, so joining the
  pieces with a letter never gives the text back
  (`intercalate_split_ne_of_empty`).
-/
import Mathlib.Data.List.Basic
import Mathlib.Data.List.Infix
import Mathlib.Logic.Relation
import Mathlib.Tactic.Tauto
import SkillBuddy.Lib.Cut

namespace SkillBuddy.Lib

open Relation
open Cut (slices cutFrom slices_filter_range)

universe u

/-- A regular expression over letters in `α`. -/
inductive Regex (α : Type u) where
  /-- The empty text. -/
  | empty
  /-- One letter that is among the given ones, or is not. -/
  | letter (negated : Bool) (letters : List α)
  | seq (first second : Regex α)
  | alt (left right : Regex α)
  /-- As often as possible. -/
  | star (body : Regex α)
  /-- What follows matches, or does not; nothing is consumed. -/
  | ahead (positive : Bool) (body : Regex α)
  /-- The start of the text. -/
  | start
  /-- The end of the text, or in front of `last` at its end. -/
  | finish (last : α)
  deriving DecidableEq, Repr

namespace Regex

variable {α : Type u}

-- ============================================================ the matcher

/-- The rounds of a loop: a round that consumes nothing is the last. -/
def runStar (step : List α → List (List α)) :
    Nat → List α → List (List α)
  | 0, s => [s]
  | fuel + 1, s =>
      (step s).flatMap (fun t =>
        if t.length < s.length then runStar step fuel t else [t]) ++ [s]

/-- The rounds of a loop lead where its body does, again and again. -/
theorem mem_runStar_iff {R : List α → List α → Prop}
    {step : List α → List (List α)}
    (hstep : ∀ s t, t ∈ step s ↔ R s t) (hsuffix : ∀ s t, R s t → t <:+ s)
    {fuel : Nat} {s t : List α} (hfuel : s.length ≤ fuel) :
    t ∈ runStar step fuel s ↔ ReflTransGen R s t := by
  induction fuel generalizing s with
  | zero =>
      -- from the end of the text a loop leads nowhere
      obtain rfl := List.length_eq_zero_iff.mp (Nat.le_zero.mp hfuel)
      rw [runStar, List.mem_singleton]
      constructor
      · intro h
        rw [h]
      · intro h
        induction h with
        | refl => rfl
        | tail _ hlast ih =>
            subst ih
            exact List.suffix_nil.mp (hsuffix _ _ hlast)
  | succ fuel ih =>
      rw [runStar, List.mem_append, List.mem_singleton, List.mem_flatMap]
      constructor
      · intro h
        rcases h with ⟨m, hm, ht⟩ | rfl
        · have hfirst := (hstep s m).mp hm
          by_cases hless : m.length < s.length
          · rw [if_pos hless, ih (by omega)] at ht
            exact ReflTransGen.head hfirst ht
          · rw [if_neg hless, List.mem_singleton] at ht
            rw [ht]
            exact ReflTransGen.single hfirst
        · exact ReflTransGen.refl
      · intro h
        induction h using ReflTransGen.head_induction_on with
        | refl => exact Or.inr rfl
        | head hfirst hrest ihrest =>
            rename_i s m
            by_cases hless : m.length < s.length
            · left
              refine ⟨m, (hstep s m).mpr hfirst, ?_⟩
              rw [if_pos hless, ih (by omega)]
              exact hrest
            · -- a round that consumes nothing changes nothing
              have hsame : m = s :=
                (hsuffix s m hfirst).eq_of_length_le (by omega)
              subst hsame
              exact ihrest hfuel

variable [DecidableEq α]

/-- What can be left behind a match at the front of a text, best first;
`total` is the length of the whole text. -/
def run (total : Nat) : Regex α → List α → List (List α)
  | .empty, s => [s]
  | .letter negated letters, s =>
      match s with
      | [] => []
      | c :: cs => if decide (c ∈ letters) = negated then [] else [cs]
  | .seq r t, s => (run total r s).flatMap (run total t)
  | .alt r t, s => run total r s ++ run total t s
  | .star r, s => runStar (run total r) s.length s
  | .ahead positive r, s =>
      if (run total r s).isEmpty = positive then [] else [s]
  | .start, s => if s.length = total then [s] else []
  | .finish last, s => if s = [] ∨ s = [last] then [s] else []

-- ============================================================ the meaning

/-- A match at the front of `s` leaves `t`. -/
def Matches (total : Nat) : Regex α → List α → List α → Prop
  | .empty, s, t => t = s
  | .letter negated letters, s, t =>
      ∃ c, s = c :: t ∧ decide (c ∈ letters) ≠ negated
  | .seq r r', s, t => ∃ m, Matches total r s m ∧ Matches total r' m t
  | .alt r r', s, t => Matches total r s t ∨ Matches total r' s t
  | .star r, s, t => ReflTransGen (Matches total r) s t
  | .ahead positive r, s, t =>
      t = s ∧ ((∃ m, Matches total r s m) ↔ positive = true)
  | .start, s, t => t = s ∧ s.length = total
  | .finish last, s, t => t = s ∧ (s = [] ∨ s = [last])

/-- A match leaves an end of the text: letters are taken from the front, and
nothing is put back. -/
theorem Matches.suffix {total : Nat} {r : Regex α} {s t : List α}
    (h : Matches total r s t) : t <:+ s := by
  induction r generalizing s t with
  | empty =>
      obtain rfl : t = s := h
      exact List.suffix_refl t
  | letter negated letters =>
      obtain ⟨c, rfl, -⟩ := h
      exact List.suffix_cons c t
  | seq r r' ih ih' =>
      obtain ⟨m, hm, hm'⟩ := h
      exact (ih' hm').trans (ih hm)
  | alt r r' ih ih' =>
      rcases h with h | h
      · exact ih h
      · exact ih' h
  | star r ih =>
      change ReflTransGen (Matches total r) s t at h
      induction h with
      | refl => exact List.suffix_refl s
      | tail _ hstep ihstar => exact (ih hstep).trans ihstar
  | ahead positive r ih =>
      obtain rfl := h.1
      exact List.suffix_refl t
  | start =>
      obtain rfl := h.1
      exact List.suffix_refl t
  | finish last =>
      obtain rfl := h.1
      exact List.suffix_refl t

/-- The matcher finds what the meaning allows, and nothing else. By
induction on the expression; the loop is `mem_runStar_iff`. -/
theorem mem_run_iff {total : Nat} {r : Regex α} {s t : List α} :
    t ∈ run total r s ↔ Matches total r s t := by
  induction r generalizing s t with
  | empty => exact List.mem_singleton
  | letter negated letters =>
      cases s with
      | nil =>
          constructor
          · intro h
            cases h
          · intro h
            obtain ⟨c, hc, -⟩ := h
            cases hc
      | cons c cs =>
          rw [run]
          by_cases hin : decide (c ∈ letters) = negated
          · rw [if_pos hin]
            constructor
            · intro h
              cases h
            · intro h
              obtain ⟨d, hd, hnot⟩ := h
              rw [← (List.cons.inj hd).1] at hnot
              exact absurd hin hnot
          · rw [if_neg hin, List.mem_singleton]
            constructor
            · intro h
              exact ⟨c, by rw [h], hin⟩
            · intro h
              obtain ⟨d, hd, -⟩ := h
              exact (List.cons.inj hd).2.symm
  | seq r r' ih ih' =>
      rw [run, List.mem_flatMap]
      simp only [ih, ih']
      rfl
  | alt r r' ih ih' =>
      rw [run, List.mem_append, ih, ih']
      rfl
  | star r ih =>
      exact mem_runStar_iff (fun _ _ => ih) (fun _ _ => Matches.suffix)
        (Nat.le_refl _)
  | ahead positive r ih =>
      have hsome : (run total r s).isEmpty = positive
          ↔ ¬((∃ m, Matches total r s m) ↔ positive = true) := by
        have hempty : (∃ m, Matches total r s m)
            ↔ (run total r s).isEmpty = false := by
          rw [List.isEmpty_eq_false_iff_exists_mem]
          simp only [ih]
        rw [hempty]
        cases positive <;> cases (run total r s).isEmpty <;> simp
      rw [run]
      by_cases hnone : (run total r s).isEmpty = positive
      · rw [if_pos hnone]
        constructor
        · intro h
          cases h
        · intro h
          exact absurd h.2 (hsome.mp hnone)
      · rw [if_neg hnone, List.mem_singleton]
        exact (and_iff_left (not_not.mp (mt hsome.mpr hnone))).symm
  | start =>
      rw [run]
      by_cases h : s.length = total <;> simp [h, Matches]
  | finish last =>
      rw [run]
      by_cases h : s = [] ∨ s = [last] <;> simp [h, Matches]

/-- A loop over letters passes any number of them. -/
theorem matches_star_letter_iff {total : Nat} {negated : Bool}
    {letters s t : List α} :
    Matches total (.star (.letter negated letters)) s t
      ↔ ∃ passed, s = passed ++ t
          ∧ ∀ c ∈ passed, decide (c ∈ letters) ≠ negated := by
  constructor
  · intro h
    change ReflTransGen (Matches total (.letter negated letters)) s t at h
    induction h using ReflTransGen.head_induction_on with
    | refl => exact ⟨[], rfl, fun c hc => absurd hc List.not_mem_nil⟩
    | head hfirst _ ih =>
        obtain ⟨c, rfl, hc⟩ := hfirst
        obtain ⟨passed, rfl, hpassed⟩ := ih
        exact ⟨c :: passed, rfl, List.forall_mem_cons.mpr ⟨hc, hpassed⟩⟩
  · intro h
    obtain ⟨passed, rfl, hpassed⟩ := h
    induction passed with
    | nil => exact ReflTransGen.refl
    | cons c passed ih =>
        rw [List.forall_mem_cons] at hpassed
        exact ReflTransGen.head ⟨c, rfl, hpassed.1⟩ (ih hpassed.2)

-- ===================================================== matches in a text

/-- A match: where it begins and how many letters it has. -/
structure Match where
  index : Nat
  length : Nat
  deriving DecidableEq, Repr

variable (regex : Regex α) (text : List α)

/-- The match that begins at a position: the first the matcher finds. -/
def matchAt (i : Nat) : Option Match :=
  (run text.length regex (text.drop i)).head?.map fun rest =>
    ⟨i, text.length - i - rest.length⟩

/-- The matches from position `i` on, left to right. The search goes on
behind a match, and one letter further behind an empty one. -/
def matchesFrom : (fuel i : Nat) → List Match
  | 0, _ => []
  | fuel + 1, i =>
      if text.length < i then []
      else
        match matchAt regex text i with
        | none => matchesFrom fuel (i + 1)
        | some m =>
            m :: matchesFrom fuel
              (if m.length = 0 then i + 1 else i + m.length)

/-- The text between matches, from position `start` on. -/
def between (start : Nat) : List Match → List (List α)
  | [] => [text.drop start]
  | m :: ms =>
      (text.drop start).take (m.index - start)
        :: between (m.index + m.length) ms

/-- A text split at all matches of an expression. -/
def split : List (List α) :=
  between text 0 (matchesFrom regex text (text.length + 1) 0)

variable {regex text}

/-- A match that begins at a position has that index. -/
theorem index_matchAt {i : Nat} {m : Match}
    (h : matchAt regex text i = some m) : m.index = i := by
  obtain ⟨rest, -, rfl⟩ := Option.map_eq_some_iff.mp h
  rfl

/-- There is none exactly if the meaning allows none. -/
theorem matchAt_eq_none_iff {i : Nat} :
    matchAt regex text i = none
      ↔ ∀ t, ¬Matches text.length regex (text.drop i) t := by
  rw [matchAt, Option.map_eq_none_iff, List.head?_eq_none_iff,
    List.eq_nil_iff_forall_not_mem]
  simp only [mem_run_iff]

/-- A match that begins at a position is a match in front of the text
from there on. -/
theorem exists_matches_of_matchAt {i : Nat} {m : Match}
    (h : matchAt regex text i = some m) :
    ∃ t, Matches text.length regex (text.drop i) t
      ∧ m = ⟨i, text.length - i - t.length⟩ := by
  obtain ⟨rest, hrest, rfl⟩ := Option.map_eq_some_iff.mp h
  exact ⟨rest, mem_run_iff.mp (List.mem_of_head? hrest), rfl⟩

/-- Without matches there is none at any position. -/
theorem matchAt_of_matchesFrom_eq_nil {fuel i j : Nat}
    (h : matchesFrom regex text fuel i = []) (hij : i ≤ j)
    (hfuel : j < fuel + i) (hj : j ≤ text.length) :
    matchAt regex text j = none := by
  induction fuel generalizing i with
  | zero => omega
  | succ fuel ih =>
      rw [matchesFrom, if_neg (by omega)] at h
      cases hm : matchAt regex text i with
      | none =>
          by_cases hsame : i = j
          · rw [← hsame]
            exact hm
          · rw [hm] at h
            exact ih h (by omega) (by omega)
      | some m =>
          rw [hm] at h
          cases h

-- ===================================================== one letter at a time

section
variable {p : Nat → Prop} [DecidablePred p]
  (h : ∀ i ≤ text.length, ∀ t,
    Matches text.length regex (text.drop i) t
      ↔ (∃ c, text.drop i = c :: t) ∧ p i)
include h

/-- An expression that matches just the next letter, where `p` holds. -/
theorem matchAt_of_letter {i : Nat} (hi : i ≤ text.length) :
    matchAt regex text i
      = if i < text.length ∧ p i then some ⟨i, 1⟩ else none := by
  by_cases hp : i < text.length ∧ p i
  · have hcons := List.drop_eq_getElem_cons hp.1
    rw [if_pos hp]
    cases hmatch : matchAt regex text i with
    | none =>
        rw [matchAt_eq_none_iff] at hmatch
        exact absurd ((h i hi _).mpr ⟨⟨_, hcons⟩, hp.2⟩) (hmatch _)
    | some m =>
        obtain ⟨t, ht, rfl⟩ := exists_matches_of_matchAt hmatch
        obtain ⟨⟨c, hc⟩, -⟩ := (h i hi t).mp ht
        have hlength := congrArg List.length hc
        rw [List.length_drop, List.length_cons] at hlength
        rw [hlength, Nat.add_sub_cancel_left]
  · rw [if_neg hp, matchAt_eq_none_iff]
    intro t ht
    obtain ⟨⟨c, hc⟩, hpi⟩ := (h i hi t).mp ht
    apply hp
    refine ⟨?_, hpi⟩
    have hlength := congrArg List.length hc
    rw [List.length_drop, List.length_cons] at hlength
    omega

theorem matchesFrom_of_letter {fuel i : Nat} (hi : i ≤ text.length)
    (hfuel : text.length < fuel + i) :
    matchesFrom regex text fuel i
      = ((List.range' i (text.length - i)).filter (p ·)).map (⟨·, 1⟩) := by
  induction fuel generalizing i with
  | zero => omega
  | succ fuel ih =>
      rw [matchesFrom, if_neg (by omega), matchAt_of_letter h hi]
      by_cases hend : i = text.length
      · -- nothing matches at the end, and nothing is left behind it
        subst hend
        rw [if_neg (by omega), Nat.sub_self]
        cases fuel with
        | zero => rfl
        | succ fuel => exact if_pos (by omega)
      · have hlength : text.length - i = text.length - (i + 1) + 1 := by
          omega
        have hnext := ih (i := i + 1) (by omega) (by omega)
        rw [hlength, List.range'_succ]
        by_cases hp : p i
        · rw [if_pos ⟨by omega, hp⟩,
            List.filter_cons_of_pos (by simpa using hp), List.map_cons,
            ← hnext]
          rfl
        · rw [if_neg (by tauto), List.filter_cons_of_neg (by simpa using hp),
            ← hnext]

/-- Splitting there is cutting at the positions where `p` holds: each match
is one letter long, so none is looked for inside of another. -/
theorem split_of_letter : split regex text = cutFrom p 0 text := by
  have hslices : ∀ (start : Nat) (cuts : List Nat),
      between text start (cuts.map (⟨·, 1⟩)) = slices text start cuts := by
    intro start cuts
    induction cuts generalizing start with
    | nil => rfl
    | cons cut cuts ih =>
        rw [List.map_cons, between, slices, ih]
  rw [split, matchesFrom_of_letter h (Nat.zero_le _) (by omega), hslices,
    ← slices_filter_range, List.range_eq_range', Nat.sub_zero]
end

-- =========================================================== empty matches

section
variable (h : ∀ s t, Matches text.length regex s t → t = s)
include h

theorem length_of_matchAt {i : Nat} {m : Match}
    (hm : matchAt regex text i = some m) : m.length = 0 := by
  obtain ⟨t, ht, rfl⟩ := exists_matches_of_matchAt hm
  rw [h _ t ht, List.length_drop]
  exact Nat.sub_self _

/-- Between empty matches stands the whole text. -/
theorem sum_length_between {fuel start i : Nat} (hstart : start ≤ i) :
    ((between text start (matchesFrom regex text fuel i)).map
        List.length).sum = text.length - start := by
  induction fuel generalizing start i with
  | zero => simp [matchesFrom, between]
  | succ fuel ih =>
      rw [matchesFrom]
      by_cases hend : text.length < i
      · rw [if_pos hend]
        simp [between]
      · rw [if_neg hend]
        cases hm : matchAt regex text i with
        | none => exact ih (by omega)
        | some m =>
            have hnext := @ih i (i + 1) (Nat.le_succ i)
            show List.sum (List.map _ (between text start (m :: _))) = _
            rw [between, index_matchAt hm, length_of_matchAt h hm,
              if_pos rfl, Nat.add_zero, List.map_cons, List.sum_cons, hnext,
              List.length_take, List.length_drop]
            omega

/-- So an expression that matches only the empty text, and matches
somewhere, never leaves pieces whose join is the text. -/
theorem intercalate_split_ne_of_empty (d : α) {i : Nat}
    (hi : i ≤ text.length)
    (hmatch : ∃ t, Matches text.length regex (text.drop i) t) :
    List.intercalate [d] (split regex text) ≠ text := by
  intro heq
  have hpieces : ∀ start ms, (between text start ms).length
      = ms.length + 1 := by
    intro start ms
    induction ms generalizing start with
    | nil => rfl
    | cons m ms ih => rw [between, List.length_cons, ih, List.length_cons]
  have hsum := @sum_length_between _ _ regex text h (text.length + 1) 0 0
    (Nat.le_refl 0)
  have hcount := hpieces 0 (matchesFrom regex text (text.length + 1) 0)
  have hlength := congrArg List.length heq
  rw [split] at hlength
  cases hsplit : between text 0 (matchesFrom regex text (text.length + 1) 0)
    with
  | nil =>
      rw [hsplit] at hcount
      simp at hcount
  | cons piece pieces =>
      rw [hsplit] at hsum hcount hlength
      rw [length_intercalate_cons] at hlength
      rw [List.map_cons, List.sum_cons] at hsum
      rw [List.length_cons] at hcount
      have hnone : matchesFrom regex text (text.length + 1) 0 = [] := by
        rw [← List.length_eq_zero_iff]
        omega
      obtain ⟨t, ht⟩ := hmatch
      exact matchAt_eq_none_iff.mp
        (matchAt_of_matchesFrom_eq_nil hnone (Nat.zero_le i) (by omega)
          hi) t ht
end

end Regex

end SkillBuddy.Lib
