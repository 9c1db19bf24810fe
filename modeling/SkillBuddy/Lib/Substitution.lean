/-
Filling the slots of a text, at once and one word after another.

# At once

A text with slots is a list of pieces, letters and slots. Each slot stands
for a word in the text as written (`render word`) and for a value in the
text filled in (`render value`). `pieces` finds the slots in one pass from
left to right, so `render value (pieces …)` is the simultaneous
substitution: it never looks into a value. The pieces spell the text they
were found in (`render_pieces`).

# One after another

`replaceFrom` replaces every occurrence of a word, over the whole text.
That fills the word's slots and no more if the word occurs only there,
which is a matter of counting: a word occurs in its slots at least
(`slots_le_occurrences`), so if there are no more occurrences than slots
there is none elsewhere, and between two slots nothing is replaced
(`replaceFrom_render`).

For a whole list of words, one after another, the texts in between matter:
some slots are filled already, and their values may have made new
occurrences. `FillsCleanly` asks that the counts are right however many
slots are filled; then any order of the words comes to the simultaneous
substitution (`foldl_replaceFrom`, `foldl_replaceFrom_eq_render`). It is
decidable, the keys being finitely many.
-/
import Mathlib.Data.List.Sublists
import Mathlib.Logic.Function.Basic

namespace SkillBuddy.Lib.Substitution

universe u v

variable {α : Type u} {κ : Type v}

-- ================================================================= pieces

/-- A letter, or a slot. -/
inductive Piece (α : Type u) (κ : Type v) where
  | lit (a : α)
  | slot (k : κ)
  deriving DecidableEq, Repr

/-- The text of a piece. -/
def Piece.render (f : κ → List α) : Piece α κ → List α
  | .lit a => [a]
  | .slot k => f k

/-- The text of a list of pieces. -/
def render (f : κ → List α) (ps : List (Piece α κ)) : List α :=
  ps.flatMap (Piece.render f)

@[simp] theorem render_nil (f : κ → List α) : render f [] = [] := rfl

/-- The text of the first piece comes first. -/
theorem render_cons (f : κ → List α) (p : Piece α κ)
    (ps : List (Piece α κ)) :
    render f (p :: ps) = p.render f ++ render f ps :=
  rfl

/-- Only the slots that are there matter. -/
theorem render_congr {f g : κ → List α} {ps : List (Piece α κ)}
    (h : ∀ k, .slot k ∈ ps → f k = g k) : render f ps = render g ps := by
  induction ps with
  | nil => rfl
  | cons p ps ih =>
      rw [render_cons, render_cons,
        ih fun k hk => h k (List.mem_cons_of_mem p hk)]
      cases p with
      | lit a => rfl
      | slot k =>
          show f k ++ _ = g k ++ _
          rw [h k List.mem_cons_self]

/-- A text without slots. -/
theorem render_map_lit (f : κ → List α) (text : List α) :
    render f (text.map .lit) = text := by
  induction text with
  | nil => rfl
  | cons c cs ih => rw [List.map_cons, render_cons, ih]; rfl

/-- The keys in `done` filled in, the others as they are written. -/
def fill [DecidableEq κ] (word value : κ → List α) (done : List κ)
    (k : κ) : List α :=
  if k ∈ done then value k else word k

/-- One key more is filled in. -/
theorem update_fill [DecidableEq κ] (word value : κ → List α)
    (done : List κ) (b : κ) :
    Function.update (fill word value done) b (value b)
      = fill word value (b :: done) := by
  funext k
  unfold fill
  by_cases hk : k = b
  · subst hk
    rw [Function.update_self, if_pos List.mem_cons_self]
  · rw [Function.update_of_ne hk]
    simp only [List.mem_cons, hk, false_or]

/-- How many slots a key has. -/
def slots [DecidableEq κ] (k : κ) : List (Piece α κ) → Nat
  | [] => 0
  | .slot k' :: ps => (if k' = k then 1 else 0) + slots k ps
  | .lit _ :: ps => slots k ps

variable [DecidableEq α]

/-- The pieces of a text after `skip` more letters: from left to right,
the first key whose word comes next is a slot. -/
def pieces (word : κ → List α) (keys : List κ) :
    Nat → List α → List (Piece α κ)
  | _, [] => []
  | skip + 1, _ :: cs => pieces word keys skip cs
  | 0, c :: cs =>
      match keys.find? fun k => (word k).isPrefixOf (c :: cs) with
      | some k => .slot k :: pieces word keys ((word k).length - 1) cs
      | none => .lit c :: pieces word keys 0 cs

/-- The pieces spell the text. -/
theorem render_pieces {word : κ → List α} {keys : List κ}
    (hword : ∀ k ∈ keys, word k ≠ []) (text : List α) :
    ∀ skip, render word (pieces word keys skip text) = text.drop skip := by
  induction text with
  | nil =>
      intro skip
      rw [List.drop_nil]
      cases skip <;> rfl
  | cons c cs ih =>
      intro skip
      cases skip with
      | succ skip => exact ih skip
      | zero =>
          rw [pieces]
          split
          · rename_i k hk
            have hfound : (word k).isPrefixOf (c :: cs) = true := by
              simpa using List.find?_some hk
            obtain ⟨rest, hrest⟩ := List.isPrefixOf_iff_prefix.mp hfound
            have hne := hword k (List.mem_of_find?_eq_some hk)
            obtain ⟨a, w, hw⟩ := List.exists_cons_of_ne_nil hne
            rw [render_cons, ih]
            show word k ++ _ = _
            rw [hw, List.cons_append, List.cons.injEq] at hrest
            rw [hw, ← hrest.2]
            show a :: (w ++ (w ++ rest).drop w.length) = _
            rw [List.drop_left, hrest.1]
            rfl
          · rw [render_cons, ih]
            rfl

/-- Slots are found for the given keys only. -/
theorem mem_of_slot_mem_pieces {word : κ → List α} {keys : List κ} {k : κ}
    (text : List α) :
    ∀ skip, .slot k ∈ pieces word keys skip text → k ∈ keys := by
  induction text with
  | nil =>
      intro skip h
      cases skip <;> exact absurd h List.not_mem_nil
  | cons c cs ih =>
      intro skip h
      cases skip with
      | succ skip => exact ih skip h
      | zero =>
          rw [pieces] at h
          split at h
          · rename_i k' hk'
            rcases List.mem_cons.mp h with heq | h
            · obtain rfl := Piece.slot.inj heq
              exact List.mem_of_find?_eq_some hk'
            · exact ih _ h
          · rcases List.mem_cons.mp h with heq | h
            · cases heq
            · exact ih 0 h

/-- A text without the letter the words begin with has no slots. -/
theorem pieces_eq_map_lit {word : κ → List α} {keys : List κ} {a : α}
    (hword : ∀ k ∈ keys, (word k).head? = some a) {text : List α}
    (htext : a ∉ text) : pieces word keys 0 text = text.map .lit := by
  induction text with
  | nil => rfl
  | cons c cs ih =>
      rw [List.mem_cons, not_or] at htext
      have hnone : (keys.find? fun k => (word k).isPrefixOf (c :: cs))
          = none := by
        refine List.find?_eq_none.mpr fun k hk hpre => ?_
        obtain ⟨rest, hrest⟩ := List.isPrefixOf_iff_prefix.mp hpre
        have hhead := hword k hk
        cases hw : word k with
        | nil =>
            rw [hw] at hhead
            cases hhead
        | cons c' w =>
            rw [hw, List.head?_cons, Option.some.injEq] at hhead
            rw [hw, List.cons_append, List.cons.injEq] at hrest
            exact htext.1 (hhead.symm.trans hrest.1)
      rw [pieces, hnone, ih htext.2]
      rfl

-- ============================================================= occurrences

/-- Where a word occurs in a text, counted. -/
def occurrences (w : List α) : List α → Nat
  | [] => 0
  | c :: cs => (if w.isPrefixOf (c :: cs) then 1 else 0) + occurrences w cs

/-- How many occurrences of a word in `x ++ y` start in `x`. -/
def starts (w : List α) : List α → List α → Nat
  | [], _ => 0
  | c :: cs, y =>
      (if w.isPrefixOf (c :: (cs ++ y)) then 1 else 0) + starts w cs y

/-- An occurrence starts in the first part or in the second. -/
theorem occurrences_append (w x y : List α) :
    occurrences w (x ++ y) = starts w x y + occurrences w y := by
  induction x with
  | nil => rw [List.nil_append, starts, Nat.zero_add]
  | cons c cs ih =>
      rw [List.cons_append, occurrences, ih, starts, Nat.add_assoc]

/-- A word occurs where it stands. -/
theorem starts_self_pos {w : List α} (hw : w ≠ []) (y : List α) :
    1 ≤ starts w w y := by
  obtain ⟨c, cs, rfl⟩ := List.exists_cons_of_ne_nil hw
  have hpre : (c :: cs).isPrefixOf (c :: (cs ++ y)) = true :=
    List.isPrefixOf_iff_prefix.mpr ⟨y, rfl⟩
  rw [starts, if_pos hpre]
  omega

/-- No occurrence starts in a text without the word's first letter. -/
theorem starts_eq_zero {w : List α} {a : α} (hw : w.head? = some a)
    {x : List α} (hx : a ∉ x) (y : List α) : starts w x y = 0 := by
  induction x with
  | nil => rfl
  | cons c cs ih =>
      rw [List.mem_cons, not_or] at hx
      rw [starts, ih hx.2, if_neg]
      intro hpre
      obtain ⟨rest, hrest⟩ := List.isPrefixOf_iff_prefix.mp hpre
      cases w with
      | nil => cases hw
      | cons c' w =>
          rw [List.head?_cons, Option.some.injEq] at hw
          rw [List.cons_append, List.cons.injEq] at hrest
          exact hx.1 (hw.symm.trans hrest.1)

variable [DecidableEq κ]

/-- A word occurs in its slots at least. -/
theorem slots_le_occurrences {f : κ → List α} {b : κ} (hne : f b ≠ [])
    (ps : List (Piece α κ)) :
    slots b ps ≤ occurrences (f b) (render f ps) := by
  induction ps with
  | nil => exact Nat.zero_le _
  | cons p ps ih =>
      rw [render_cons, occurrences_append]
      cases p with
      | lit a =>
          rw [slots]
          omega
      | slot k =>
          rw [slots]
          by_cases hk : k = b
          · subst hk
            have hpos := starts_self_pos hne (render f ps)
            rw [if_pos rfl]
            show _ ≤ starts (f k) (f k) _ + _
            omega
          · rw [if_neg hk]
            omega

-- ============================================================ replacements

/-- Replacing a word after `skip` more letters: each occurrence from left
to right, without looking into what was inserted. -/
def replaceFrom (old new : List α) : Nat → List α → List α
  | _, [] => []
  | skip + 1, _ :: cs => replaceFrom old new skip cs
  | 0, c :: cs =>
      if old.isPrefixOf (c :: cs) then
        new ++ replaceFrom old new (old.length - 1) cs
      else c :: replaceFrom old new 0 cs

/-- Letters that are skipped are gone. -/
theorem replaceFrom_skip (old new x y : List α) :
    replaceFrom old new x.length (x ++ y) = replaceFrom old new 0 y := by
  induction x with
  | nil => rfl
  | cons c cs ih => exact ih

/-- A word where it stands is replaced. -/
theorem replaceFrom_word {w : List α} (hw : w ≠ []) (v y : List α) :
    replaceFrom w v 0 (w ++ y) = v ++ replaceFrom w v 0 y := by
  obtain ⟨c, cs, rfl⟩ := List.exists_cons_of_ne_nil hw
  have hpre : (c :: cs).isPrefixOf (c :: (cs ++ y)) = true :=
    List.isPrefixOf_iff_prefix.mpr ⟨y, rfl⟩
  rw [List.cons_append, replaceFrom, if_pos hpre]
  congr 1
  exact replaceFrom_skip _ _ cs y

/-- A text in which no occurrence starts is kept. -/
theorem replaceFrom_of_starts_eq_zero {w x y : List α} (v : List α)
    (h : starts w x y = 0) :
    replaceFrom w v 0 (x ++ y) = x ++ replaceFrom w v 0 y := by
  induction x with
  | nil => rfl
  | cons c cs ih =>
      rw [starts] at h
      by_cases hpre : w.isPrefixOf (c :: (cs ++ y)) = true
      · rw [if_pos hpre] at h
        omega
      · rw [if_neg hpre, Nat.zero_add] at h
        rw [List.cons_append, replaceFrom, if_neg hpre, ih h]
        rfl

/-- Replacing a word that occurs only in its slots fills its slots. By
induction on the pieces: no occurrence starts at a letter, and one does at
each of its slots. -/
theorem replaceFrom_render {f : κ → List α} {b : κ} (hne : f b ≠ [])
    (v : List α) {ps : List (Piece α κ)}
    (hocc : occurrences (f b) (render f ps) = slots b ps) :
    replaceFrom (f b) v 0 (render f ps)
      = render (Function.update f b v) ps := by
  induction ps with
  | nil => rfl
  | cons p ps ih =>
      have hle := @slots_le_occurrences α κ _ _ f b hne ps
      rw [render_cons, occurrences_append] at hocc
      rw [render_cons, render_cons]
      cases p with
      | lit a =>
          rw [slots] at hocc
          rw [replaceFrom_of_starts_eq_zero v (by omega), ih (by omega)]
          rfl
      | slot k =>
          rw [slots] at hocc
          by_cases hk : k = b
          · subst hk
            have hpos := starts_self_pos hne (render f ps)
            have hstarts : 1 ≤ starts (f k) ((Piece.slot k).render f)
              (render f ps) := hpos
            rw [if_pos rfl] at hocc
            show replaceFrom (f k) v 0 (f k ++ render f ps) = _
            rw [replaceFrom_word hne, ih (by omega)]
            show _ = Function.update f k v k ++ _
            rw [Function.update_self]
          · rw [if_neg hk] at hocc
            rw [replaceFrom_of_starts_eq_zero v (by omega), ih (by omega)]
            show _ = Function.update f b v k ++ _
            rw [Function.update_of_ne hk]
            rfl

-- ====================================================== one after another

/-- However many slots are filled in, the other words occur only in their
slots. -/
def FillsCleanly (word value : κ → List α) (keys : List κ)
    (ps : List (Piece α κ)) : Prop :=
  ∀ done ∈ keys.sublists, ∀ b ∈ keys, b ∉ done →
    occurrences (word b) (render (fill word value done) ps) = slots b ps

instance (word value : κ → List α) (keys : List κ)
    (ps : List (Piece α κ)) : Decidable (FillsCleanly word value keys ps) :=
  inferInstanceAs (Decidable (∀ done ∈ keys.sublists, ∀ b ∈ keys,
    b ∉ done → occurrences (word b) (render (fill word value done) ps)
      = slots b ps))

/-- Any set of keys is one of the sublists. -/
theorem FillsCleanly.of_subset {word value : κ → List α} {keys : List κ}
    {ps : List (Piece α κ)} (h : FillsCleanly word value keys ps)
    {done : List κ} (hdone : done ⊆ keys) {b : κ} (hb : b ∈ keys)
    (hnew : b ∉ done) :
    occurrences (word b) (render (fill word value done) ps) = slots b ps := by
  have hfill : fill word value done
      = fill word value (keys.filter fun k => k ∈ done) := by
    funext k
    unfold fill
    by_cases hk : k ∈ done
    · rw [if_pos hk, if_pos]
      exact List.mem_filter.mpr ⟨hdone hk, decide_eq_true hk⟩
    · rw [if_neg hk, if_neg]
      intro hmem
      exact hk (of_decide_eq_true (List.mem_filter.mp hmem).2)
  rw [hfill]
  apply h _ (List.mem_sublists.mpr List.filter_sublist) b hb
  intro hmem
  exact hnew (of_decide_eq_true (List.mem_filter.mp hmem).2)

/-- Replacing the words of some keys, one after another, fills their
slots. By induction on the order; what is filled already is `done`. -/
theorem foldl_replaceFrom {word value : κ → List α} {keys : List κ}
    {ps : List (Piece α κ)} (hword : ∀ k ∈ keys, word k ≠ [])
    (hclean : FillsCleanly word value keys ps) (order : List κ) :
    ∀ done, done ⊆ keys → order ⊆ keys → order.Nodup →
      (∀ k ∈ order, k ∉ done) →
      order.foldl (fun text k => replaceFrom (word k) (value k) 0 text)
          (render (fill word value done) ps)
        = render (fill word value (order.reverse ++ done)) ps := by
  induction order with
  | nil => exact fun _ _ _ _ _ => rfl
  | cons b order ih =>
      intro done hdone horder hnodup hnew
      have hb : b ∈ keys := horder List.mem_cons_self
      have hbnew : b ∉ done := hnew b List.mem_cons_self
      obtain ⟨hnotin, hnodup⟩ := List.nodup_cons.mp hnodup
      have hfb : fill word value done b = word b := if_neg hbnew
      have hstep : replaceFrom (word b) (value b) 0
            (render (fill word value done) ps)
          = render (fill word value (b :: done)) ps := by
        have hocc := hclean.of_subset hdone hb hbnew
        rw [← hfb] at hocc ⊢
        rw [← update_fill]
        refine replaceFrom_render ?_ (value b) hocc
        rw [hfb]
        exact hword b hb
      have hrest := ih (b :: done)
        (List.cons_subset.mpr ⟨hb, hdone⟩)
        (fun k hk => horder (List.mem_cons_of_mem b hk)) hnodup
        (fun k hk hmem => by
          rcases List.mem_cons.mp hmem with rfl | hmem
          · exact hnotin hk
          · exact hnew k (List.mem_cons_of_mem b hk) hmem)
      rw [List.foldl_cons, hstep, hrest, List.reverse_cons,
        List.append_assoc]
      rfl

/-- All words, in any order: the simultaneous substitution. -/
theorem foldl_replaceFrom_eq_render {word value : κ → List α}
    {keys order : List κ} (hword : ∀ k ∈ keys, word k ≠ [])
    (hnodup : keys.Nodup) (horder : order.Perm keys) (text : List α)
    (hclean : FillsCleanly word value keys (pieces word keys 0 text)) :
    order.foldl (fun text k => replaceFrom (word k) (value k) 0 text) text
      = render value (pieces word keys 0 text) := by
  have hwritten : render (fill word value []) (pieces word keys 0 text)
      = text := by
    have hfill : fill word value [] = word := by
      funext k
      exact if_neg List.not_mem_nil
    rw [hfill, render_pieces hword text 0]
    rfl
  have hfold := foldl_replaceFrom hword hclean order []
    (List.nil_subset keys) horder.subset (horder.nodup_iff.mpr hnodup)
    (fun _ _ => List.not_mem_nil)
  rw [hwritten] at hfold
  rw [hfold]
  apply render_congr
  intro k hk
  refine if_pos ?_
  rw [List.append_nil, List.mem_reverse]
  exact horder.symm.subset (mem_of_slot_mem_pieces text 0 hk)

end SkillBuddy.Lib.Substitution
