/-
Outlines: a forest written as a list of lines, each with a depth.

# Writing

A leaf is one line at the depth of its forest, a node a line one deeper
followed by the lines of its children, who are a forest at that depth. So
the lines say how deep something is and not where it ends.

# Where a forest ends

A forest at depth `d` is over at the first line that is less deep, or that
starts a node as deep as itself: at depth `d` nodes start at `d + 1`
(`Ends`). No line of a forest ends it (`not_endsAt_of_mem`), and the next
tree of the forest around it does (`exists_lines_eq`); so the lines tell
where the children of a node are over and its siblings begin
(`ends_linesAll`).

# Reading

`linesAll_inj` reads the forest back, and with it whatever follows
(`linesAll_append_inj`). What follows has to be part of the statement,
because the children of a node are followed by its siblings. The
induction is on the forest, and a first line tells a leaf from a node from
the end.
-/
import Mathlib.Data.List.Basic

namespace SkillBuddy.Lib

/-- A tree with data at its leaves and at its nodes. -/
inductive Outline (α β : Type) where
  | leaf (a : α)
  | node (b : β) (children : List (Outline α β))

namespace Outline

variable {α β : Type}

/-- A line: its depth, and the leaf it is or the node it starts. -/
abbrev Line (α β : Type) := Nat × (α ⊕ β)

mutual
/-- The lines of a tree in a forest at depth `d`. -/
def lines (d : Nat) : Outline α β → List (Line α β)
  | leaf a => [(d, .inl a)]
  | node b children => (d + 1, .inr b) :: linesAll (d + 1) children
/-- The lines of a forest at depth `d`. -/
def linesAll (d : Nat) : List (Outline α β) → List (Line α β)
  | [] => []
  | t :: ts => lines d t ++ linesAll d ts
end

/-- A line that is no line of a tree at depth `d`. -/
def EndsAt (d : Nat) (line : Line α β) : Prop :=
  line.1 < d ∨ line.1 = d ∧ line.2.isRight = true

/-- A forest at depth `d` is over. -/
def Ends (d : Nat) (rest : List (Line α β)) : Prop :=
  ∀ line ∈ rest.head?, EndsAt d line

/-- At the end of the lines every forest is over. -/
theorem ends_nil (d : Nat) : Ends d ([] : List (Line α β)) :=
  fun _ h => by cases h

/-- Where a forest is over, so is one that is deeper. -/
theorem Ends.succ {d : Nat} {rest : List (Line α β)} (h : Ends d rest) :
    Ends (d + 1) rest := by
  intro line hline
  left
  rcases h line hline with h | ⟨h, -⟩
  · omega
  · omega

/-- No line of a forest ends it. -/
theorem not_endsAt_of_mem :
    ∀ {ts : List (Outline α β)} {d : Nat} {line : Line α β},
      line ∈ linesAll d ts → ¬EndsAt d line := by
  have hdeeper : ∀ {d : Nat} {line : Line α β}, ¬EndsAt (d + 1) line →
      ¬EndsAt d line := by
    intro d line h hends
    rcases hends with hd | ⟨hd, -⟩
    · exact h (Or.inl (by omega))
    · exact h (Or.inl (by omega))
  intro ts
  refine @Outline.rec_1 α β
    (fun t => ∀ {d : Nat} {line : Line α β}, line ∈ lines d t →
      ¬EndsAt d line)
    (fun ts => ∀ {d : Nat} {line : Line α β}, line ∈ linesAll d ts →
      ¬EndsAt d line) ?_ ?_ ?_ ?_ ts
  · intro a d line h
    obtain rfl := List.mem_singleton.mp h
    intro hends
    rcases hends with hd | ⟨-, hd⟩
    · exact absurd hd (Nat.lt_irrefl d)
    · cases hd
  · intro b children ih d line h
    rcases List.mem_cons.mp h with rfl | h
    · intro hends
      rcases hends with hd | ⟨hd, -⟩
      · exact absurd hd (Nat.not_lt.mpr (Nat.le_succ d))
      · exact absurd hd (Nat.succ_ne_self d)
    · exact hdeeper (ih h)
  · intro d line h
    exact absurd h List.not_mem_nil
  · intro t ts iht ihts d line h
    rcases List.mem_append.mp h with h | h
    · exact iht h
    · exact ihts h

/-- A tree starts with a line that ends any forest that is deeper. -/
theorem exists_lines_eq (d : Nat) (t : Outline α β) :
    ∃ line rest, lines d t = line :: rest ∧ EndsAt (d + 1) line := by
  cases t with
  | leaf a => exact ⟨(d, .inl a), [], rfl, Or.inl (Nat.lt_succ_self d)⟩
  | node b children => exact ⟨(d + 1, .inr b), _, rfl, Or.inr ⟨rfl, rfl⟩⟩

/-- What follows a tree in its forest ends the tree's children. -/
theorem ends_linesAll {d : Nat} (ts : List (Outline α β))
    {rest : List (Line α β)} (h : Ends d rest) :
    Ends (d + 1) (linesAll d ts ++ rest) := by
  cases ts with
  | nil => exact h.succ
  | cons t ts =>
      obtain ⟨line, more, hline, hends⟩ := exists_lines_eq d t
      intro l hl
      rw [linesAll, hline, List.cons_append, List.cons_append,
        List.head?_cons, Option.mem_some_iff] at hl
      rw [← hl]
      exact hends

/-- A forest that goes on is not over. -/
theorem linesAll_cons_ne {d : Nat} (t : Outline α β)
    (ts : List (Outline α β)) (more : List (Line α β))
    {rest : List (Line α β)} (h : Ends d rest) :
    linesAll d (t :: ts) ++ more ≠ rest := by
  intro heq
  subst heq
  obtain ⟨line, more', hline, -⟩ := exists_lines_eq d t
  have hcons : linesAll d (t :: ts) = line :: (more' ++ linesAll d ts) := by
    rw [linesAll, hline]
    rfl
  have hmem : line ∈ linesAll d (t :: ts) := by
    rw [hcons]
    exact List.mem_cons_self
  rw [hcons] at h
  exact not_endsAt_of_mem hmem (h line rfl)

/-- A forest and what follows it are determined by their lines. -/
theorem linesAll_append_inj :
    ∀ {ts us : List (Outline α β)} {d : Nat} {rest rest' : List (Line α β)},
      Ends d rest → Ends d rest' →
      linesAll d ts ++ rest = linesAll d us ++ rest' →
      ts = us ∧ rest = rest' := by
  intro ts
  refine @Outline.rec_1 α β
    (fun t => ∀ {u : Outline α β} {d : Nat} {rest rest' : List (Line α β)},
      Ends (d + 1) rest → Ends (d + 1) rest' →
      lines d t ++ rest = lines d u ++ rest' → t = u ∧ rest = rest')
    (fun ts => ∀ {us : List (Outline α β)} {d : Nat}
      {rest rest' : List (Line α β)}, Ends d rest → Ends d rest' →
      linesAll d ts ++ rest = linesAll d us ++ rest' →
      ts = us ∧ rest = rest') ?_ ?_ ?_ ?_ ts
  · -- a leaf: the other tree is one too
    intro a u d rest rest' _ _ h
    cases u with
    | leaf a' =>
        injection h with hline hrest
        injection hline with _ ha
        injection ha with ha
        exact ⟨congrArg leaf ha, hrest⟩
    | node b children =>
        injection h with hline
        injection hline with _ h
        cases h
  · -- a node: its children are what comes before the forest goes on
    intro b children ih u d rest rest' hends hends' h
    cases u with
    | leaf a =>
        injection h with hline
        injection hline with _ h
        cases h
    | node b' children' =>
        injection h with hline hlines
        injection hline with _ hb
        injection hb with hb
        obtain ⟨hchildren, hrest⟩ := ih hends hends' hlines
        rw [hb, hchildren]
        exact ⟨rfl, hrest⟩
  · intro us d rest rest' hends _ h
    cases us with
    | nil => exact ⟨rfl, h⟩
    | cons u us =>
        exact absurd h.symm (linesAll_cons_ne u us rest' hends)
  · intro t ts iht ihts us d rest rest' hends hends' h
    cases us with
    | nil => exact absurd h (linesAll_cons_ne t ts rest hends')
    | cons u us =>
        rw [linesAll, linesAll, List.append_assoc, List.append_assoc] at h
        obtain ⟨ht, hmore⟩ := iht (ends_linesAll ts hends)
          (ends_linesAll us hends') h
        obtain ⟨hts, hrest⟩ := ihts hends hends' hmore
        rw [ht, hts]
        exact ⟨rfl, hrest⟩

/-- A forest is determined by its lines. -/
theorem linesAll_inj {d : Nat} {ts us : List (Outline α β)}
    (h : linesAll d ts = linesAll d us) : ts = us := by
  refine (linesAll_append_inj (ends_nil d) (ends_nil d) ?_).1
  rw [List.append_nil, List.append_nil]
  exact h

end Outline

end SkillBuddy.Lib
