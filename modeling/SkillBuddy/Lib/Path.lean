/-
Walking a directory tree along a path.

# Two ways to follow a path

A location is the list of names from the root. A path is a list of moves:
stay, go up (the root has itself for a parent), go down to a name. `walk`
makes the moves one by one; `route` is their normal form, how far the path
climbs out of where it starts and which names it then enters. Going up
behind a name takes the name away again, and only where there is none left
the path climbs.

The normal form decides where a walk ends from any start
(`walk_eq_route`): a route's next move is made where the route leads
(`Route.from_step`).

# Staying inside

So it decides whether a walk ends inside the folder it started in
(`inside_walk_iff`): what it has climbed out of, it must enter again. A
path that does not climb does, whatever the folder; one that climbs may
come back, if it knows the names of the folders it has left.
-/
import Mathlib.Data.List.Basic
import Mathlib.Data.List.Induction

namespace SkillBuddy.Lib

universe u

variable {α : Type u}

-- ================================================================ walking

/-- What one component of a path does. -/
inductive Move (α : Type u) where
  | stay
  | up
  | down (name : α)
  deriving DecidableEq, Repr

/-- One move. -/
def Move.go (location : List α) : Move α → List α
  | .stay => location
  | .up => location.dropLast
  | .down name => location ++ [name]

/-- Where a path leads from a location. -/
def walk (location : List α) (moves : List (Move α)) : List α :=
  moves.foldl Move.go location

@[simp] theorem walk_nil (location : List α) : walk location [] = location :=
  rfl

theorem walk_cons (location : List α) (move : Move α)
    (moves : List (Move α)) :
    walk location (move :: moves) = walk (move.go location) moves := rfl

/-- A path in two parts. -/
theorem walk_append (location : List α) (moves moves' : List (Move α)) :
    walk location (moves ++ moves') = walk (walk location moves) moves' :=
  List.foldl_append

-- ============================================================ normal forms

/-- A path in normal form: folders to leave, then names to enter. -/
structure Route (α : Type u) where
  climb : Nat := 0
  names : List α := []
  deriving DecidableEq, Repr

/-- A route with one move more. -/
def Route.step (r : Route α) : Move α → Route α
  | .stay => r
  | .up =>
      if r.names.isEmpty then { r with climb := r.climb + 1 }
      else { r with names := r.names.dropLast }
  | .down name => { r with names := r.names ++ [name] }

/-- The normal form of a path. -/
def route (moves : List (Move α)) : Route α :=
  moves.foldl Route.step {}

/-- Where a route leads from a location. -/
def Route.from_ (r : Route α) (location : List α) : List α :=
  location.take (location.length - r.climb) ++ r.names

/-- Leaving one folder more. -/
theorem dropLast_take_sub (location : List α) (k : Nat) :
    (location.take (location.length - k)).dropLast
      = location.take (location.length - (k + 1)) := by
  rw [List.dropLast_eq_take, List.take_take, List.length_take]
  congr 1
  omega

/-- A route's next move is made where the route leads. -/
theorem Route.from_step (r : Route α) (move : Move α) (location : List α) :
    (r.step move).from_ location = move.go (r.from_ location) := by
  unfold Route.from_
  cases move with
  | stay => rfl
  | down name => exact (List.append_assoc ..).symm
  | up =>
      unfold Route.step Move.go
      by_cases hnames : r.names = []
      · simp only [hnames, List.isEmpty_nil, if_true, List.append_nil]
        exact (dropLast_take_sub location r.climb).symm
      · simp only [List.isEmpty_iff, if_neg hnames]
        exact (List.dropLast_append_of_ne_nil hnames).symm

/-- A path leads where its normal form leads. -/
theorem walk_eq_route (location : List α) (moves : List (Move α)) :
    walk location moves = (route moves).from_ location := by
  induction moves using List.reverseRecOn with
  | nil =>
      unfold route Route.from_
      simp
  | append_singleton moves move ih =>
      have hroute : route (moves ++ [move]) = (route moves).step move :=
        List.foldl_append
      rw [walk_append, ih, hroute, Route.from_step, walk_cons, walk_nil]

/-- From the root a path leads to the names it enters: there is nothing to
climb out of. -/
theorem walk_root (moves : List (Move α)) :
    walk [] moves = (route moves).names := by
  rw [walk_eq_route]
  unfold Route.from_
  rw [List.take_nil, List.nil_append]

-- ============================================================== containment

/-- A location below a folder. -/
def Inside (folder location : List α) : Prop :=
  folder <+: location ∧ location ≠ folder

instance [DecidableEq α] (folder location : List α) :
    Decidable (Inside folder location) :=
  inferInstanceAs (Decidable (_ ∧ _))

/-- Common leading names decide nothing. -/
theorem inside_append_iff (names folder location : List α) :
    Inside (names ++ folder) (names ++ location) ↔ Inside folder location := by
  unfold Inside
  rw [List.prefix_append_right_inj, ne_eq, List.append_right_inj]

/-- A walk that starts in a folder ends inside it exactly if the names it
enters go on from the folders it has left. -/
theorem inside_walk_iff (folder : List α) (moves : List (Move α)) :
    Inside folder (walk folder moves)
      ↔ Inside (folder.drop (folder.length - (route moves).climb))
        (route moves).names := by
  rw [walk_eq_route]
  unfold Route.from_
  generalize folder.length - (route moves).climb = k
  have hsplit : Inside folder (folder.take k ++ (route moves).names)
      = Inside (folder.take k ++ folder.drop k)
        (folder.take k ++ (route moves).names) := by
    rw [List.take_append_drop]
  rw [hsplit, inside_append_iff]

end SkillBuddy.Lib
