/-
Computations that change a state and may throw, the state surviving the
throw: the shape of code whose calls fail half-way.

# Computations

`Eff ε σ α` returns a value or an error together with the state it
leaves. `bind`, `tryCatch` and `finallyDo` are the language's sequencing,
`catch` and `finally`; `zoom` runs a computation on a part of a larger
state, which keeps what was done to the part when it throws.

# Executing them

A computation is executed symbolically with the `run` equations, which
are the simp set. A `finally` runs in the state the `try` has left, and if
it returns it changes nothing about how the `try` ended
(`run_finallyDo`); if it throws, its throw is the one that is seen
(`finallyDo_run`).

# Properties that are kept

That a computation keeps a property however it ends is argued with the
`Keeps` rules, one for each way to put computations together. They ask
for no case analysis on how the parts end. Where only the second part
keeps it, `bind_ends` begins with what holds where the first one ends.
-/
import Mathlib.Data.List.Basic

namespace SkillBuddy.Lib

/-- A computation over the state `σ` that returns an `α` or throws an
`ε`, and leaves a state either way. -/
structure Eff (ε σ α : Type) where
  run : σ → Except ε α × σ

namespace Eff

variable {ε σ τ α β : Type}

/-- Sequencing: a throw of the first part skips the rest. -/
protected def bind (x : Eff ε σ α) (f : α → Eff ε σ β) : Eff ε σ β where
  run s :=
    match x.run s with
    | (.ok a, t) => (f a).run t
    | (.error e, t) => (.error e, t)

instance : Monad (Eff ε σ) where
  pure a := ⟨fun s => (.ok a, s)⟩
  bind := Eff.bind

/-- Throw. -/
def throw (e : ε) : Eff ε σ α := ⟨fun s => (.error e, s)⟩

/-- The current state. -/
def get : Eff ε σ σ := ⟨fun s => (.ok s, s)⟩

/-- Assign to the state. -/
def modify (f : σ → σ) : Eff ε σ Unit := ⟨fun s => (.ok (), f s)⟩

/-- `try x catch { h }`: the handler starts in the state the throw left. -/
def tryCatch (x : Eff ε σ α) (h : ε → Eff ε σ α) : Eff ε σ α where
  run s :=
    match x.run s with
    | (.ok a, t) => (.ok a, t)
    | (.error e, t) => (h e).run t

/-- `try { x } finally { fin }`: `fin` runs after a return and after a
throw, and its own throw wins. -/
def finallyDo (x : Eff ε σ α) (fin : Eff ε σ Unit) : Eff ε σ α where
  run s :=
    match x.run s with
    | (r, t) =>
      match fin.run t with
      | (.ok _, u) => (r, u)
      | (.error e, u) => (.error e, u)

/-- Run a computation on the part of the state that `view` finds; without
that part there is nothing to run it on and `absent` runs instead. -/
def zoom (view : σ → Option τ) (put : τ → σ → σ) (x : Eff ε τ α)
    (absent : Eff ε σ α) : Eff ε σ α where
  run s :=
    match view s with
    | some p => ((x.run p).1, put (x.run p).2 s)
    | none => absent.run s

-- ================================================= symbolic execution

@[simp] theorem run_pure (a : α) (s : σ) :
    (pure a : Eff ε σ α).run s = (.ok a, s) := rfl

@[simp] theorem run_throw (e : ε) (s : σ) :
    (throw e : Eff ε σ α).run s = (.error e, s) := rfl

@[simp] theorem run_get (s : σ) :
    (get : Eff ε σ σ).run s = (.ok s, s) := rfl

@[simp] theorem run_modify (f : σ → σ) (s : σ) :
    (modify f : Eff ε σ Unit).run s = (.ok (), f s) := rfl

@[simp] theorem run_bind (x : Eff ε σ α) (f : α → Eff ε σ β) (s : σ) :
    (x >>= f).run s = match x.run s with
      | (.ok a, t) => (f a).run t
      | (.error e, t) => (.error e, t) := rfl

/-- A `catch` that is not needed does nothing; one that is goes on from the
state the throw has left. -/
theorem run_tryCatch (x : Eff ε σ α) (h : ε → Eff ε σ α) (s : σ) :
    (tryCatch x h).run s = match x.run s with
      | (.ok a, t) => (.ok a, t)
      | (.error e, t) => (h e).run t := rfl

/-- A result that is dropped. -/
theorem run_dropped (x : Eff ε σ α) (s : σ) :
    (do let _ ← x : Eff ε σ Unit).run s
      = ((x.run s).1.map fun _ => (), (x.run s).2) := by
  rw [run_bind]
  obtain ⟨_ | _, t⟩ := x.run s <;> rfl

/-- A part that is there is run on, and put back. -/
theorem run_zoom {view : σ → Option τ} {put : τ → σ → σ} {x : Eff ε τ α}
    {absent : Eff ε σ α} {s : σ} {p : τ} (h : view s = some p) :
    (zoom view put x absent).run s = ((x.run p).1, put (x.run p).2 s) := by
  simp only [zoom, h]

/-- How a `try` with a `finally` ends: the throw of the `finally` wins. -/
theorem finallyDo_run (x : Eff ε σ α) (fin : Eff ε σ Unit) (s : σ) :
    (finallyDo x fin).run s = match fin.run (x.run s).2 with
      | (.ok _, u) => ((x.run s).1, u)
      | (.error e, u) => (.error e, u) := rfl

/-- The state a `try` with a `finally` leaves is that of the `finally`. -/
theorem snd_finallyDo (x : Eff ε σ α) (fin : Eff ε σ Unit) (s : σ) :
    ((finallyDo x fin).run s).2 = (fin.run (x.run s).2).2 := by
  rw [finallyDo_run]
  obtain ⟨_ | _, u⟩ := fin.run (x.run s).2 <;> rfl

/-- A `finally` that returns changes nothing about how the `try` ended. -/
theorem run_finallyDo {x : Eff ε σ α} {fin : Eff ε σ Unit} {s u : σ}
    (h : fin.run (x.run s).2 = (.ok (), u)) :
    (finallyDo x fin).run s = ((x.run s).1, u) := by
  simp only [finallyDo, h]

-- ========================================================== preservation

/-- However the computation ends, it ends in an `I`-state if it started
in one. -/
def Keeps (I : σ → Prop) (x : Eff ε σ α) : Prop :=
  ∀ s, I s → I (x.run s).2

/-- A throw leaves the state alone. -/
theorem keeps_throw {I : σ → Prop} (e : ε) :
    Keeps I (throw e : Eff ε σ α) := fun _ h => h

/-- So does reading it. -/
theorem keeps_get {I : σ → Prop} : Keeps I (get : Eff ε σ σ) :=
  fun _ h => h

/-- What holds where the first part ends and is kept by the second holds
in the end. -/
theorem bind_ends {I : σ → Prop} {x : Eff ε σ α} {f : α → Eff ε σ β}
    {s : σ} (hx : I (x.run s).2) (hf : ∀ a, Keeps I (f a)) :
    I ((x >>= f).run s).2 := by
  rw [run_bind]
  match hr : x.run s with
  | (.ok a, t) =>
      rw [hr] at hx
      exact hf a t hx
  | (.error e, t) =>
      rw [hr] at hx
      exact hx

/-- Sequencing keeps what both parts keep. -/
theorem keeps_bind {I : σ → Prop} {x : Eff ε σ α} {f : α → Eff ε σ β}
    (hx : Keeps I x) (hf : ∀ a, Keeps I (f a)) : Keeps I (x >>= f) :=
  fun s hs => bind_ends (hx s hs) hf

/-- A choice keeps what both branches keep. -/
theorem keeps_ite {I : σ → Prop} {c : Prop} [Decidable c]
    {x y : Eff ε σ α} (hx : Keeps I x) (hy : Keeps I y) :
    Keeps I (if c then x else y) := by
  split
  · exact hx
  · exact hy

/-- So does a `try` with its `finally`. -/
theorem keeps_finallyDo {I : σ → Prop} {x : Eff ε σ α}
    {fin : Eff ε σ Unit} (hx : Keeps I x) (hfin : Keeps I fin) :
    Keeps I (finallyDo x fin) := by
  intro s hs
  have hu := hfin _ (hx s hs)
  simp only [finallyDo]
  match hf : fin.run (x.run s).2 with
  | (.ok _, u) =>
      rw [hf] at hu
      exact hu
  | (.error e, u) =>
      rw [hf] at hu
      exact hu

end Eff

end SkillBuddy.Lib
