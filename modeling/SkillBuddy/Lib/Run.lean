/-
Runs of a labelled transition function, and the invariant rule.

# Runs

A system is a partial step `σ → ε → Option σ` (`none`: the event cannot
happen there). `run` takes a list of events; `Along ok` says that every
event of the list meets `ok` in the state it happens in. Both are opened
at the first event (`run_cons_eq_some`, `along_cons_iff`), and a run can
be cut in two anywhere (`run_append_eq_some`).

# Invariants

The rule `run_invariant` carries a step-preserved property to the end of
every run whose events all meet `ok`; since a prefix of a run is a run,
that covers every state a run reaches. What a system does in one step is
all that is left to show of it.

`forall_reached_iff_along` is the exact form: where each step keeps the
property exactly if it meets `ok`, all states of a run have it exactly if
all events meet `ok`. The property that is asked for may be weaker than
the invariant that carries it; it is enough that a step which does not
meet `ok` loses the former.
-/
import Mathlib.Data.List.Basic

namespace SkillBuddy.Lib

universe u v

variable {σ : Type u} {ε : Type v} (step : σ → ε → Option σ)

-- ================================================================= runs

/-- The state after a list of events, if they can happen. -/
def run : σ → List ε → Option σ
  | s, [] => some s
  | s, e :: es => (step s e).bind fun t => run t es

/-- Every event of the list meets `ok` in the state it happens in. -/
def Along (ok : σ → ε → Prop) : σ → List ε → Prop
  | _, [] => True
  | s, e :: es => ok s e ∧ ∀ t, step s e = some t → Along ok t es

variable {step}

@[simp] theorem run_nil (s : σ) : run step s [] = some s := rfl

theorem run_cons (s : σ) (e : ε) (es : List ε) :
    run step s (e :: es) = (step s e).bind fun t => run step t es := rfl

/-- A run of one event more, opened at its first event. -/
theorem run_cons_eq_some {s t : σ} {e : ε} {es : List ε} :
    run step s (e :: es) = some t
      ↔ ∃ u, step s e = some u ∧ run step u es = some t := by
  rw [run_cons, Option.bind_eq_some_iff]

/-- A run that goes on after its first events. By induction on these. -/
theorem run_append_eq_some {es fs : List ε} :
    ∀ {s t : σ}, run step s (es ++ fs) = some t
      ↔ ∃ u, run step s es = some u ∧ run step u fs = some t := by
  induction es with
  | nil =>
      intro s t
      constructor
      · exact fun h => ⟨s, rfl, h⟩
      · rintro ⟨u, hu, h⟩
        rw [run_nil, Option.some.injEq] at hu
        rw [hu]
        exact h
  | cons e es ih =>
      intro s t
      rw [List.cons_append, run_cons_eq_some]
      constructor
      · rintro ⟨v, hv, hrest⟩
        obtain ⟨u, hu, hfs⟩ := ih.mp hrest
        exact ⟨u, run_cons_eq_some.mpr ⟨v, hv, hu⟩, hfs⟩
      · rintro ⟨u, hu, hfs⟩
        obtain ⟨v, hv, hes⟩ := run_cons_eq_some.mp hu
        exact ⟨v, hv, ih.mpr ⟨u, hes, hfs⟩⟩

/-- Where every event can always happen, every list of events is a run. -/
theorem run_total (htotal : ∀ s e, ∃ t, step s e = some t) (es : List ε) :
    ∀ s, ∃ t, run step s es = some t := by
  induction es with
  | nil => exact fun s => ⟨s, rfl⟩
  | cons e es ih =>
      intro s
      obtain ⟨u, hu⟩ := htotal s e
      obtain ⟨t, ht⟩ := ih u
      exact ⟨t, run_cons_eq_some.mpr ⟨u, hu, ht⟩⟩

/-- Conditions met at a first event that happens, and along the rest. -/
theorem along_cons {ok : σ → ε → Prop} {s t : σ} {e : ε} {es : List ε}
    (hok : ok s e) (hstep : step s e = some t)
    (hrest : Along step ok t es) : Along step ok s (e :: es) := by
  refine ⟨hok, fun u hu => ?_⟩
  obtain rfl := Option.some.inj (hstep.symm.trans hu)
  exact hrest

/-- The conditions along a run, opened at a first event that happens. -/
theorem along_cons_iff {ok : σ → ε → Prop} {s t : σ} {e : ε} {es : List ε}
    (hstep : step s e = some t) :
    Along step ok s (e :: es) ↔ ok s e ∧ Along step ok t es := by
  constructor
  · rintro ⟨hok, hrest⟩
    exact ⟨hok, hrest t hstep⟩
  · rintro ⟨hok, hrest⟩
    exact along_cons hok hstep hrest

/-- A condition on events alone holds along a run if it holds of its
events. -/
theorem along_of_forall {P : ε → Prop} {es : List ε} (h : ∀ e ∈ es, P e) :
    ∀ s : σ, Along step (fun _ e => P e) s es := by
  induction es with
  | nil => exact fun _ => trivial
  | cons e es ih =>
      intro s
      refine ⟨h e List.mem_cons_self, fun t _ => ih (fun f hf => ?_) t⟩
      exact h f (List.mem_cons_of_mem e hf)

-- ===================================================== the invariant rule

/-- What holds initially and is kept by every event meeting `ok` holds
at the end of every run whose events meet `ok`. -/
theorem run_invariant {ok : σ → ε → Prop} {I : σ → Prop}
    (hstep : ∀ s e t, I s → ok s e → step s e = some t → I t) :
    ∀ {es : List ε} {s t : σ}, I s → Along step ok s es →
      run step s es = some t → I t := by
  intro es
  induction es with
  | nil =>
      intro s t hs _ hrun
      rw [run_nil, Option.some.injEq] at hrun
      rwa [← hrun]
  | cons e es ih =>
      intro s t hs hok hrun
      obtain ⟨u, hu, hrun⟩ := run_cons_eq_some.mp hrun
      exact ih (hstep s e u hs hok.1 hu) (hok.2 u hu) hrun

/-- The unconditional form, for systems that keep the property whatever
happens. -/
theorem run_invariant_all {I : σ → Prop}
    (hstep : ∀ s e t, I s → step s e = some t → I t)
    {es : List ε} {s t : σ} (hs : I s) (hrun : run step s es = some t) :
    I t := by
  refine @run_invariant σ ε step (fun _ _ => True) I
    (fun s e t h _ => hstep s e t h) es s t hs ?_ hrun
  exact along_of_forall (fun _ _ => trivial) s

/-- Where a step out of an `S`-state stays in `S` if it meets `ok` and
leaves `T` if it does not, every state a run reaches has `T` exactly if
every event meets `ok`. -/
theorem forall_reached_iff_along {ok : σ → ε → Prop} {P : ε → Prop}
    {S T : σ → Prop} (htotal : ∀ s e, ∃ t, step s e = some t)
    (hST : ∀ s, S s → T s)
    (hkeep : ∀ s e t, S s → P e → step s e = some t → ok s e → S t)
    (hbreak : ∀ s e t, S s → P e → step s e = some t → T t → ok s e) :
    ∀ {es : List ε} {s : σ}, (∀ e ∈ es, P e) → S s →
      ((∀ pre, pre <+: es → ∀ t, run step s pre = some t → T t)
        ↔ Along step ok s es) := by
  intro es
  induction es with
  | nil =>
      intro s _ hs
      refine ⟨fun _ => trivial, fun _ pre hpre t hrun => ?_⟩
      rw [List.prefix_nil.mp hpre, run_nil, Option.some.injEq] at hrun
      rw [← hrun]
      exact hST s hs
  | cons e es ih =>
      intro s hP hs
      have hPe := hP e List.mem_cons_self
      have hPes : ∀ f ∈ es, P f := fun f hf =>
        hP f (List.mem_cons_of_mem e hf)
      obtain ⟨u, hu⟩ := htotal s e
      constructor
      · intro hall
        have hTu : T u := hall [e] ⟨es, rfl⟩ u (by
          rw [run_cons, hu]; rfl)
        have hok := hbreak s e u hs hPe hu hTu
        refine along_cons hok hu ?_
        refine (ih hPes (hkeep s e u hs hPe hu hok)).mp ?_
        intro pre hpre t hrun
        refine hall (e :: pre) ?_ t ?_
        · exact (List.prefix_cons_inj e).mpr hpre
        · rw [run_cons, hu]
          exact hrun
      · intro halong pre hpre t hrun
        match pre with
        | [] =>
            rw [run_nil, Option.some.injEq] at hrun
            rw [← hrun]
            exact hST s hs
        | e' :: pre =>
            obtain ⟨rfl, hrest⟩ := List.cons_prefix_cons.mp hpre
            obtain ⟨u', hu', hrun⟩ := run_cons_eq_some.mp hrun
            have hu'S := hkeep s e' u' hs hPe hu' halong.1
            exact (ih hPes hu'S).mpr (halong.2 u' hu') pre hrest t hrun

end SkillBuddy.Lib
