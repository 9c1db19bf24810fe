/-
A `DataManager`'s parameters over runs of its methods, on a connection
the caller has supplied.

# The history

`History` is what the parameters are about: those added since the last
`ClearParameters`, with the values the driver has written, and whether a
command has taken them. It knows nothing of the manager, its connection
or the driver's lists; a call changes it by `History.after`.

# The refinement

The manager refines it. `Records` says that its parameters are the
history's, that they belong to a command exactly if the history says so,
and that the connection is still there. Each kind of call is one lemma:
adding, clearing, and a command, whichever it is. For the commands it is
enough to know of the scope they leave that the parameters are marked and
the connection there (`Ran`), and every method has that from the one way
it prepares its command.

# What it says

The first command after a clearing takes all the parameters there are;
from then on every command is refused at the first of them, unless there
were none (`queries_send_added`). Npgsql refuses a parameter that belongs
to a collection already, so the refusal comes before anything is sent.

Reading is not affected. A command may have written to a parameter, but
not to its name, and not to the value of one that is for input only
(`ParameterSpec.Became`); so `GetParaValue` finds the first parameter that
was added under the name, with its value if it is for input
(`getParaValue_recorded`).
-/
import SkillBuddy.Data.Parameters
import SkillBuddy.Proofs.Reuse

namespace SkillBuddy

open DotNet Lib

-- ================================================================== runs

/-- The calls on a manager, and what happens to its connection. -/
inductive ParaAct where
  | addPara (oPara : ParameterSpec)
  | clearParameters
  | query (method : DataManager.Query) (answer : Answer) (out : Outcomes)
      (outputs : Nat → Option ParaValue)
  | read (isAsync : Bool) (out : Outcomes)
      (outputs : Nat → Option ParaValue)
  | getCommand (out : Outcomes)
  | elsewhere (heap : Heap)

/-- The connection the manager holds is there. -/
def FullScope.There (s : FullScope) (r : Nat) : Prop :=
  s.scope.self.oConn = some r
    ∧ ((s.scope.heap.connection r).oConn).isSome = true

/-- One call. Whatever is done elsewhere leaves the connection there. -/
def FullScope.step (r : Nat) (s : FullScope) : ParaAct → Option FullScope
  | .addPara oPara => some (s.addPara oPara)
  | .clearParameters => some s.clearParameters
  | .query method answer out outputs =>
      some (s.query method answer out outputs)
  | .read isAsync out outputs => some (s.read isAsync out outputs)
  | .getCommand out => some (s.getCommand out)
  | .elsewhere heap =>
      if (heap.connection r).oConn.isSome then
        some { s with scope := { s.scope with heap } }
      else none

-- =============================================================== history

/-- The parameters added since the last clearing, and whether a command
has taken them. -/
structure History where
  added : List ParameterSpec := []
  sent : Bool := false

namespace History

/-- After a command. -/
def commanded (h : History) (outputs : Nat → Option ParaValue) :
    History where
  added := h.added.mapIdx fun i p => p.written (outputs i)
  sent := h.sent || !h.added.isEmpty

/-- After a call. -/
def after (h : History) : ParaAct → History
  | .addPara oPara => { h with added := h.added ++ [oPara] }
  | .clearParameters => {}
  | .query _ _ _ outputs | .read _ _ outputs => h.commanded outputs
  | .getCommand _ => h.commanded fun _ => none
  | .elsewhere _ => h

/-- After some calls. -/
def of (acts : List ParaAct) : History := acts.foldl after {}

/-- The first of the parameters with a name. -/
def find? (h : History) (toLower : Str → Str) (paraName : String) :
    Option ParameterSpec :=
  h.added.find? fun p =>
    FullScope.canonicalName toLower p.parameterName
      = FullScope.canonicalName toLower paraName

/-- The command that takes the parameters. -/
def command (h : History) (dm : DataManager) : Command where
  commandText := dm.strCommandText
  storedProcedure := dm.blnSP
  parameters := h.added.map (·.parameterName)

end History

-- ================================================================= marks

namespace DataManager

variable {ps : List NpgsqlParameter}

/-- Parameters that belong to no command are taken, all of them. -/
theorem attach_unmarked (h : ∀ p ∈ ps, p.attached = false) :
    (attach ps).1 = true ∧ ∀ q ∈ (attach ps).2, q.attached = true := by
  induction ps with
  | nil => exact ⟨rfl, fun q hq => absurd hq List.not_mem_nil⟩
  | cons p ps ih =>
      rw [List.forall_mem_cons] at h
      obtain ⟨hfst, hsnd⟩ := ih h.2
      rw [attach, if_neg (by rw [h.1]; exact Bool.false_ne_true)]
      exact ⟨hfst, List.forall_mem_cons.mpr ⟨rfl, hsnd⟩⟩

/-- At the first one that belongs to a command the others are left. -/
theorem attach_marked {p : NpgsqlParameter} (h : p.attached = true) :
    attach (p :: ps) = (false, p :: ps) := by
  rw [attach, if_pos h]

end DataManager

/-- The scope a command leaves: the parameters are marked, and the
connection is there. -/
structure Ran (r : Nat) (s t : Scope) : Prop where
  self : t.self = s.self.inited
  there : ((t.heap.connection r).oConn).isSome = true

section Ran

open DataManager

variable {r : Nat} {s : FullScope} {out : Outcomes}

/-- The connection that is there. -/
theorem FullScope.There.exists (h : s.There r) :
    ∃ n, (s.scope.heap.connection r).oConn = some n :=
  Option.isSome_iff_exists.mp h.2

/-- Preparing a command marks the parameters it gets as far as. -/
theorem ran_initQuery (h : s.There r) :
    Ran r s.scope ((initQuery out).run s.scope).2 := by
  obtain ⟨n, hn⟩ := h.exists
  rw [initQuery_run h.1 hn]
  exact ⟨rfl, h.2⟩

/-- So does every query method, which prepares one first. -/
theorem ran_perform (h : s.There r) (method : Query) (answer : Answer) :
    Ran r s.scope ((method.perform out answer).run s.scope).2 := by
  obtain ⟨n, hn⟩ := h.exists
  rw [Query.perform_run]
  cases hfresh : s.scope.self.fresh with
  | true =>
      rw [runQuery_run _ _ h.1 hn hfresh]
      refine ⟨rfl, ?_⟩
      dsimp only
      rw [Heap.putWire_connection]
      rfl
  | false =>
      rw [runQuery_of_not_fresh _ _ h.1 hn hfresh]
      exact ⟨rfl, h.2⟩

/-- And `ExecuteReader` with the loop of its caller, until the end. -/
theorem ran_readAll (h : s.There r) (isAsync : Bool) :
    Ran r s.scope ((readAll out isAsync).run s.scope).2 := by
  obtain ⟨n, hn⟩ := h.exists
  cases hfresh : s.scope.self.fresh with
  | false =>
      rw [readAll_of_null isAsync (executeReader_of_not_fresh h.1 hn hfresh)]
      exact ⟨rfl, h.2⟩
  | true =>
      have hread := @executeReader_run out s.scope r n h.1 hn hfresh
      match hcall : (Npgsql.executeReader out s.scope.self.command).run
          ⟨n, s.scope.heap.database⟩ with
      | (.ok _, after) =>
          rw [hcall] at hread
          rw [readAll_of_reader isAsync hread,
            closeReader_run (s := ⟨s.scope.self.inited, s.scope.heap⟩)]
          refine ⟨rfl, ?_⟩
          dsimp only
          rw [Heap.putWire_connection]
          rfl
      | (.error e, after) =>
          rw [hcall] at hread
          rw [readAll_of_null isAsync hread]
          refine ⟨rfl, ?_⟩
          dsimp only
          rw [Heap.putWire_connection]
          rfl

end Ran

-- ============================================================ refinement

/-- The manager's parameters are those of the history, and marked if a
command has taken them. -/
structure Records (dm : DataManager) (r : Nat) (h : History)
    (s : FullScope) : Prop where
  there : s.There r
  added : s.oParameters.map (·.toParameterSpec) = h.added
  unsent : h.sent = false →
    ∀ p ∈ s.scope.self.oParameters, p.attached = false
  sent : h.sent = true →
    ∃ p ps, s.scope.self.oParameters = p :: ps ∧ p.attached = true
  commandText : s.scope.self.strCommandText = dm.strCommandText
  storedProcedure : s.scope.self.blnSP = dm.blnSP

namespace Records

variable {dm : DataManager} {r : Nat} {h : History} {s : FullScope}

/-- The names the command gets. -/
theorem names (hs : Records dm r h s) :
    s.scope.self.oParameters.map (·.parameterName)
      = h.added.map (·.parameterName) := by
  rw [s.erased, ← hs.added, List.map_map, List.map_map]
  rfl

/-- The command is the history's. -/
theorem command (hs : Records dm r h s) :
    s.scope.self.command = h.command dm := by
  unfold DataManager.command History.command
  rw [hs.commandText, hs.storedProcedure, hs.names]

/-- The parameters can be added to a command exactly if none has taken
them. -/
theorem fresh (hs : Records dm r h s) :
    s.scope.self.fresh = !h.sent := by
  unfold DataManager.fresh
  cases hsent : h.sent with
  | false => exact (DataManager.attach_unmarked (hs.unsent hsent)).1
  | true =>
      obtain ⟨p, ps, hps, hp⟩ := hs.sent hsent
      rw [hps, DataManager.attach_marked hp]
      rfl

/-- A parameter that is added is the last one, and belongs to no command. -/
theorem addPara (hs : Records dm r h s) (oPara : ParameterSpec) :
    Records dm r { h with added := h.added ++ [oPara] } (s.addPara oPara)
    where
  there := hs.there
  added := by
    show (s.oParameters ++ _).map _ = _
    rw [List.map_append, hs.added]
    rfl
  unsent hsent := by
    refine List.forall_mem_append.mpr ⟨hs.unsent hsent, ?_⟩
    exact List.forall_mem_singleton.mpr rfl
  sent hsent := by
    obtain ⟨p, ps, hps, hp⟩ := hs.sent hsent
    refine ⟨p, ps ++ [⟨oPara.parameterName, false⟩], ?_, hp⟩
    show s.scope.self.oParameters ++ _ = _
    rw [hps]
    rfl
  commandText := hs.commandText
  storedProcedure := hs.storedProcedure

/-- Clearing forgets the parameters, and with them that they were taken. -/
theorem clearParameters (hs : Records dm r h s) :
    Records dm r {} s.clearParameters where
  there := hs.there
  added := rfl
  unsent _ := fun _ hp => absurd hp List.not_mem_nil
  sent hsent := Bool.noConfusion hsent
  commandText := hs.commandText
  storedProcedure := hs.storedProcedure

/-- Marking keeps what the helpers made. -/
theorem specs_zipWith_marked (ps : List Parameter) :
    ∀ qs : List NpgsqlParameter, qs.length = ps.length →
      (List.zipWith Parameter.marked ps qs).map (·.toParameterSpec)
        = ps.map (·.toParameterSpec) := by
  induction ps with
  | nil => exact fun qs _ => rfl
  | cons p ps ih =>
      intro qs hlength
      cases qs with
      | nil => cases hlength
      | cons q qs =>
          rw [List.zipWith_cons_cons, List.map_cons, List.map_cons,
            ih qs (Nat.succ.inj hlength)]
          rfl

/-- A command, whichever it was: it marks the parameters, and writes to some
of them. The names are those it was called with, which is what keeps the
two lists in step. -/
theorem returned (hs : Records dm r h s) {t : Scope}
    (hran : Ran r s.scope t)
    (hnames : DataManager.parameterNames t
      = DataManager.parameterNames s.scope)
    (outputs : Nat → Option ParaValue) :
    Records dm r (h.commanded outputs) (s.returned t hnames outputs) where
  there := by
    refine ⟨?_, hran.there⟩
    show t.self.oConn = some r
    rw [hran.self]
    exact hs.there.1
  added := by
    have hlength : t.self.oParameters.length = s.oParameters.length := by
      have hcount := congrArg List.length hnames
      unfold DataManager.parameterNames at hcount
      rw [s.erased] at hcount
      simpa only [List.length_map] using hcount
    show (writeAll outputs (List.zipWith Parameter.marked s.oParameters
      t.self.oParameters)).map _ = h.added.mapIdx _
    rw [← hs.added, ← specs_zipWith_marked s.oParameters _ hlength]
    unfold writeAll
    apply List.ext_getElem?
    intro i
    rw [List.getElem?_map, List.getElem?_mapIdx, List.getElem?_mapIdx,
      List.getElem?_map, Option.map_map, Option.map_map]
    rfl
  unsent hsent := by
    -- no command has taken them, so there are none
    obtain ⟨hsent', hempty⟩ := Bool.or_eq_false_iff.mp hsent
    have hnone : s.scope.self.oParameters = [] := by
      have hadded : h.added = [] := by simpa using hempty
      have hnames' := hs.names
      rwa [hadded, List.map_nil, List.map_eq_nil_iff] at hnames'
    show ∀ p ∈ t.self.oParameters, p.attached = false
    rw [hran.self]
    show ∀ p ∈ (DataManager.attach s.scope.self.oParameters).2, _
    rw [hnone]
    exact fun p hp => absurd hp List.not_mem_nil
  sent hsent := by
    show ∃ p ps, t.self.oParameters = p :: ps ∧ p.attached = true
    rw [hran.self]
    show ∃ p ps,
      (DataManager.attach s.scope.self.oParameters).2 = p :: ps ∧ _
    cases hbefore : h.sent with
    | true =>
        obtain ⟨p, ps, hps, hp⟩ := hs.sent hbefore
        rw [hps, DataManager.attach_marked hp]
        exact ⟨p, ps, rfl, hp⟩
    | false =>
        have hmarked :=
          (DataManager.attach_unmarked (hs.unsent hbefore)).2
        have hsome : h.added ≠ [] := by
          unfold History.commanded at hsent
          rw [hbefore] at hsent
          simpa using hsent
        have hlength : (DataManager.attach s.scope.self.oParameters).2.length
            = h.added.length := by
          have hcount := congrArg List.length
            (DataManager.names_attach s.scope.self.oParameters)
          rw [hs.names] at hcount
          simpa only [List.length_map] using hcount
        cases hps : (DataManager.attach s.scope.self.oParameters).2 with
        | nil =>
            rw [hps] at hlength
            exact absurd (List.length_eq_zero_iff.mp hlength.symm) hsome
        | cons p ps =>
            rw [hps] at hmarked
            exact ⟨p, ps, rfl, hmarked p List.mem_cons_self⟩
  commandText := by
    show t.self.strCommandText = _
    rw [hran.self]
    exact hs.commandText
  storedProcedure := by
    show t.self.blnSP = _
    rw [hran.self]
    exact hs.storedProcedure

/-- Every call keeps up with the history: one case for each kind. -/
theorem step (hs : Records dm r h s) {a : ParaAct} {t : FullScope}
    (hstep : s.step r a = some t) : Records dm r (h.after a) t := by
  cases a with
  | addPara oPara =>
      obtain rfl := Option.some.inj hstep
      exact hs.addPara oPara
  | clearParameters =>
      obtain rfl := Option.some.inj hstep
      exact hs.clearParameters
  | query method answer out outputs =>
      obtain rfl := Option.some.inj hstep
      exact hs.returned (ran_perform hs.there method answer) _ outputs
  | read isAsync out outputs =>
      obtain rfl := Option.some.inj hstep
      exact hs.returned (ran_readAll hs.there isAsync) _ outputs
  | getCommand out =>
      obtain rfl := Option.some.inj hstep
      exact hs.returned (ran_initQuery hs.there) _ _
  | elsewhere heap =>
      unfold FullScope.step at hstep
      dsimp only at hstep
      split at hstep
      case isTrue hthere =>
        obtain rfl := Option.some.inj hstep
        exact ⟨⟨hs.there.1, hthere⟩, hs.added, hs.unsent, hs.sent,
          hs.commandText, hs.storedProcedure⟩
      case isFalse => cases hstep

/-- So does every run, from any history the manager refines. -/
theorem run {acts : List ParaAct} :
    ∀ {h : History} {s t : FullScope}, Records dm r h s →
      Lib.run (FullScope.step r) s acts = some t →
      Records dm r (acts.foldl History.after h) t := by
  induction acts with
  | nil =>
      intro h s t hs hrun
      obtain rfl := Option.some.inj hrun
      exact hs
  | cons a acts ih =>
      intro h s t hs hrun
      obtain ⟨u, hu, hrest⟩ := run_cons_eq_some.mp hrun
      exact ih (hs.step hu) hrest

end Records

-- =============================================================== sending

/-- A manager without parameters has no history. -/
theorem Records.new {r : Nat} {s : FullScope} (hthere : s.There r)
    (hnew : s.oParameters = []) : Records s.scope.self r {} s where
  there := hthere
  added := by
    rw [hnew]
    rfl
  unsent _ := by
    rw [s.erased, hnew]
    exact fun _ hp => absurd hp List.not_mem_nil
  sent hsent := Bool.noConfusion hsent
  commandText := rfl
  storedProcedure := rfl

/-- The driver may have written a value, but not to one for input only. -/
structure ParameterSpec.Became (p q : ParameterSpec) : Prop where
  parameterName : q.parameterName = p.parameterName
  direction : q.direction = p.direction
  value : p.direction = .input → q.value = p.value

/-- A further value does not change that. -/
theorem ParameterSpec.Became.written {p q : ParameterSpec}
    (h : p.Became q) (output : Option ParaValue) :
    p.Became (q.written output) := by
  unfold ParameterSpec.written
  split
  case isTrue => exact h
  case isFalse hinput =>
    refine ⟨h.parameterName, h.direction, fun hp => ?_⟩
    exact absurd (h.direction.trans hp) hinput

/-- The parameters after a call, as they were given. -/
def givenAfter (ps : List ParameterSpec) : ParaAct → List ParameterSpec
  | .addPara oPara => ps ++ [oPara]
  | .clearParameters => []
  | .query .. | .read .. | .getCommand .. | .elsewhere .. => ps

/-- The parameters added since the last clearing, as they were given. -/
def given (acts : List ParaAct) : List ParameterSpec :=
  acts.foldl givenAfter []

/-- What the driver writes keeps the relation to what was given. -/
theorem became_mapIdx {ps qs : List ParameterSpec}
    (h : List.Forall₂ ParameterSpec.Became ps qs) :
    ∀ outputs : Nat → Option ParaValue,
      List.Forall₂ ParameterSpec.Became ps
        (qs.mapIdx fun i q => q.written (outputs i)) := by
  induction h with
  | nil => exact fun _ => List.Forall₂.nil
  | cons hpq _ ih =>
      intro outputs
      rw [List.mapIdx_cons]
      exact List.Forall₂.cons (hpq.written _) (ih fun i => outputs (i + 1))

/-- The history's parameters are those that were given, one by one and in
the same order, as the driver has left them. -/
theorem became_history (acts : List ParaAct) :
    ∀ {ps : List ParameterSpec} {h : History},
      List.Forall₂ ParameterSpec.Became ps h.added →
      List.Forall₂ ParameterSpec.Became (acts.foldl givenAfter ps)
        (acts.foldl History.after h).added := by
  induction acts with
  | nil => exact fun hps => hps
  | cons a acts ih =>
      intro ps h hps
      refine ih ?_
      cases a with
      | addPara oPara =>
          refine List.rel_append hps (List.Forall₂.cons ?_ .nil)
          exact ⟨rfl, rfl, fun _ => rfl⟩
      | clearParameters => exact List.Forall₂.nil
      | query _ _ _ outputs => exact became_mapIdx hps outputs
      | read _ _ outputs => exact became_mapIdx hps outputs
      | getCommand _ => exact became_mapIdx hps _
      | elsewhere _ => exact hps

/-- The first parameter of a name is the first one that was given it. -/
theorem find?_became {p : ParameterSpec → Bool}
    (hp : ∀ x y, ParameterSpec.Became x y → p y = p x)
    {ps qs : List ParameterSpec}
    (h : List.Forall₂ ParameterSpec.Became ps qs) :
    Option.Rel ParameterSpec.Became (ps.find? p) (qs.find? p) := by
  induction h with
  | nil => exact Option.Rel.none
  | @cons x y xs ys hxy _ ih =>
      rw [List.find?_cons, List.find?_cons, hp x y hxy]
      cases p x with
      | true => exact Option.Rel.some hxy
      | false => exact ih

/-- In every run of a manager on a connection that is there, whatever
commands have run: `GetParaValue` returns null exactly if no parameter of
that name has been added since the last `ClearParameters`, and for an
`Input` parameter the value it was added with; the first one added wins. -/
theorem getParaValue_recorded {r : Nat} {s t : FullScope}
    (hthere : s.There r) (hnew : s.oParameters = []) {acts : List ParaAct}
    (hrun : run (FullScope.step r) s acts = some t)
    (toLower : Str → Str) {paraName : String}
    (hname :
      Helper.isNullOrWhiteSpace (FullScope.nameText paraName) = false) :
    t.getParaValue toLower paraName
        = ((History.of acts).find? toLower paraName).map (·.value)
      ∧ (t.getParaValue toLower paraName = none
        ↔ ∀ p ∈ given acts,
          FullScope.canonicalName toLower p.parameterName
            ≠ FullScope.canonicalName toLower paraName)
      ∧ ∀ p, (given acts).find? (fun p =>
            FullScope.canonicalName toLower p.parameterName
              = FullScope.canonicalName toLower paraName) = some p →
          p.direction = .input →
          t.getParaValue toLower paraName = some p.value := by
  have ht : Records s.scope.self r (History.of acts) t :=
    (Records.new hthere hnew).run hrun
  have hlookup : t.getParaValue toLower paraName
      = ((History.of acts).find? toLower paraName).map (·.value) := by
    unfold FullScope.getParaValue History.find?
    rw [if_neg (by rw [hname]; exact Bool.false_ne_true), ← ht.added,
      List.find?_map, Option.map_map]
    rfl
  have hfound : Option.Rel ParameterSpec.Became
      ((given acts).find? fun p =>
        FullScope.canonicalName toLower p.parameterName
          = FullScope.canonicalName toLower paraName)
      ((History.of acts).find? toLower paraName) := by
    apply find?_became
    · intro x y hxy
      rw [hxy.parameterName]
    · exact @became_history acts [] {} List.Forall₂.nil
  refine ⟨hlookup, ?_, ?_⟩
  · rw [hlookup, Option.map_eq_none_iff]
    cases hgiven : (given acts).find? fun p =>
        FullScope.canonicalName toLower p.parameterName
          = FullScope.canonicalName toLower paraName with
    | none =>
        rw [hgiven] at hfound
        have hnone : (History.of acts).find? toLower paraName = none := by
          generalize (History.of acts).find? toLower paraName = q at hfound
          cases hfound
          rfl
        refine iff_of_true hnone ?_
        simpa using hgiven
    | some p =>
        rw [hgiven] at hfound
        refine iff_of_false ?_ ?_
        · intro hnone
          rw [hnone] at hfound
          cases hfound
        · intro hall
          refine hall p (List.mem_of_find?_eq_some hgiven) ?_
          simpa using List.find?_some hgiven
  · intro p hp hinput
    rw [hp] at hfound
    rw [hlookup]
    cases hhistory : (History.of acts).find? toLower paraName with
    | none =>
        rw [hhistory] at hfound
        cases hfound
    | some q =>
        rw [hhistory] at hfound
        cases hfound with
        | some hpq =>
            rw [Option.map_some, hpq.value hinput]

-- =============================================================== examples

/-- A manager for a procedure, on the first of the connections. -/
private def lentManager : FullScope where
  scope :=
    { self := { DataManager.createStoredProc "SP_GET_User" with
        oConn := some 0 }
      heap := { connection := fun _ =>
        { oConn := some { isOpen := true }, blnIsOpen := true } } }
  oParameters := []
  erased := rfl

/-- A search, a clearing, and another search with an output. -/
private def twoSearches : List ParaAct :=
  [.addPara (FullScope.typed "pEmail" .varchar .input
      (textOrDBNull (some []))),
    .query .getTable {} .allReturn fun _ => none,
    .clearParameters,
    .addPara (FullScope.typed "@pCount " .integer .output .dbNull),
    .addPara (FullScope.typed "pEmail" .varchar .input
      (textOrDBNull (some (str "a@b.c")))),
    .query .runActionQuery {} .allReturn
      fun _ => some (.object (.int 3))]

/-- Lower case, for the letters from A to Z. -/
private def lowerAscii (s : Str) : Str :=
  s.map fun c => if unit 'A' ≤ c ∧ c ≤ unit 'Z' then c + 32 else c

/-- The address is what it was added with, the count is what the driver
has written. -/
theorem getParaValue_recorded_twoSearches :
    ∃ t, run (FullScope.step 0) lentManager twoSearches = some t
      ∧ t.getParaValue lowerAscii "PEMAIL"
        = ((History.of twoSearches).find? lowerAscii "PEMAIL").map (·.value)
      ∧ (t.getParaValue lowerAscii "PEMAIL" = none
        ↔ ∀ p ∈ given twoSearches,
          FullScope.canonicalName lowerAscii p.parameterName
            ≠ FullScope.canonicalName lowerAscii "PEMAIL")
      ∧ ∀ p, (given twoSearches).find? (fun p =>
            FullScope.canonicalName lowerAscii p.parameterName
              = FullScope.canonicalName lowerAscii "PEMAIL") = some p →
          p.direction = .input →
          t.getParaValue lowerAscii "PEMAIL" = some p.value :=
  ⟨_, rfl, getParaValue_recorded ⟨rfl, rfl⟩ rfl rfl lowerAscii (by decide)⟩

end SkillBuddy
