/-
Transactions that span several `DataManager`s.

# The fate of a transaction

From a `BeginTran` on an open connection on, the transaction is `live`: it
is pending, `oTran` is it, and it holds what has been written. Queries add
to it and `Open` finds the connection open. A reader asks for
`CommandBehavior.CloseConnection`, so it closes the connection and the
transaction with it; from then on the run is `lost`: `oTran` is still
there, nothing is pending, and the call that would end the transaction
throws. `Open` may bring a connection back, but begins no transaction, so
a run that is lost stays lost.

Each kind of act is one lemma (`query_running`, `read_running`,
`open_running`), and all of them are about returning normally: a run in
which a call throws is none of `World.normalStep`.

# Its end

A commit that returns had a transaction to commit, so the run is live
still and all that was written is in it (`commit_of_running`); a rollback
that returns discards the same (`rollback_of_running`). Hence all or
nothing (`transaction_all_or_nothing`).

The one act that breaks this is `Dispose` of a manager. It closes the
connection it was lent, which discards what is pending, and forgets
`oTran`, so that the end of the discarded transaction returns as if
nothing had happened. What is written after it goes to the database at
once (`disposed_manager_splits_transaction`).
-/
import SkillBuddy.Lib.Run
import SkillBuddy.Data.DataManager

namespace SkillBuddy

open DotNet Lib

-- ============================================================ the property

/-- The acts between the begin and the end of a transaction on `r`:
commands of the managers, and `Open`. -/
def Act.Works (r : Nat) : Act → Prop
  | .query .. | .read .. => True
  | .dispose .. => True
  | .call r' operation _ => r' = r ∧ operation.opens = true

/-- The act disposes a manager. -/
def Act.disposes : Act → Bool
  | .dispose .. => true
  | .query .. | .read .. | .call .. => false

/-- What becomes of the transaction on `r` along a run: the log of the
database is still `log`, and what was written is in the transaction; or
the transaction is gone and `oTran` still stands for it. -/
inductive Fate (log : List Command) (r : Nat) : World × List Command → Prop
    where
  | live {w : World} {writes : List Command} (n : NpgsqlConnection)
      (t : Transaction) (hn : (w.heap.connection r).oConn = some n)
      (hopen : n.isOpen = true) (hpending : n.pending = some t)
      (htran : (w.heap.connection r).oTran = some t.id)
      (hwrites : t.commands = writes) (hlog : w.heap.database.log = log) :
      Fate log r (w, writes)
  | lost {w : World} {writes : List Command} (n : NpgsqlConnection)
      (t : Nat) (hn : (w.heap.connection r).oConn = some n)
      (hpending : n.pending = none)
      (htran : (w.heap.connection r).oTran = some t) :
      Fate log r (w, writes)

/-- The transaction's fate, while the managers still have its connection. -/
structure Running (log : List Command) (r : Nat)
    (s : World × List Command) : Prop where
  held : ∀ m, (s.1.manager m).oConn = some r
  fate : Fate log r s

-- ====================================================== one act at a time

section Steps

variable {log : List Command} {r m : Nat} {w t : World}
  {writes ws : List Command} {out : Outcomes}

/-- Nothing pending after a call: the run is lost. -/
theorem lost_queried {tran : Nat} {after : Wire}
    (htran : (w.heap.connection r).oTran = some tran) (hafter : after.Idle) :
    Fate log r (w.queried m r after, ws) := by
  refine .lost after.connection tran ?_ hafter ?_
  · unfold World.queried
    rw [Heap.putWire_connection]
  · unfold World.queried
    rw [Heap.putWire_connection]
    exact htran

/-- A command that ran in the pending transaction: the run is live. -/
theorem live_queried {n : NpgsqlConnection} {tran : Transaction}
    (hopen : n.isOpen = true)
    (hpending : n.pending = some tran)
    (htran : (w.heap.connection r).oTran = some tran.id)
    (hwrites : tran.commands = writes) (hlog : w.heap.database.log = log)
    {command : Command} :
    Fate log r
      (w.queried m r (Wire.executed command ⟨n, w.heap.database⟩),
        writes ++ [command]) := by
  have hexecuted : Wire.executed command ⟨n, w.heap.database⟩
      = ⟨{ n with pending := some { tran with
            commands := tran.commands ++ [command] } },
          w.heap.database⟩ := by
    unfold Wire.executed
    rw [hpending]
  rw [hexecuted]
  refine .live { n with pending := some { tran with
      commands := tran.commands ++ [command] } } { tran with
      commands := tran.commands ++ [command] } ?_ hopen rfl ?_
    (congrArg (· ++ [command]) hwrites) hlog
  · unfold World.queried
    rw [Heap.putWire_connection]
  · unfold World.queried
    rw [Heap.putWire_connection]
    exact htran

/-- A command that returns on an open connection. -/
theorem execute_eq_ok {command : Command} {v after : Wire} {u : Unit}
    (hopen : v.connection.isOpen = true)
    (h : (Npgsql.execute out command).run v = (.ok u, after)) :
    after = v.executed command := by
  rw [Npgsql.execute_of_open out command hopen] at h
  cases hout : out .execute with
  | returns =>
      rw [npgsqlCall_returns hout] at h
      exact (Prod.mk.inj h).2.symm
  | throws damage =>
      rw [npgsqlCall_throws hout] at h
      cases (Prod.mk.inj h).1

/-- A query adds its command to a live transaction. On a connection that is
lost it writes outside of any, and the run is lost still. -/
theorem query_running (method : DataManager.Query) (answer : Answer)
    (hs : Running log r (w, writes))
    (hstep : World.normalStep (w, writes) (.query m method answer out)
      = some (t, ws)) : Running log r (t, ws) := by
  obtain ⟨hrun, rfl⟩ := World.normalStep_eq_some hstep
  obtain ⟨hheld, hfate⟩ := hs
  have hm : (w.manager m).oConn = some r := hheld m
  obtain ⟨n, hn⟩ : ∃ n, (w.heap.connection r).oConn = some n := by
    cases hfate with
    | live n _ hn => exact ⟨n, hn⟩
    | lost n _ hn => exact ⟨n, hn⟩
  cases hfresh : (w.manager m).fresh with
  | false =>
      obtain ⟨e, he⟩ := World.perform_query_of_not_fresh method answer hm hn
        hfresh
      cases he.symm.trans hrun
  | true =>
      rw [World.perform_query method answer hm hn hfresh] at hrun
      obtain ⟨hok, rfl⟩ := Prod.mk.inj hrun
      refine ⟨World.held_update hheld hm, ?_⟩
      cases hfate with
      | live n' tran hn' hopen hpending htran hwrites hlog =>
          obtain rfl := Option.some.inj (hn.symm.trans hn')
          rw [DataManager.Query.call_of_open method out _ hopen] at hok ⊢
          match hcall : (Npgsql.execute out (w.manager m).command).run
              ⟨n, w.heap.database⟩ with
          | (.error e, after) =>
              rw [hcall] at hok
              cases hok
          | (.ok _, after) =>
              obtain rfl := execute_eq_ok hopen hcall
              exact live_queried hopen hpending htran hwrites hlog
      | lost n' tran hn' hpending htran =>
          obtain rfl := Option.some.inj (hn.symm.trans hn')
          refine lost_queried htran ?_
          exact DataManager.Query.keeps_call method out _
            ⟨n, w.heap.database⟩ hpending

/-- After a reader nothing is pending: closing it has closed the connection,
and the transaction on it was discarded. -/
theorem read_running (isAsync : Bool) (hs : Running log r (w, writes))
    (hstep : World.normalStep (w, writes) (.read m isAsync out)
      = some (t, ws)) : Running log r (t, ws) := by
  obtain ⟨hrun, rfl⟩ := World.normalStep_eq_some hstep
  obtain ⟨hheld, hfate⟩ := hs
  have hm : (w.manager m).oConn = some r := hheld m
  obtain ⟨n, tran, hn, htran⟩ : ∃ n tran,
      (w.heap.connection r).oConn = some n
        ∧ (w.heap.connection r).oTran = some tran := by
    cases hfate with
    | live n tran hn _ _ htran => exact ⟨n, tran.id, hn, htran⟩
    | lost n tran hn _ htran => exact ⟨n, tran, hn, htran⟩
  cases hfresh : (w.manager m).fresh with
  | false =>
      rw [World.perform_read_of_not_fresh isAsync hm hn hfresh] at hrun
      cases hrun
  | true =>
      match hcall : (Npgsql.executeReader out (w.manager m).command).run
          ⟨n, w.heap.database⟩ with
      | (.error e, after) =>
          rw [World.perform_read_of_error isAsync hm hn hfresh hcall] at hrun
          cases hrun
      | (.ok _, after) =>
          rw [World.perform_read_of_ok isAsync hm hn hfresh hcall] at hrun
          obtain ⟨hok, rfl⟩ := Prod.mk.inj hrun
          refine ⟨World.held_update hheld hm, lost_queried htran ?_⟩
          cases hclose : out .close with
          | returns =>
              rw [NpgsqlConnection.close, npgsqlCall_returns hclose]
              rfl
          | throws damage =>
              rw [NpgsqlConnection.close, npgsqlCall_throws hclose] at hok
              cases hok

/-- `Open` finds a live transaction's connection open, and begins no other
transaction after a lost one. -/
theorem open_running {operation : DataConnection.Operation}
    (hopens : operation.opens = true) (hs : Running log r (w, writes))
    (hstep : World.normalStep (w, writes) (.call r operation out)
      = some (t, ws)) : Running log r (t, ws) := by
  obtain ⟨s, hrun, rfl, rfl⟩ := World.normalStep_call_eq_some hstep
  obtain ⟨hheld, hfate⟩ := hs
  obtain ⟨connectionString, hperform⟩ := operation.perform_of_opens hopens
    out ⟨w.heap.connection r, w.heap.database⟩
  rw [hperform] at hrun
  obtain ⟨hok, rfl⟩ := Prod.mk.inj hrun
  refine ⟨hheld, ?_⟩
  cases hfate with
  | live n tran hn hopen hpending htran hwrites hlog =>
      rw [DataConnection.openWith_open connectionString
        ((DataConnection.connOpen_eq hn).trans hopen)]
      refine .live n tran ?_ hopen hpending ?_ hwrites hlog
      · rw [Heap.put_connection, hn]
      · rw [Heap.put_connection, htran]
  | lost n tran hn hpending htran =>
      cases hc : (w.heap.connection r).connOpen with
      | true =>
          rw [DataConnection.openWith_open connectionString hc]
          refine .lost n tran ?_ hpending ?_
          · rw [Heap.put_connection, hn]
          · rw [Heap.put_connection, htran]
      | false =>
          rw [DataConnection.openWith_unopened connectionString hc]
            at hok ⊢
          cases hcreate : out .create with
          | throws damage =>
              rw [hcreate] at hok
              cases hok
          | returns =>
              rw [hcreate] at hok
              cases hout : out .open_ with
              | returns =>
                  refine .lost { connectionString, isOpen := true } tran ?_
                    rfl ?_
                  · rw [Heap.put_connection]
                  · rw [Heap.put_connection]
                    exact htran
              | throws damage =>
                  rw [hout] at hok
                  cases hok

/-- Every act between begin and end goes on with the run, unless it
disposes a manager. -/
theorem running_step {a : Act} (hworks : a.Works r)
    (hkept : a.disposes = false) (hs : Running log r (w, writes))
    (hstep : World.normalStep (w, writes) a = some (t, ws)) :
    Running log r (t, ws) := by
  cases a with
  | query m method answer out => exact query_running method answer hs hstep
  | read m isAsync out => exact read_running isAsync hs hstep
  | dispose m out => cases hkept
  | call r' operation out =>
      obtain ⟨rfl, hopens⟩ := hworks
      exact open_running hopens hs hstep

/-- `BeginTran` on an open connection starts a live run. Nothing was pending
before, or it would have thrown. -/
theorem begin_running {operation : DataConnection.Operation}
    (hbegins : operation.begins = true)
    (hheld : ∀ m, (w.manager m).oConn = some r)
    (hopen : (w.heap.connection r).connOpen = true)
    (hstep : World.normalStep (w, []) (.call r operation out)
      = some (t, ws)) : Running w.heap.database.log r (t, ws) := by
  obtain ⟨s, hrun, rfl, rfl⟩ := World.normalStep_call_eq_some hstep
  rw [operation.perform_of_begins hbegins] at hrun
  obtain ⟨n, hn, hopen'⟩ := DataConnection.exists_of_connOpen hopen
  refine ⟨hheld, ?_⟩
  cases hpending : n.pending with
  | some tran =>
      rw [DataConnection.beginTran_pending hn hopen' hpending] at hrun
      cases hrun
  | none =>
      rw [DataConnection.beginTran_run (s := ⟨_, w.heap.database⟩) hn hopen'
        hpending] at hrun
      cases hout : out .beginTransaction with
      | throws damage =>
          rw [hout] at hrun
          cases hrun
      | returns =>
          rw [hout] at hrun
          obtain ⟨_, rfl⟩ := Prod.mk.inj hrun
          refine .live { n with
            pending := some { id := w.heap.database.begun } }
            { id := w.heap.database.begun } ?_ hopen' rfl ?_ rfl rfl
          · rw [Heap.put_connection]
          · rw [Heap.put_connection]

/-- The end of a live run: the calls on the transaction have returned. In a
lost run they do not return, so the run was live. -/
theorem end_of_running (outcome : Outcome) (effect : Wire → Wire)
    (heffect : ∀ v t, v.connection.pending = some t →
      (effect v).connection = v.connection.discarded)
    (hs : Running log r (w, writes)) {s : Session}
    (hrun : (DataConnection.endTran out fun t =>
        NpgsqlTransaction.call t outcome effect).run
          ⟨w.heap.connection r, w.heap.database⟩ = (.ok (), s)) :
    ∃ n t, n.pending = some t ∧ t.commands = writes
      ∧ w.heap.database.log = log
      ∧ s.database = (effect ⟨n, w.heap.database⟩).database := by
  cases hs.fate with
  | lost n tran hn hpending htran =>
      rw [DataConnection.endTran_completed (s := ⟨_, w.heap.database⟩)
        outcome effect hn htran
        (NpgsqlConnection.isPending_of_idle hpending tran)] at hrun
      cases hrun
  | live n tran hn hopen hpending htran hwrites hlog =>
      refine ⟨n, tran, hpending, hwrites, hlog, ?_⟩
      rw [DataConnection.endTran_run (s := ⟨_, w.heap.database⟩) outcome
        effect hn htran (NpgsqlConnection.isPending_of_pending hpending)
        (heffect ⟨n, w.heap.database⟩ tran hpending)] at hrun
      cases outcome with
      | throws damage => cases hrun
      | returns =>
          cases hdispose : out .disposeTransaction with
          | throws damage =>
              rw [hdispose] at hrun
              cases hrun
          | returns =>
              rw [hdispose] at hrun
              obtain ⟨_, rfl⟩ := Prod.mk.inj hrun
              rfl

/-- A commit that returns has written all. -/
theorem commit_of_running {operation : DataConnection.Operation}
    (hcommits : operation.commits = true) (hs : Running log r (w, writes))
    (hstep : World.normalStep (w, writes) (.call r operation out)
      = some (t, ws)) : t.heap.database.log = log ++ ws := by
  obtain ⟨s, hrun, rfl, rfl⟩ := World.normalStep_call_eq_some hstep
  rw [operation.perform_of_commits hcommits] at hrun
  obtain ⟨n, tran, hpending, hwrites, hlog, hs⟩ := end_of_running
    (out .commit) Wire.committed
    (fun v t ht => by rw [Wire.committed, ht]) hs hrun
  rw [Heap.put_database, hs]
  unfold Wire.committed
  rw [hpending]
  dsimp only
  rw [hwrites, hlog]

/-- A rollback that returns has written nothing. -/
theorem rollback_of_running {operation : DataConnection.Operation}
    (hrolls : operation.rollsBack = true) (hs : Running log r (w, writes))
    (hstep : World.normalStep (w, writes) (.call r operation out)
      = some (t, ws)) : t.heap.database.log = log := by
  obtain ⟨s, hrun, rfl, rfl⟩ := World.normalStep_call_eq_some hstep
  rw [operation.perform_of_rollsBack hrolls] at hrun
  obtain ⟨n, tran, _, _, hlog, hs⟩ := end_of_running (out .rollback)
    (Wire.onConnection NpgsqlConnection.discarded) (fun _ _ _ => rfl) hs hrun
  rw [Heap.put_database, hs]
  exact hlog

end Steps

-- =============================================================== the runs

/-- In a run that begins a transaction on an open connection, works with
managers of that connection and none of them disposed, and ends it, all
returning normally, the database ends with all that was written if the end
is a commit, and with none of it if it is a rollback. -/
theorem transaction_all_or_nothing {w t : World} {r : Nat}
    {begin_ end_ : DataConnection.Operation} {out out' : Outcomes}
    {acts : List Act} {writes : List Command}
    (hheld : ∀ m, (w.manager m).oConn = some r)
    (hopen : (w.heap.connection r).connOpen = true)
    (hbegins : begin_.begins = true)
    (hworks : ∀ a ∈ acts, a.Works r)
    (hkept : ∀ a ∈ acts, a.disposes = false)
    (hrun : run World.normalStep (w, [])
      (.call r begin_ out :: (acts ++ [.call r end_ out']))
        = some (t, writes)) :
    (end_.commits = true →
      t.heap.database.log = w.heap.database.log ++ writes)
    ∧ (end_.rollsBack = true →
      t.heap.database.log = w.heap.database.log) := by
  obtain ⟨⟨w₁, writes₁⟩, hfirst, hrun⟩ := run_cons_eq_some.mp hrun
  obtain ⟨⟨w₂, writes₂⟩, hrun, hlast⟩ := run_append_eq_some.mp hrun
  obtain ⟨last, hlast, hend⟩ := run_cons_eq_some.mp hlast
  obtain rfl := Option.some.inj hend
  have hmiddle : Along World.normalStep
      (fun _ a => Act.Works r a ∧ a.disposes = false) (w₁, writes₁) acts :=
    along_of_forall (fun a ha => ⟨hworks a ha, hkept a ha⟩) _
  have hs : Running w.heap.database.log r (w₂, writes₂) := by
    refine run_invariant (fun s a s' hs ha hstep => ?_)
      (begin_running hbegins hheld hopen hfirst) hmiddle hrun
    exact running_step ha.1 ha.2 hs hstep
  constructor
  · exact fun hcommits => commit_of_running hcommits hs hlast
  · exact fun hrolls => rollback_of_running hrolls hs hlast

-- =============================================================== examples

/-- A caller with an open connection and managers that were given it. -/
private def caller : World where
  manager _ := { strCommandText := "SP_Insert_User", oConn := some 0 }
  heap :=
    { connection := fun _ =>
        { connectionString := "Host=localhost"
          oConn := some
            { connectionString := "Host=localhost", isOpen := true }
          blnIsOpen := true }
      allocated := 1 }

/-- The command of its managers. -/
private def insertUser : Command := ⟨"SP_Insert_User", true, []⟩

/-- Two queries with an `Open` between them are committed together. -/
theorem two_queries_committed :
    ∃ t, run World.normalStep (caller, [])
        (.call 0 .beginTran .allReturn ::
          ([.query 0 .runActionQuery {} .allReturn,
              .call 0 .open_ .allReturn,
              .query 1 .getScalar {} .allReturn]
            ++ [.call 0 .commitTran .allReturn]))
          = some (t, [insertUser, insertUser])
      ∧ t.heap.database.log = [] ++ [insertUser, insertUser] := by
  obtain ⟨t, hrun⟩ : ∃ t, run World.normalStep (caller, [])
      (.call 0 .beginTran .allReturn ::
        ([.query 0 .runActionQuery {} .allReturn,
            .call 0 .open_ .allReturn,
            .query 1 .getScalar {} .allReturn]
          ++ [.call 0 .commitTran .allReturn]))
        = some (t, [insertUser, insertUser]) := ⟨_, rfl⟩
  refine ⟨t, hrun, ?_⟩
  refine (transaction_all_or_nothing (fun _ => rfl) rfl rfl ?_ ?_ hrun).1 rfl
  · intro a ha
    simp only [List.mem_cons, List.not_mem_nil, or_false] at ha
    rcases ha with rfl | rfl | rfl
    · trivial
    · exact ⟨rfl, rfl⟩
    · trivial
  · intro a ha
    simp only [List.mem_cons, List.not_mem_nil, or_false] at ha
    rcases ha with rfl | rfl | rfl <;> rfl

/-- Disposing the manager of the first command ends the transaction: after
the commit the first command is missing, after the rollback the second is
there. A `BeginTran` before the `Open` begins nothing, and the rollback
rolls nothing back. -/
theorem disposed_manager_splits_transaction :
    (∃ t, run World.normalStep (caller, [])
        [.call 0 .beginTran .allReturn,
          .query 0 .runActionQuery {} .allReturn, .dispose 0 .allReturn,
          .call 0 .open_ .allReturn,
          .query 1 .runActionQuery {} .allReturn,
          .call 0 .commitTran .allReturn] = some (t, [insertUser, insertUser])
        ∧ t.heap.database.log = [insertUser])
    ∧ (∃ t, run World.normalStep (caller, [])
        [.call 0 .beginTran .allReturn,
          .query 0 .runActionQuery {} .allReturn, .dispose 0 .allReturn,
          .call 0 .open_ .allReturn,
          .query 1 .runActionQuery {} .allReturn,
          .call 0 .rollbackTran .allReturn]
          = some (t, [insertUser, insertUser])
        ∧ t.heap.database.log = [insertUser])
    ∧ ∃ t, run World.normalStep
        ({ caller with heap := { connection := fun _ =>
            { connectionString := "Host=localhost" } } }, [])
        [.call 0 .beginTran .allReturn, .call 0 .open_ .allReturn,
          .query 0 .runActionQuery {} .allReturn,
          .call 0 .rollbackTran .allReturn] = some (t, [insertUser])
        ∧ t.heap.database.log = [insertUser] :=
  ⟨⟨_, rfl, rfl⟩, ⟨_, rfl, rfl⟩, _, rfl, rfl⟩

end SkillBuddy
