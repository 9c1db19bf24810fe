/-
The connection a `DataManager` opens for itself, when the method ends.

# One method

The query methods close the connection in a `finally`, so it is closed
whatever the command does, as long as the connection's own `Close` shuts
it. The reader methods have no `finally`, only a `catch` that returns
null, but they ask for `CommandBehavior.CloseConnection`: a command that
throws has closed the connection before the `catch` is reached, and one
that returns has handed out a reader that closes it.

`InitQuery` adds the parameters after it has opened the connection and
before any `try`, so a parameter that is refused there would leave the
connection open. That takes a manager without a connection whose
parameters belong to a command; and there is none, since the command they
would belong to was made by an earlier `InitQuery` of the same manager,
which left a connection behind.

`ClosesOwn` is the property for one method from any state of the manager,
`Safe` the condition on the state and on how the calls end, and
`closesOwn_iff` says that they are the same. What earlier methods have
left is part of the state: nothing, a `DataConnection` without a
connection, a closed connection or an open one.

# All of its life

What a manager's holder does with it is a run of `Use`s: parameters are
added and cleared, methods are called, readers are closed, in any order.
The invariant (`Client.Accounted`) says of every state reached: without a
live reader nothing is open, a live reader runs on the manager's own
connection, and a manager that has no connection yet has handed out no
reader and has parameters that belong to no command. Kept by every use
whose `Close` shuts, it gives that the connection is closed in every state
unless a reader is out, and closing the reader closes it
(`own_connections_closed`). A `Close` that throws and leaves the
connection as it is would be needed to keep it open.
-/
import SkillBuddy.Lib.Run
import SkillBuddy.Data.DataManager

namespace SkillBuddy

open DotNet Lib

namespace DataManager

-- =========================================================== the property

/-- The query methods, and the two that hand out a reader. -/
inductive Method where
  | query (method : Query) (answer : Answer)
  | executeReader (isAsync : Bool)

/-- The method, and the reader it hands out. -/
def Method.perform (out : Outcomes) :
    Method → Eff Exn Scope (Option NpgsqlDataReader)
  | .query method answer => do
      method.perform out answer
      pure none
  | .executeReader isAsync =>
      if isAsync then executeReaderAsync out
      else DataManager.executeReader out

/-- The manager's connection is not open. -/
def NoneOpen (s : Scope) : Prop :=
  ∀ r, s.self.oConn = some r → (s.heap.connection r).connOpen = false

/-- Closing the reader closes the manager's connection. -/
def ClosedBy (oReader : NpgsqlDataReader) (s : Scope) : Prop :=
  ∀ out : Outcomes, out.CloseShuts →
    NoneOpen ((closeReader out oReader).run s).2

/-- When the method ends, the manager's connection is not open, or a
reader was handed out and closing it closes the connection. -/
def Method.ClosesOwn (m : Method) (out : Outcomes) (s : Scope) : Prop :=
  match (m.perform out).run s with
  | (.ok (some oReader), t) => ClosedBy oReader t
  | (_, t) => NoneOpen t

-- ========================================================== the condition

/-- The method has a reader to hand out, or its command throws and the
connection is closed with it. -/
def ReadsOrShuts (out : Outcomes) : Prop :=
  out .execute = .returns ∨ out .execute = .throws .connection
    ∨ out.CloseShuts

/-- The methods that open a closed connection for the time of the
command. -/
def Method.fills : Method → Bool
  | .query method _ => method.fills
  | .executeReader _ => false

/-- On a connection opened for the method. -/
def Method.ShutsLocal (out : Outcomes) : Method → Prop
  | .query .. => out .execute = .throws .connection ∨ out.CloseShuts
  | .executeReader _ => ReadsOrShuts out

/-- On an open connection that is not taken for the method's own. -/
def Method.ShutsOpen (out : Outcomes) : Method → Prop
  | .query .. => out .execute = .throws .connection
  | .executeReader _ => ReadsOrShuts out

/-- On a closed connection. -/
def Method.ShutsClosed (out : Outcomes) (m : Method) : Prop :=
  m.fills = true → out .open_ = .returns →
    out .execute = .throws .connection ∨ out.CloseShuts

/-- The states and ends of calls for which the method closes what it
opens: by what the manager's `oConn` is. -/
def Method.Safe (m : Method) (out : Outcomes) (s : Scope) : Prop :=
  match s.self.oConn with
  | none =>
      out .create = .returns → out .open_ = .returns →
        s.self.fresh = true ∧ m.ShutsLocal out
  | some r =>
      match (s.heap.connection r).oConn with
      | none => True
      | some n =>
          if n.isOpen then s.self.fresh = true ∧ m.ShutsOpen out
          else s.self.fresh = true → m.ShutsClosed out

-- ======================================================= calls, one by one

section Calls

variable {out : Outcomes} {w : Wire} {command : Command}

/-- After the `Close` of a `DataConnection` without a transaction. -/
theorem connOpen_close_iff (n : NpgsqlConnection) (database : Database) :
    ((DataConnection.close out).run
        ⟨{ oConn := some n, blnIsOpen := true }, database⟩).2.self.connOpen
          = false
      ↔ n.isOpen = false ∨ out.CloseShuts := by
  rw [DataConnection.close_of_disposed (DataConnection.disposeTran_none rfl)]
  unfold Outcomes.CloseShuts
  cases hopen : n.isOpen with
  | false =>
      refine iff_of_true ?_ (Or.inl rfl)
      rw [DataConnection.closeConn_unopened (n := n) rfl hopen]
      cases out .disposeConnection with
      | returns => rfl
      | throws damage =>
          cases damage with
          | nothing | transaction => exact hopen
          | connection => rfl
  | true =>
      rw [DataConnection.closeConn_run (n := n) rfl hopen]
      cases hclose : out .close with
      | returns =>
          refine iff_of_true ?_ (Or.inr (Or.inl rfl))
          dsimp only
          cases out .disposeConnection <;> rfl
      | throws damage =>
          cases damage with
          | nothing | transaction =>
              refine iff_of_false ?_ (by simp)
              show ¬ n.isOpen = false
              rw [hopen]
              exact Bool.noConfusion
          | connection => exact iff_of_true rfl (Or.inr (Or.inr rfl))

/-- A `Fill` on a connection that is not open. -/
theorem isOpen_fill_iff (hclosed : w.connection.isOpen = false) :
    ((NpgsqlDataAdapter.fill out command).run w).2.connection.isOpen = false
      ↔ (out .open_ = .returns →
          out .execute = .throws .connection ∨ out.CloseShuts) := by
  rw [NpgsqlDataAdapter.fill, Eff.run_bind, Eff.run_get]
  dsimp only
  rw [hclosed, if_neg Bool.false_ne_true, Eff.run_bind,
    NpgsqlConnection.open_]
  cases hopen : out .open_ with
  | throws damage =>
      refine iff_of_true ?_ (fun h => by cases h)
      rw [npgsqlCall_throws rfl]
      cases damage with
      | nothing | transaction => exact hclosed
      | connection => rfl
  | returns =>
      rw [npgsqlCall_returns rfl]
      dsimp only
      rw [Eff.snd_finallyDo, NpgsqlConnection.isOpen_close_iff,
        Npgsql.isOpen_execute_iff rfl]
      exact ⟨fun h _ => h, fun h => h rfl⟩

end Calls

-- ============================================== what the property comes to

section Ends

variable {out : Outcomes} {s t : Scope} {r : Nat} {n : NpgsqlConnection}

theorem noneOpen_iff {dm : DataManager} {heap : Heap}
    (hr : dm.oConn = some r) :
    NoneOpen ⟨dm, heap⟩ ↔ (heap.connection r).connOpen = false := by
  unfold NoneOpen
  dsimp only
  rw [hr]
  exact ⟨fun h => h r rfl, fun h r' hr' => Option.some.inj hr' ▸ h⟩

/-- A query method hands out nothing. -/
theorem closesOwn_query_iff (q : Query) (answer : Answer) :
    (Method.query q answer).ClosesOwn out s
      ↔ NoneOpen ((runQuery out (q.call out) ()).run s).2 := by
  unfold Method.ClosesOwn Method.perform
  rw [Eff.run_bind, Query.perform_run]
  obtain ⟨_ | _, t⟩ := (runQuery out (q.call out) ()).run s <;> exact Iff.rfl

/-- A reader method that returns null has nothing left to close. -/
theorem closesOwn_of_null (isAsync : Bool)
    (h : (executeReader out).run s = (.ok none, t)) :
    (Method.executeReader isAsync).ClosesOwn out s ↔ NoneOpen t := by
  unfold Method.ClosesOwn Method.perform
  cases isAsync <;> simp [executeReaderAsync, h]

/-- A reader on the manager's connection closes it. -/
theorem closedBy_of_held (hr : s.self.oConn = some r) :
    ClosedBy ⟨r⟩ s := by
  intro out hshuts r' hr'
  obtain rfl : r = r' := Option.some.inj (hr.symm.trans hr')
  rw [closeReader, run_onConnection]
  dsimp only
  rw [Heap.put_connection]
  cases hn : (s.heap.connection r).oConn with
  | none =>
      simp only [DataConnection.onConn, Eff.zoom, hn, Option.map_none,
        Eff.run_throw, DataConnection.connOpen, Option.any_none]
  | some n =>
      rw [DataConnection.run_onConn _ hn]
      exact NpgsqlConnection.isOpen_close_iff.mpr (Or.inr hshuts)

/-- A reader method that hands out a reader on its connection. -/
theorem closesOwn_of_reader (isAsync : Bool)
    (h : (executeReader out).run s = (.ok (some ⟨r⟩), t))
    (hr : t.self.oConn = some r) :
    (Method.executeReader isAsync).ClosesOwn out s := by
  unfold Method.ClosesOwn Method.perform
  cases isAsync <;> simpa [executeReaderAsync, h] using closedBy_of_held hr

/-- If `InitQuery` throws, the method is over. -/
theorem closesOwn_of_init_error {e : Exn} (m : Method)
    (h : (initQuery out).run s = (.error e, t)) :
    m.ClosesOwn out s ↔ NoneOpen t := by
  cases m with
  | query q answer =>
      rw [closesOwn_query_iff, runQuery, Eff.run_bind, h]
  | executeReader isAsync =>
      apply closesOwn_of_null
      rw [executeReader, Eff.run_tryCatch, Eff.run_bind, h]
      rfl

/-- A reader method whose command meets an open connection. -/
theorem closesOwn_reader_iff (isAsync : Bool) {dm : DataManager}
    {heap : Heap} {command : Command} {database : Database}
    (hopen : n.isOpen = true) (hr : dm.oConn = some r)
    (hread : (executeReader out).run s
      = (match ((Npgsql.executeReader out command).run
            ⟨n, database⟩).1 with
          | .ok _ => .ok (some ⟨r⟩)
          | .error _ => .ok none,
          ⟨dm, heap.putWire r ((Npgsql.executeReader out command).run
            ⟨n, database⟩).2⟩)) :
    (Method.executeReader isAsync).ClosesOwn out s
      ↔ ReadsOrShuts out := by
  unfold ReadsOrShuts
  cases hout : out .execute with
  | returns =>
      rw [Npgsql.executeReader_returns command (w := ⟨n, database⟩) hopen
        hout] at hread
      exact iff_of_true (closesOwn_of_reader isAsync hread hr) (Or.inl rfl)
  | throws damage =>
      have hafter := Npgsql.isOpen_executeReader_iff command
        (w := ⟨n, database⟩) hopen hout
      obtain ⟨e, he⟩ := Npgsql.executeReader_throws command
        (w := ⟨n, database⟩) hopen hout
      rw [he] at hread hafter
      rw [closesOwn_of_null isAsync hread, noneOpen_iff hr,
        Heap.putWire_connection]
      refine hafter.trans ?_
      simp

-- ====================================================== by what is there

/-- What a part of a method may leave of the scope `s`: the manager is on
the `DataConnection` `r`, which is the one it had if it had one, and no
other has been touched. -/
structure Settled (s : Scope) (r : Nat) (t : Scope) : Prop where
  held : t.self.oConn = some r
  same : ∀ r', s.self.oConn = some r' → r' = r
  others : ∀ r', r' ≠ r → t.heap.connection r' = s.heap.connection r'

/-- No connection is opened: the manager has a `DataConnection`, and
nothing is left open in it. -/
theorem openLocal_throws (hr : s.self.oConn = none)
    (h : out .create = .returns → out .open_ ≠ .returns) :
    ∃ e t, (openLocal out).run s = (.error e, t)
      ∧ Settled s s.heap.allocated t ∧ NoneOpen t := by
  have hsame : ∀ r', s.self.oConn = some r' → r' = s.heap.allocated := by
    intro r' hr'
    cases hr.symm.trans hr'
  simp only [openLocal, Eff.run_bind, Eff.run_get, Eff.run_modify,
    run_onConnection, Function.update_self, DataConnection.open_]
  rw [DataConnection.openWith_unopened _ rfl]
  have hothers : ∀ (c d : DataConnection) (r' : Nat),
      r' ≠ s.heap.allocated →
      Function.update (Function.update s.heap.connection
        s.heap.allocated c) s.heap.allocated d r' = s.heap.connection r' := by
    intro c d r' hne
    rw [Function.update_of_ne hne, Function.update_of_ne hne]
  cases hcreate : out .create with
  | throws damage =>
      refine ⟨_, _, rfl, ⟨rfl, hsame, hothers _ _⟩, ?_⟩
      rw [noneOpen_iff rfl, Heap.put_connection]
      rfl
  | returns =>
      dsimp only
      cases hopen : out .open_ with
      | returns => exact absurd hopen (h hcreate)
      | throws damage =>
          refine ⟨_, _, rfl, ⟨rfl, hsame, hothers _ _⟩, ?_⟩
          rw [noneOpen_iff rfl, Heap.put_connection]
          rfl

/-- `InitQuery` without a connection, if none is opened. -/
theorem initQuery_unopened (hr : s.self.oConn = none)
    (h : out .create = .returns → out .open_ ≠ .returns) :
    ∃ e t, (initQuery out).run s = (.error e, t)
      ∧ Settled s s.heap.allocated t ∧ NoneOpen t := by
  obtain ⟨e, t, hopen, ht, hnoneOpen⟩ := @openLocal_throws out
    ⟨{ s.self with blnLocalConn := s.self.oConn.isNone }, s.heap⟩ hr h
  have hnone : s.self.oConn.isNone = true := by rw [hr]; rfl
  refine ⟨e, t, ?_, ⟨ht.held, ht.same, ht.others⟩, hnoneOpen⟩
  simp only [initQuery, Eff.run_bind, assign, Eff.run_modify, Eff.run_get]
  rw [if_pos hnone, Eff.run_bind, hopen]

/-- Without a connection, if none is opened. -/
theorem closesOwn_of_unopened (m : Method) (hr : s.self.oConn = none)
    (h : out .create = .returns → out .open_ ≠ .returns) :
    m.ClosesOwn out s := by
  obtain ⟨e, t, hinit, -, ht⟩ := initQuery_unopened hr h
  exact (closesOwn_of_init_error m hinit).mpr ht

/-- `ExecuteReader` on a connection of its own. -/
theorem executeReader_local (hr : s.self.oConn = none)
    (hcreate : out .create = .returns) (hopen : out .open_ = .returns)
    (hfresh : s.self.fresh = true) :
    (executeReader out).run s
      = (match ((Npgsql.executeReader out s.self.command).run
            ⟨{ isOpen := true }, s.heap.database⟩).1 with
          | .ok _ => .ok (some ⟨s.heap.allocated⟩)
          | .error _ => .ok none,
          ⟨s.self.initedLocal s.heap.allocated,
            (opened s.heap).putWire s.heap.allocated
              ((Npgsql.executeReader out s.self.command).run
                ⟨{ isOpen := true }, s.heap.database⟩).2⟩) := by
  simp only [executeReader, Eff.run_tryCatch, Eff.run_bind]
  rw [initQuery_local hr hcreate hopen, hfresh, if_pos rfl]
  dsimp only
  rw [run_onCommand (s := ⟨s.self.initedLocal s.heap.allocated,
      opened s.heap⟩) (n := { isOpen := true })
    (congrArg DataConnection.oConn (opened_connection s.heap))]
  have hdatabase : (opened s.heap).database = s.heap.database := rfl
  dsimp only
  rw [hdatabase]
  generalize (Npgsql.executeReader out s.self.command).run _ = end_
  obtain ⟨_ | _, w⟩ := end_ <;> rfl

/-- Without a connection, if one is opened. -/
theorem closesOwn_local_iff (m : Method) (hr : s.self.oConn = none)
    (hcreate : out .create = .returns) (hopen : out .open_ = .returns) :
    m.ClosesOwn out s ↔ s.self.fresh = true ∧ m.ShutsLocal out := by
  have hinit := initQuery_local hr hcreate hopen
  cases hfresh : s.self.fresh with
  | false =>
      -- the parameters are added before the `try`
      rw [hfresh, if_neg Bool.false_ne_true] at hinit
      rw [closesOwn_of_init_error m hinit, noneOpen_iff rfl,
        opened_connection]
      exact iff_of_false (by decide) (fun h => Bool.false_ne_true h.1)
  | true =>
      rw [eq_self_iff_true, true_and]
      cases m with
      | query q answer =>
          have hexecute := @Npgsql.isOpen_execute_iff out s.self.command
            ⟨{ isOpen := true }, s.heap.database⟩ rfl
          have hopened := Query.call_of_open q out s.self.command
            (w := ⟨{ isOpen := true }, s.heap.database⟩) rfl
          match hcall : (q.call out s.self.command).run
              ⟨{ isOpen := true }, s.heap.database⟩ with
          | (end_, after) =>
              rw [← hopened, hcall] at hexecute
              have hend : ((runQuery out (q.call out) ()).run s).2
                  = ((Eff.finallyDo (onCommand
                      ⟨s.heap.allocated, s.self.command⟩
                      (q.call out s.self.command)) (closeLocal out)).run
                    ⟨s.self.initedLocal s.heap.allocated,
                      opened s.heap⟩).2 := by
                rw [runQuery, Eff.run_bind, hinit, hfresh, if_pos rfl]
                dsimp only
                rw [Eff.run_bind]
                generalize (Eff.finallyDo _ _).run _ = end_
                obtain ⟨_ | _, t⟩ := end_ <;> rfl
              rw [closesOwn_query_iff, hend, finallyDo_local _ hcall,
                noneOpen_iff rfl, Heap.put_connection, connOpen_close_iff,
                hexecute]
              exact Iff.rfl
      | executeReader isAsync =>
          exact closesOwn_reader_iff isAsync rfl rfl
            (executeReader_local hr hcreate hopen hfresh)

/-- With a `DataConnection` that has no connection. -/
theorem closesOwn_of_gone (m : Method) (hr : s.self.oConn = some r)
    (hn : (s.heap.connection r).oConn = none) : m.ClosesOwn out s := by
  refine (closesOwn_of_init_error m (initQuery_gone hr hn)).mpr ?_
  have hr' : { s.self with blnLocalConn := false }.oConn = some r := hr
  rw [noneOpen_iff hr', DataConnection.connOpen, hn]
  rfl

/-- A command that may not take its parameters again is refused before the
`try`, and the connection stays as it is. -/
theorem closesOwn_of_not_fresh (m : Method) (hr : s.self.oConn = some r)
    (hn : (s.heap.connection r).oConn = some n)
    (hfresh : s.self.fresh = false) :
    m.ClosesOwn out s ↔ n.isOpen = false := by
  have hr' : s.self.inited.oConn = some r := hr
  have hinit := @initQuery_run out s r n hr hn
  rw [hfresh, if_neg Bool.false_ne_true] at hinit
  rw [closesOwn_of_init_error m hinit, noneOpen_iff hr',
    DataConnection.connOpen_eq hn]

/-- With an open connection, which is not taken for the method's own. -/
theorem closesOwn_open_iff (m : Method) (hr : s.self.oConn = some r)
    (hn : (s.heap.connection r).oConn = some n) (hopen : n.isOpen = true) :
    m.ClosesOwn out s ↔ s.self.fresh = true ∧ m.ShutsOpen out := by
  have hr' : s.self.inited.oConn = some r := hr
  cases hfresh : s.self.fresh with
  | false =>
      rw [closesOwn_of_not_fresh m hr hn hfresh, hopen]
      exact iff_of_false (by decide) (fun h => Bool.false_ne_true h.1)
  | true =>
      rw [eq_self_iff_true, true_and]
      cases m with
      | query q answer =>
          rw [closesOwn_query_iff, runQuery_run _ _ hr hn hfresh,
            noneOpen_iff hr', Heap.putWire_connection,
            Query.call_of_open q out s.self.command hopen]
          exact Npgsql.isOpen_execute_iff hopen
      | executeReader isAsync =>
          exact closesOwn_reader_iff isAsync hopen hr'
            (executeReader_run hr hn hfresh)

/-- With a connection that is not open. -/
theorem closesOwn_closed_iff (m : Method) (hr : s.self.oConn = some r)
    (hn : (s.heap.connection r).oConn = some n)
    (hclosed : n.isOpen = false) :
    m.ClosesOwn out s ↔ (s.self.fresh = true → m.ShutsClosed out) := by
  have hr' : s.self.inited.oConn = some r := hr
  cases hfresh : s.self.fresh with
  | false =>
      rw [closesOwn_of_not_fresh m hr hn hfresh]
      exact iff_of_true hclosed (fun h => absurd h Bool.false_ne_true)
  | true =>
      rw [eq_self_iff_true, true_imp_iff]
      cases m with
      | query q answer =>
          rw [closesOwn_query_iff, runQuery_run _ _ hr hn hfresh,
            noneOpen_iff hr', Heap.putWire_connection]
          show ((q.call out s.self.command).run
            ⟨n, s.heap.database⟩).2.connection.isOpen = false ↔ _
          have hfills : (Method.query q answer).fills = q.fills := rfl
          rw [Method.ShutsClosed, hfills, Query.call_eq]
          cases q.fills with
          | true =>
              exact (isOpen_fill_iff hclosed).trans
                ⟨fun h _ => h, fun h => h rfl⟩
          | false =>
              refine iff_of_true ?_ (fun h => absurd h Bool.false_ne_true)
              rw [if_neg Bool.false_ne_true,
                Npgsql.execute_of_closed out _ hclosed]
              exact hclosed
      | executeReader isAsync =>
          have hread := @executeReader_run out s r n hr hn hfresh
          rw [Npgsql.executeReader_of_closed out _ hclosed] at hread
          refine iff_of_true ?_ (fun h => absurd h Bool.false_ne_true)
          rw [closesOwn_of_null isAsync hread, noneOpen_iff hr',
            Heap.putWire_connection]
          exact hclosed

end Ends

-- ============================================================ the methods

/-- A method closes the connection it opens for itself exactly from the
states and with the ends of calls that are safe for it. -/
theorem closesOwn_iff (m : Method) (out : Outcomes) (s : Scope) :
    m.ClosesOwn out s ↔ m.Safe out s := by
  unfold Method.Safe
  cases hr : s.self.oConn with
  | none =>
      by_cases hopens : out .create = .returns ∧ out .open_ = .returns
      · obtain ⟨hcreate, hopen⟩ := hopens
        rw [closesOwn_local_iff m hr hcreate hopen]
        exact ⟨fun h _ _ => h, fun h => h hcreate hopen⟩
      · refine iff_of_true (closesOwn_of_unopened m hr ?_) ?_
        · exact fun hcreate hopen => hopens ⟨hcreate, hopen⟩
        · exact fun hcreate hopen => absurd ⟨hcreate, hopen⟩ hopens
  | some r =>
      dsimp only
      cases hn : (s.heap.connection r).oConn with
      | none => exact iff_of_true (closesOwn_of_gone m hr hn) trivial
      | some n =>
          dsimp only
          cases hopen : n.isOpen with
          | true => exact closesOwn_open_iff m hr hn hopen
          | false => exact closesOwn_closed_iff m hr hn hopen

-- ========================================================= a manager's life

/-- A manager, and the reader its holder has not closed yet. -/
structure Client where
  scope : Scope
  oReader : Option NpgsqlDataReader := none

/-- What the holder does: an `Add…Para`, `ClearParameters()`, a method,
`oReader.Close()`. -/
inductive Use where
  | addPara (parameterName : String)
  | clearParameters
  | method (m : Method) (out : Outcomes)
  | closeReader (out : Outcomes)

/-- Where the use may call `Close`, it shuts the connection. -/
def Use.Shuts : Use → Prop
  | .addPara _ | .clearParameters => True
  | .method _ out | .closeReader out => out.CloseShuts

namespace Client

/-- A new manager, with the heap it is made on. -/
def new (sqlString : String) (isTextQuery : Bool) (heap : Heap) :
    Client where
  scope := ⟨create sqlString isTextQuery, heap⟩

/-- A method, and the reader it hands out in the place of one that was not
closed. -/
def call (c : Client) (m : Method) (out : Outcomes) : Client :=
  match (m.perform out).run c.scope with
  | (.ok (some oReader), t) => ⟨t, some oReader⟩
  | (_, t) => ⟨t, c.oReader⟩

/-- The closing of the reader, if there is one. -/
def close (c : Client) (out : Outcomes) : Client :=
  match c.oReader with
  | none => c
  | some oReader => ⟨((closeReader out oReader).run c.scope).2, none⟩

/-- One use, however it ends. -/
def step (c : Client) : Use → Option Client
  | .addPara parameterName => some { c with
      scope := ⟨c.scope.self.addPara parameterName, c.scope.heap⟩ }
  | .clearParameters => some { c with
      scope := ⟨c.scope.self.clearParameters, c.scope.heap⟩ }
  | .method m out => some (c.call m out)
  | .closeReader out => some (c.close out)

/-- The connection of the manager is not open, or a reader is out and
closing it closes the connection. -/
def OwnClosed (c : Client) : Prop :=
  match c.oReader with
  | none => NoneOpen c.scope
  | some oReader => ClosedBy oReader c.scope

/-- No connection but the manager's own has been touched since `heap`. -/
def KeepsOthers (heap : Heap) (c : Client) : Prop :=
  ∀ r, c.scope.self.oConn ≠ some r →
    c.scope.heap.connection r = heap.connection r

/-- The invariant: without a reader nothing is open, a reader is on the
manager's connection, and before there is one the parameters belong to no
command. -/
structure Accounted (heap : Heap) (c : Client) : Prop where
  noneOpen : c.oReader = none → NoneOpen c.scope
  reader : ∀ oReader, c.oReader = some oReader →
    c.scope.self.oConn = some oReader.connection
  fresh : c.scope.self.oConn = none → c.scope.self.fresh = true
  others : c.KeepsOthers heap

end Client

section Life

variable {out : Outcomes} {s : Scope} {heap : Heap}

/-- A call on the connection that a part of a method has settled on. -/
theorem Settled.onConnection {α : Type} {r : Nat} {t : Scope}
    (ht : Settled s r t) (call : Eff Exn Session α) :
    Settled s r ((DataManager.onConnection r call).run t).2 := by
  refine ⟨ht.held, ht.same, ?_⟩
  intro r' hne
  rw [run_onConnection]
  exact (Function.update_of_ne hne _ _).trans (ht.others r' hne)

/-- The `finally` is such a call, or nothing. -/
theorem Settled.closeLocal {r : Nat} {t : Scope} (ht : Settled s r t) :
    Settled s r ((DataManager.closeLocal out).run t).2 := by
  cases hlocal : t.self.blnLocalConn with
  | true =>
      rw [closeLocal_local hlocal ht.held]
      exact ht.onConnection _
  | false =>
      rw [closeLocal_run hlocal]
      exact ht

/-- `InitQuery` settles on a connection, and its command is on that. -/
theorem settled_initQuery :
    ∃ r, Settled s r ((initQuery out).run s).2
      ∧ ∀ oCmd, ((initQuery out).run s).1 = .ok oCmd →
        oCmd.connection = r := by
  cases hr : s.self.oConn with
  | none =>
      refine ⟨s.heap.allocated, ?_⟩
      by_cases hopens : out .create = .returns ∧ out .open_ = .returns
      · rw [initQuery_local hr hopens.1 hopens.2]
        refine ⟨⟨rfl, ?_, ?_⟩, ?_⟩
        · intro r' hr'
          cases hr.symm.trans hr'
        · exact fun r' hne => Function.update_of_ne hne _ _
        · intro oCmd h
          split at h
          · obtain rfl := Except.ok.inj h
            rfl
          · cases h
      · obtain ⟨e, t, hinit, ht, -⟩ := @initQuery_unopened out s hr
          fun hcreate hopen => hopens ⟨hcreate, hopen⟩
        rw [hinit]
        exact ⟨ht, nofun⟩
  | some r =>
      refine ⟨r, ?_⟩
      have hsame : ∀ r', s.self.oConn = some r' → r' = r :=
        fun r' h => Option.some.inj (h.symm.trans hr)
      cases hn : (s.heap.connection r).oConn with
      | none =>
          rw [initQuery_gone hr hn]
          exact ⟨⟨hr, hsame, fun _ _ => rfl⟩, nofun⟩
      | some n =>
          rw [initQuery_run hr hn]
          refine ⟨⟨hr, hsame, fun _ _ => rfl⟩, ?_⟩
          intro oCmd h
          split at h
          · obtain rfl := Except.ok.inj h
            rfl
          · cases h

/-- So does a query method, -/
theorem settled_runQuery {α : Type} (call : Command → Eff Exn Wire Unit)
    (result : α) : ∃ r, Settled s r ((runQuery out call result).run s).2 := by
  obtain ⟨r, ht, hcommand⟩ := @settled_initQuery out s
  refine ⟨r, ?_⟩
  rw [runQuery, Eff.run_bind]
  generalize (initQuery out).run s = end_ at ht hcommand ⊢
  obtain ⟨e | oCmd, t⟩ := end_
  · exact ht
  · obtain rfl := hcommand oCmd rfl
    refine Eff.bind_ends ?_ (fun _ _ h => h)
    rw [Eff.snd_finallyDo]
    exact (ht.onConnection _).closeLocal

/-- and a reader method, whose reader is on that connection. -/
theorem settled_executeReader :
    ∃ r, Settled s r ((executeReader out).run s).2
      ∧ ∀ oReader, ((executeReader out).run s).1 = .ok (some oReader) →
        oReader.connection = r := by
  obtain ⟨r, ht, hcommand⟩ := @settled_initQuery out s
  refine ⟨r, ?_⟩
  rw [executeReader, Eff.run_tryCatch, Eff.run_bind]
  generalize (initQuery out).run s = end_ at ht hcommand ⊢
  obtain ⟨e | oCmd, t⟩ := end_
  · refine ⟨ht, ?_⟩
    intro oReader h
    cases h
  · obtain rfl := hcommand oCmd rfl
    have hcall := ht.onConnection
      (DataConnection.onConn (Npgsql.executeReader out oCmd.command))
    dsimp only
    rw [Eff.run_bind, onCommand]
    generalize (onConnection oCmd.connection _).run t = end_ at hcall ⊢
    obtain ⟨e | u, t'⟩ := end_
    · refine ⟨hcall, ?_⟩
      intro oReader h
      cases h
    · refine ⟨hcall, ?_⟩
      intro oReader h
      obtain rfl := Option.some.inj (Except.ok.inj h)
      rfl

/-- Every method does. -/
theorem settled_perform (m : Method) :
    ∃ r, Settled s r ((m.perform out).run s).2
      ∧ ∀ oReader, ((m.perform out).run s).1 = .ok (some oReader) →
        oReader.connection = r := by
  cases m with
  | query q answer =>
      obtain ⟨r, ht⟩ := @settled_runQuery out s _ (q.call out) ()
      refine ⟨r, ?_⟩
      rw [Method.perform, Eff.run_bind, Query.perform_run]
      generalize (runQuery out (q.call out) ()).run s = end_ at ht ⊢
      obtain ⟨e | u, t⟩ := end_
      · refine ⟨ht, ?_⟩
        intro oReader h
        cases h
      · refine ⟨ht, ?_⟩
        intro oReader h
        cases h
  | executeReader isAsync =>
      have hread : (Method.executeReader isAsync).perform out
          = executeReader out := by cases isAsync <;> rfl
      rw [hread]
      exact settled_executeReader

/-- Where nothing is open and the parameters belong to no command that
could have been given a connection, every method closes what it opens. -/
theorem Client.Accounted.safe {c : Client} (hc : c.Accounted heap)
    (hreader : c.oReader = none) (m : Method) (hshuts : out.CloseShuts) :
    m.Safe out c.scope := by
  unfold Method.Safe
  cases hr : c.scope.self.oConn with
  | none =>
      intro _ _
      refine ⟨hc.fresh hr, ?_⟩
      cases m with
      | query q answer => exact Or.inr hshuts
      | executeReader isAsync => exact Or.inr (Or.inr hshuts)
  | some r =>
      dsimp only
      cases hn : (c.scope.heap.connection r).oConn with
      | none => exact trivial
      | some n =>
          have hclosed := hc.noneOpen hreader r hr
          rw [DataConnection.connOpen_eq hn] at hclosed
          dsimp only
          rw [hclosed, if_neg Bool.false_ne_true]
          exact fun _ _ _ => Or.inr hshuts

/-- A method keeps the invariant. -/
theorem Client.Accounted.call {c : Client} (hc : c.Accounted heap)
    (m : Method) (hshuts : out.CloseShuts) :
    (c.call m out).Accounted heap := by
  obtain ⟨r, ht, hreader⟩ := @settled_perform out c.scope m
  have hcloses : c.oReader = none → m.ClosesOwn out c.scope := fun h =>
    (closesOwn_iff m out c.scope).mpr (hc.safe h m hshuts)
  have hnever : ∀ {t : Scope}, t.self.oConn = some r →
      t.self.oConn = none → t.self.fresh = true := by
    intro t hr hnone
    cases hr.symm.trans hnone
  have hothers : ∀ {t : Scope} (oReader : Option NpgsqlDataReader),
      Settled c.scope r t → Client.KeepsOthers heap ⟨t, oReader⟩ := by
    intro t oReader ht r' hr'
    have hne : r' ≠ r := fun h => hr' (h ▸ ht.held)
    exact (ht.others r' hne).trans
      (hc.others r' fun h => hne (ht.same r' h))
  unfold Client.call
  unfold Method.ClosesOwn at hcloses
  match hrun : (m.perform out).run c.scope with
  | (.ok (some oReader), t) =>
      rw [hrun] at ht hreader
      refine ⟨nofun, ?_, hnever ht.held, hothers _ ht⟩
      intro oReader' h
      obtain rfl := Option.some.inj h
      exact ht.held.trans (congrArg some (hreader _ rfl).symm)
  | (.ok none, t) | (.error e, t) =>
      rw [hrun] at ht hcloses
      refine ⟨hcloses, ?_, hnever ht.held, hothers _ ht⟩
      -- a reader that was out before is on the same connection after
      intro oReader h
      exact ht.held.trans (congrArg some (ht.same _ (hc.reader _ h)).symm)

/-- So does the closing of a reader. -/
theorem Client.Accounted.close {c : Client} (hc : c.Accounted heap)
    (hshuts : out.CloseShuts) : (c.close out).Accounted heap := by
  unfold Client.close
  cases hreader : c.oReader with
  | none => exact hc
  | some oReader =>
      have hr := hc.reader oReader hreader
      refine ⟨fun _ => closedBy_of_held hr out hshuts, nofun, ?_, ?_⟩
      · intro hnone
        cases hr.symm.trans hnone
      · intro r' hr'
        have hne : r' ≠ oReader.connection := fun h => hr' (h ▸ hr)
        exact (Function.update_of_ne hne _ _).trans (hc.others r' hr')

/-- And every use. -/
theorem Client.Accounted.step {c d : Client} (hc : c.Accounted heap)
    {u : Use} (hshuts : u.Shuts) (hstep : c.step u = some d) :
    d.Accounted heap := by
  cases u with
  | addPara parameterName =>
      obtain rfl := Option.some.inj hstep
      refine ⟨hc.noneOpen, hc.reader, ?_, hc.others⟩
      intro hr
      exact fresh_addPara parameterName (hc.fresh hr)
  | clearParameters =>
      obtain rfl := Option.some.inj hstep
      exact ⟨hc.noneOpen, hc.reader, fun _ => rfl, hc.others⟩
  | method m out =>
      obtain rfl := Option.some.inj hstep
      exact hc.call m hshuts
  | closeReader out =>
      obtain rfl := Option.some.inj hstep
      exact hc.close hshuts

/-- What the invariant says of the connection. -/
theorem Client.Accounted.ownClosed {c : Client} (hc : c.Accounted heap) :
    c.OwnClosed := by
  unfold Client.OwnClosed
  cases hreader : c.oReader with
  | none => exact hc.noneOpen hreader
  | some oReader => exact closedBy_of_held (hc.reader oReader hreader)

end Life

/-- Whatever is done with a manager that was given no connection, and
however the calls in it end: when a method has returned or thrown, the
connection the manager opened for itself is closed, unless a reader is
out, and then closing the reader closes it. It is the only connection the
manager has made or touched. Taken of Npgsql is only that a `Close` does
not throw and leave the connection open. -/
theorem own_connections_closed (sqlString : String) (isTextQuery : Bool)
    (heap : Heap) {uses : List Use} (hshuts : ∀ u ∈ uses, u.Shuts)
    {c : Client}
    (hrun : run Client.step (Client.new sqlString isTextQuery heap) uses
      = some c) : c.OwnClosed ∧ c.KeepsOthers heap := by
  have hnew : (Client.new sqlString isTextQuery heap).Accounted heap :=
    ⟨fun _ => nofun, nofun, fun _ => rfl, fun _ _ => rfl⟩
  have hc : c.Accounted heap := by
    refine run_invariant (fun c u d hc hu hstep => ?_) hnew
      (along_of_forall hshuts _) hrun
    exact hc.step hu hstep
  exact ⟨hc.ownClosed, hc.others⟩

/-- After an `ExecuteReader` and a `GetTable` whose commands throw, the
connection that was opened is there and closed. A reader that is out
keeps its connection open until it is closed. -/
theorem failing_methods_leave_closed :
    (∃ c, run Client.step (Client.new "select 1" true {})
          [.addPara "id",
            .method (.executeReader false) (.failing .execute .nothing),
            .clearParameters,
            .method (.query .getTable {}) (.failing .execute .nothing)]
          = some c
        ∧ c.oReader = none
        ∧ (c.scope.heap.connection 0).oConn = some { isOpen := false }
        ∧ c.OwnClosed ∧ c.KeepsOthers {})
    ∧ ∃ c, run Client.step (Client.new "select 1" true {})
          [.method (.executeReader true) .allReturn] = some c
        ∧ c.oReader = some ⟨0⟩
        ∧ (c.scope.heap.connection 0).oConn = some { isOpen := true }
        ∧ c.OwnClosed ∧ c.KeepsOthers {} := by
  refine ⟨⟨_, rfl, rfl, rfl, ?_⟩, _, rfl, rfl, rfl, ?_⟩
  · refine @own_connections_closed "select 1" true {}
      [.addPara "id",
        .method (.executeReader false) (.failing .execute .nothing),
        .clearParameters,
        .method (.query .getTable {}) (.failing .execute .nothing)] ?_ _ rfl
    intro u hu
    simp only [List.mem_cons, List.not_mem_nil, or_false] at hu
    rcases hu with rfl | rfl | rfl | rfl
    · trivial
    · exact Or.inl rfl
    · trivial
    · exact Or.inl rfl
  · refine @own_connections_closed "select 1" true {}
      [.method (.executeReader true) .allReturn] ?_ _ rfl
    intro u hu
    rw [List.mem_singleton.mp hu]
    exact Or.inl rfl

end DataManager

end SkillBuddy
