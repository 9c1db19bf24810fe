/-
`SkillBuddy.data.DataBaseManager.DataConnection`: a connection, the
transaction begun on it, and two flags about them.

# The operations

Each operation is written statement by statement, because every call on
the way may throw and what was assigned before stays assigned. The async
methods await the async calls in the place of the sync ones and have no
statement of their own. What a call does is asked of an `Outcomes`: the
outcome of an operation is a function of it, so a statement about all of
them is one about everything Npgsql may do.

The flags are `blnIsOpen` and `blnTranActive`. They are set by the methods
below and never by the connection, so nothing keeps them true: a
connection that breaks stays flagged open, and a commit that throws leaves
the transaction flagged active. The guards of the methods ask `oConn` and
`oTran` and not the flags.

# What they do

Behind the definitions stands for each operation what it comes to, with
the cases its guards and the outcomes make: `openWith_open` and
`openWith_unopened`, `beginTran_run`, `endTran_run`, `closeConn_run` and
their like. `CommitTran` and `RollbackTran` are one text with another
call in it (`endTran`). Proofs about runs go by these, and no operation
is unfolded again.

`Operation` collects the calls a user makes, and `Session.step` is one of
them on a session, however it ends.
-/
import SkillBuddy.Data.Npgsql

namespace SkillBuddy

open DotNet Lib

/-- The fields of a `DataConnection`. -/
structure DataConnection where
  connectionString : String := ""
  oConn : Option NpgsqlConnection := none
  oTran : Option Nat := none
  blnIsOpen : Bool := false
  blnTranActive : Bool := false
  deriving DecidableEq, Repr

/-- A `DataConnection` and the database it is connected to. -/
structure Session where
  self : DataConnection
  database : Database := {}
  deriving DecidableEq, Repr

namespace DataConnection

/-- `IsOpen`. -/
def isOpen (c : DataConnection) : Bool := c.blnIsOpen

/-- `IsTransactionActive`. -/
def isTransactionActive (c : DataConnection) : Bool := c.blnTranActive

/-- `oConn?.State == ConnectionState.Open`. -/
def connOpen (c : DataConnection) : Bool := c.oConn.any (·.isOpen)

/-- The transaction pending on `oConn`. -/
def pending (c : DataConnection) : Option Transaction :=
  c.oConn.bind (·.pending)

-- ======================================================== the statements

/-- An assignment to fields. -/
def assign (f : DataConnection → DataConnection) : Eff Exn Session Unit :=
  Eff.modify fun s => { s with self := f s.self }

/-- A call on `oConn`, or on the transaction begun on it. -/
def onConn {α : Type} (call : Eff Exn Wire α) : Eff Exn Session α :=
  Eff.zoom (fun s => s.self.oConn.map fun c => ⟨c, s.database⟩)
    (fun w s =>
      { self := { s.self with oConn := some w.connection }
        database := w.database })
    call (Eff.throw .nullReference)

-- ======================================================== the operations

/-- `Open(connectionString)`. -/
def openWith (out : Outcomes) (connectionString : String) :
    Eff Exn Session Bool := do
  let s ← Eff.get
  if s.self.connOpen then pure true
  else
    let oConn ← NpgsqlConnection.create out connectionString
    assign fun c => { c with oConn := some oConn }
    onConn (NpgsqlConnection.open_ out)
    assign fun c => { c with blnIsOpen := true }
    pure true

/-- `Open()`. -/
def open_ (out : Outcomes) : Eff Exn Session Bool := do
  let s ← Eff.get
  openWith out s.self.connectionString

/-- `oTran?.Dispose()`. -/
def disposeTran (out : Outcomes) : Eff Exn Session Unit := do
  let s ← Eff.get
  match s.self.oTran with
  | none => pure ()
  | some oTran => onConn (NpgsqlTransaction.dispose out oTran)

/-- `if (oConn.State == ConnectionState.Open) oConn.Close()`. -/
def closeIfOpen (out : Outcomes) : Eff Exn Session Unit := do
  let s ← Eff.get
  if s.self.connOpen then onConn (NpgsqlConnection.close out)
  else pure ()

/-- `if (oConn != null) { … }`, the connection's part of `Close`. -/
def closeConn (out : Outcomes) : Eff Exn Session Unit := do
  let s ← Eff.get
  match s.self.oConn with
  | none => pure ()
  | some _ =>
      closeIfOpen out
      onConn (NpgsqlConnection.dispose out)
      assign fun c => { c with oConn := none }

/-- `Close()`. -/
def close (out : Outcomes) : Eff Exn Session Unit := do
  disposeTran out
  assign fun c => { c with oTran := none }
  closeConn out
  assign fun c => { c with blnIsOpen := false, blnTranActive := false }

/-- `BeginTran()`. -/
def beginTran (out : Outcomes) : Eff Exn Session Unit := do
  let s ← Eff.get
  if s.self.connOpen then
    let oTran ← onConn (NpgsqlConnection.beginTransaction out)
    assign fun c => { c with oTran := some oTran, blnTranActive := true }
  else pure ()

/-- The common text of `CommitTran` and `RollbackTran`. -/
def endTran (out : Outcomes) (call : Nat → Eff Exn Wire Unit) :
    Eff Exn Session Unit := do
  let s ← Eff.get
  match s.self.oTran with
  | none => pure ()
  | some oTran =>
      onConn (call oTran)
      onConn (NpgsqlTransaction.dispose out oTran)
      assign fun c => { c with oTran := none, blnTranActive := false }

/-- `CommitTran()`. -/
def commitTran (out : Outcomes) : Eff Exn Session Unit :=
  endTran out (NpgsqlTransaction.commit out)

/-- `RollbackTran()`. -/
def rollbackTran (out : Outcomes) : Eff Exn Session Unit :=
  endTran out (NpgsqlTransaction.rollback out)

/-- `Dispose()`. -/
def dispose (out : Outcomes) : Eff Exn Session Unit := close out

/-- `OpenAsync(connectionString)`. -/
def openAsyncWith (out : Outcomes) (connectionString : String) :
    Eff Exn Session Bool :=
  openWith out connectionString

/-- `OpenAsync()`. -/
def openAsync (out : Outcomes) : Eff Exn Session Bool := open_ out

/-- `BeginTranAsync()`. -/
def beginTranAsync (out : Outcomes) : Eff Exn Session Unit := beginTran out

/-- `CommitTranAsync()`. -/
def commitTranAsync (out : Outcomes) : Eff Exn Session Unit :=
  commitTran out

/-- `RollbackTranAsync()`. -/
def rollbackTranAsync (out : Outcomes) : Eff Exn Session Unit :=
  rollbackTran out

-- ============================================== what each operation does

section Spec

variable {out : Outcomes} {s : Session} {n : NpgsqlConnection}

/-- A call on a connection that is there: it sees the connection and the
database, and what it leaves of them is put back, whether it returns or
throws. -/
theorem run_onConn {α : Type} (call : Eff Exn Wire α)
    (hn : s.self.oConn = some n) :
    (onConn call).run s
      = ((call.run ⟨n, s.database⟩).1,
          { self := { s.self with
              oConn := some (call.run ⟨n, s.database⟩).2.connection }
            database := (call.run ⟨n, s.database⟩).2.database }) := by
  unfold onConn
  rw [Eff.run_zoom (p := ⟨n, s.database⟩)]
  rw [hn, Option.map_some]

theorem connOpen_eq {c : DataConnection} (hn : c.oConn = some n) :
    c.connOpen = n.isOpen := by
  rw [connOpen, hn, Option.any_some]

theorem exists_of_connOpen {c : DataConnection}
    (h : c.connOpen = true) : ∃ n, c.oConn = some n ∧ n.isOpen = true := by
  unfold connOpen at h
  cases hn : c.oConn with
  | none =>
      rw [hn] at h
      cases h
  | some n =>
      rw [hn, Option.any_some] at h
      exact ⟨n, rfl, h⟩

/-- `Open` on an open connection does nothing, whatever connection string it
is given. -/
theorem openWith_open (connectionString : String)
    (h : s.self.connOpen = true) :
    (openWith out connectionString).run s = (.ok true, s) := by
  simp only [openWith, Eff.run_bind, Eff.run_get, h, if_true, Eff.run_pure]

/-- `Open` otherwise: there is no new connection, or it is open, or it is
there and is not. In the last case the connection that was there before
is gone, and the flag is as it was. -/
theorem openWith_unopened (connectionString : String)
    (h : s.self.connOpen = false) :
    (openWith out connectionString).run s = match out .create with
      | .throws _ => (.error .argument, s)
      | .returns => match out .open_ with
        | .returns => (.ok true, { s with self := { s.self with
            oConn := some { connectionString, isOpen := true }
            blnIsOpen := true } })
        | .throws _ => (.error .npgsql, { s with self := { s.self with
            oConn := some { connectionString } } }) := by
  simp only [openWith, Eff.run_bind, Eff.run_get, h, Bool.false_eq_true,
    if_false, assign, NpgsqlConnection.create]
  cases out .create with
  | throws damage => rfl
  | returns =>
      simp only [Eff.run_pure, Eff.run_modify]
      rw [run_onConn _ rfl, NpgsqlConnection.open_]
      cases hout : out .open_ with
      | returns =>
          rw [npgsqlCall_returns rfl]
          rfl
      | throws d =>
          rw [npgsqlCall_throws rfl]
          cases d <;> rfl

/-- `BeginTran` without an open connection does nothing, and does not say
so. -/
theorem beginTran_unopened (h : s.self.connOpen = false) :
    (beginTran out).run s = (.ok (), s) := by
  simp only [beginTran, Eff.run_bind, Eff.run_get, h, Bool.false_eq_true,
    if_false, Eff.run_pure]

/-- `BeginTran` while a transaction is pending: the connection refuses a
second one, and everything stays as it is. -/
theorem beginTran_pending {t : Transaction}
    (hn : s.self.oConn = some n) (hopen : n.isOpen = true)
    (hpending : n.pending = some t) :
    (beginTran out).run s
      = (.error (.invalidOperation "A transaction is already in progress"),
          s) := by
  have hc := (connOpen_eq hn).trans hopen
  simp only [beginTran, Eff.run_bind, Eff.run_get, hc, if_true]
  rw [run_onConn _ hn]
  simp only [NpgsqlConnection.beginTransaction, Eff.run_bind, Eff.run_get,
    hpending, Option.isSome_some, if_true, Eff.run_throw, ← hn]

/-- `BeginTran` otherwise: a new transaction is pending and remembered, or
the connection has what the failed call left of it and the fields are as
they were. -/
theorem beginTran_run
    (hn : s.self.oConn = some n) (hopen : n.isOpen = true)
    (hpending : n.pending = none) :
    (beginTran out).run s = match out .beginTransaction with
      | .returns => (.ok (),
          { self := { s.self with
              oConn := some { n with
                pending := some { id := s.database.begun } }
              oTran := some s.database.begun
              blnTranActive := true }
            database := { s.database with
              begun := s.database.begun + 1 } })
      | .throws damage => (.error .npgsql, { s with self := { s.self with
          oConn := some (damage.done n) } }) := by
  have hc := (connOpen_eq hn).trans hopen
  simp only [beginTran, Eff.run_bind, Eff.run_get, hc, if_true]
  rw [run_onConn _ hn]
  simp only [NpgsqlConnection.beginTransaction, Eff.run_bind, Eff.run_get,
    hpending, Option.isSome_none, Bool.false_eq_true, if_false]
  cases hout : out .beginTransaction with
  | returns =>
      rw [npgsqlCall_returns rfl]
      rfl
  | throws d =>
      rw [npgsqlCall_throws rfl]
      rfl

/-- `CommitTran` and `RollbackTran` without a transaction do nothing. -/
theorem endTran_none (call : Nat → Eff Exn Wire Unit)
    (ht : s.self.oTran = none) : (endTran out call).run s = (.ok (), s) := by
  simp only [endTran, Eff.run_bind, Eff.run_get, ht, Eff.run_pure]

/-- `CommitTran` and `RollbackTran` with a transaction: its end, its
disposal and the assignments. -/
theorem endTran_some {t : Nat} (call : Nat → Eff Exn Wire Unit)
    (ht : s.self.oTran = some t) :
    (endTran out call).run s
      = (do
          onConn (call t)
          onConn (NpgsqlTransaction.dispose out t)
          assign fun c => { c with
            oTran := none, blnTranActive := false }).run s := by
  simp only [endTran, Eff.run_bind, Eff.run_get, ht]

/-- `CommitTran` and `RollbackTran` with a completed transaction: it refuses
the call, and the field keeps it. -/
theorem endTran_completed {t : Nat} (outcome : Outcome)
    (effect : Wire → Wire) (hn : s.self.oConn = some n)
    (ht : s.self.oTran = some t) (hpending : n.isPending t = false) :
    (endTran out fun t => NpgsqlTransaction.call t outcome effect).run s
      = (.error (.invalidOperation "This NpgsqlTransaction has completed"),
          s) := by
  rw [endTran_some _ ht, Eff.run_bind, run_onConn _ hn]
  simp only [NpgsqlTransaction.call, Eff.run_bind, Eff.run_get, hpending,
    Bool.false_eq_true, if_false, Eff.run_throw, ← hn]

/-- `CommitTran` and `RollbackTran` with the pending transaction: three ways
to end. The flag and the field are reset only if both calls return. -/
theorem endTran_run {t : Nat} (outcome : Outcome) (effect : Wire → Wire)
    (hn : s.self.oConn = some n) (ht : s.self.oTran = some t)
    (hpending : n.isPending t = true)
    (heffect : (effect ⟨n, s.database⟩).connection = n.discarded) :
    (endTran out fun t => NpgsqlTransaction.call t outcome effect).run s
      = match outcome with
        | .throws damage => (.error .npgsql, { s with self := { s.self with
            oConn := some (damage.done n) } })
        | .returns =>
            match out .disposeTransaction with
            | .returns => (.ok (),
                { self := { s.self with
                    oConn := some n.discarded
                    oTran := none
                    blnTranActive := false }
                  database := (effect ⟨n, s.database⟩).database })
            | .throws damage => (.error .npgsql,
                { self := { s.self with
                    oConn := some (damage.done n.discarded) }
                  database := (effect ⟨n, s.database⟩).database }) := by
  rw [endTran_some _ ht, Eff.run_bind, run_onConn _ hn]
  simp only [NpgsqlTransaction.call, Eff.run_bind, Eff.run_get, hpending,
    if_true]
  cases outcome with
  | throws damage =>
      rw [npgsqlCall_throws rfl]
      rfl
  | returns =>
      rw [npgsqlCall_returns rfl]
      dsimp only
      rw [run_onConn _ rfl, NpgsqlTransaction.dispose]
      cases hout : out .disposeTransaction with
      | returns =>
          rw [npgsqlCall_returns rfl]
          simp only [assign, Eff.run_modify, Wire.onConnection, heffect]
          rfl
      | throws damage =>
          rw [npgsqlCall_throws rfl]
          simp only [Wire.onConnection, heffect]

/-- `oTran?.Dispose()` without a transaction. -/
theorem disposeTran_none (ht : s.self.oTran = none) :
    (disposeTran out).run s = (.ok (), s) := by
  simp only [disposeTran, Eff.run_bind, Eff.run_get, ht, Eff.run_pure]

/-- `oTran?.Dispose()` otherwise: a transaction that is still pending is
discarded with it. -/
theorem disposeTran_run {t : Nat} (hn : s.self.oConn = some n)
    (ht : s.self.oTran = some t) :
    (disposeTran out).run s = match out .disposeTransaction with
      | .returns => (.ok (), { s with self := { s.self with
          oConn := some (if n.isPending t then n.discarded else n) } })
      | .throws damage => (.error .npgsql, { s with self := { s.self with
          oConn := some (damage.done n) } }) := by
  have hrun : (disposeTran out).run s
      = (onConn (NpgsqlTransaction.dispose out t)).run s := by
    simp only [disposeTran, Eff.run_bind, Eff.run_get, ht]
  rw [hrun, run_onConn _ hn, NpgsqlTransaction.dispose]
  cases out .disposeTransaction with
  | returns =>
      rw [npgsqlCall_returns rfl]
      rfl
  | throws damage =>
      rw [npgsqlCall_throws rfl]
      rfl

/-- The connection's part of `Close` without a connection. -/
theorem closeConn_none (hn : s.self.oConn = none) :
    (closeConn out).run s = (.ok (), s) := by
  simp only [closeConn, Eff.run_bind, Eff.run_get, hn, Eff.run_pure]

/-- The connection's part of `Close` on a connection that is not open. -/
theorem closeConn_unopened (hn : s.self.oConn = some n)
    (hopen : n.isOpen = false) :
    (closeConn out).run s = match out .disposeConnection with
      | .returns => (.ok (), { s with self := { s.self with
          oConn := none } })
      | .throws damage => (.error .npgsql, { s with self := { s.self with
          oConn := some (damage.done n) } }) := by
  have hc := (connOpen_eq hn).trans hopen
  simp only [closeConn, closeIfOpen, Eff.run_bind, Eff.run_get, hn, hc,
    Bool.false_eq_true, if_false, Eff.run_pure]
  rw [run_onConn _ hn, NpgsqlConnection.dispose]
  cases out .disposeConnection with
  | returns =>
      rw [npgsqlCall_returns rfl]
      rfl
  | throws damage =>
      rw [npgsqlCall_throws rfl]
      rfl

/-- The connection's part of `Close` on an open connection. -/
theorem closeConn_run (hn : s.self.oConn = some n)
    (hopen : n.isOpen = true) :
    (closeConn out).run s = match out .close with
      | .throws damage => (.error .npgsql, { s with self := { s.self with
          oConn := some (damage.done n) } })
      | .returns =>
          match out .disposeConnection with
          | .returns => (.ok (), { s with self := { s.self with
              oConn := none } })
          | .throws _ => (.error .npgsql, { s with self := { s.self with
              oConn := some n.closed } }) := by
  have hc := (connOpen_eq hn).trans hopen
  simp only [closeConn, closeIfOpen, Eff.run_bind, Eff.run_get, hn, hc,
    if_true]
  rw [run_onConn _ hn, NpgsqlConnection.close]
  cases out .close with
  | throws damage =>
      rw [npgsqlCall_throws rfl]
      rfl
  | returns =>
      rw [npgsqlCall_returns rfl]
      dsimp only
      rw [run_onConn _ rfl, NpgsqlConnection.dispose]
      cases out .disposeConnection with
      | returns =>
          rw [npgsqlCall_returns rfl]
          rfl
      | throws damage =>
          rw [npgsqlCall_throws rfl]
          cases damage <;> rfl

/-- `Close` once the transaction is disposed. -/
theorem close_of_disposed {t : Session}
    (h : (disposeTran out).run s = (.ok (), t)) :
    (close out).run s
      = match (closeConn out).run
          { t with self := { t.self with oTran := none } } with
        | (.ok _, u) => (.ok (), { u with self := { u.self with
            blnIsOpen := false, blnTranActive := false } })
        | (.error e, u) => (.error e, u) := by
  simp only [close, Eff.run_bind, h, assign, Eff.run_modify]
  generalize (closeConn out).run _ = r
  obtain ⟨_ | _, u⟩ := r <;> rfl

/-- `Close` if the disposal of the transaction throws: nothing behind it is
done, so the connection is left as it is. -/
theorem close_of_error {t : Session} {e : Exn}
    (h : (disposeTran out).run s = (.error e, t)) :
    (close out).run s = (.error e, t) := by
  simp only [close, Eff.run_bind, h]

/-- `Close` of an open connection, whatever the transaction: if the calls
return up to the connection's own `Close`, it is not open afterwards. -/
theorem connOpen_close (hn : s.self.oConn = some n)
    (hopen : n.isOpen = true)
    (hdispose : out .disposeTransaction = .returns)
    (hclose : out .close = .returns) :
    ((close out).run s).2.self.connOpen = false := by
  have hrest : ∀ t : Session, ∀ n' : NpgsqlConnection,
      (disposeTran out).run s = (.ok (), t) → t.self.oConn = some n' →
      n'.isOpen = true → ((close out).run s).2.self.connOpen = false := by
    intro t n' ht hn' hopen'
    rw [close_of_disposed ht, closeConn_run (n := n')
      (s := { t with self := { t.self with oTran := none } }) hn' hopen',
      hclose]
    cases out .disposeConnection <;> rfl
  cases ht : s.self.oTran with
  | none => exact hrest s n (disposeTran_none ht) hn hopen
  | some t =>
      have hrun := @disposeTran_run out s n t hn ht
      rw [hdispose] at hrun
      refine hrest _ _ hrun rfl ?_
      split
      · exact hopen
      · exact hopen

end Spec

-- ============================================================ its callers

/-- The calls a user makes. -/
inductive Operation where
  | open_
  | openWith (connectionString : String)
  | close | beginTran | commitTran | rollbackTran | dispose
  | openAsync
  | openAsyncWith (connectionString : String)
  | beginTranAsync | commitTranAsync | rollbackTranAsync
  deriving DecidableEq, Repr

/-- What a call does; the `true` of the open calls is dropped. -/
def Operation.perform (out : Outcomes) : Operation → Eff Exn Session Unit
  | .open_ => do let _ ← DataConnection.open_ out
  | .openWith connectionString => do
      let _ ← DataConnection.openWith out connectionString
  | .close => DataConnection.close out
  | .beginTran => DataConnection.beginTran out
  | .commitTran => DataConnection.commitTran out
  | .rollbackTran => DataConnection.rollbackTran out
  | .dispose => DataConnection.dispose out
  | .openAsync => do let _ ← DataConnection.openAsync out
  | .openAsyncWith connectionString => do
      let _ ← DataConnection.openAsyncWith out connectionString
  | .beginTranAsync => DataConnection.beginTranAsync out
  | .commitTranAsync => DataConnection.commitTranAsync out
  | .rollbackTranAsync => DataConnection.rollbackTranAsync out

/-- The calls that open. -/
def Operation.opens : Operation → Bool
  | .open_ | .openWith _ | .openAsync | .openAsyncWith _ => true
  | .close | .dispose | .beginTran | .beginTranAsync | .commitTran
  | .commitTranAsync | .rollbackTran | .rollbackTranAsync => false

/-- The calls that begin a transaction. -/
def Operation.begins (operation : Operation) : Bool :=
  operation == .beginTran || operation == .beginTranAsync

/-- The calls that commit. -/
def Operation.commits (operation : Operation) : Bool :=
  operation == .commitTran || operation == .commitTranAsync

/-- The calls that roll back. -/
def Operation.rollsBack (operation : Operation) : Bool :=
  operation == .rollbackTran || operation == .rollbackTranAsync

/-- A call that opens is `Open` with some connection string. -/
theorem Operation.perform_of_opens {operation : Operation}
    (h : operation.opens = true) (out : Outcomes) (s : Session) :
    ∃ connectionString, (operation.perform out).run s
      = (((DataConnection.openWith out connectionString).run s).1.map
            fun _ => (),
          ((DataConnection.openWith out connectionString).run s).2) := by
  cases operation with
  | open_ | openAsync =>
      exact ⟨s.self.connectionString, Eff.run_dropped _ s⟩
  | openWith connectionString | openAsyncWith connectionString =>
      exact ⟨connectionString, Eff.run_dropped _ s⟩
  | close | dispose | beginTran | beginTranAsync | commitTran
  | commitTranAsync | rollbackTran | rollbackTranAsync => cases h

theorem Operation.perform_of_begins {operation : Operation}
    (h : operation.begins = true) (out : Outcomes) :
    operation.perform out = DataConnection.beginTran out := by
  simp only [begins, Bool.or_eq_true, beq_iff_eq] at h
  rcases h with rfl | rfl <;> rfl

theorem Operation.perform_of_commits {operation : Operation}
    (h : operation.commits = true) (out : Outcomes) :
    operation.perform out = DataConnection.commitTran out := by
  simp only [commits, Bool.or_eq_true, beq_iff_eq] at h
  rcases h with rfl | rfl <;> rfl

theorem Operation.perform_of_rollsBack {operation : Operation}
    (h : operation.rollsBack = true) (out : Outcomes) :
    operation.perform out = DataConnection.rollbackTran out := by
  simp only [rollsBack, Bool.or_eq_true, beq_iff_eq] at h
  rcases h with rfl | rfl <;> rfl

end DataConnection

/-- One call on the session, however it ends. -/
def Session.step (s : Session)
    (call : DataConnection.Operation × Outcomes) : Option Session :=
  some ((call.1.perform call.2).run s).2

end SkillBuddy
