/-
`SkillBuddy.data.DataBaseManager.DataManager`: one command with its
parameters, run on a connection it was given or makes for itself.

`InitQuery` decides anew at each query whether the connection is local
(`blnLocalConn`), and the query methods close it afterwards only if it is.
`Dispose` closes whatever connection there is, and `ExecuteReader` asks
for `CommandBehavior.CloseConnection`, so that closing the reader closes
the connection, and a command that throws closes it too.
`DataConnection`s are shared by reference: a manager holds a number,
`Heap` the objects.

# Layers

A statement of a method is an effect on a `Scope`, the manager with the
heap it sees; a call on a connection is an effect on a `Wire`, the
connection with the database, lifted to the scope by `onCommand`. The
`Spec` section says once what each operation does, by what `oConn` is:
`initQuery_run` for a connection that is there, `initQuery_local` for one
the manager makes, `initQuery_gone` for a `DataConnection` without one,
and the same three for the queries. What is proved about the methods
elsewhere rests on these lemmas and unfolds no method again.

A `World` has several managers on one heap. Its acts are what a caller
can do to them and to the `DataConnection`s, each with the ends of the
calls it makes; runs of acts are where the claims about sequences live.

The async methods await the async calls in the place of the sync ones.
-/
import SkillBuddy.Data.DataConnection
import Mathlib.Logic.Function.Basic

namespace SkillBuddy

open DotNet Lib

-- ================================================================ the data

/-- `NpgsqlParameter`: its name, and whether a command's collection has
it already. -/
structure NpgsqlParameter where
  parameterName : String
  attached : Bool := false
  deriving DecidableEq, Repr

/-- The fields of a `DataManager`. -/
structure DataManager where
  strCommandText : String := ""
  blnSP : Bool := true
  oParameters : List NpgsqlParameter := []
  blnLocalConn : Bool := true
  oConn : Option Nat := none
  deriving DecidableEq, Repr

/-- The `DataConnection` objects, and the database behind them. -/
structure Heap where
  connection : Nat → DataConnection := fun _ => {}
  allocated : Nat := 0
  database : Database := {}

/-- The heap after a session on one of its connections. -/
def Heap.put (heap : Heap) (r : Nat) (t : Session) : Heap :=
  { heap with
    connection := Function.update heap.connection r t.self
    database := t.database }

/-- The heap after a call on the connection of a `DataConnection`. -/
def Heap.putWire (heap : Heap) (r : Nat) (w : Wire) : Heap :=
  heap.put r
    { self := { heap.connection r with oConn := some w.connection }
      database := w.database }

@[simp] theorem Heap.put_connection (heap : Heap) (r : Nat)
    (t : Session) : (heap.put r t).connection r = t.self := by
  simp only [put, Function.update_self]

@[simp] theorem Heap.put_database (heap : Heap) (r : Nat) (t : Session) :
    (heap.put r t).database = t.database := rfl

@[simp] theorem Heap.putWire_connection (heap : Heap) (r : Nat)
    (w : Wire) : (heap.putWire r w).connection r
      = { heap.connection r with oConn := some w.connection } :=
  heap.put_connection r _

@[simp] theorem Heap.putWire_database (heap : Heap) (r : Nat)
    (w : Wire) : (heap.putWire r w).database = w.database := rfl

/-- Of two calls on one connection the second decides. -/
theorem Heap.putWire_putWire (heap : Heap) (r : Nat) (w w' : Wire) :
    (heap.putWire r w).putWire r w' = heap.putWire r w' := by
  unfold putWire put
  simp only [Function.update_self, Function.update_idem]

/-- So it does if the second is a session. -/
theorem Heap.putWire_put (heap : Heap) (r : Nat) (w : Wire)
    (t : Session) : (heap.putWire r w).put r t = heap.put r t := by
  unfold putWire put
  simp only [Function.update_idem]

/-- A `DataManager` and the objects it refers to. -/
structure Scope where
  self : DataManager
  heap : Heap

/-- `NpgsqlCommand`; its connection is that of a `DataConnection`. -/
structure NpgsqlCommand where
  connection : Nat
  command : Command

/-- `NpgsqlDataReader`, opened with `CommandBehavior.CloseConnection`. -/
structure NpgsqlDataReader where
  connection : Nat

/-- What the server answers to a command: the tables of a `DataSet`, the
rows affected, the scalar. -/
structure Answer where
  tables : List (List (List (Option Obj))) := []
  rowsAffected : Int := -1
  scalar : Option Obj := none

namespace DataManager

/-- `new DataManager(SqlString, IsTextQuery)`. -/
def create (sqlString : String) (isTextQuery : Bool) : DataManager where
  strCommandText := sqlString
  blnSP := !isTextQuery

/-- `new DataManager(StoredProcName)`. -/
def createStoredProc (storedProcName : String) : DataManager :=
  create storedProcName false

/-- The command the fields describe. -/
def command (dm : DataManager) : Command where
  commandText := dm.strCommandText
  storedProcedure := dm.blnSP
  parameters := dm.oParameters.map (·.parameterName)

-- ======================================================== the statements

/-- An assignment to fields. -/
def assign (f : DataManager → DataManager) : Eff Exn Scope Unit :=
  Eff.modify fun s => { s with self := f s.self }

/-- A call on a `DataConnection`. -/
def onConnection {α : Type} (r : Nat) (call : Eff Exn Session α) :
    Eff Exn Scope α :=
  Eff.zoom (fun s => some ⟨s.heap.connection r, s.heap.database⟩)
    (fun t s => { s with heap := s.heap.put r t }) call
    (Eff.throw .nullReference)

/-- A call on the connection a command was given. -/
def onCommand {α : Type} (oCmd : NpgsqlCommand) (call : Eff Exn Wire α) :
    Eff Exn Scope α :=
  onConnection oCmd.connection (DataConnection.onConn call)

-- ============================================================= InitQuery

/-- `this.oConn = new DataConnection(); this.oConn.Open();`. -/
def openLocal (out : Outcomes) : Eff Exn Scope Unit := do
  let s ← Eff.get
  Eff.modify fun s =>
    { self := { s.self with oConn := some s.heap.allocated }
      heap := { s.heap with
        connection := Function.update s.heap.connection s.heap.allocated {}
        allocated := s.heap.allocated + 1 } }
  let _ ← onConnection s.heap.allocated (DataConnection.open_ out)

/-- The parameters after adding each to a command, and whether none
belonged to one already. -/
def attach : List NpgsqlParameter → Bool × List NpgsqlParameter
  | [] => (true, [])
  | p :: ps =>
      if p.attached then (false, p :: ps)
      else
        let rest := attach ps
        (rest.1, { p with attached := true } :: rest.2)

/-- `foreach (var p in this.oParameters) oCmd.Parameters.Add(p);`. -/
def addParameters : Eff Exn Scope Unit := do
  let s ← Eff.get
  assign fun dm => { dm with oParameters := (attach dm.oParameters).2 }
  if (attach s.self.oParameters).1 then pure ()
  else
    Eff.throw (.invalidOperation
      "The parameter already belongs to a collection")

/-- `InitQuery(oCmd)`: the command made ready. -/
def initQuery (out : Outcomes) : Eff Exn Scope NpgsqlCommand := do
  assign fun dm => { dm with blnLocalConn := dm.oConn.isNone }
  let s ← Eff.get
  if s.self.blnLocalConn then openLocal out else pure ()
  let s ← Eff.get
  match s.self.oConn with
  | none => Eff.throw (.invalidOperation "No open connection available.")
  | some r =>
      if (s.heap.connection r).oConn.isNone then
        Eff.throw (.invalidOperation "No open connection available.")
      else
        addParameters
        pure { connection := r, command := s.self.command }

-- =========================================================== the queries

/-- The `finally` of the query methods. -/
def closeLocal (out : Outcomes) : Eff Exn Scope Unit := do
  let s ← Eff.get
  match s.self.oConn with
  | none => pure ()
  | some r =>
      if s.self.blnLocalConn then onConnection r (DataConnection.close out)
      else pure ()

/-- The common text of the query methods: `InitQuery`, then the call, with
the connection closed afterwards if it is local. -/
def runQuery {α : Type} (out : Outcomes)
    (call : Command → Eff Exn Wire Unit) (result : α) :
    Eff Exn Scope α := do
  let oCmd ← initQuery out
  Eff.finallyDo (onCommand oCmd (call oCmd.command)) (closeLocal out)
  pure result

/-- `GetTable()`. -/
def getTable (out : Outcomes) (answer : Answer) :
    Eff Exn Scope (Option (List (List (Option Obj)))) :=
  runQuery out (NpgsqlDataAdapter.fill out) answer.tables.head?

/-- `GetDataSet()`. -/
def getDataSet (out : Outcomes) (answer : Answer) :
    Eff Exn Scope (List (List (List (Option Obj)))) :=
  runQuery out (NpgsqlDataAdapter.fill out) answer.tables

/-- `RunActionQuery()`. -/
def runActionQuery (out : Outcomes) (answer : Answer) :
    Eff Exn Scope Int :=
  runQuery out (Npgsql.execute out) answer.rowsAffected

/-- `GetScalar()`. -/
def getScalar (out : Outcomes) (answer : Answer) :
    Eff Exn Scope (Option Obj) :=
  runQuery out (Npgsql.execute out) answer.scalar

/-- `GetCommand()`. -/
def getCommand (out : Outcomes) : Eff Exn Scope NpgsqlCommand :=
  initQuery out

/-- `ExecuteReader()`: null if anything throws. -/
def executeReader (out : Outcomes) :
    Eff Exn Scope (Option NpgsqlDataReader) :=
  Eff.tryCatch
    (do
      let oCmd ← initQuery out
      onCommand oCmd (Npgsql.executeReader out oCmd.command)
      pure (some { connection := oCmd.connection }))
    fun _ => pure none

/-- `reader.Close()`: `CommandBehavior.CloseConnection` closes the
connection with the reader. -/
def closeReader (out : Outcomes) (reader : NpgsqlDataReader) :
    Eff Exn Scope Unit :=
  onConnection reader.connection
    (DataConnection.onConn (NpgsqlConnection.close out))

/-- `GetTableAsync()`. -/
def getTableAsync (out : Outcomes) (answer : Answer) :
    Eff Exn Scope (Option (List (List (Option Obj)))) :=
  getTable out answer

/-- `GetDataSetAsync()`. -/
def getDataSetAsync (out : Outcomes) (answer : Answer) :
    Eff Exn Scope (List (List (List (Option Obj)))) :=
  getDataSet out answer

/-- `RunActionQueryAsync()`. -/
def runActionQueryAsync (out : Outcomes) (answer : Answer) :
    Eff Exn Scope Int :=
  runActionQuery out answer

/-- `GetScalarAsync()`. -/
def getScalarAsync (out : Outcomes) (answer : Answer) :
    Eff Exn Scope (Option Obj) :=
  getScalar out answer

/-- `ExecuteReaderAsync()`. -/
def executeReaderAsync (out : Outcomes) :
    Eff Exn Scope (Option NpgsqlDataReader) :=
  executeReader out

-- ================================================ parameters and Dispose

/-- `this.oParameters.Add(oPara)`, for a new parameter of this name. -/
def addPara (parameterName : String) (dm : DataManager) : DataManager :=
  { dm with oParameters := dm.oParameters ++ [{ parameterName }] }

/-- `ClearParameters()`. -/
def clearParameters (dm : DataManager) : DataManager :=
  { dm with oParameters := [] }

/-- `Dispose()`. -/
def dispose (out : Outcomes) : Eff Exn Scope Unit := do
  let s ← Eff.get
  Eff.tryCatch
    (match s.self.oConn with
    | none => pure ()
    | some r => onConnection r (DataConnection.close out))
    fun _ => pure ()
  assign clearParameters

-- ============================================== what each operation does

/-- The fields after `InitQuery` with a connection. -/
def inited (dm : DataManager) : DataManager :=
  { dm with blnLocalConn := false, oParameters := (attach dm.oParameters).2 }

/-- Whether the parameters can be added to a command. -/
def fresh (dm : DataManager) : Bool := (attach dm.oParameters).1

/-- They can if none belongs to a command. -/
theorem fresh_iff {dm : DataManager} :
    dm.fresh = true ↔ ∀ p ∈ dm.oParameters, p.attached = false := by
  unfold fresh
  induction dm.oParameters with
  | nil => exact iff_of_true rfl fun p hp => absurd hp List.not_mem_nil
  | cons p ps ih =>
      rw [attach, List.forall_mem_cons, ← ih]
      cases p.attached with
      | true => simp
      | false => simp

/-- A new parameter belongs to none. -/
theorem fresh_addPara {dm : DataManager} (parameterName : String)
    (h : dm.fresh = true) : (dm.addPara parameterName).fresh = true := by
  rw [fresh_iff] at h ⊢
  intro p hp
  rcases List.mem_append.mp hp with hp | hp
  · exact h p hp
  · rw [List.mem_singleton.mp hp]

section Spec

variable {out : Outcomes} {s : Scope} {r : Nat} {n : NpgsqlConnection}

/-- A call on a `DataConnection`. -/
theorem run_onConnection {α : Type} (r : Nat) (call : Eff Exn Session α) :
    (onConnection r call).run s
      = ((call.run ⟨s.heap.connection r, s.heap.database⟩).1,
          ⟨s.self, s.heap.put r
            (call.run ⟨s.heap.connection r, s.heap.database⟩).2⟩) := rfl

/-- A call on the connection a command was given. -/
theorem run_onCommand {α : Type} {command : Command}
    (hn : (s.heap.connection r).oConn = some n) (call : Eff Exn Wire α) :
    (onCommand ⟨r, command⟩ call).run s
      = ((call.run ⟨n, s.heap.database⟩).1,
          ⟨s.self, s.heap.putWire r (call.run ⟨n, s.heap.database⟩).2⟩)
      := by
  rw [onCommand, run_onConnection, DataConnection.run_onConn call hn]
  rfl

/-- `InitQuery` with a connection that is there: only the parameters can
fail. -/
theorem initQuery_run (hr : s.self.oConn = some r)
    (hn : (s.heap.connection r).oConn = some n) :
    (initQuery out).run s
      = (if s.self.fresh then .ok ⟨r, s.self.command⟩
          else .error (.invalidOperation
            "The parameter already belongs to a collection"),
          ⟨s.self.inited, s.heap⟩) := by
  simp only [initQuery, Eff.run_bind, assign, Eff.run_modify, Eff.run_get,
    hr, Option.isNone_some, Bool.false_eq_true, if_false, Eff.run_pure, hn,
    addParameters]
  rw [fresh, inited, hr]
  cases (attach s.self.oParameters).1 with
  | true => simp only [command, if_true, Eff.run_pure]
  | false => rfl

/-- A connection that is not local stays as it is. -/
theorem closeLocal_run (hlocal : s.self.blnLocalConn = false) :
    (closeLocal out).run s = (.ok (), s) := by
  simp only [closeLocal, Eff.run_bind, Eff.run_get, hlocal]
  cases s.self.oConn <;> rfl

/-- A query on a connection that is there is the call on it: the
connection is not local, and not closed. -/
theorem runQuery_run {α : Type} (call : Command → Eff Exn Wire Unit)
    (result : α) (hr : s.self.oConn = some r)
    (hn : (s.heap.connection r).oConn = some n)
    (hfresh : s.self.fresh = true) :
    (runQuery out call result).run s
      = (((call s.self.command).run ⟨n, s.heap.database⟩).1.map
            fun _ => result,
          ⟨s.self.inited, s.heap.putWire r
            ((call s.self.command).run ⟨n, s.heap.database⟩).2⟩) := by
  rw [runQuery, Eff.run_bind, initQuery_run hr hn, hfresh, if_pos rfl]
  dsimp only
  rw [Eff.run_bind, Eff.run_finallyDo (closeLocal_run rfl),
    run_onCommand (s := ⟨s.self.inited, s.heap⟩) hn]
  generalize (call s.self.command).run _ = end_
  obtain ⟨_ | _, w⟩ := end_ <;> rfl

/-- A query whose parameters cannot be added throws. -/
theorem runQuery_of_not_fresh {α : Type}
    (call : Command → Eff Exn Wire Unit) (result : α)
    (hr : s.self.oConn = some r)
    (hn : (s.heap.connection r).oConn = some n)
    (hfresh : s.self.fresh = false) :
    (runQuery out call result).run s
      = (.error (.invalidOperation
            "The parameter already belongs to a collection"),
          ⟨s.self.inited, s.heap⟩) := by
  rw [runQuery, Eff.run_bind, initQuery_run hr hn, hfresh]
  rfl

/-- The heap with a connection opened for one query. -/
def opened (heap : Heap) : Heap :=
  { heap with
    connection := Function.update heap.connection heap.allocated
      { oConn := some { isOpen := true }, blnIsOpen := true }
    allocated := heap.allocated + 1 }

/-- The fields after `InitQuery` with a connection of its own. -/
def initedLocal (dm : DataManager) (r : Nat) : DataManager :=
  { dm with
    blnLocalConn := true
    oConn := some r
    oParameters := (attach dm.oParameters).2 }

theorem opened_connection (heap : Heap) :
    (opened heap).connection heap.allocated
      = { oConn := some { isOpen := true }, blnIsOpen := true } := by
  unfold opened
  dsimp only
  rw [Function.update_self]

/-- A connection of its own that opens. -/
theorem openLocal_run (hcreate : out .create = .returns)
    (hopen : out .open_ = .returns) :
    (openLocal out).run s
      = (.ok (), ⟨{ s.self with oConn := some s.heap.allocated },
          opened s.heap⟩) := by
  simp only [openLocal, Eff.run_bind, Eff.run_get, Eff.run_modify,
    run_onConnection, Function.update_self, DataConnection.open_]
  rw [DataConnection.openWith_unopened _ rfl, hcreate]
  dsimp only
  rw [hopen]
  simp only [Eff.run_pure, Heap.put, Function.update_idem, opened]

/-- `InitQuery` without a connection: only the parameters can fail once
one is open. -/
theorem initQuery_local (hr : s.self.oConn = none)
    (hcreate : out .create = .returns) (hopen : out .open_ = .returns) :
    (initQuery out).run s
      = (if s.self.fresh then .ok ⟨s.heap.allocated, s.self.command⟩
          else .error (.invalidOperation
            "The parameter already belongs to a collection"),
          ⟨s.self.initedLocal s.heap.allocated, opened s.heap⟩) := by
  simp only [initQuery, Eff.run_bind, assign, Eff.run_modify, Eff.run_get,
    hr, Option.isNone_none, if_true, openLocal_run hcreate hopen,
    opened_connection, Option.isNone_some, Bool.false_eq_true, if_false,
    addParameters]
  rw [fresh, initedLocal]
  cases (attach s.self.oParameters).1 with
  | true => simp only [command, if_true, Eff.run_pure]
  | false => rfl

/-- `InitQuery` with a `DataConnection` that has no connection. -/
theorem initQuery_gone (hr : s.self.oConn = some r)
    (hn : (s.heap.connection r).oConn = none) :
    (initQuery out).run s
      = (.error (.invalidOperation "No open connection available."),
          ⟨{ s.self with blnLocalConn := false }, s.heap⟩) := by
  simp only [initQuery, Eff.run_bind, assign, Eff.run_modify, Eff.run_get,
    hr, Option.isNone_some, Bool.false_eq_true, if_false, hn,
    Option.isNone_none, if_true, Eff.run_throw]

/-- A query on such a `DataConnection` throws. -/
theorem runQuery_gone {α : Type} (call : Command → Eff Exn Wire Unit)
    (result : α) (hr : s.self.oConn = some r)
    (hn : (s.heap.connection r).oConn = none) :
    (runQuery out call result).run s
      = (.error (.invalidOperation "No open connection available."),
          ⟨{ s.self with blnLocalConn := false }, s.heap⟩) := by
  rw [runQuery, Eff.run_bind, initQuery_gone hr hn]

/-- A connection that is local is closed. -/
theorem closeLocal_local (hlocal : s.self.blnLocalConn = true)
    (hr : s.self.oConn = some r) :
    (closeLocal out).run s
      = (onConnection r (DataConnection.close out)).run s := by
  simp only [closeLocal, Eff.run_bind, Eff.run_get, hr, hlocal, if_true]

/-- The command on a connection of its own, with `Close` afterwards, whose
throw wins. -/
theorem finallyDo_local (call : Eff Exn Wire Unit) {command : Command}
    {end_ : Except Exn Unit} {after : Wire}
    (hcall : call.run ⟨{ isOpen := true }, s.heap.database⟩
      = (end_, after)) :
    (Eff.finallyDo (onCommand ⟨s.heap.allocated, command⟩ call)
        (closeLocal out)).run
          ⟨s.self.initedLocal s.heap.allocated, opened s.heap⟩
      = (((DataConnection.close out).run
            ⟨{ oConn := some after.connection, blnIsOpen := true },
              after.database⟩).1.bind fun _ => end_,
          ⟨s.self.initedLocal s.heap.allocated,
            (opened s.heap).put s.heap.allocated ((DataConnection.close
              out).run ⟨{ oConn := some after.connection, blnIsOpen := true },
                after.database⟩).2⟩) := by
  have hcommand : (onCommand ⟨s.heap.allocated, command⟩ call).run
          ⟨s.self.initedLocal s.heap.allocated, opened s.heap⟩
      = (end_, ⟨s.self.initedLocal s.heap.allocated,
          (opened s.heap).putWire s.heap.allocated after⟩) := by
    rw [run_onCommand (n := { isOpen := true })
      (congrArg DataConnection.oConn (opened_connection s.heap))]
    dsimp only [opened]
    rw [hcall]
  rw [Eff.finallyDo_run, hcommand, closeLocal_local rfl rfl,
    run_onConnection]
  dsimp only
  rw [Heap.putWire_connection, Heap.putWire_database, opened_connection,
    Heap.putWire_put]
  generalize (DataConnection.close out).run _ = closed
  obtain ⟨_ | _, t⟩ := closed <;> rfl

/-- A query on a connection of its own is the call on it, with `Close`
afterwards, whose throw wins. -/
theorem runQuery_local {α : Type} (call : Command → Eff Exn Wire Unit)
    (result : α) {after : Wire} (hr : s.self.oConn = none)
    (hcreate : out .create = .returns) (hopen : out .open_ = .returns)
    (hfresh : s.self.fresh = true)
    (hcall : (call s.self.command).run ⟨{ isOpen := true },
      s.heap.database⟩ = (.ok (), after)) :
    (runQuery out call result).run s
      = (((DataConnection.close out).run
            ⟨{ oConn := some after.connection, blnIsOpen := true },
              after.database⟩).1.map fun _ => result,
          ⟨s.self.initedLocal s.heap.allocated,
            (opened s.heap).put s.heap.allocated ((DataConnection.close
              out).run ⟨{ oConn := some after.connection, blnIsOpen := true },
                after.database⟩).2⟩) := by
  rw [runQuery, Eff.run_bind, initQuery_local hr hcreate hopen, hfresh,
    if_pos rfl]
  dsimp only
  rw [Eff.run_bind, finallyDo_local _ hcall]
  generalize (DataConnection.close out).run _ = end_
  obtain ⟨_ | _, t⟩ := end_ <;> rfl

/-- `ExecuteReader` on a connection that is there: the command, with a
reader if it returned. -/
theorem executeReader_run (hr : s.self.oConn = some r)
    (hn : (s.heap.connection r).oConn = some n)
    (hfresh : s.self.fresh = true) :
    (executeReader out).run s
      = (match ((Npgsql.executeReader out s.self.command).run
            ⟨n, s.heap.database⟩).1 with
          | .ok _ => .ok (some ⟨r⟩)
          | .error _ => .ok none,
          ⟨s.self.inited, s.heap.putWire r
            ((Npgsql.executeReader out s.self.command).run
              ⟨n, s.heap.database⟩).2⟩) := by
  simp only [executeReader, Eff.run_tryCatch, Eff.run_bind]
  rw [initQuery_run hr hn, hfresh, if_pos rfl]
  dsimp only
  rw [run_onCommand (s := ⟨s.self.inited, s.heap⟩) hn]
  generalize (Npgsql.executeReader out s.self.command).run _ = end_
  obtain ⟨_ | _, w⟩ := end_ <;> rfl

/-- `ExecuteReader` with parameters that cannot be added. -/
theorem executeReader_of_not_fresh (hr : s.self.oConn = some r)
    (hn : (s.heap.connection r).oConn = some n)
    (hfresh : s.self.fresh = false) :
    (executeReader out).run s = (.ok none, ⟨s.self.inited, s.heap⟩) := by
  simp only [executeReader, Eff.run_tryCatch, Eff.run_bind]
  rw [initQuery_run hr hn, hfresh]
  rfl

/-- The reader's connection is closed with it. -/
theorem closeReader_run (after : Wire) :
    (closeReader out ⟨r⟩).run ⟨s.self, s.heap.putWire r after⟩
      = (((NpgsqlConnection.close out).run after).1,
          ⟨s.self, s.heap.putWire r
            ((NpgsqlConnection.close out).run after).2⟩) := by
  have hn : ((s.heap.putWire r after).connection r).oConn
      = some after.connection := by rw [Heap.putWire_connection]
  rw [closeReader, run_onConnection, DataConnection.run_onConn _ hn]
  rw [← Heap.putWire_putWire s.heap r after
    ((NpgsqlConnection.close out).run after).2]
  rfl

/-- `Dispose` closes the connection, whosever it is. -/
theorem dispose_run (hr : s.self.oConn = some r) :
    (dispose out).run s
      = (.ok (), ⟨{ s.self with oParameters := [] },
          s.heap.put r ((DataConnection.close out).run
            ⟨s.heap.connection r, s.heap.database⟩).2⟩) := by
  simp only [dispose, Eff.run_bind, Eff.run_get, hr, Eff.run_tryCatch,
    run_onConnection]
  generalize (DataConnection.close out).run _ = end_
  obtain ⟨_ | _, t⟩ := end_ <;>
    simp only [Eff.run_pure, assign, Eff.run_modify, clearParameters, hr]

end Spec

-- =============================================================== callers

/-- The query methods. -/
inductive Query where
  | getTable | getDataSet | runActionQuery | getScalar
  | getTableAsync | getDataSetAsync | runActionQueryAsync | getScalarAsync
  deriving DecidableEq, Repr

/-- The call a query method makes. -/
def Query.call (out : Outcomes) :
    Query → Command → Eff Exn Wire Unit
  | .getTable | .getDataSet | .getTableAsync | .getDataSetAsync =>
      NpgsqlDataAdapter.fill out
  | .runActionQuery | .getScalar | .runActionQueryAsync
  | .getScalarAsync => Npgsql.execute out

/-- The methods that fill a `DataSet`, and open a connection that is not
open for the time of the command. -/
def Query.fills : Query → Bool
  | .getTable | .getDataSet | .getTableAsync | .getDataSetAsync => true
  | .runActionQuery | .getScalar | .runActionQueryAsync
  | .getScalarAsync => false

/-- What a query method calls, by whether it fills. -/
theorem Query.call_eq (method : Query) (out : Outcomes) :
    method.call out
      = if method.fills then NpgsqlDataAdapter.fill out
        else Npgsql.execute out := by
  cases method <;> rfl

/-- On an open connection every query method executes its command. -/
theorem Query.call_of_open (method : Query) (out : Outcomes)
    (command : Command) {w : Wire} (hopen : w.connection.isOpen = true) :
    (method.call out command).run w
      = (Npgsql.execute out command).run w := by
  rw [Query.call_eq]
  split
  · exact NpgsqlDataAdapter.fill_of_open out command hopen
  · rfl

/-- No query method begins a transaction. -/
theorem Query.keeps_call (method : Query) (out : Outcomes)
    (command : Command) : Eff.Keeps Wire.Idle (method.call out command) := by
  rw [Query.call_eq]
  split
  · exact NpgsqlDataAdapter.keeps_fill out command
  · exact Npgsql.keeps_execute out command

/-- What a query method does; its result is dropped. -/
def Query.perform (out : Outcomes) (answer : Answer) :
    Query → Eff Exn Scope Unit
  | .getTable => do let _ ← DataManager.getTable out answer
  | .getDataSet => do let _ ← DataManager.getDataSet out answer
  | .runActionQuery => do let _ ← DataManager.runActionQuery out answer
  | .getScalar => do let _ ← DataManager.getScalar out answer
  | .getTableAsync => do let _ ← DataManager.getTableAsync out answer
  | .getDataSetAsync => do let _ ← DataManager.getDataSetAsync out answer
  | .runActionQueryAsync => do
      let _ ← DataManager.runActionQueryAsync out answer
  | .getScalarAsync => do let _ ← DataManager.getScalarAsync out answer

/-- `ExecuteReader`, the reader read and closed: whether there was one. -/
def readAll (out : Outcomes) (isAsync : Bool) : Eff Exn Scope Bool := do
  let reader ←
    if isAsync then executeReaderAsync out else executeReader out
  match reader with
  | none => pure false
  | some reader =>
      closeReader out reader
      pure true

/-- The two ways to ask for a reader are one. -/
theorem readAll_eq (out : Outcomes) (isAsync : Bool) :
    readAll out isAsync
      = (do
          let reader ← executeReader out
          match reader with
          | none => pure false
          | some reader =>
              closeReader out reader
              pure true) := by
  cases isAsync <;> rfl

/-- Without a reader there is nothing to read. -/
theorem readAll_of_null {out : Outcomes} {s t : Scope} (isAsync : Bool)
    (h : (executeReader out).run s = (.ok none, t)) :
    (readAll out isAsync).run s = (.ok false, t) := by
  rw [readAll_eq, Eff.run_bind, h]
  rfl

/-- A reader is closed in the end. -/
theorem readAll_of_reader {out : Outcomes} {s t : Scope}
    {reader : NpgsqlDataReader} (isAsync : Bool)
    (h : (executeReader out).run s = (.ok (some reader), t)) :
    (readAll out isAsync).run s
      = (((closeReader out reader).run t).1.map fun _ => true,
          ((closeReader out reader).run t).2) := by
  rw [readAll_eq, Eff.run_bind, h]
  dsimp only
  rw [Eff.run_bind]
  generalize (closeReader out reader).run t = end_
  obtain ⟨_ | _, u⟩ := end_ <;> rfl

/-- What is done with the result of a query method changes nothing else. -/
theorem runQuery_map {α β : Type} (out : Outcomes)
    (call : Command → Eff Exn Wire Unit) (result : α) (f : α → β)
    (s : Scope) :
    (do let a ← runQuery out call result; pure (f a)
        : Eff Exn Scope β).run s = (runQuery out call (f result)).run s := by
  simp only [runQuery, Eff.run_bind]
  generalize (initQuery out).run s = end_
  obtain ⟨_ | oCmd, t⟩ := end_
  · rfl
  · dsimp only
    generalize (Eff.finallyDo _ _).run t = end_
    obtain ⟨_ | _, u⟩ := end_ <;> rfl

/-- A query method is its call inside the common text. -/
theorem Query.perform_run (method : Query) (out : Outcomes)
    (answer : Answer) (s : Scope) :
    (method.perform out answer).run s
      = (runQuery out (method.call out) ()).run s := by
  cases method with
  | getTable | getTableAsync =>
      exact runQuery_map out _ answer.tables.head? (fun _ => ()) s
  | getDataSet | getDataSetAsync =>
      exact runQuery_map out _ answer.tables (fun _ => ()) s
  | runActionQuery | runActionQueryAsync =>
      exact runQuery_map out _ answer.rowsAffected (fun _ => ()) s
  | getScalar | getScalarAsync =>
      exact runQuery_map out _ answer.scalar (fun _ => ()) s

end DataManager

/-- The managers and `DataConnection`s a caller has. -/
structure World where
  manager : Nat → DataManager
  heap : Heap := {}

/-- The calls a caller makes. -/
inductive Act where
  | query (m : Nat) (method : DataManager.Query) (answer : Answer)
      (out : Outcomes)
  | read (m : Nat) (isAsync : Bool) (out : Outcomes)
  | dispose (m : Nat) (out : Outcomes)
  | call (r : Nat) (operation : DataConnection.Operation) (out : Outcomes)

namespace World

/-- A call on a manager. -/
def onManager {α : Type} (m : Nat) (call : Eff Exn Scope α) :
    Eff Exn World α :=
  Eff.zoom (fun w => some ⟨w.manager m, w.heap⟩)
    (fun s w =>
      { manager := Function.update w.manager m s.self, heap := s.heap })
    call (Eff.throw .nullReference)

/-- A call on a `DataConnection`. -/
def onConnection {α : Type} (r : Nat) (call : Eff Exn Session α) :
    Eff Exn World α :=
  Eff.zoom (fun w => some ⟨w.heap.connection r, w.heap.database⟩)
    (fun t w => { w with heap := w.heap.put r t }) call
    (Eff.throw .nullReference)

/-- What an act does, and whether it did what it is for: an
`ExecuteReader` that returns null has not run its command. -/
def perform : Act → Eff Exn World Bool
  | .query m method answer out => do
      onManager m (method.perform out answer)
      pure true
  | .read m isAsync out => onManager m (DataManager.readAll out isAsync)
  | .dispose m out => do
      onManager m (DataManager.dispose out)
      pure true
  | .call r operation out => do
      onConnection r (operation.perform out)
      pure true

section Spec

variable {w : World} {m r : Nat} {n : NpgsqlConnection} {out : Outcomes}

/-- A manager's own step keeps its connection. -/
theorem held_update {manager : Nat → DataManager} {r m : Nat}
    {dm : DataManager} (held : ∀ k, (manager k).oConn = some r)
    (h : dm.oConn = some r) (k : Nat) :
    (Function.update manager m dm k).oConn = some r := by
  by_cases hk : k = m
  · rw [hk, Function.update_self]
    exact h
  · rw [Function.update_of_ne hk]
    exact held k

/-- The world after a call of a manager's on the connection. -/
def queried (w : World) (m r : Nat) (after : Wire) : World where
  manager := Function.update w.manager m (w.manager m).inited
  heap := w.heap.putWire r after

/-- The world after a call of a manager's that did not get that far. -/
def refused (w : World) (m : Nat) : World where
  manager := Function.update w.manager m (w.manager m).inited
  heap := w.heap

theorem run_onManager {α : Type} (m : Nat) (call : Eff Exn Scope α) :
    (onManager m call).run w
      = ((call.run ⟨w.manager m, w.heap⟩).1,
          { manager := Function.update w.manager m
              (call.run ⟨w.manager m, w.heap⟩).2.self
            heap := (call.run ⟨w.manager m, w.heap⟩).2.heap }) := rfl

theorem run_onConnection {α : Type} (r : Nat) (call : Eff Exn Session α) :
    (onConnection r call).run w
      = ((call.run ⟨w.heap.connection r, w.heap.database⟩).1,
          ⟨w.manager, w.heap.put r
            (call.run ⟨w.heap.connection r, w.heap.database⟩).2⟩) := rfl

/-- A call on a `DataConnection`. -/
theorem perform_call (r : Nat) (operation : DataConnection.Operation) :
    (perform (.call r operation out)).run w
      = (((operation.perform out).run
            ⟨w.heap.connection r, w.heap.database⟩).1.map fun _ => true,
          ⟨w.manager, w.heap.put r ((operation.perform out).run
            ⟨w.heap.connection r, w.heap.database⟩).2⟩) := by
  rw [perform, Eff.run_bind, run_onConnection]
  generalize (operation.perform out).run _ = end_
  obtain ⟨_ | _, t⟩ := end_ <;> rfl

/-- A query on a connection that is there. -/
theorem perform_query (method : DataManager.Query) (answer : Answer)
    (hm : (w.manager m).oConn = some r)
    (hn : (w.heap.connection r).oConn = some n)
    (hfresh : (w.manager m).fresh = true) :
    (perform (.query m method answer out)).run w
      = (((method.call out (w.manager m).command).run
            ⟨n, w.heap.database⟩).1.map fun _ => true,
          w.queried m r ((method.call out (w.manager m).command).run
            ⟨n, w.heap.database⟩).2) := by
  rw [perform, Eff.run_bind, run_onManager,
    DataManager.Query.perform_run,
    DataManager.runQuery_run (s := ⟨w.manager m, w.heap⟩) _ _ hm hn hfresh]
  dsimp only
  generalize (method.call out (w.manager m).command).run _ = end_
  obtain ⟨_ | _, t⟩ := end_ <;> rfl

/-- A query whose parameters cannot be added. -/
theorem perform_query_of_not_fresh (method : DataManager.Query)
    (answer : Answer) (hm : (w.manager m).oConn = some r)
    (hn : (w.heap.connection r).oConn = some n)
    (hfresh : (w.manager m).fresh = false) :
    ∃ e, (perform (.query m method answer out)).run w
      = (.error e, w.refused m) := by
  rw [perform, Eff.run_bind, run_onManager,
    DataManager.Query.perform_run,
    DataManager.runQuery_of_not_fresh (s := ⟨w.manager m, w.heap⟩) _ _ hm hn
      hfresh]
  exact ⟨_, rfl⟩

/-- An `ExecuteReader` whose parameters cannot be added. -/
theorem perform_read_of_not_fresh (isAsync : Bool)
    (hm : (w.manager m).oConn = some r)
    (hn : (w.heap.connection r).oConn = some n)
    (hfresh : (w.manager m).fresh = false) :
    (perform (.read m isAsync out)).run w = (.ok false, w.refused m) := by
  rw [perform, run_onManager, DataManager.readAll_of_null isAsync
    (DataManager.executeReader_of_not_fresh (s := ⟨w.manager m, w.heap⟩) hm
      hn hfresh)]
  rfl

/-- An `ExecuteReader` whose command throws. -/
theorem perform_read_of_error {e : Exn} {after : Wire} (isAsync : Bool)
    (hm : (w.manager m).oConn = some r)
    (hn : (w.heap.connection r).oConn = some n)
    (hfresh : (w.manager m).fresh = true)
    (hcall : (Npgsql.executeReader out (w.manager m).command).run
      ⟨n, w.heap.database⟩ = (.error e, after)) :
    (perform (.read m isAsync out)).run w
      = (.ok false, w.queried m r after) := by
  have hread : (DataManager.executeReader out).run ⟨w.manager m, w.heap⟩
      = _ := DataManager.executeReader_run hm hn hfresh
  rw [hcall] at hread
  rw [perform, run_onManager, DataManager.readAll_of_null isAsync hread]
  rfl

/-- An `ExecuteReader` whose command returns: the connection is closed
with the reader. -/
theorem perform_read_of_ok {after : Wire} (isAsync : Bool)
    (hm : (w.manager m).oConn = some r)
    (hn : (w.heap.connection r).oConn = some n)
    (hfresh : (w.manager m).fresh = true)
    (hcall : (Npgsql.executeReader out (w.manager m).command).run
      ⟨n, w.heap.database⟩ = (.ok (), after)) :
    (perform (.read m isAsync out)).run w
      = (((NpgsqlConnection.close out).run after).1.map fun _ => true,
          w.queried m r ((NpgsqlConnection.close out).run after).2) := by
  have hread : (DataManager.executeReader out).run ⟨w.manager m, w.heap⟩
      = _ := DataManager.executeReader_run hm hn hfresh
  rw [hcall] at hread
  rw [perform, run_onManager, DataManager.readAll_of_reader isAsync hread,
    DataManager.closeReader_run (s := ⟨(w.manager m).inited, w.heap⟩)]
  rfl

/-- `Dispose` returns, whatever `Close` did. -/
theorem perform_dispose (hm : (w.manager m).oConn = some r) :
    (perform (.dispose m out)).run w
      = (.ok true,
          { manager := Function.update w.manager m
              { w.manager m with oParameters := [] }
            heap := w.heap.put r ((DataConnection.close out).run
              ⟨w.heap.connection r, w.heap.database⟩).2 }) := by
  rw [perform, Eff.run_bind, run_onManager,
    DataManager.dispose_run (s := ⟨w.manager m, w.heap⟩) hm]
  rfl

end Spec

/-- One act, however it ends. -/
def step (w : World) (a : Act) : Option World := some ((perform a).run w).2

/-- The command an act runs. -/
def commandOf (w : World) : Act → List Command
  | .query m .. | .read m .. => [(w.manager m).command]
  | .dispose .. | .call .. => []

/-- One act that returns normally, with the commands run so far. -/
def normalStep (s : World × List Command) (a : Act) :
    Option (World × List Command) :=
  match (perform a).run s.1 with
  | (.ok true, w) => some (w, s.2 ++ s.1.commandOf a)
  | _ => none

/-- What it is to return normally. -/
theorem normalStep_eq_some {w t : World} {writes ws : List Command}
    {a : Act} (h : normalStep (w, writes) a = some (t, ws)) :
    (perform a).run w = (.ok true, t) ∧ ws = writes ++ w.commandOf a := by
  unfold normalStep at h
  split at h
  case h_1 w' hw' =>
    simp only [Option.some.injEq, Prod.mk.injEq] at h
    obtain ⟨rfl, rfl⟩ := h
    exact ⟨hw', rfl⟩
  case h_2 => cases h

/-- A call on a `DataConnection` that returned. -/
theorem normalStep_call_eq_some {w t : World} {writes ws : List Command}
    {r : Nat} {operation : DataConnection.Operation} {out : Outcomes}
    (h : normalStep (w, writes) (.call r operation out) = some (t, ws)) :
    ∃ s, (operation.perform out).run
        ⟨w.heap.connection r, w.heap.database⟩ = (.ok (), s)
      ∧ t = ⟨w.manager, w.heap.put r s⟩ ∧ ws = writes := by
  obtain ⟨hrun, rfl⟩ := normalStep_eq_some h
  rw [perform_call] at hrun
  obtain ⟨hok, rfl⟩ := Prod.mk.inj hrun
  match hr : (operation.perform out).run
      ⟨w.heap.connection r, w.heap.database⟩ with
  | (.ok _, s) => exact ⟨s, rfl, rfl, List.append_nil writes⟩
  | (.error e, s) =>
      rw [hr] at hok
      cases hok

end World

end SkillBuddy
