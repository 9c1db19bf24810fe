/-
`NpgsqlConnection`, `NpgsqlTransaction`, `NpgsqlCommand`'s calls and the
database behind them, as far as the data layer relies on them.

# Transactions

A transaction belongs to the connection it was begun on, and a connection
has at most one that is neither committed nor rolled back (`pending`). A
command on the connection runs in it; without one the command commits by
itself. Closing the connection, or disposing the transaction, discards
what is pending. The database keeps the commands whose effects are there
for good.

# Failures

Every call returns or throws, and a call that throws may have done
damage: none, the transaction completed without its effects (a commit the
server refused), or the connection broken with all that was pending on
it. Which of these happens is an input (`Outcomes`). Misuse, a commit of a
completed transaction say, always throws and changes nothing.

# Readers

`ExecuteReader` with `CommandBehavior.CloseConnection` ties the connection
to the reader: it is closed when the reader is, and where the command
throws there is no reader and Npgsql closes the connection itself, before
the throw goes on (`executeReader`). A command that meets a connection
that is not open throws before either.
-/
import SkillBuddy.Lib.Effect
import SkillBuddy.DotNet.Value

namespace SkillBuddy

open DotNet Lib

-- ============================================================== the state

/-- A command as it is sent: `CommandText`, whether `CommandType` is
`StoredProcedure`, and the names of `Parameters`. -/
structure Command where
  commandText : String
  storedProcedure : Bool
  parameters : List String
  deriving DecidableEq, Repr

/-- A transaction that is still pending, with the commands run in it. -/
structure Transaction where
  id : Nat
  commands : List Command := []
  deriving DecidableEq, Repr

/-- `NpgsqlConnection`; `isOpen` is `State == ConnectionState.Open`. -/
structure NpgsqlConnection where
  connectionString : String := ""
  isOpen : Bool := false
  pending : Option Transaction := none
  deriving DecidableEq, Repr

namespace NpgsqlConnection

/-- Opened. -/
def opened (c : NpgsqlConnection) : NpgsqlConnection :=
  { c with isOpen := true }

/-- Without what was pending. -/
def discarded (c : NpgsqlConnection) : NpgsqlConnection :=
  { c with pending := none }

/-- Closed, and without what was pending. -/
def closed (c : NpgsqlConnection) : NpgsqlConnection :=
  { c with isOpen := false, pending := none }

/-- Whether the transaction is the one pending. -/
def isPending (c : NpgsqlConnection) (transaction : Nat) : Bool :=
  c.pending.any fun p => p.id == transaction

theorem isPending_of_pending {c : NpgsqlConnection} {t : Transaction}
    (h : c.pending = some t) : c.isPending t.id = true := by
  rw [isPending, h, Option.any_some, beq_self_eq_true]

theorem isPending_of_idle {c : NpgsqlConnection} (h : c.pending = none)
    (transaction : Nat) : c.isPending transaction = false := by
  rw [isPending, h, Option.any_none]

end NpgsqlConnection

/-- The database: what was committed, in order, and how many transactions
have been begun. -/
structure Database where
  log : List Command := []
  begun : Nat := 0
  deriving DecidableEq, Repr

/-- What a call on a connection works on. -/
structure Wire where
  connection : NpgsqlConnection
  database : Database
  deriving DecidableEq, Repr

namespace Wire

/-- A change of the connection alone. -/
def onConnection (f : NpgsqlConnection → NpgsqlConnection) (w : Wire) :
    Wire :=
  { w with connection := f w.connection }

/-- A transaction is begun. -/
def begun (w : Wire) : Wire where
  connection := { w.connection with pending := some { id := w.database.begun } }
  database := { w.database with begun := w.database.begun + 1 }

/-- The pending commands are there for good. -/
def committed (w : Wire) : Wire :=
  match w.connection.pending with
  | some transaction =>
      { connection := w.connection.discarded
        database := { w.database with
          log := w.database.log ++ transaction.commands } }
  | none => w

/-- A command has run: in the pending transaction, else by itself. -/
def executed (command : Command) (w : Wire) : Wire :=
  match w.connection.pending with
  | some transaction =>
      { w with connection := { w.connection with
          pending := some { transaction with
            commands := transaction.commands ++ [command] } } }
  | none =>
      { w with database := { w.database with
          log := w.database.log ++ [command] } }

end Wire

-- ========================================================= calls that fail

/-- The calls that may fail: the constructor of a connection, and what
reaches the server or the connector. -/
inductive NpgsqlCall where
  | create | open_ | beginTransaction | commit | rollback
  | disposeTransaction
  | execute | close | disposeConnection
  deriving DecidableEq, Repr

/-- What a call that throws leaves behind. -/
inductive Damage where
  | nothing | transaction | connection
  deriving DecidableEq, Repr

/-- How a call ends. -/
inductive Outcome where
  | returns
  | throws (damage : Damage)
  deriving DecidableEq, Repr

/-- How each call an operation makes ends. -/
def Outcomes : Type := NpgsqlCall → Outcome

/-- `Close` shuts an open connection: it returns, or its throw takes the
connection with it. -/
def Outcomes.CloseShuts (out : Outcomes) : Prop :=
  out .close = .returns ∨ out .close = .throws .connection

/-- Every call returns. -/
def Outcomes.allReturn : Outcomes := fun _ => .returns

/-- Every call returns but one. -/
def Outcomes.failing (call : NpgsqlCall) (damage : Damage) : Outcomes :=
  fun c => if c = call then .throws damage else .returns

/-- The damage is done. -/
def Damage.done : Damage → NpgsqlConnection → NpgsqlConnection
  | .nothing, c => c
  | .transaction, c => c.discarded
  | .connection, c => c.closed

/-- A call: its effect, or its damage and the throw. -/
def npgsqlCall (outcome : Outcome) (effect : Wire → Wire) :
    Eff Exn Wire Unit :=
  match outcome with
  | .returns => Eff.modify effect
  | .throws damage => do
      Eff.modify (Wire.onConnection damage.done)
      Eff.throw .npgsql

/-- A call that returns. -/
theorem npgsqlCall_returns {outcome : Outcome} {effect : Wire → Wire}
    (h : outcome = .returns) (w : Wire) :
    (npgsqlCall outcome effect).run w = (.ok (), effect w) := by
  rw [h]
  rfl

/-- A call that throws. -/
theorem npgsqlCall_throws {outcome : Outcome} {effect : Wire → Wire}
    {damage : Damage} (h : outcome = .throws damage) (w : Wire) :
    (npgsqlCall outcome effect).run w
      = (.error .npgsql, w.onConnection damage.done) := by
  rw [h]
  rfl

-- ============================================================== the calls

/-- `new NpgsqlConnection(connectionString)`, which parses the string. -/
def NpgsqlConnection.create {σ : Type} (out : Outcomes)
    (connectionString : String) : Eff Exn σ NpgsqlConnection :=
  match out .create with
  | .returns => pure { connectionString }
  | .throws _ => Eff.throw .argument

/-- `connection.Open()`. -/
def NpgsqlConnection.open_ (out : Outcomes) : Eff Exn Wire Unit :=
  npgsqlCall (out .open_) (Wire.onConnection NpgsqlConnection.opened)

/-- `connection.Close()`. -/
def NpgsqlConnection.close (out : Outcomes) : Eff Exn Wire Unit :=
  npgsqlCall (out .close) (Wire.onConnection NpgsqlConnection.closed)

/-- `connection.Dispose()`. -/
def NpgsqlConnection.dispose (out : Outcomes) : Eff Exn Wire Unit :=
  npgsqlCall (out .disposeConnection)
    (Wire.onConnection NpgsqlConnection.closed)

/-- `connection.BeginTransaction()`: the new transaction. -/
def NpgsqlConnection.beginTransaction (out : Outcomes) :
    Eff Exn Wire Nat := do
  let w ← Eff.get
  if w.connection.pending.isSome then
    Eff.throw (.invalidOperation "A transaction is already in progress")
  else
    npgsqlCall (out .beginTransaction) Wire.begun
    pure w.database.begun

/-- A call on a transaction, which must not be completed. -/
def NpgsqlTransaction.call (transaction : Nat) (outcome : Outcome)
    (effect : Wire → Wire) : Eff Exn Wire Unit := do
  let w ← Eff.get
  if w.connection.isPending transaction then npgsqlCall outcome effect
  else Eff.throw (.invalidOperation "This NpgsqlTransaction has completed")

/-- `transaction.Commit()`. -/
def NpgsqlTransaction.commit (out : Outcomes) (transaction : Nat) :
    Eff Exn Wire Unit :=
  call transaction (out .commit) Wire.committed

/-- `transaction.Rollback()`. -/
def NpgsqlTransaction.rollback (out : Outcomes) (transaction : Nat) :
    Eff Exn Wire Unit :=
  call transaction (out .rollback)
    (Wire.onConnection NpgsqlConnection.discarded)

/-- `transaction.Dispose()`: a completed transaction is left alone. -/
def NpgsqlTransaction.dispose (out : Outcomes) (transaction : Nat) :
    Eff Exn Wire Unit :=
  npgsqlCall (out .disposeTransaction) (Wire.onConnection fun c =>
    if c.isPending transaction then c.discarded else c)

/-- `command.Execute…()`. -/
def Npgsql.execute (out : Outcomes) (command : Command) :
    Eff Exn Wire Unit := do
  let w ← Eff.get
  if w.connection.isOpen then
    npgsqlCall (out .execute) (Wire.executed command)
  else Eff.throw (.invalidOperation "Connection is not open")

/-- `command.ExecuteReader(CommandBehavior.CloseConnection)`, up to the
reader. Where the command throws, Npgsql closes the connection and throws
on. -/
def Npgsql.executeReader (out : Outcomes) (command : Command) :
    Eff Exn Wire Unit := do
  let w ← Eff.get
  if w.connection.isOpen then
    Eff.tryCatch (npgsqlCall (out .execute) (Wire.executed command))
      fun e => do
        NpgsqlConnection.close out
        Eff.throw e
  else Eff.throw (.invalidOperation "Connection is not open")

/-- `adapter.Fill(dataSet)`: a connection that is not open is open for the
time of the command. -/
def NpgsqlDataAdapter.fill (out : Outcomes) (command : Command) :
    Eff Exn Wire Unit := do
  let w ← Eff.get
  if w.connection.isOpen then Npgsql.execute out command
  else
    NpgsqlConnection.open_ out
    Eff.finallyDo (Npgsql.execute out command)
      (NpgsqlConnection.close out)

-- ================================================ nothing stays nothing

/-- Nothing is pending on the connection. -/
def Wire.Idle (w : Wire) : Prop := w.connection.pending = none

theorem keeps_npgsqlCall {effect : Wire → Wire} (outcome : Outcome)
    (heffect : ∀ w : Wire, w.Idle → (effect w).Idle) :
    Eff.Keeps Wire.Idle (npgsqlCall outcome effect) := by
  intro w hw
  cases outcome with
  | returns => exact heffect w hw
  | throws damage =>
      cases damage with
      | nothing => exact hw
      | transaction | connection => rfl

/-- A command begins no transaction. -/
theorem Npgsql.keeps_execute (out : Outcomes) (command : Command) :
    Eff.Keeps Wire.Idle (Npgsql.execute out command) := by
  refine Eff.keeps_bind Eff.keeps_get fun w =>
    Eff.keeps_ite (keeps_npgsqlCall _ ?_) (Eff.keeps_throw _)
  intro w hw
  unfold Wire.executed
  rw [hw]
  exact hw

/-- Nor does a `Fill`. -/
theorem NpgsqlDataAdapter.keeps_fill (out : Outcomes) (command : Command) :
    Eff.Keeps Wire.Idle (NpgsqlDataAdapter.fill out command) := by
  have hexecute := Npgsql.keeps_execute out command
  refine Eff.keeps_bind Eff.keeps_get fun w => Eff.keeps_ite hexecute ?_
  refine Eff.keeps_bind (keeps_npgsqlCall _ fun _ hw => hw) fun _ => ?_
  exact Eff.keeps_finallyDo hexecute (keeps_npgsqlCall _ fun _ _ => rfl)

-- ================================================= commands, call by call

/-- The connection a command that ran leaves is open as before. -/
theorem Wire.isOpen_executed (command : Command) (w : Wire) :
    (w.executed command).connection.isOpen = w.connection.isOpen := by
  unfold Wire.executed
  split <;> rfl

/-- A command on an open connection is one call. -/
theorem Npgsql.execute_of_open (out : Outcomes) (command : Command)
    {w : Wire} (hopen : w.connection.isOpen = true) :
    (Npgsql.execute out command).run w
      = (npgsqlCall (out .execute) (Wire.executed command)).run w := by
  simp only [Npgsql.execute, Eff.run_bind, Eff.run_get, hopen, if_true]

/-- A command on a connection that is not open throws and does nothing. -/
theorem Npgsql.execute_of_closed (out : Outcomes) (command : Command)
    {w : Wire} (hclosed : w.connection.isOpen = false) :
    (Npgsql.execute out command).run w
      = (.error (.invalidOperation "Connection is not open"), w) := by
  simp only [Npgsql.execute, Eff.run_bind, Eff.run_get, hclosed,
    Bool.false_eq_true, if_false, Eff.run_throw]

/-- So does one that would hand out a reader. -/
theorem Npgsql.executeReader_of_closed (out : Outcomes)
    (command : Command) {w : Wire}
    (hclosed : w.connection.isOpen = false) :
    (Npgsql.executeReader out command).run w
      = (.error (.invalidOperation "Connection is not open"), w) := by
  simp only [Npgsql.executeReader, Eff.run_bind, Eff.run_get, hclosed,
    Bool.false_eq_true, if_false, Eff.run_throw]

/-- A command that returns leaves its connection to the reader. -/
theorem Npgsql.executeReader_returns {out : Outcomes} (command : Command)
    {w : Wire} (hopen : w.connection.isOpen = true)
    (hout : out .execute = .returns) :
    (Npgsql.executeReader out command).run w
      = (.ok (), w.executed command) := by
  simp only [Npgsql.executeReader, Eff.run_bind, Eff.run_get, hopen,
    if_true, Eff.run_tryCatch, npgsqlCall_returns hout]

/-- After the connection's own `Close` it is not open, unless it was and
`Close` did not shut it. -/
theorem NpgsqlConnection.isOpen_close_iff {out : Outcomes} {w : Wire} :
    ((NpgsqlConnection.close out).run w).2.connection.isOpen = false
      ↔ w.connection.isOpen = false ∨ out.CloseShuts := by
  unfold NpgsqlConnection.close Outcomes.CloseShuts
  cases hout : out .close with
  | returns =>
      rw [npgsqlCall_returns rfl]
      exact iff_of_true rfl (Or.inr (Or.inl rfl))
  | throws damage =>
      rw [npgsqlCall_throws rfl]
      cases damage with
      | nothing | transaction => simp [Wire.onConnection, Damage.done,
          NpgsqlConnection.discarded]
      | connection => exact iff_of_true rfl (Or.inr (Or.inr rfl))

/-- A command leaves an open connection open unless its throw takes the
connection. -/
theorem Npgsql.isOpen_execute_iff {out : Outcomes} {command : Command}
    {w : Wire} (hopen : w.connection.isOpen = true) :
    ((Npgsql.execute out command).run w).2.connection.isOpen = false
      ↔ out .execute = .throws .connection := by
  rw [Npgsql.execute_of_open out command hopen]
  cases hout : out .execute with
  | returns =>
      rw [npgsqlCall_returns rfl]
      refine iff_of_false ?_ Outcome.noConfusion
      rw [Wire.isOpen_executed, hopen]
      exact Bool.noConfusion
  | throws damage =>
      rw [npgsqlCall_throws rfl]
      cases damage with
      | nothing | transaction =>
          refine iff_of_false ?_ (by simp)
          show ¬ w.connection.isOpen = false
          rw [hopen]
          exact Bool.noConfusion
      | connection => exact iff_of_true rfl rfl

/-- A command that throws: whatever it has done to the connection, `Close`
is called on it, and something is thrown on. -/
theorem Npgsql.executeReader_throws {out : Outcomes} (command : Command)
    {w : Wire} {damage : Damage} (hopen : w.connection.isOpen = true)
    (hout : out .execute = .throws damage) :
    ∃ e, (Npgsql.executeReader out command).run w
      = (.error e, ((NpgsqlConnection.close out).run
          (w.onConnection damage.done)).2) := by
  simp only [Npgsql.executeReader, Eff.run_bind, Eff.run_get, hopen,
    if_true, Eff.run_tryCatch, npgsqlCall_throws hout]
  obtain ⟨_ | _, t⟩ := (NpgsqlConnection.close out).run
    (w.onConnection damage.done)
  · exact ⟨_, rfl⟩
  · exact ⟨_, rfl⟩

/-- A command that would hand out a reader and throws leaves an open
connection closed if the throw takes it or `Close` shuts it. -/
theorem Npgsql.isOpen_executeReader_iff {out : Outcomes}
    (command : Command) {w : Wire} {damage : Damage}
    (hopen : w.connection.isOpen = true)
    (hout : out .execute = .throws damage) :
    ((Npgsql.executeReader out command).run w).2.connection.isOpen = false
      ↔ damage = .connection ∨ out.CloseShuts := by
  obtain ⟨e, he⟩ := Npgsql.executeReader_throws command hopen hout
  rw [he, NpgsqlConnection.isOpen_close_iff]
  refine or_congr_left ?_
  cases damage with
  | nothing | transaction =>
      refine iff_of_false ?_ (by simp)
      show ¬ w.connection.isOpen = false
      rw [hopen]
      exact Bool.noConfusion
  | connection => exact iff_of_true rfl rfl

/-- `Fill` finds the connection open and leaves it open. -/
theorem NpgsqlDataAdapter.fill_of_open (out : Outcomes) (command : Command)
    {w : Wire} (hopen : w.connection.isOpen = true) :
    (NpgsqlDataAdapter.fill out command).run w
      = (Npgsql.execute out command).run w := by
  simp only [NpgsqlDataAdapter.fill, Eff.run_bind, Eff.run_get, hopen,
    if_true]

end SkillBuddy
