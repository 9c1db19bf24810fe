/-
A `DataManager` that was given no connection, used for several queries.

# What a call leaves behind

`InitQuery` takes `oConn == null` for "make a connection of my own", and
the `finally` of the query closes that connection without forgetting the
`DataConnection`. So the second query finds an `oConn` that is not null
and has no connection inside (`Leftover.gone`), and throws. Only a
`Close` that itself throws leaves something behind that a later query can
run on: the connection, still open or not (`Leftover.opened`,
`Leftover.closed`). And then it can only if no parameter has been added
before, since the parameters of a first query belong to its command.

# What it is good for

A later call ends as on a fresh manager exactly in these cases:

- on an open connection it returns, so it ends alike if the `Close` of a
  fresh manager would have returned;
- on a closed connection only the methods that `Fill` open it themselves,
  and end as their own `Close` does.

What such a call leaves is a leftover again, so `Serves` follows what is
left from call to call. `along_serves` is the induction over the calls,
with one lemma for each leftover.

# The theorem

`reused_manager_answers_iff` is the exact condition, with openings and
commands that succeed and closings that end as they like. If they return,
as they should, no manager survives a second call
(`reusable_iff_of_closes`).
-/
import SkillBuddy.Lib.Run
import SkillBuddy.Data.DataManager

namespace SkillBuddy

open DotNet Lib

namespace DataManager

-- =========================================================== the property

/-- What the query methods return. -/
inductive Result where
  | table (dt : Option (List (List (Option Obj))))
  | dataSet (ds : List (List (List (Option Obj))))
  | rowsAffected (n : Int)
  | scalar (value : Option Obj)

/-- A query method with its result. -/
def Query.evaluate (out : Outcomes) (answer : Answer) :
    Query → Eff Exn Scope Result
  | .getTable => do
      let dt ← DataManager.getTable out answer
      pure (.table dt)
  | .getDataSet => do
      let ds ← DataManager.getDataSet out answer
      pure (.dataSet ds)
  | .runActionQuery => do
      let n ← DataManager.runActionQuery out answer
      pure (.rowsAffected n)
  | .getScalar => do
      let value ← DataManager.getScalar out answer
      pure (.scalar value)
  | .getTableAsync => do
      let dt ← DataManager.getTableAsync out answer
      pure (.table dt)
  | .getDataSetAsync => do
      let ds ← DataManager.getDataSetAsync out answer
      pure (.dataSet ds)
  | .runActionQueryAsync => do
      let n ← DataManager.runActionQueryAsync out answer
      pure (.rowsAffected n)
  | .getScalarAsync => do
      let value ← DataManager.getScalarAsync out answer
      pure (.scalar value)

/-- `new DataManager(SqlString, IsTextQuery)` and an `Add…Para` for each
parameter. -/
def constructed (sqlString : String) (isTextQuery : Bool)
    (parameters : List String) : DataManager :=
  { create sqlString isTextQuery with
    oParameters := parameters.map fun p => { parameterName := p } }

/-- A call of a query method, with what the server answers and how the
calls on the connection end. -/
structure Call where
  method : Query
  answer : Answer
  out : Outcomes

namespace Call

/-- The call. -/
def evaluate (c : Call) : Eff Exn Scope Result :=
  c.method.evaluate c.out c.answer

/-- One call, however it ends. -/
def step (s : Scope) (c : Call) : Option Scope := some (c.evaluate.run s).2

/-- Opening the connection and the command succeed. -/
def Succeeds (c : Call) : Prop :=
  c.out .create = .returns ∧ c.out .open_ = .returns
    ∧ c.out .execute = .returns

/-- The call ends as it would on the manager `dm`. -/
def EndsAsOn (dm : DataManager) (s : Scope) (c : Call) : Prop :=
  (c.evaluate.run s).1 = (c.evaluate.run ⟨dm, s.heap⟩).1

end Call

-- =================================================== what a call leaves

/-- What is left of the connection a manager made for itself. -/
inductive Leftover where
  | gone | opened | closed
  deriving DecidableEq, Repr

/-- A connection as a leftover. -/
def Leftover.of : Option NpgsqlConnection → Leftover
  | none => .gone
  | some n => if n.isOpen then .opened else .closed

/-- `Close` and `Dispose` of the connection return. -/
def Call.Closes (c : Call) : Prop :=
  c.out .close = .returns ∧ c.out .disposeConnection = .returns

instance (c : Call) : Decidable c.Closes := inferInstanceAs (Decidable (_ ∧ _))

/-- An open connection after its own `Close`. -/
def Call.afterClose (c : Call) : Leftover :=
  match c.out .close with
  | .returns | .throws .connection => .closed
  | .throws .nothing | .throws .transaction => .opened

/-- An open connection after the `Close` of its `DataConnection`. -/
def Call.leaves (c : Call) : Leftover :=
  if c.Closes then .gone else c.afterClose

/-- The calls that end as on a fresh manager although they run on what
earlier calls have left: on an open connection those that a fresh manager
could close, on a closed one those of `Fill` unless only the disposal
throws. -/
def Leftover.Serves : Leftover → List Call → Prop
  | _, [] => True
  | .gone, _ :: _ => False
  | .opened, c :: cs => c.Closes ∧ Serves .opened cs
  | .closed, c :: cs =>
      c.method.fills = true
        ∧ (c.out .close = .returns → c.out .disposeConnection = .returns)
        ∧ Serves c.afterClose cs

/-- The sequences of calls a manager without a connection survives: one
call, or without parameters, those that what the first one leaves
serves. -/
def Reusable (parameters : List String) : List Call → Prop
  | [] => True
  | c :: cs => cs = [] ∨ parameters = [] ∧ c.leaves.Serves cs

-- ======================================================= the calls

/-- The result a query method makes of an answer. -/
def Query.result (answer : Answer) : Query → Result
  | .getTable | .getTableAsync => .table answer.tables.head?
  | .getDataSet | .getDataSetAsync => .dataSet answer.tables
  | .runActionQuery | .runActionQueryAsync => .rowsAffected answer.rowsAffected
  | .getScalar | .getScalarAsync => .scalar answer.scalar

/-- The result of a call. -/
def Call.result (c : Call) : Result := c.method.result c.answer

/-- A query method with its result is its call inside the common text. -/
theorem Call.evaluate_run (c : Call) (s : Scope) :
    c.evaluate.run s
      = (runQuery c.out (c.method.call c.out) c.result).run s := by
  obtain ⟨method, answer, out⟩ := c
  cases method with
  | getTable | getTableAsync =>
      exact runQuery_map out _ answer.tables.head? Result.table s
  | getDataSet | getDataSetAsync =>
      exact runQuery_map out _ answer.tables Result.dataSet s
  | runActionQuery | runActionQueryAsync =>
      exact runQuery_map out _ answer.rowsAffected Result.rowsAffected s
  | getScalar | getScalarAsync =>
      exact runQuery_map out _ answer.scalar Result.scalar s

/-- A command on an open connection. -/
theorem call_opened {c : Call} (hc : c.Succeeds) (command : Command)
    {w : Wire} (hopen : w.connection.isOpen = true) :
    (c.method.call c.out command).run w = (.ok (), w.executed command) := by
  rw [Query.call_of_open _ _ _ hopen, Npgsql.execute_of_open _ _ hopen,
    npgsqlCall_returns hc.2.2]

/-- A command on a closed connection that `Fill` does not open. -/
theorem call_closed {c : Call} (hfills : c.method.fills = false)
    (command : Command) {w : Wire} (hopen : w.connection.isOpen = false) :
    (c.method.call c.out command).run w
      = (.error (.invalidOperation "Connection is not open"), w) := by
  rw [Query.call_eq, hfills, if_neg Bool.false_ne_true]
  exact Npgsql.execute_of_closed c.out command hopen

/-- `Close` of an open connection, however it ends. -/
theorem close_opened (c : Call) {w : Wire}
    (hopen : w.connection.isOpen = true) :
    ∃ n, ((NpgsqlConnection.close c.out).run w)
        = (if c.out .close = .returns then .ok () else .error .npgsql,
            { w with connection := n })
      ∧ Leftover.of (some n) = c.afterClose := by
  cases hclose : c.out .close with
  | returns =>
      refine ⟨w.connection.closed, ?_, ?_⟩
      · rw [NpgsqlConnection.close, npgsqlCall_returns hclose, if_pos rfl]
        rfl
      · rw [Call.afterClose, hclose]
        rfl
  | throws damage =>
      refine ⟨damage.done w.connection, ?_, ?_⟩
      · rw [NpgsqlConnection.close, npgsqlCall_throws hclose]
        rfl
      · rw [Call.afterClose, hclose]
        cases damage with
        | nothing | transaction =>
            exact if_pos hopen
        | connection => rfl

/-- A `Fill` on a closed connection opens it and closes it again. -/
theorem call_fills {c : Call} (hc : c.Succeeds)
    (hfills : c.method.fills = true) (command : Command) {w : Wire}
    (hopen : w.connection.isOpen = false) :
    ∃ n database, (c.method.call c.out command).run w
        = (if c.out .close = .returns then .ok () else .error .npgsql,
            ⟨n, database⟩)
      ∧ Leftover.of (some n) = c.afterClose := by
  have hcall : c.method.call c.out = NpgsqlDataAdapter.fill c.out := by
    rw [Query.call_eq, hfills, if_pos rfl]
  let w' := (w.onConnection NpgsqlConnection.opened).executed command
  have hopen' : w'.connection.isOpen = true :=
    Wire.isOpen_executed command _
  obtain ⟨n, hn, hleft⟩ := close_opened c hopen'
  refine ⟨n, w'.database, ?_, hleft⟩
  rw [hcall, NpgsqlDataAdapter.fill, Eff.run_bind, Eff.run_get]
  dsimp only
  rw [hopen, if_neg Bool.false_ne_true, Eff.run_bind,
    NpgsqlConnection.open_, npgsqlCall_returns hc.2.1]
  dsimp only
  rw [Eff.finallyDo_run, Npgsql.execute_of_open _ _ rfl,
    npgsqlCall_returns hc.2.2, hn]
  by_cases hclose : c.out .close = .returns
  · rw [if_pos hclose]
  · rw [if_neg hclose]

/-- `Close` of the `DataConnection` of a call that ran, however it ends. -/
theorem close_local (c : Call) {n : NpgsqlConnection}
    (hopen : n.isOpen = true) (database : Database) :
    ∃ t : Session, (DataConnection.close c.out).run
        ⟨{ oConn := some n, blnIsOpen := true }, database⟩
        = (if c.Closes then .ok () else .error .npgsql, t)
      ∧ Leftover.of t.self.oConn = c.leaves := by
  rw [DataConnection.close_of_disposed (DataConnection.disposeTran_none rfl),
    DataConnection.closeConn_run (n := n) rfl hopen]
  by_cases hcloses : c.Closes
  · rw [Call.leaves, if_pos hcloses, if_pos hcloses, hcloses.1]
    dsimp only
    rw [hcloses.2]
    exact ⟨_, rfl, rfl⟩
  · rw [Call.leaves, if_neg hcloses, if_neg hcloses]
    unfold Call.afterClose
    match hclose : c.out .close with
    | .throws .nothing => exact ⟨_, rfl, if_pos hopen⟩
    | .throws .transaction => exact ⟨_, rfl, if_pos hopen⟩
    | .throws .connection => exact ⟨_, rfl, rfl⟩
    | .returns =>
        match hdispose : c.out .disposeConnection with
        | .returns => exact absurd ⟨hclose, hdispose⟩ hcloses
        | .throws damage => exact ⟨_, rfl, rfl⟩

-- ===================================================== the first call

/-- A manager with a leftover and these parameters, which belong to a
command. -/
structure Used (parameters : List String) (l : Leftover) (s : Scope) :
    Prop where
  held : ∃ r, s.self.oConn = some r
    ∧ Leftover.of (s.heap.connection r).oConn = l
  attached : s.self.oParameters
    = parameters.map fun p => { parameterName := p, attached := true }

/-- New parameters can be added. -/
theorem attach_new (parameters : List String) :
    attach (parameters.map fun p => { parameterName := p })
      = (true, parameters.map fun p =>
          { parameterName := p, attached := true }) := by
  induction parameters with
  | nil => rfl
  | cons p ps ih =>
      rw [List.map_cons, attach, if_neg Bool.false_ne_true, ih]
      rfl

/-- Added parameters cannot be added again. -/
theorem attach_used (parameters : List String) :
    attach (parameters.map fun p =>
        { parameterName := p, attached := true })
      = (parameters.isEmpty, parameters.map fun p =>
          { parameterName := p, attached := true }) := by
  cases parameters with
  | nil => rfl
  | cons p ps => rfl

/-- A first call ends as its `Close` does: it opens a connection of its own,
the command returns, and what is left is what the `Close` leaves. -/
theorem first_call {c : Call} (hc : c.Succeeds) (sqlString : String)
    (isTextQuery : Bool) (parameters : List String) (heap : Heap) :
    ∃ t, c.evaluate.run ⟨constructed sqlString isTextQuery parameters, heap⟩
        = (if c.Closes then .ok c.result else .error .npgsql, t)
      ∧ Used parameters c.leaves t := by
  let dm := constructed sqlString isTextQuery parameters
  have hattach : attach dm.oParameters = (true, _) := attach_new parameters
  obtain ⟨t, hclose, hleft⟩ := close_local c
    (n := (Wire.executed dm.command ⟨{ isOpen := true },
      heap.database⟩).connection)
    (Wire.isOpen_executed dm.command ⟨{ isOpen := true }, heap.database⟩)
    (Wire.executed dm.command ⟨{ isOpen := true }, heap.database⟩).database
  have hrun := runQuery_local (s := ⟨dm, heap⟩) (c.method.call c.out) c.result
    rfl hc.1 hc.2.1 (congrArg Prod.fst hattach)
    (call_opened hc dm.command rfl)
  rw [hclose] at hrun
  refine ⟨⟨dm.initedLocal heap.allocated,
    (opened heap).put heap.allocated t⟩, ?_, ⟨heap.allocated, rfl, ?_⟩, ?_⟩
  · rw [Call.evaluate_run, hrun]
    by_cases hcloses : c.Closes
    · rw [if_pos hcloses, if_pos hcloses]
      rfl
    · rw [if_neg hcloses, if_neg hcloses]
      rfl
  · rw [Heap.put_connection]
    exact hleft
  · exact congrArg Prod.snd hattach

-- ==================================================== the calls after it

section Later

variable {s : Scope} {c : Call} {r : Nat} {n : NpgsqlConnection}
  {parameters : List String}

/-- A manager whose connection is gone, or whose parameters cannot be
added, answers with neither of the two ends of a fresh one. -/
theorem later_call_refused {dm : DataManager} {e : String}
    (hs : (c.evaluate.run s).1 = .error (.invalidOperation e))
    (hdm : (c.evaluate.run ⟨dm, s.heap⟩).1
      = if c.Closes then .ok c.result else .error .npgsql) :
    ¬c.EndsAsOn dm s := by
  unfold Call.EndsAsOn
  rw [hs, hdm]
  split
  · exact fun h => by cases h
  · exact fun h => by cases h

/-- With the connection gone a call throws. -/
theorem later_call_gone (hs : Used parameters .gone s) :
    (c.evaluate.run s).1
      = .error (.invalidOperation "No open connection available.") := by
  obtain ⟨r, hr, hleft⟩ := hs.held
  rw [Call.evaluate_run, runQuery_gone _ _ hr]
  cases hn : (s.heap.connection r).oConn with
  | none => rfl
  | some n =>
      rw [hn, Leftover.of] at hleft
      split at hleft <;> cases hleft

/-- What is left, and is not gone, is a connection. -/
theorem exists_of_left {l : Leftover} (hs : Used parameters l s)
    (hl : l ≠ .gone) :
    ∃ r n, s.self.oConn = some r ∧ (s.heap.connection r).oConn = some n
      ∧ Leftover.of (some n) = l := by
  obtain ⟨r, hr, hleft⟩ := hs.held
  cases hn : (s.heap.connection r).oConn with
  | none =>
      rw [hn] at hleft
      exact absurd hleft.symm hl
  | some n =>
      rw [hn] at hleft
      exact ⟨r, n, hr, hn, hleft⟩

/-- With parameters a call throws, whatever is left. -/
theorem later_call_attached {l : Leftover} (hs : Used parameters l s)
    (hparameters : parameters ≠ []) :
    ∃ e, (c.evaluate.run s).1 = .error (.invalidOperation e) := by
  by_cases hl : l = .gone
  · subst hl
    exact ⟨_, later_call_gone hs⟩
  · obtain ⟨r, n, hr, hn, -⟩ := exists_of_left hs hl
    refine ⟨"The parameter already belongs to a collection", ?_⟩
    rw [Call.evaluate_run, runQuery_of_not_fresh _ _ hr hn]
    rw [fresh, hs.attached, attach_used]
    cases parameters with
    | nil => exact absurd rfl hparameters
    | cons p ps => rfl

/-- Without parameters a call is the call on the connection that is left,
which stays: the manager takes it for one that was given to it. -/
theorem later_call (hs : s.self.oParameters = [])
    (hr : s.self.oConn = some r)
    (hn : (s.heap.connection r).oConn = some n) {end_ : Except Exn Unit}
    {after : Wire}
    (hcall : (c.method.call c.out s.self.command).run
      ⟨n, s.heap.database⟩ = (end_, after)) :
    c.evaluate.run s = (end_.map fun _ => c.result,
        ⟨s.self.inited, s.heap.putWire r after⟩)
      ∧ Used [] (Leftover.of (some after.connection))
          ⟨s.self.inited, s.heap.putWire r after⟩ := by
  have hfresh : s.self.fresh = true := by
    rw [fresh, hs]
    rfl
  refine ⟨?_, ⟨r, hr, ?_⟩, ?_⟩
  · rw [Call.evaluate_run, runQuery_run _ _ hr hn hfresh, hcall]
  · dsimp only
    rw [Heap.putWire_connection]
  · rw [inited, hs]
    rfl

end Later

-- =============================================================== the runs

section Runs

variable {s : Scope} {c : Call} {dm : DataManager}

/-- How a call ends on a fresh manager, whatever the heap. -/
def Fresh (dm : DataManager) : Prop :=
  ∀ c : Call, c.Succeeds → ∀ heap, (c.evaluate.run ⟨dm, heap⟩).1
    = if c.Closes then .ok c.result else .error .npgsql

/-- On an open connection a call returns. -/
theorem endsAsOn_opened (hdm : Fresh dm) (hc : c.Succeeds)
    (hs : Used [] .opened s) :
    (c.EndsAsOn dm s ↔ c.Closes)
      ∧ Used [] .opened (c.evaluate.run s).2 := by
  obtain ⟨r, n, hr, hn, hleft⟩ := exists_of_left hs (by decide)
  have hopen : n.isOpen = true := by
    by_contra hclosed
    rw [Leftover.of, if_neg hclosed] at hleft
    cases hleft
  obtain ⟨hrun, hused⟩ := later_call hs.attached hr hn
    (call_opened hc s.self.command (w := ⟨n, s.heap.database⟩) hopen)
  rw [Leftover.of, Wire.isOpen_executed, if_pos hopen] at hused
  unfold Call.EndsAsOn
  rw [hdm c hc s.heap, hrun]
  refine ⟨?_, hused⟩
  by_cases hcloses : c.Closes
  · rw [if_pos hcloses]
    exact ⟨fun _ => hcloses, fun _ => rfl⟩
  · rw [if_neg hcloses]
    exact ⟨(fun h => by cases h), fun h => absurd h hcloses⟩

/-- On a closed connection a `Fill` ends as its `Close` does, and the other
methods throw. A fresh manager's call ends as its two closings do, so the
two differ where only the disposal throws. -/
theorem endsAsOn_closed (hdm : Fresh dm) (hc : c.Succeeds)
    (hs : Used [] .closed s) :
    (c.EndsAsOn dm s ↔ c.method.fills = true
        ∧ (c.out .close = .returns → c.out .disposeConnection = .returns))
      ∧ (c.method.fills = true →
          Used [] c.afterClose (c.evaluate.run s).2) := by
  obtain ⟨r, n, hr, hn, hleft⟩ := exists_of_left hs (by decide)
  have hopen : n.isOpen = false := by
    rw [Leftover.of] at hleft
    split at hleft
    · cases hleft
    · next h => exact Bool.eq_false_iff.mpr h
  cases hfills : c.method.fills with
  | false =>
      have hrun := (later_call hs.attached hr hn
        (call_closed hfills s.self.command (w := ⟨n, s.heap.database⟩)
          hopen)).1
      refine ⟨⟨fun h => ?_, fun h => by cases h.1⟩, fun h => by cases h⟩
      exact absurd h (later_call_refused (congrArg Prod.fst hrun)
        (hdm c hc s.heap))
  | true =>
      obtain ⟨n', database, hcall, hleft'⟩ := call_fills hc hfills
        s.self.command (w := ⟨n, s.heap.database⟩) hopen
      obtain ⟨hrun, hused⟩ := later_call hs.attached hr hn hcall
      rw [hleft'] at hused
      unfold Call.EndsAsOn
      rw [hdm c hc s.heap, hrun]
      refine ⟨?_, fun _ => hused⟩
      unfold Call.Closes
      by_cases hclose : c.out .close = .returns
      · by_cases hdispose : c.out .disposeConnection = .returns
        · simp [hclose, hdispose, Except.map]
        · simp [hclose, hdispose, Except.map]
      · simp [hclose, Except.map]

/-- Later calls without parameters end as on a fresh manager exactly if
what is left serves them. -/
theorem along_serves (hdm : Fresh dm) :
    ∀ {calls : List Call} {l : Leftover} {s : Scope}, Used [] l s →
      (∀ c ∈ calls, c.Succeeds) →
      (Along Call.step (fun s c => c.EndsAsOn dm s) s calls
        ↔ l.Serves calls) := by
  intro calls
  induction calls with
  | nil =>
      intro l s _ _
      cases l <;> exact Iff.rfl
  | cons c cs ih =>
      intro l s hs hcalls
      have hc := hcalls c List.mem_cons_self
      have hcs : ∀ c' ∈ cs, c'.Succeeds := fun c' hc' =>
        hcalls c' (List.mem_cons_of_mem c hc')
      rw [along_cons_iff rfl]
      cases l with
      | gone =>
          have hrefused := later_call_refused (later_call_gone hs)
            (hdm c hc s.heap)
          exact ⟨fun h => absurd h.1 hrefused, False.elim⟩
      | opened =>
          obtain ⟨hends, hused⟩ := endsAsOn_opened hdm hc hs
          rw [hends, ih hused hcs]
          rfl
      | closed =>
          obtain ⟨hends, hused⟩ := endsAsOn_closed hdm hc hs
          rw [hends, Leftover.Serves, and_assoc]
          refine and_congr_right fun hfills => and_congr_right fun _ => ?_
          exact ih (hused hfills) hcs

end Runs

/-- If every `Close` returns, no manager survives a second call: what the
first one leaves is gone. -/
theorem reusable_iff_of_closes (parameters : List String)
    {calls : List Call} (hcloses : ∀ c ∈ calls, c.Closes) :
    Reusable parameters calls ↔ calls.length ≤ 1 := by
  match calls with
  | [] => exact ⟨fun _ => Nat.zero_le 1, fun _ => trivial⟩
  | [c] => exact ⟨fun _ => Nat.le_refl 1, fun _ => Or.inl rfl⟩
  | c :: c' :: cs =>
      rw [Reusable, Call.leaves, if_pos (hcloses c List.mem_cons_self),
        or_iff_right (List.cons_ne_nil c' cs)]
      refine ⟨fun h => h.2.elim, fun h => ?_⟩
      simp only [List.length_cons] at h
      omega

/-- Given that each opening and each command succeeds, every call on a
manager without a connection ends as on a fresh one exactly if there is
at most one call, or no parameter and connections left behind by a
`Close` that threw serve the later ones. -/
theorem reused_manager_answers_iff (sqlString : String)
    (isTextQuery : Bool) (parameters : List String) (heap : Heap)
    {calls : List Call} (hcalls : ∀ c ∈ calls, c.Succeeds) :
    Along Call.step
        (fun s c => c.EndsAsOn
          (constructed sqlString isTextQuery parameters) s)
        ⟨constructed sqlString isTextQuery parameters, heap⟩ calls
      ↔ Reusable parameters calls := by
  have hfresh : ∀ parameters,
      Fresh (constructed sqlString isTextQuery parameters) := by
    intro parameters c hc heap
    obtain ⟨t, hrun, -⟩ := first_call hc sqlString isTextQuery parameters
      heap
    exact congrArg Prod.fst hrun
  cases calls with
  | nil => exact Iff.rfl
  | cons c cs =>
      have hc := hcalls c List.mem_cons_self
      have hcs : ∀ c' ∈ cs, c'.Succeeds := fun c' hc' =>
        hcalls c' (List.mem_cons_of_mem c hc')
      obtain ⟨t, hrun, hused⟩ := first_call hc sqlString isTextQuery
        parameters heap
      have hfirst : c.EndsAsOn (constructed sqlString isTextQuery parameters)
          ⟨constructed sqlString isTextQuery parameters, heap⟩ := rfl
      rw [along_cons_iff (congrArg (some ·.2) hrun), and_iff_right hfirst,
        Reusable]
      cases cs with
      | nil => exact ⟨fun _ => Or.inl rfl, fun _ => trivial⟩
      | cons c' cs' =>
          rw [or_iff_right (List.cons_ne_nil c' cs')]
          by_cases hparameters : parameters = []
          · subst hparameters
            rw [along_serves (hfresh []) hused hcs, and_iff_right rfl]
          · refine ⟨fun h => ?_, fun h => absurd h.1 hparameters⟩
            obtain ⟨e, he⟩ := later_call_attached (c := c') hused hparameters
            exact absurd h.1 (later_call_refused he
              (hfresh parameters c' (hcs c' List.mem_cons_self) t.heap))

/-- A query for one number, all of whose calls return. -/
private def countUsers : Call where
  method := .getScalar
  answer := { scalar := some (.int 3) }
  out := .allReturn

/-- One call with a parameter. -/
theorem single_query_answers :
    Along Call.step
      (fun s c => c.EndsAsOn (constructed "SP_Count_Users" false ["p_role"]) s)
      ⟨constructed "SP_Count_Users" false ["p_role"], {}⟩ [countUsers] := by
  refine (reused_manager_answers_iff "SP_Count_Users" false ["p_role"] {}
    (fun c hc => ?_)).mpr (Or.inl rfl)
  obtain rfl := List.mem_singleton.mp hc
  exact ⟨rfl, rfl, rfl⟩

/-- The second of two calls throws, where a fresh manager answers. -/
theorem second_query_throws :
    countUsers.Succeeds
    ∧ (∃ s, Call.step ⟨constructed "SP_Count_Users" false [], {}⟩ countUsers
          = some s
        ∧ (countUsers.evaluate.run s).1
          = .error (.invalidOperation "No open connection available.")
        ∧ (countUsers.evaluate.run
            ⟨constructed "SP_Count_Users" false [], s.heap⟩).1
          = .ok (.scalar (some (.int 3))))
    ∧ ¬Along Call.step
        (fun s c => c.EndsAsOn (constructed "SP_Count_Users" false []) s)
        ⟨constructed "SP_Count_Users" false [], {}⟩
        [countUsers, countUsers] := by
  refine ⟨⟨rfl, rfl, rfl⟩, ⟨_, rfl, rfl, rfl⟩, fun h => ?_⟩
  cases (h.2 _ rfl).1

end DataManager

end SkillBuddy
