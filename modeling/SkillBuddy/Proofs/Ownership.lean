/-
A connection a caller lends to `DataManager`s, and what they leave of it.

# The frame

What the caller can tell of its connection is a `Frame`: the two flags of
the `DataConnection`, whether the connection inside is open, and which
transaction is pending. The question is whether the frame is the same
after every act of a run. It is asked of any number of managers that were
given the connection, and of every order of their acts.

# The acts, one by one

`InitQuery` recomputes `blnLocalConn` at each query; for a manager that
was given its connection it is false, so the query methods leave the
connection alone (`query_keeps`). `Dispose` does not look at the flag and
closes what it has (`dispose_breaks`). `ExecuteReader` asks for
`CommandBehavior.CloseConnection` without looking at the flag either: the
connection is closed with the reader, and if the command throws there is
no reader and it is closed at once (`read_breaks`). Only an
`ExecuteReader` that does not get as far as its command, because a
parameter of the manager belongs to an earlier one, keeps the frame.

# The runs

Keeping the frame is decided act by act, and whether an act keeps it does
not depend on anything the earlier acts have changed but the marks on the
parameters. So a run keeps it throughout exactly if each of its acts is
clean where it is made, which is the exact rule for runs
(`forall_reached_iff_along`). Once broken the frame may be restored, by an
`Open` say; the theorem is about every state reached, not the last.
-/
import SkillBuddy.Lib.Run
import SkillBuddy.Data.DataManager

namespace SkillBuddy

open DotNet Lib

-- ============================================================ the property

/-- What a caller finds of its connection: the two flags, whether the
connection is open, and which transaction is pending. -/
structure Frame where
  isOpen : Bool
  isTransactionActive : Bool
  connOpen : Bool
  pending : Option Nat
  deriving DecidableEq, Repr

/-- The frame of a `DataConnection`. -/
def DataConnection.frame (c : DataConnection) : Frame where
  isOpen := c.isOpen
  isTransactionActive := c.isTransactionActive
  connOpen := c.connOpen
  pending := c.pending.map (·.id)

/-- The acts are those of managers, and what breaks a connection is not
the server: a query's command that throws leaves the connection and its
transaction alone, and the calls that close shut the connection. -/
def Act.Quiet : Act → Prop
  | .query _ _ _ out =>
      ∀ damage, out .execute = .throws damage → damage = .nothing
  | .read _ _ out =>
      out .execute = .throws .connection ∨ out.CloseShuts
  | .dispose _ out =>
      out .disposeTransaction = .returns ∧ out .close = .returns
  | .call .. => False

/-- An act that leaves the connection alone: a query, or an
`ExecuteReader` whose parameters belong to a command already, which is
refused before it touches the connection. -/
def World.Clean (w : World) : Act → Prop
  | .query .. => True
  | .read m _ _ => (w.manager m).fresh = false
  | .dispose .. => False
  | .call .. => False

-- ================================================== calls and their frames

/-- A call on the connection changes the frame as it changes the
connection. -/
theorem frame_putWire (heap : Heap) (r : Nat) (after : Wire) :
    ((heap.putWire r after).connection r).frame
      = { (heap.connection r).frame with
          connOpen := after.connection.isOpen
          pending := after.connection.pending.map (·.id) } := by
  rw [Heap.putWire_connection]
  rfl

/-- A connection that looks the same leaves the frame the same. -/
theorem frame_putWire_eq {heap : Heap} {r : Nat} {n : NpgsqlConnection}
    {after : Wire} (hn : (heap.connection r).oConn = some n)
    (hopen : after.connection.isOpen = n.isOpen)
    (hpending : after.connection.pending.map (·.id) = n.pending.map (·.id)) :
    ((heap.putWire r after).connection r).frame
      = (heap.connection r).frame := by
  rw [frame_putWire, hopen, hpending]
  unfold DataConnection.frame DataConnection.connOpen DataConnection.pending
  rw [hn, Option.any_some, Option.bind_some]

/-- A command that runs leaves the connection as it looks. -/
theorem executed_frame (command : Command) (w : Wire) :
    (w.executed command).connection.isOpen = w.connection.isOpen
      ∧ (w.executed command).connection.pending.map (·.id)
        = w.connection.pending.map (·.id) := by
  refine ⟨w.isOpen_executed command, ?_⟩
  unfold Wire.executed
  split
  case h_1 t ht => rw [ht]; rfl
  case h_2 => rfl

-- ======================================================= an act at a time

/-- Every manager has the connection `r`, and its frame is `f`. -/
structure Lent (f : Frame) (r : Nat) (w : World) : Prop where
  held : ∀ m, (w.manager m).oConn = some r
  frame : (w.heap.connection r).frame = f

section Steps

variable {f : Frame} {r m : Nat} {w : World} {n : NpgsqlConnection}
  {out : Outcomes}

/-- A call that leaves the connection as it looks keeps the frame. -/
theorem lent_queried (hw : Lent f r w)
    (hn : (w.heap.connection r).oConn = some n) {after : Wire}
    (hopen : after.connection.isOpen = n.isOpen)
    (hpending : after.connection.pending.map (·.id) = n.pending.map (·.id)) :
    Lent f r (w.queried m r after) where
  held := World.held_update hw.held (hw.held m)
  frame := (frame_putWire_eq hn hopen hpending).trans hw.frame

/-- A refused call keeps the frame. -/
theorem lent_refused (hw : Lent f r w) : Lent f r (w.refused m) where
  held := World.held_update hw.held (hw.held m)
  frame := hw.frame

/-- A query keeps the frame. -/
theorem query_keeps (method : DataManager.Query) (answer : Answer)
    (hw : Lent f r w) (hn : (w.heap.connection r).oConn = some n)
    (hopen : n.isOpen = true)
    (hquiet : (Act.query m method answer out).Quiet) :
    Lent f r ((World.perform (.query m method answer out)).run w).2 := by
  cases hfresh : (w.manager m).fresh with
  | false =>
      obtain ⟨e, he⟩ := World.perform_query_of_not_fresh method answer
        (hw.held m) hn hfresh
      rw [he]
      exact lent_refused hw
  | true =>
      rw [World.perform_query method answer (hw.held m) hn hfresh,
        DataManager.Query.call_of_open method out _ hopen,
        Npgsql.execute_of_open out _ hopen]
      cases hout : out .execute with
      | returns =>
          rw [npgsqlCall_returns rfl]
          obtain ⟨hopen', hpending'⟩ := executed_frame
            (w.manager m).command ⟨n, w.heap.database⟩
          exact lent_queried hw hn hopen' hpending'
      | throws damage =>
          rw [npgsqlCall_throws rfl]
          obtain rfl := hquiet damage hout
          exact lent_queried hw hn rfl rfl

/-- An `ExecuteReader` that gets to its command changes the frame of an
open connection: the connection is closed with the reader, or by the
throw. -/
theorem read_breaks (isAsync : Bool) (hw : Lent f r w)
    (hn : (w.heap.connection r).oConn = some n) (hopen : n.isOpen = true)
    (hf : f.connOpen = true) (hfresh : (w.manager m).fresh = true)
    (hquiet : (Act.read m isAsync out).Quiet) :
    (((World.perform (.read m isAsync out)).run w).2.heap.connection
      r).frame ≠ f := by
  have hclosed : ∀ after : Wire, after.connection.isOpen = false →
      ((w.queried m r after).heap.connection r).frame ≠ f := by
    intro after hafter heq
    rw [← heq] at hf
    unfold World.queried at hf
    rw [frame_putWire] at hf
    cases hafter.symm.trans hf
  cases hout : out .execute with
  | returns =>
      have hshuts : out.CloseShuts := by
        rcases hquiet with h | h
        · cases hout.symm.trans h
        · exact h
      have hcall := Npgsql.executeReader_returns (w.manager m).command
        (w := ⟨n, w.heap.database⟩) hopen hout
      rw [World.perform_read_of_ok isAsync (hw.held m) hn hfresh hcall]
      apply hclosed
      exact NpgsqlConnection.isOpen_close_iff.mpr (Or.inr hshuts)
  | throws damage =>
      have hshut : damage = .connection ∨ out.CloseShuts := by
        refine hquiet.imp_left ?_
        intro h
        exact Outcome.throws.inj (hout.symm.trans h)
      have hafter := (Npgsql.isOpen_executeReader_iff
        (w.manager m).command (w := ⟨n, w.heap.database⟩) hopen
        hout).mpr hshut
      obtain ⟨e, hcall⟩ := Npgsql.executeReader_throws
        (w.manager m).command (w := ⟨n, w.heap.database⟩) hopen hout
      rw [hcall] at hafter
      rw [World.perform_read_of_error isAsync (hw.held m) hn hfresh hcall]
      exact hclosed _ hafter

/-- One that does not get there is refused. -/
theorem read_keeps (isAsync : Bool) (hw : Lent f r w)
    (hn : (w.heap.connection r).oConn = some n)
    (hfresh : (w.manager m).fresh = false) :
    Lent f r ((World.perform (.read m isAsync out)).run w).2 := by
  rw [World.perform_read_of_not_fresh isAsync (hw.held m) hn hfresh]
  exact lent_refused hw

/-- `Dispose` changes the frame of an open connection. -/
theorem dispose_breaks (hw : Lent f r w)
    (hn : (w.heap.connection r).oConn = some n) (hopen : n.isOpen = true)
    (hf : f.connOpen = true) (hquiet : (Act.dispose m out).Quiet) :
    (((World.perform (.dispose m out)).run w).2.heap.connection r).frame
      ≠ f := by
  intro heq
  rw [World.perform_dispose (hw.held m)] at heq
  dsimp only at heq
  rw [Heap.put_connection] at heq
  have hclosed := DataConnection.connOpen_close
    (s := ⟨w.heap.connection r, w.heap.database⟩) hn hopen hquiet.1 hquiet.2
  rw [← heq] at hf
  cases hclosed.symm.trans hf

end Steps

-- =============================================================== the runs

/-- A step out of a frame keeps it exactly if it is clean. -/
theorem step_exact {f : Frame} {r : Nat} {w t : World} {a : Act}
    (hf : f.connOpen = true) (hw : Lent f r w) (hquiet : a.Quiet)
    (hstep : w.step a = some t) :
    (w.Clean a → Lent f r t)
      ∧ ((t.heap.connection r).frame = f → w.Clean a) := by
  obtain rfl := Option.some.inj hstep
  obtain ⟨n, hn, hopen⟩ := DataConnection.exists_of_connOpen
    ((congrArg Frame.connOpen hw.frame).trans hf)
  cases a with
  | query m method answer out =>
      exact ⟨fun _ => query_keeps method answer hw hn hopen hquiet,
        fun _ => trivial⟩
  | read m isAsync out =>
      refine ⟨read_keeps isAsync hw hn, fun hframe => ?_⟩
      cases hfresh : (w.manager m).fresh with
      | false => exact hfresh
      | true =>
          exact absurd hframe
            (read_breaks isAsync hw hn hopen hf hfresh hquiet)
  | dispose m out =>
      exact ⟨False.elim,
        fun h => absurd h (dispose_breaks hw hn hopen hf hquiet)⟩
  | call r' operation out => exact hquiet.elim

/-- Managers that were lent an open connection leave it as they found it
after every act of a run exactly if they are never disposed and no
`ExecuteReader` gets as far as its command. -/
theorem connection_left_as_found_iff {w : World} {r : Nat}
    {acts : List Act} (hheld : ∀ m, (w.manager m).oConn = some r)
    (hopen : (w.heap.connection r).connOpen = true)
    (hquiet : ∀ a ∈ acts, a.Quiet) :
    (∀ pre, pre <+: acts → ∀ t, run World.step w pre = some t →
      (t.heap.connection r).frame = (w.heap.connection r).frame)
    ↔ Along World.step World.Clean w acts := by
  let f := (w.heap.connection r).frame
  refine forall_reached_iff_along (P := Act.Quiet)
    (S := Lent f r) (T := fun t => (t.heap.connection r).frame = f)
    (fun w a => ⟨_, rfl⟩) (fun w h => h.frame) ?_ ?_ hquiet ⟨hheld, rfl⟩
  · intro s a t hs ha hstep hclean
    exact (step_exact hopen hs ha hstep).1 hclean
  · intro s a t hs ha hstep hframe
    exact (step_exact hopen hs ha hstep).2 hframe

-- =============================================================== examples

/-- A caller with an open connection, a transaction begun on it, and
managers that were given it, one of them with a parameter. -/
private def lender : World where
  manager m :=
    { strCommandText := "SP_Insert_User"
      oParameters := if m = 1 then [{ parameterName := "name" }] else []
      oConn := some 0 }
  heap :=
    { connection := fun _ =>
        { connectionString := "Host=localhost"
          oConn := some
            { connectionString := "Host=localhost"
              isOpen := true
              pending := some { id := 0 } }
          oTran := some 0
          blnIsOpen := true
          blnTranActive := true }
      allocated := 1
      database := { begun := 1 } }

/-- Two queries leave the connection open, with its transaction; so does
an `ExecuteReader` of the manager whose parameter the second query has
taken, which is refused. -/
theorem queries_leave_connection :
    (lender.heap.connection 0).frame = ⟨true, true, true, some 0⟩
    ∧ ∀ pre, pre <+: [Act.query 0 .runActionQuery {} .allReturn,
        .query 1 .getTable {} .allReturn, .read 1 false .allReturn] →
      ∀ t, run World.step lender pre = some t →
        (t.heap.connection 0).frame = (lender.heap.connection 0).frame := by
  refine ⟨rfl, ?_⟩
  refine (connection_left_as_found_iff (fun _ => rfl) rfl ?_).mpr ?_
  · intro a ha
    simp only [List.mem_cons, List.not_mem_nil, or_false] at ha
    rcases ha with rfl | rfl | rfl
    · exact nofun
    · exact nofun
    · exact Or.inr (Or.inl rfl)
  · refine along_cons trivial rfl (along_cons trivial rfl ?_)
    exact along_cons rfl rfl trivial

/-- `Dispose` closes the lent connection and discards its transaction; a
reader that is closed does so behind the back of both flags, and so does
an `ExecuteReader` whose command throws. -/
theorem dispose_closes_lent_connection :
    (∃ t, run World.step lender [.query 0 .runActionQuery {} .allReturn,
          .dispose 0 .allReturn] = some t
        ∧ (lender.heap.connection 0).frame = ⟨true, true, true, some 0⟩
        ∧ (t.heap.connection 0).frame = ⟨false, false, false, none⟩)
    ∧ (∃ t, run World.step lender [.read 0 false .allReturn] = some t
        ∧ (t.heap.connection 0).frame = ⟨true, true, false, none⟩)
    ∧ ∃ t, run World.step lender
          [.read 0 false (.failing .execute .nothing)] = some t
        ∧ (t.heap.connection 0).frame = ⟨true, true, false, none⟩ :=
  ⟨⟨_, rfl, rfl, rfl⟩, ⟨_, rfl, rfl⟩, _, rfl, rfl⟩

end SkillBuddy
