/-
The flags of a `DataConnection`, and what its connection is doing.

# Four shapes

While the flags are true the object is in one of four shapes
(`Settled`): no connection, one that is not open, an open one, and one
with a transaction begun. From each of them every operation has been
executed symbolically at every failure point (the spec lemmas beside the
operations), and each end of it either is one of the four shapes again or
shows a false flag. There is no third way, and that is what makes the
condition exact: `Exact` says it for one operation, and each operation
has its lemma.

# Clean operations

Which of the two it is, is read off the outcomes of the Npgsql calls: an
operation is `Clean` when the call that throws is the first one to change
anything, and has changed nothing. `Open` always is, since it sets its
flag last. `BeginTran` is unless the failing call breaks the connection;
`CommitTran`, `RollbackTran` and `Close` are unless something throws after
the transaction is completed or the connection closed. So all flags of a
run are true exactly if all its operations are clean
(`flags_truthful_iff`).

A commit the server refuses is not clean: the transaction is completed,
and `blnTranActive` and `oTran` stay as they were; a `RollbackTran` behind
it throws, and resets nothing (`refused_commit_leaves_flag`).
-/
import SkillBuddy.Lib.Run
import SkillBuddy.Data.DataConnection

namespace SkillBuddy

open DotNet Lib

namespace DataConnection

-- ============================================================ the property

/-- The flags are true: `IsOpen` of the connection held, and
`IsTransactionActive` of a transaction begun on it. -/
def Truthful (c : DataConnection) : Prop :=
  (c.isOpen = true ↔ c.connOpen = true)
    ∧ (c.isTransactionActive = true ↔ ∃ t, c.pending = some t)

/-- The shapes of a `DataConnection` whose flags are true: no connection,
one that is not open, an open one, and one with a transaction begun. -/
inductive Settled : DataConnection → Prop where
  | unconnected (connectionString : String) :
      Settled { connectionString }
  | unopened (connectionString : String) (n : NpgsqlConnection)
      (hopen : n.isOpen = false) (hpending : n.pending = none) :
      Settled { connectionString, oConn := some n }
  | opened (connectionString : String) (n : NpgsqlConnection)
      (hopen : n.isOpen = true) (hpending : n.pending = none) :
      Settled { connectionString, oConn := some n, blnIsOpen := true }
  | begun (connectionString : String) (n : NpgsqlConnection)
      (t : Transaction) (hopen : n.isOpen = true)
      (hpending : n.pending = some t) :
      Settled { connectionString, oConn := some n, oTran := some t.id,
                blnIsOpen := true, blnTranActive := true }

/-- The four shapes tell the truth: their flags are by definition what their
connection does. -/
theorem Settled.truthful {c : DataConnection} (h : c.Settled) :
    c.Truthful := by
  unfold Truthful isOpen isTransactionActive connOpen pending
  cases h with
  | unconnected => simp
  | unopened _ n hopen hpending => simp [hopen, hpending]
  | opened _ n hopen hpending => simp [hopen, hpending]
  | begun _ n t hopen hpending => simp [hopen, hpending]

/-- `IsOpen` of a connection that is not. -/
theorem not_truthful_of_unopened {c : DataConnection}
    (hflag : c.blnIsOpen = true) (h : c.connOpen = false) :
    ¬c.Truthful := by
  intro htrue
  have hopen := htrue.1.mp hflag
  rw [h] at hopen
  cases hopen

/-- `IsTransactionActive` with nothing pending. -/
theorem not_truthful_of_completed {c : DataConnection}
    (hflag : c.blnTranActive = true) (h : c.pending = none) :
    ¬c.Truthful := by
  intro htrue
  obtain ⟨t, ht⟩ := htrue.2.mp hflag
  rw [h] at ht
  cases ht

-- ======================================================= clean operations

/-- `BeginTran` is clean unless the call on an idle connection breaks the
connection. -/
def BeginClean (c : DataConnection) (out : Outcomes) : Prop :=
  c.connOpen = true → c.pending = none →
    out .beginTransaction ≠ .throws .connection

/-- `CommitTran` and `RollbackTran` are clean unless the transaction is
completed and then something throws. -/
def EndClean (call : NpgsqlCall) (c : DataConnection) (out : Outcomes) :
    Prop :=
  c.oTran ≠ none →
    out call = .returns ∧ out .disposeTransaction = .returns
      ∨ out call = .throws .nothing

/-- `Close` is clean unless it throws after it has ended the transaction
or closed the connection. -/
def CloseClean (c : DataConnection) (out : Outcomes) : Prop :=
  c.connOpen = true →
    (c.pending = none →
      out .close = .returns ∧ out .disposeConnection = .returns
        ∨ out .close = .throws .nothing ∨ out .close = .throws .transaction)
    ∧ (c.pending ≠ none →
      out .disposeTransaction = .returns ∧ out .close = .returns
          ∧ out .disposeConnection = .returns
        ∨ out .disposeTransaction = .throws .nothing)

/-- The condition of each operation. -/
def Operation.Clean (out : Outcomes) (c : DataConnection) :
    Operation → Prop
  | .open_ | .openWith _ | .openAsync | .openAsyncWith _ => True
  | .close | .dispose => CloseClean c out
  | .beginTran | .beginTranAsync => BeginClean c out
  | .commitTran | .commitTranAsync => EndClean .commit c out
  | .rollbackTran | .rollbackTranAsync => EndClean .rollback c out

-- ========================================== each operation, from each shape

/-- An operation ends settled if its condition holds, and with a false
flag if it does not. -/
def Exact (clean : Prop) (c : DataConnection) : Prop :=
  (clean → c.Settled) ∧ (c.Truthful → clean)

/-- The one end, -/
theorem exact_of_settled {clean : Prop} {c : DataConnection}
    (h : c.Settled) (hclean : clean) : Exact clean c :=
  ⟨fun _ => h, fun _ => hclean⟩

/-- and the other. -/
theorem exact_of_not_truthful {clean : Prop} {c : DataConnection}
    (h : ¬c.Truthful) (hclean : ¬clean) : Exact clean c :=
  ⟨fun hc => absurd hc hclean, fun ht => absurd ht h⟩

/-- `Open` ends settled, wherever it fails: the flag is set behind the last
of its calls. -/
theorem openWith_settled (out : Outcomes) (connectionString : String)
    {s : Session} (h : s.self.Settled) :
    ((openWith out connectionString).run s).2.self.Settled := by
  obtain ⟨c, database⟩ := s
  cases h with
  | unconnected own =>
      rw [openWith_unopened connectionString rfl]
      cases out .create with
      | throws damage => exact .unconnected own
      | returns =>
          cases out .open_ with
          | returns => exact .opened own _ rfl rfl
          | throws damage => exact .unopened own _ rfl rfl
  | unopened own n hopen hpending =>
      rw [openWith_unopened connectionString ((connOpen_eq rfl).trans hopen)]
      cases out .create with
      | throws damage => exact .unopened own n hopen hpending
      | returns =>
          cases out .open_ with
          | returns => exact .opened own _ rfl rfl
          | throws damage => exact .unopened own _ rfl rfl
  | opened own n hopen hpending =>
      rw [openWith_open connectionString ((connOpen_eq rfl).trans hopen)]
      exact .opened own n hopen hpending
  | begun own n t hopen hpending =>
      rw [openWith_open connectionString ((connOpen_eq rfl).trans hopen)]
      exact .begun own n t hopen hpending

/-- `BeginTran` ends settled exactly if it is clean. -/
theorem beginTran_exact (out : Outcomes) {s : Session}
    (h : s.self.Settled) :
    Exact (BeginClean s.self out) ((beginTran out).run s).2.self := by
  obtain ⟨c, database⟩ := s
  cases h with
  | unconnected own =>
      rw [beginTran_unopened rfl]
      exact exact_of_settled (.unconnected own) nofun
  | unopened own n hopen hpending =>
      rw [beginTran_unopened ((connOpen_eq rfl).trans hopen)]
      refine exact_of_settled (.unopened own n hopen hpending) ?_
      intro h
      cases hopen.symm.trans h
  | opened own n hopen hpending =>
      rw [beginTran_run rfl hopen hpending]
      cases hout : out .beginTransaction with
      | returns =>
          refine exact_of_settled (.begun own _ ⟨_, []⟩ hopen rfl) ?_
          intro _ _ h
          cases hout.symm.trans h
      | throws damage =>
          cases damage with
          | nothing =>
              refine exact_of_settled (.opened own n hopen hpending) ?_
              intro _ _ h
              cases hout.symm.trans h
          | transaction =>
              refine exact_of_settled (.opened own _ hopen rfl) ?_
              intro _ _ h
              cases hout.symm.trans h
          | connection =>
              refine exact_of_not_truthful
                (not_truthful_of_unopened rfl rfl) ?_
              exact fun hclean => hclean hopen hpending hout
  | begun own n t hopen hpending =>
      rw [beginTran_pending rfl hopen hpending]
      refine exact_of_settled (.begun own n t hopen hpending) ?_
      intro _ h
      cases hpending.symm.trans h

/-- A transaction is ended settled exactly if that is clean. `CommitTran`
and `RollbackTran` differ in the call they make, not in what may go
wrong. -/
theorem endTran_exact (out : Outcomes) (call : NpgsqlCall)
    (effect : Wire → Wire)
    (heffect : ∀ w t, w.connection.pending = some t →
      (effect w).connection = w.connection.discarded)
    {s : Session} (h : s.self.Settled) :
    Exact (EndClean call s.self out)
      ((endTran out fun t =>
        NpgsqlTransaction.call t (out call) effect).run s).2.self := by
  obtain ⟨c, database⟩ := s
  cases h with
  | unconnected own =>
      rw [endTran_none _ rfl]
      exact exact_of_settled (.unconnected own) fun h => absurd rfl h
  | unopened own n hopen hpending =>
      rw [endTran_none _ rfl]
      refine exact_of_settled (.unopened own n hopen hpending) ?_
      exact fun h => absurd rfl h
  | opened own n hopen hpending =>
      rw [endTran_none _ rfl]
      refine exact_of_settled (.opened own n hopen hpending) ?_
      exact fun h => absurd rfl h
  | begun own n t hopen hpending =>
      rw [endTran_run (out call) effect rfl rfl
        (NpgsqlConnection.isPending_of_pending hpending)
        (heffect ⟨n, database⟩ t hpending)]
      cases hcall : out call with
      | returns =>
          cases hdispose : out .disposeTransaction with
          | returns =>
              refine exact_of_settled (.opened own _ hopen rfl) ?_
              exact fun _ => Or.inl ⟨hcall, hdispose⟩
          | throws damage =>
              -- the transaction is completed, the flag not reset
              refine exact_of_not_truthful
                (not_truthful_of_completed rfl ?_) ?_
              · cases damage <;> rfl
              · intro hclean
                rcases hclean nofun with ⟨_, h⟩ | h
                · cases hdispose.symm.trans h
                · cases hcall.symm.trans h
      | throws damage =>
          have hnot : damage ≠ .nothing →
              ¬EndClean call ⟨own, some n, some t.id, true, true⟩ out := by
            intro hdamage hclean
            rcases hclean nofun with ⟨h, _⟩ | h
            · cases hcall.symm.trans h
            · cases hcall.symm.trans h
              exact hdamage rfl
          cases damage with
          | nothing =>
              refine exact_of_settled (.begun own n t hopen hpending) ?_
              exact fun _ => Or.inr hcall
          | transaction =>
              exact exact_of_not_truthful
                (not_truthful_of_completed rfl rfl) (hnot nofun)
          | connection =>
              exact exact_of_not_truthful
                (not_truthful_of_completed rfl rfl) (hnot nofun)

/-- `Close` of an open connection without a transaction. -/
theorem close_opened_exact (out : Outcomes) (own : String)
    (n : NpgsqlConnection) (database : Database)
    (hopen : n.isOpen = true) (hpending : n.pending = none) :
    Exact (CloseClean ⟨own, some n, none, true, false⟩ out)
      ((close out).run ⟨⟨own, some n, none, true, false⟩, database⟩).2.self
      := by
  rw [close_of_disposed (disposeTran_none rfl), closeConn_run rfl hopen]
  have hcondition : CloseClean ⟨own, some n, none, true, false⟩ out
      ↔ (out .close = .returns ∧ out .disposeConnection = .returns
        ∨ out .close = .throws .nothing
        ∨ out .close = .throws .transaction) := by
    constructor
    · exact fun h => (h hopen).1 hpending
    · exact fun h _ => ⟨fun _ => h, fun hne => absurd hpending hne⟩
  cases hclose : out .close with
  | returns =>
      cases hdispose : out .disposeConnection with
      | returns =>
          refine exact_of_settled (.unconnected own) ?_
          exact hcondition.mpr (Or.inl ⟨hclose, hdispose⟩)
      | throws damage =>
          -- closed, with `blnIsOpen` not reset
          refine exact_of_not_truthful (not_truthful_of_unopened rfl rfl) ?_
          rw [hcondition, hclose, hdispose]
          rintro (⟨_, h⟩ | h | h) <;> cases h
  | throws damage =>
      cases damage with
      | nothing =>
          refine exact_of_settled (.opened own n hopen hpending) ?_
          exact hcondition.mpr (Or.inr (Or.inl hclose))
      | transaction =>
          refine exact_of_settled (.opened own _ hopen rfl) ?_
          exact hcondition.mpr (Or.inr (Or.inr hclose))
      | connection =>
          refine exact_of_not_truthful (not_truthful_of_unopened rfl rfl) ?_
          rw [hcondition, hclose]
          rintro (⟨h, _⟩ | h | h) <;> cases h

/-- `Close` of an open connection with a transaction begun. -/
theorem close_begun_exact (out : Outcomes) (own : String)
    (n : NpgsqlConnection) (t : Transaction) (database : Database)
    (hopen : n.isOpen = true) (hpending : n.pending = some t) :
    Exact (CloseClean ⟨own, some n, some t.id, true, true⟩ out)
      ((close out).run
        ⟨⟨own, some n, some t.id, true, true⟩, database⟩).2.self := by
  have hid := NpgsqlConnection.isPending_of_pending hpending
  have hcondition : CloseClean ⟨own, some n, some t.id, true, true⟩ out
      ↔ (out .disposeTransaction = .returns ∧ out .close = .returns
          ∧ out .disposeConnection = .returns
        ∨ out .disposeTransaction = .throws .nothing) := by
    constructor
    · exact fun h => (h hopen).2 (fun heq => nomatch hpending.symm.trans heq)
    · exact fun h _ =>
        ⟨fun heq => (nomatch hpending.symm.trans heq), fun _ => h⟩
  have htran : (disposeTran out).run
      ⟨⟨own, some n, some t.id, true, true⟩, database⟩ = _ :=
    disposeTran_run rfl rfl
  cases hdispose : out .disposeTransaction with
  | throws damage =>
      rw [hdispose] at htran
      rw [close_of_error htran]
      cases damage with
      | nothing =>
          refine exact_of_settled (.begun own n t hopen hpending) ?_
          exact hcondition.mpr (Or.inr hdispose)
      | transaction | connection =>
          refine exact_of_not_truthful
            (not_truthful_of_completed rfl rfl) ?_
          rw [hcondition, hdispose]
          rintro (⟨h, _⟩ | h) <;> cases h
  | returns =>
      rw [hdispose, if_pos hid] at htran
      rw [close_of_disposed htran, closeConn_run (n := n.discarded) rfl hopen]
      -- the transaction is gone: its flag is false from here to the end
      cases hclose : out .close with
      | throws damage =>
          refine exact_of_not_truthful
            (not_truthful_of_completed rfl ?_) ?_
          · cases damage <;> rfl
          · rw [hcondition, hdispose, hclose]
            rintro (⟨_, h, _⟩ | h) <;> cases h
      | returns =>
          cases hconn : out .disposeConnection with
          | throws damage =>
              refine exact_of_not_truthful
                (not_truthful_of_completed rfl rfl) ?_
              rw [hcondition, hdispose, hclose, hconn]
              rintro (⟨_, _, h⟩ | h) <;> cases h
          | returns =>
              refine exact_of_settled (.unconnected own) ?_
              exact hcondition.mpr (Or.inl ⟨hdispose, hclose, hconn⟩)

/-- `Close` ends settled exactly if it is clean, from each of the four
shapes. -/
theorem close_exact (out : Outcomes) {s : Session} (h : s.self.Settled) :
    Exact (CloseClean s.self out) ((close out).run s).2.self := by
  obtain ⟨c, database⟩ := s
  cases h with
  | unconnected own =>
      rw [close_of_disposed (disposeTran_none rfl), closeConn_none rfl]
      exact exact_of_settled (.unconnected own) nofun
  | unopened own n hopen hpending =>
      rw [close_of_disposed (disposeTran_none rfl),
        closeConn_unopened rfl hopen]
      have hclean : CloseClean ⟨own, some n, none, false, false⟩ out :=
        fun h => nomatch hopen.symm.trans h
      cases out .disposeConnection with
      | returns => exact exact_of_settled (.unconnected own) hclean
      | throws damage =>
          refine exact_of_settled (.unopened own (damage.done n) ?_ ?_) hclean
          · cases damage <;> first | exact hopen | rfl
          · cases damage <;> first | exact hpending | rfl
  | opened own n hopen hpending =>
      exact close_opened_exact out own n database hopen hpending
  | begun own n t hopen hpending =>
      exact close_begun_exact out own n t database hopen hpending

end DataConnection

open DataConnection

-- =============================================================== the runs

/-- Every operation ends settled exactly if it is clean. -/
theorem perform_exact (operation : Operation) (out : Outcomes)
    {s : Session} (h : s.self.Settled) :
    Exact (operation.Clean out s.self)
      ((operation.perform out).run s).2.self := by
  have hopen : ∀ connectionString, Exact True
      ((do let _ ← openWith out connectionString
          : Eff Exn Session Unit).run s).2.self := by
    intro connectionString
    rw [Eff.run_dropped]
    exact exact_of_settled (openWith_settled out connectionString h) trivial
  have hcommit : Exact (EndClean .commit s.self out)
      ((commitTran out).run s).2.self := by
    refine endTran_exact out .commit Wire.committed ?_ h
    intro w t ht
    rw [Wire.committed, ht]
  have hrollback : Exact (EndClean .rollback s.self out)
      ((rollbackTran out).run s).2.self :=
    endTran_exact out .rollback
      (Wire.onConnection NpgsqlConnection.discarded) (fun _ _ _ => rfl) h
  cases operation with
  | open_ | openAsync => exact hopen s.self.connectionString
  | openWith cs | openAsyncWith cs => exact hopen cs
  | close | dispose => exact close_exact out h
  | beginTran | beginTranAsync => exact beginTran_exact out h
  | commitTran | commitTranAsync => exact hcommit
  | rollbackTran | rollbackTranAsync => exact hrollback

/-- In a run of operations on a new `DataConnection` the flags are true in
every state reached exactly if every operation is clean. The first one
that is not leaves a false flag, so the prefix up to it is a
counterexample. -/
theorem flags_truthful_iff (connectionString : String)
    (database : Database) (calls : List (Operation × Outcomes)) :
    (∀ pre, pre <+: calls → ∀ t,
      run Session.step ⟨{ connectionString }, database⟩ pre = some t →
        t.self.Truthful)
    ↔ Along Session.step (fun s call => call.1.Clean call.2 s.self)
        ⟨{ connectionString }, database⟩ calls := by
  refine forall_reached_iff_along (P := fun _ => True)
    (S := fun s : Session => s.self.Settled)
    (T := fun s : Session => s.self.Truthful)
    (fun s call => ⟨_, rfl⟩) (fun s h => h.truthful) ?_ ?_
    (fun _ _ => trivial) (.unconnected connectionString)
  · intro s call t hs _ hstep hclean
    obtain rfl := Option.some.inj hstep
    exact (perform_exact call.1 call.2 hs).1 hclean
  · intro s call t hs _ hstep htrue
    obtain rfl := Option.some.inj hstep
    exact (perform_exact call.1 call.2 hs).2 htrue

/-- A commit that the server refuses leaves `IsTransactionActive` true of
a completed transaction, and a `RollbackTran` after it resets nothing. -/
theorem refused_commit_leaves_flag :
    ∃ s, run Session.step ⟨{ connectionString := "Host=localhost" }, {}⟩
        [(.open_, .allReturn), (.beginTran, .allReturn),
          (.commitTran, .failing .commit .transaction),
          (.rollbackTran, .allReturn)] = some s
      ∧ s.self.isTransactionActive = true ∧ s.self.pending = none
      ∧ ¬s.self.Truthful := by
  refine ⟨_, rfl, rfl, rfl, ?_⟩
  exact not_truthful_of_completed rfl rfl

end SkillBuddy
