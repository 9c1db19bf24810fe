/-
How many mails a message becomes.

# What makes a mail

A mail is accepted when `SendAsync` returns; one that throws has had
nothing accepted. `SmtpProvider` reports a mail that the server took as
failed when the disconnect behind it throws, and a message that comes back
to the queue is handled anew; nothing else makes a second mail.

# Two bounds

`Delivery.surely` and `Delivery.atMost` bound what a delivery has had
accepted so far, from its phase and the calls that threw: each disconnect
that threw stands for a mail, and the attempt under way for one more from
its `SendAsync` on. Each step of its handler changes the message's count
within these bounds (`bounds_advance`), and the rest of the system leaves
them: a new delivery counts nothing yet, taking messages back changes no
count, and a crash only makes it less sure what a handler had done.

The bounds are summed over the deliveries of a message (`System.total`),
and `Counted` says that the count of every message lies between the sums.
A step changes one summand (`sum_range_change`). In the end the count lies
between the disconnects that threw and those together with the deliveries,
since the attempt under way is one for each delivery at most
(`accepted_between`).
-/
import SkillBuddy.Proofs.Attempts
import Mathlib.Algebra.BigOperators.Group.Finset.Basic
import Mathlib.Algebra.Order.BigOperators.Group.Finset

namespace SkillBuddy

open DotNet
open Lib

variable {B : Type} {codec : JsonCodec B} {s t : System B} {e : Event B}

-- ===================================================== what a delivery did

/-- The disconnects that threw: the server had taken the mail. -/
def Delivery.hangUps (delivery : Delivery) : Nat :=
  delivery.failed.count .disconnect

/-- The mail of the attempt that is under way was taken. -/
def Phase.mailTaken : Phase → Nat
  | .sending _ _ .disconnect => 1
  | .sending _ _ _ | .received | .acking | .nacking _ | .done => 0

/-- The mail of the last attempt may have been taken. -/
def Phase.mayHaveMailed : Phase → Nat
  | .sending _ _ .disconnect => 1
  | .acking | .nacking .ackFailed | .done => 1
  | .sending _ _ _ | .received | .nacking _ => 0

/-- So many mails at least the server took from a delivery. -/
def Delivery.surely (delivery : Delivery) : Nat :=
  delivery.hangUps + delivery.phase.mailTaken

/-- So many at most. -/
def Delivery.atMost (delivery : Delivery) : Nat :=
  delivery.hangUps + delivery.phase.mayHaveMailed

/-- It is one attempt. -/
theorem Phase.mayHaveMailed_le (phase : Phase) :
    phase.mayHaveMailed ≤ 1 := by
  unfold Phase.mayHaveMailed
  split <;> decide

/-- The count of a message is not for its handler to settle. -/
theorem accepted_settle (d : Nat) (place : Place) (reached : Bool)
    (message : Message B) :
    ((if reached then Message.settle d place else id) message).accepted
      = message.accepted := by
  cases reached with
  | false => rfl
  | true =>
      show (Message.settle d place message).accepted = _
      unfold Message.settle
      split <;> rfl

/-- A handler's step changes its message's count within the bounds: only a
send that returns changes it, by one, and then both bounds. -/
theorem bounds_advance {d : Nat} {delivery delivery' : Delivery}
    {effect : Message B → Message B}
    (h : Advance codec s d delivery e delivery' effect)
    (message : Message B) :
    delivery'.surely + message.accepted
        ≤ (effect message).accepted + delivery.surely
      ∧ (effect message).accepted + delivery.atMost
        ≤ message.accepted + delivery'.atMost := by
  unfold Delivery.surely Delivery.atMost Delivery.hangUps
  cases h with
  | prepare fs message' hphase hmessage' =>
      rw [hphase]
      cases prepare codec fs message'.body with
      | error why =>
          simp only [Delivery.prepared, Phase.mailTaken,
            Phase.mayHaveMailed, id]
          omega
      | ok mail =>
          cases mail with
          | none =>
              simp only [Delivery.prepared, Phase.mailTaken,
                Phase.mayHaveMailed, id]
              omega
          | some mail =>
              simp only [Delivery.prepared, Phase.mailTaken,
                Phase.mayHaveMailed, id]
              omega
  | returned mail retryCount call hphase =>
      -- The server takes the mail as `SendAsync` returns.
      rw [hphase]
      cases call with
      | send =>
          simp only [Delivery.returned, SmtpCall.next, Phase.mailTaken,
            Phase.mayHaveMailed, if_true, Message.accept]
          omega
      | disconnect =>
          simp only [Delivery.returned, SmtpCall.next, Phase.mailTaken,
            Phase.mayHaveMailed, reduceCtorEq, if_false, id]
          omega
      | build =>
          simp only [Delivery.returned, SmtpCall.next, Phase.mailTaken,
            Phase.mayHaveMailed, reduceCtorEq, if_false, id]
          omega
      | connect =>
          simp only [Delivery.returned, SmtpCall.next, Phase.mailTaken,
            Phase.mayHaveMailed, reduceCtorEq, if_false, id]
          omega
      | authenticate =>
          simp only [Delivery.returned, SmtpCall.next, Phase.mailTaken,
            Phase.mayHaveMailed, reduceCtorEq, if_false, id]
          omega
  | threw mail retryCount call hphase =>
      rw [hphase]
      have htaken : (Phase.sending mail retryCount call).mailTaken
          = if call = .disconnect then 1 else 0 := by
        cases call <;> rfl
      have hmay : (Phase.sending mail retryCount call).mayHaveMailed
          = if call = .disconnect then 1 else 0 := by
        cases call <;> rfl
      have hnext : (delivery.threw mail retryCount call).phase.mailTaken = 0
          ∧ (delivery.threw mail retryCount call).phase.mayHaveMailed
            = 0 := by
        unfold Delivery.threw
        dsimp only
        split
        · exact ⟨rfl, rfl⟩
        · exact ⟨rfl, rfl⟩
      have hfailed : (delivery.threw mail retryCount call).failed.count
            .disconnect
          = delivery.failed.count .disconnect
            + if call = .disconnect then 1 else 0 := by
        show (delivery.failed ++ [call]).count .disconnect = _
        rw [List.count_append, List.count_singleton]
        simp
      rw [htaken, hmay, hnext.1, hnext.2, hfailed, id]
      omega
  | ack how phase hphase hnext hlive =>
      have hbefore : Phase.acking.mayHaveMailed = 1 := rfl
      have hafter : phase.mayHaveMailed = 1 ∧ phase.mailTaken = 0 := by
        rw [hnext]
        cases how with
        | returned => exact ⟨rfl, rfl⟩
        | threw reached => exact ⟨rfl, rfl⟩
      dsimp only
      rw [hphase, accepted_settle, hbefore, hafter.1, hafter.2]
      omega
  | nack how why hphase hlive =>
      have hle := (Phase.nacking why).mayHaveMailed_le
      rw [hphase, accepted_settle]
      simp only [Phase.mailTaken, Phase.mayHaveMailed] at hle ⊢
      omega

-- ==================================================== over all deliveries

/-- What a delivery counts for message `m`. -/
def countFor (f : Delivery → Nat) (m : Nat) (delivery : Option Delivery) :
    Nat :=
  delivery.elim 0 fun delivery =>
    if delivery.message = m then f delivery else 0

/-- Over all deliveries of message `m`. -/
def System.total (s : System B) (f : Delivery → Nat) (m : Nat) : Nat :=
  ∑ d ∈ Finset.range s.delivered, countFor f m (s.delivery d)

/-- A delivery that counts less counts less for every message, -/
theorem countFor_le {f g : Delivery → Nat}
    (h : ∀ delivery, f delivery ≤ g delivery)
    (m : Nat) (delivery : Option Delivery) :
    countFor f m delivery ≤ countFor g m delivery := by
  cases delivery with
  | none => exact Nat.le_refl _
  | some delivery =>
      show (if _ then _ else _) ≤ if _ then _ else _
      split
      · exact h delivery
      · exact Nat.le_refl _

/-- and so do all of them. -/
theorem total_le {f g : Delivery → Nat}
    (h : ∀ delivery, f delivery ≤ g delivery)
    (m : Nat) : s.total f m ≤ s.total g m :=
  Finset.sum_le_sum fun d _ => countFor_le h m (s.delivery d)

/-- What is counted for two reasons is the sum of both. -/
theorem total_add (f g : Delivery → Nat) (m : Nat) :
    s.total (fun delivery => f delivery + g delivery) m
      = s.total f m + s.total g m := by
  unfold System.total
  rw [← Finset.sum_add_distrib]
  refine Finset.sum_congr rfl fun d _ => ?_
  cases s.delivery d with
  | none => rfl
  | some delivery =>
      show (if _ then _ else _) = (if _ then _ else _) + if _ then _ else _
      split <;> rfl

/-- A sum of which one summand changes. -/
theorem sum_range_change {n d : Nat} (hd : d < n) {f g : Nat → Nat}
    (h : ∀ k, k ≠ d → g k = f k) :
    ∑ k ∈ Finset.range n, g k + f d = ∑ k ∈ Finset.range n, f k + g d := by
  have hmem : d ∈ Finset.range n := Finset.mem_range.mpr hd
  have hothers : ∑ k ∈ (Finset.range n).erase d, g k
      = ∑ k ∈ (Finset.range n).erase d, f k :=
    Finset.sum_congr rfl fun k hk => h k (Finset.ne_of_mem_erase hk)
  rw [← Finset.add_sum_erase _ g hmem, ← Finset.add_sum_erase _ f hmem,
    hothers]
  omega

/-- A handler's step changes what its own delivery counts. -/
theorem total_advance (hinv : LossInv codec s) {d : Nat}
    {delivery : Delivery} (hdelivery : s.delivery d = some delivery)
    (delivery' : Delivery) (effect : Message B → Message B)
    (f : Delivery → Nat) (m : Nat) :
    (s.advance d delivery' effect).total f m + countFor f m (some delivery)
      = s.total f m + countFor f m (some delivery') := by
  have hd : d < s.delivered := by
    by_contra hge
    rw [hinv.undelivered d (by omega)] at hdelivery
    cases hdelivery
  have hchange := sum_range_change hd
    (f := fun k => countFor f m (s.delivery k))
    (g := fun k => countFor f m ((s.advance d delivery' effect).delivery k))
    (fun k hk => by rw [delivery_advance, if_neg hk])
  rw [hdelivery, delivery_advance, if_pos rfl] at hchange
  exact hchange

/-- A new delivery counts nothing yet. -/
theorem total_deliver {k : Nat} {f : Delivery → Nat} (m : Nat)
    (hzero : f { message := k, channel := s.channel } = 0) :
    (s.deliverMessage k).total f m = s.total f m := by
  show ∑ d ∈ Finset.range (s.delivered + 1),
    countFor f m ((s.deliverMessage k).delivery d) = _
  have hnew : (s.deliverMessage k).delivery s.delivered
      = some { message := k, channel := s.channel } :=
    Function.update_self _ _ _
  have hcount : countFor f m (some { message := k, channel := s.channel })
      = 0 := by
    show (if _ then _ else _) = 0
    split
    · exact hzero
    · rfl
  rw [Finset.sum_range_succ, hnew, hcount, Nat.add_zero]
  refine Finset.sum_congr rfl fun d hd => ?_
  have hne : d ≠ s.delivered := (Finset.mem_range.mp hd).ne
  rw [show (s.deliverMessage k).delivery d = s.delivery d from
    Function.update_of_ne hne _ _]

-- ================================================================ the count

/-- The count of every message is within the bounds of its deliveries. -/
def Counted (s : System B) : Prop :=
  ∀ m message, s.message m = some message →
    s.total Delivery.surely m ≤ message.accepted
      ∧ message.accepted ≤ s.total Delivery.atMost m

/-- A message that is not published yet has no deliveries. -/
theorem total_unpublished (hinv : LossInv codec s) (f : Delivery → Nat)
    {m : Nat} (hm : s.message m = none) : s.total f m = 0 := by
  refine Finset.sum_eq_zero fun d _ => ?_
  cases hdelivery : s.delivery d with
  | none => rfl
  | some delivery =>
      obtain ⟨message, hmessage, -⟩ := hinv.delivery d delivery hdelivery
      refine if_neg fun heq => ?_
      rw [heq, hm] at hmessage
      cases hmessage

/-- A handler's step keeps the counts within the bounds, -/
theorem counted_handler (hinv : LossInv codec s) (h : Counted s) {d : Nat}
    {delivery delivery' : Delivery} {effect : Message B → Message B}
    (hdelivery : s.delivery d = some delivery)
    (hadvance : Advance codec s d delivery e delivery' effect) :
    Counted (s.advance d delivery' effect) := by
  obtain ⟨hsame, -, -, -⟩ := advance_frame hadvance
  intro m message' hmessage'
  obtain ⟨message, hmessage, rfl⟩ := message_advance hmessage'
  obtain ⟨hlower, hupper⟩ := h m message hmessage
  have hsurely :=
    total_advance hinv hdelivery delivery' effect Delivery.surely m
  have hatMost :=
    total_advance hinv hdelivery delivery' effect Delivery.atMost m
  by_cases hm : m = delivery'.message
  · obtain ⟨hless, hmore⟩ := bounds_advance hadvance message
    have hown : ∀ f : Delivery → Nat,
        countFor f m (some delivery) = f delivery
        ∧ countFor f m (some delivery') = f delivery' :=
      fun f => ⟨if_pos (hsame.symm.trans hm.symm), if_pos hm.symm⟩
    rw [(hown _).1, (hown _).2] at hsurely hatMost
    rw [if_pos hm]
    constructor <;> omega
  · have hother : ∀ f : Delivery → Nat, countFor f m (some delivery) = 0
        ∧ countFor f m (some delivery') = 0 :=
      fun f => ⟨if_neg fun heq => hm (heq.symm.trans hsame.symm),
        if_neg fun heq => hm heq.symm⟩
    rw [(hother _).1, (hother _).2] at hsurely hatMost
    rw [if_neg hm]
    constructor <;> omega

/-- Taking messages back changes no count. -/
theorem counted_requeue {u : System B} (h : Counted s)
    (hdelivery : ∀ m, s.total Delivery.atMost m ≤ u.total Delivery.atMost m
      ∧ u.total Delivery.surely m ≤ s.total Delivery.surely m)
    (hmessage : ∀ m, u.message m = (s.message m).map Message.requeue) :
    Counted u := by
  intro m message' hmessage'
  rw [hmessage] at hmessage'
  obtain ⟨message, hm, rfl⟩ := Option.map_eq_some_iff.mp hmessage'
  have haccepted : message.requeue.accepted = message.accepted := by
    unfold Message.requeue
    split <;> rfl
  obtain ⟨hlower, hupper⟩ := h m message hm
  rw [haccepted]
  exact ⟨(hdelivery m).2.trans hlower, hupper.trans (hdelivery m).1⟩

/-- A crash ends the handlers: what they did is less sure. -/
theorem total_crash (m : Nat) :
    s.total Delivery.atMost m ≤ s.crashWorker.total Delivery.atMost m
      ∧ s.crashWorker.total Delivery.surely m
        ≤ s.total Delivery.surely m := by
  have hdone : ∀ d, s.crashWorker.delivery d
      = (s.delivery d).map fun delivery =>
          { delivery with phase := .done } :=
    fun d => rfl
  refine ⟨Finset.sum_le_sum fun d _ => ?_, Finset.sum_le_sum fun d _ => ?_⟩
  · rw [hdone]
    cases s.delivery d with
    | none => exact Nat.le_refl _
    | some delivery =>
        show (if delivery.message = m then _ else _)
          ≤ if delivery.message = m then _ else _
        split
        · exact Nat.add_le_add_left delivery.phase.mayHaveMailed_le _
        · exact Nat.le_refl _
  · rw [hdone]
    cases s.delivery d with
    | none => exact Nat.le_refl _
    | some delivery =>
        show (if delivery.message = m then _ else _)
          ≤ if delivery.message = m then _ else _
        split
        · exact Nat.add_le_add_left (Nat.zero_le _) _
        · exact Nat.le_refl _

/-- and so does every step. -/
theorem counted_step (hinv : LossInv codec s) (h : Counted s)
    (hstep : s.step codec e = some t) : Counted t := by
  cases step_spec hstep with
  | publish body =>
      intro m message hmessage
      change Function.update s.message s.published _ m = _ at hmessage
      rw [Function.update_apply] at hmessage
      by_cases hm : m = s.published
      · rw [if_pos hm] at hmessage
        obtain rfl := Option.some.inj hmessage
        have hnone := hinv.unpublished m hm.ge
        refine ⟨?_, Nat.zero_le _⟩
        exact (total_unpublished hinv Delivery.surely hnone).le
      · rw [if_neg hm] at hmessage
        exact h m message hmessage
  | start hclosed => exact h
  | deliver k old hold hopen hplace =>
      intro m message hmessage
      rw [total_deliver m rfl, total_deliver m rfl]
      change Function.update s.message k _ m = _ at hmessage
      rw [Function.update_apply] at hmessage
      by_cases hm : m = k
      · rw [if_pos hm, hold] at hmessage
        obtain rfl := Option.some.inj hmessage
        exact h m old (by rw [hm, hold])
      · rw [if_neg hm] at hmessage
        exact h m message hmessage
  | handler d delivery delivery' e effect hdelivery hadvance =>
      exact counted_handler hinv h hdelivery hadvance
  | stop hopen =>
      exact counted_requeue h (fun m => ⟨Nat.le_refl _, Nat.le_refl _⟩)
        fun m => rfl
  | crash => exact counted_requeue h total_crash fun m => rfl

/-- In every run, whatever fails and whenever the worker stops or dies: the
server takes at least one mail for each disconnect that threw, and at most
one more for each delivery of the message. -/
theorem accepted_between {events : List (Event B)} {s : System B}
    (hrun : run (System.step codec) {} events = some s) {m : Nat}
    {message : Message B} (hmessage : s.message m = some message) :
    s.total Delivery.hangUps m ≤ message.accepted
      ∧ message.accepted
        ≤ s.total Delivery.hangUps m + s.total (fun _ => 1) m := by
  have hinit : LossInv codec ({} : System B) ∧ Counted ({} : System B) :=
    ⟨⟨fun _ _ => rfl, fun _ _ => rfl, nofun, nofun⟩, nofun⟩
  have hstep : ∀ s e t, LossInv codec s ∧ Counted s →
      s.step codec e = some t → LossInv codec t ∧ Counted t :=
    fun s e t h hstep =>
      ⟨lossInv_step h.1 hstep, counted_step h.1 h.2 hstep⟩
  obtain ⟨hlower, hupper⟩ :=
    (run_invariant_all hstep hinit hrun).2 m message hmessage
  refine ⟨le_trans (total_le (fun delivery => ?_) m) hlower,
    le_trans hupper ?_⟩
  · exact Nat.le_add_right _ _
  · rw [← total_add]
    refine total_le (fun delivery => ?_) m
    exact Nat.add_le_add_left delivery.phase.mayHaveMailed_le _

/-- One delivery whose first disconnect throws: two mails. -/
theorem accepted_between_hangUp :
    ∃ s message, run (System.step JsonCodec.document) {}
        ([.publish reminder, .start, .deliver 0, .prepare 0 .empty]
          ++ unhungUp
          ++ [.smtp 0 true, .smtp 0 true, .smtp 0 true, .smtp 0 true])
        = some s
      ∧ s.message 0 = some message
      ∧ s.total Delivery.hangUps 0 ≤ message.accepted
      ∧ message.accepted ≤ 2 := by
  obtain ⟨s, message, hrun, hmessage, htotal⟩ :
      ∃ s message, run (System.step JsonCodec.document) {}
          ([.publish reminder, .start, .deliver 0, .prepare 0 .empty]
            ++ unhungUp
            ++ [.smtp 0 true, .smtp 0 true, .smtp 0 true, .smtp 0 true])
          = some s
        ∧ s.message 0 = some message
        ∧ s.total Delivery.hangUps 0 + s.total (fun _ => 1) 0 = 2 :=
    ⟨_, _, rfl, rfl, by decide⟩
  obtain ⟨hlower, hupper⟩ := accepted_between hrun hmessage
  exact ⟨s, message, hrun, hmessage, hlower, htotal ▸ hupper⟩

end SkillBuddy
