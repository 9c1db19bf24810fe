/-
No message is stuck.

# A way on

A message can stay unsettled for long: its handler is gone, or its nack
threw. But the broker takes it back when the channel closes. So from every
state a run can reach there is a way on that settles it
(`unsettled_message_settles`): the worker is restarted, the message
delivered anew, and handled by a server that does not fail. What it comes
to then is decided by its body and the templates alone
(`Message.handled`).

# The run

The run is built from its parts. A restart closes the channel, if it is
open, and opens another; over a closed channel nothing is unsettled, which
is an invariant of the system (`Returned`), so afterwards the message is
queued (`run_restart`). The broker delivers it (`underWay_deliver`), and
from then on it is under way: its delivery is over the open channel, and
the broker waits for this delivery (`UnderWay`). Each step of a handler no
call of which fails is one lemma, from the preparation over the five calls
to the ack or the nack, and `UnderWay.handling` is all of them in a row.

This is about what can happen, not about what must: a run may also go on
for ever with a server that always fails, or stop.
-/
import SkillBuddy.Proofs.Attempts

namespace SkillBuddy

open DotNet
open Lib

variable {B : Type} {codec : JsonCodec B} {s t : System B}

-- ========================================================== one handling

/-- What becomes of a message that is handled without a failing call, by
delivery `d`. -/
def Message.handled (message : Message B) (d : Nat) :
    Except Failure (Option Mail) → Message B
  | .error why => { message with place := .nacked d why }
  | .ok none => { message with place := .acked }
  | .ok (some _) =>
      { message with place := .acked, accepted := message.accepted + 1 }

/-- The steps of a handler no call of which fails. -/
def handling (d : Nat) (fs : TemplateService.FileSystem) :
    Except Failure (Option Mail) → List (Event B)
  | .error _ => [.prepare d fs, .settle d .returned]
  | .ok none => [.prepare d fs, .settle d .returned]
  | .ok (some _) =>
      [.prepare d fs, .smtp d true, .smtp d true, .smtp d true, .smtp d true,
        .smtp d true, .settle d .returned]

/-- Delivery `d` of message `m` is under way over the open channel. -/
structure UnderWay (s : System B) (d m : Nat) (message : Message B)
    (phase : Phase) : Prop where
  delivery : ∃ failed, s.delivery d = some ⟨m, s.channel, phase, failed⟩
  channelOpen : s.channelOpen = true
  published : s.message m = some message
  unsettled : message.place = .unsettled d

variable {d m : Nat} {message : Message B} {phase : Phase}

/-- A handler's step leaves a message that it does not settle under way. -/
theorem underWay_advance {delivery : Delivery}
    {effect : Message B → Message B} (h : UnderWay s d m message phase)
    (hmessage : delivery.message = m)
    (hchannel : delivery.channel = s.channel)
    (heffect : (effect message).place = .unsettled d) :
    UnderWay (s.advance d delivery effect) d m (effect message)
      delivery.phase := by
  subst hmessage
  refine ⟨⟨delivery.failed, ?_⟩, h.channelOpen,
    message_advance_self h.published, heffect⟩
  rw [delivery_advance, if_pos rfl]
  obtain ⟨own, channel, phase', failed⟩ := delivery
  dsimp only at hchannel ⊢
  rw [hchannel]
  rfl

/-- The phase after `prepare`. -/
def Phase.prepared : Except Failure (Option Mail) → Phase
  | .error why => .nacking why
  | .ok none => .acking
  | .ok (some mail) => .sending mail 0 .build

theorem prepared_phase (delivery : Delivery)
    (r : Except Failure (Option Mail)) :
    (delivery.prepared r).phase = Phase.prepared r
      ∧ (delivery.prepared r).message = delivery.message
      ∧ (delivery.prepared r).channel = delivery.channel := by
  cases r with
  | error why => exact ⟨rfl, rfl, rfl⟩
  | ok mail =>
      cases mail with
      | none => exact ⟨rfl, rfl, rfl⟩
      | some mail => exact ⟨rfl, rfl, rfl⟩

/-- The request is read and the mail built. -/
theorem UnderWay.prepare (codec : JsonCodec B)
    (h : UnderWay s d m message .received)
    (fs : TemplateService.FileSystem) :
    ∃ t, s.step codec (.prepare d fs) = some t
      ∧ UnderWay t d m message
        (Phase.prepared (SkillBuddy.prepare codec fs message.body)) := by
  obtain ⟨failed, hdelivery⟩ := h.delivery
  obtain ⟨hphase, hmessage, hchannel⟩ := prepared_phase
    ⟨m, s.channel, .received, failed⟩
    (SkillBuddy.prepare codec fs message.body)
  have hstep : s.step codec (.prepare d fs)
      = some (s.advance d (Delivery.prepared
          ⟨m, s.channel, .received, failed⟩
          (SkillBuddy.prepare codec fs message.body)) id) := by
    simp only [System.step, hdelivery, h.published]
  refine ⟨_, hstep, ?_⟩
  rw [← hphase]
  exact underWay_advance h hmessage hchannel h.unsettled

/-- A call returns. -/
theorem UnderWay.smtp (codec : JsonCodec B) {mail : Mail}
    {retryCount : Nat} {call : SmtpCall}
    (h : UnderWay s d m message (.sending mail retryCount call)) :
    ∃ t, s.step codec (.smtp d true) = some t
      ∧ UnderWay t d m
        ((if call = .send then Message.accept else id) message)
        (call.next.elim .acking (.sending mail retryCount ·)) := by
  obtain ⟨failed, hdelivery⟩ := h.delivery
  have hstep : s.step codec (.smtp d true)
      = some (s.advance d (Delivery.returned
          ⟨m, s.channel, .sending mail retryCount call, failed⟩
          mail retryCount call)
          (if call = .send then Message.accept else id)) := by
    simp only [System.step, hdelivery, if_true]
  have hunsettled : ((if call = .send then Message.accept else id)
      message).place = .unsettled d := by
    split
    · exact h.unsettled
    · exact h.unsettled
  refine ⟨_, hstep, ?_⟩
  cases call with
  | disconnect => exact underWay_advance h rfl rfl hunsettled
  | build => exact underWay_advance h rfl rfl hunsettled
  | connect => exact underWay_advance h rfl rfl hunsettled
  | authenticate => exact underWay_advance h rfl rfl hunsettled
  | send => exact underWay_advance h rfl rfl hunsettled

/-- A broker call over the open channel that returns. The delivery is the
one the broker waits for, so the message is settled. -/
theorem UnderWay.settle (h : UnderWay s d m message phase)
    (failed : List SmtpCall) (phase' : Phase) (place : Place) :
    ∃ t, s.settle d ⟨m, s.channel, phase', failed⟩ place .returned = some t
      ∧ t.message m = some { message with place } := by
  have hlive : s.live ⟨m, s.channel, phase', failed⟩ = true := by
    rw [System.live, h.channelOpen, Bool.true_and]
    exact beq_self_eq_true s.channel
  have hsettle : Message.settle d place message = { message with place } :=
    if_pos h.unsettled
  refine ⟨s.advance d ⟨m, s.channel, phase', failed⟩
    (Message.settle d place), ?_, ?_⟩
  · rw [System.settle, hlive]
    rfl
  · rw [← hsettle]
    exact message_advance_self h.published

/-- The ack. -/
theorem UnderWay.ack (codec : JsonCodec B)
    (h : UnderWay s d m message .acking) :
    ∃ t, s.step codec (.settle d .returned) = some t
      ∧ t.message m = some { message with place := .acked } := by
  obtain ⟨failed, hdelivery⟩ := h.delivery
  obtain ⟨t, hsettle, hmessage⟩ := h.settle failed .done .acked
  refine ⟨t, ?_, hmessage⟩
  simp only [System.step, hdelivery]
  exact hsettle

/-- The nack. -/
theorem UnderWay.nack (codec : JsonCodec B) {why : Failure}
    (h : UnderWay s d m message (.nacking why)) :
    ∃ t, s.step codec (.settle d .returned) = some t
      ∧ t.message m = some { message with place := .nacked d why } := by
  obtain ⟨failed, hdelivery⟩ := h.delivery
  obtain ⟨t, hsettle, hmessage⟩ := h.settle failed .done (.nacked d why)
  refine ⟨t, ?_, hmessage⟩
  simp only [System.step, hdelivery]
  exact hsettle

/-- An attempt no call of which fails, and the ack. -/
theorem UnderWay.mail (codec : JsonCodec B) {mail : Mail} {retryCount : Nat}
    (h : UnderWay s d m message (.sending mail retryCount .build)) :
    ∃ t, run (System.step codec) s
        [.smtp d true, .smtp d true, .smtp d true, .smtp d true,
          .smtp d true, .settle d .returned] = some t
      ∧ t.message m = some
        { message with
          place := .acked
          accepted := message.accepted + 1 } := by
  obtain ⟨u₁, h₁, hbuilt⟩ := h.smtp codec
  obtain ⟨u₂, h₂, hconnected⟩ := hbuilt.smtp codec
  obtain ⟨u₃, h₃, hauthenticated⟩ := hconnected.smtp codec
  obtain ⟨u₄, h₄, hsent⟩ := hauthenticated.smtp codec
  obtain ⟨u₅, h₅, hdisconnected⟩ := hsent.smtp codec
  obtain ⟨t, h₆, hmessage⟩ := hdisconnected.ack codec
  refine ⟨t, ?_, hmessage⟩
  rw [run_cons, h₁, Option.bind_some, run_cons, h₂, Option.bind_some,
    run_cons, h₃, Option.bind_some, run_cons, h₄, Option.bind_some,
    run_cons, h₅, Option.bind_some, run_cons, h₆]
  rfl

/-- The whole of a delivery without a failing call. -/
theorem UnderWay.handling (codec : JsonCodec B)
    (h : UnderWay s d m message .received)
    (fs : TemplateService.FileSystem) :
    ∃ t, run (System.step codec) s
        (handling d fs (SkillBuddy.prepare codec fs message.body)) = some t
      ∧ t.message m = some
        (message.handled d (SkillBuddy.prepare codec fs message.body)) := by
  obtain ⟨u, hu, hprepared⟩ := h.prepare codec fs
  cases hresult : SkillBuddy.prepare codec fs message.body with
  | error why =>
      rw [hresult] at hprepared
      obtain ⟨t, ht, hmessage⟩ := hprepared.nack codec
      refine ⟨t, ?_, hmessage⟩
      rw [SkillBuddy.handling, run_cons, hu, Option.bind_some, run_cons, ht]
      rfl
  | ok mail =>
      cases mail with
      | none =>
          rw [hresult] at hprepared
          obtain ⟨t, ht, hmessage⟩ := hprepared.ack codec
          refine ⟨t, ?_, hmessage⟩
          rw [SkillBuddy.handling, run_cons, hu, Option.bind_some, run_cons,
            ht]
          rfl
      | some mail =>
          rw [hresult] at hprepared
          obtain ⟨t, ht, hmessage⟩ := hprepared.mail codec
          refine ⟨t, ?_, hmessage⟩
          rw [SkillBuddy.handling, run_cons, hu, Option.bind_some]
          exact ht

-- =========================================================== the restart

/-- Over a closed channel nothing is unsettled. -/
def Returned (s : System B) : Prop :=
  s.channelOpen = false → ∀ m message, s.message m = some message →
    ∀ d, message.place ≠ .unsettled d

/-- A message that is taken back is not unsettled. -/
theorem requeue_ne_unsettled (message : Message B) (d : Nat) :
    message.requeue.place ≠ .unsettled d := by
  unfold Message.requeue
  split
  · exact nofun
  next hplace => rw [hplace]; exact nofun
  next hplace => rw [hplace]; exact nofun
  next hplace => rw [hplace]; exact nofun

/-- So closing the channel leaves none, -/
theorem returned_closeChannel (s : System B) : Returned s.closeChannel := by
  intro _ m message' hmessage' d
  obtain ⟨message, -, rfl⟩ := Option.map_eq_some_iff.mp hmessage'
  exact requeue_ne_unsettled message d

/-- and with the channel closed none comes to be. -/
theorem returned_step {e : Event B} (h : Returned s)
    (hstep : s.step codec e = some t) : Returned t := by
  cases step_spec hstep with
  | publish body =>
      intro hclosed m message hmessage
      change Function.update s.message s.published _ m = _ at hmessage
      rw [Function.update_apply] at hmessage
      by_cases hm : m = s.published
      · rw [if_pos hm] at hmessage
        obtain rfl := Option.some.inj hmessage
        exact nofun
      · rw [if_neg hm] at hmessage
        exact h hclosed m message hmessage
  | start hclosed => exact fun hopen => nomatch hopen
  | deliver m message hmessage hopen hplace =>
      exact fun hclosed => absurd (hopen.symm.trans hclosed) Bool.noConfusion
  | handler k delivery delivery' e effect hdelivery hadvance =>
      intro hclosed m message' hmessage' d
      obtain ⟨message, hmessage, rfl⟩ := message_advance hmessage'
      have hsettled := h hclosed m message hmessage
      split
      · rcases place_advance hadvance message with
          hkept | ⟨hunsettled, -⟩
        · rw [hkept]
          exact hsettled d
        · exact absurd hunsettled (hsettled k)
      · exact hsettled d
  | stop hopen => exact returned_closeChannel s
  | crash => exact returned_closeChannel s

/-- The worker is started again. -/
def System.restart (s : System B) : List (Event B) :=
  if s.channelOpen then [.stop, .start] else [.start]

/-- After the restart the channel is open and a message that was not
settled is queued. -/
theorem run_restart (codec : JsonCodec B) (h : Returned s)
    (hmessage : s.message m = some message)
    (hheld : message.place.Held) :
    ∃ t, run (System.step codec) s s.restart = some t
      ∧ t.channelOpen = true ∧ t.delivered = s.delivered
      ∧ t.message m = some { message with place := .queued } := by
  cases hopen : s.channelOpen with
  | true =>
      have hqueued :
          message.requeue = { message with place := .queued } := by
        unfold Message.requeue
        split
        · rfl
        next hplace => rw [← hplace]
        next hplace => rw [hplace] at hheld; exact hheld.elim
        next hplace => rw [hplace] at hheld; exact hheld.elim
      refine ⟨s.closeChannel.startWorker, ?_, rfl, rfl, ?_⟩
      · rw [System.restart, if_pos hopen, run_cons, System.step,
          if_pos hopen]
        rfl
      · show (s.message m).map Message.requeue = _
        rw [hmessage, Option.map_some, hqueued]
  | false =>
      have hqueued : message = { message with place := .queued } := by
        cases hplace : message.place with
        | queued => rw [← hplace]
        | unsettled d =>
            exact absurd hplace (h hopen m message hmessage d)
        | acked => rw [hplace] at hheld; exact hheld.elim
        | nacked d why => rw [hplace] at hheld; exact hheld.elim
      refine ⟨s.startWorker, ?_, rfl, rfl, ?_⟩
      · rw [System.restart, if_neg (by simp [hopen]), run_cons, System.step,
          if_neg (by simp [hopen])]
        rfl
      · rw [← hqueued]
        exact hmessage

/-- The broker delivers a queued message over the open channel. -/
theorem underWay_deliver (codec : JsonCodec B)
    (hopen : s.channelOpen = true)
    (hmessage : s.message m = some message)
    (hplace : message.place = .queued) :
    ∃ t, s.step codec (.deliver m) = some t
      ∧ UnderWay t s.delivered m
        { message with place := .unsettled s.delivered } .received := by
  refine ⟨s.deliverMessage m, ?_, ⟨[], ?_⟩, hopen, ?_, rfl⟩
  · simp only [System.step, hmessage, hopen, hplace, and_self, if_true]
  · exact Function.update_self _ _ _
  · show Function.update s.message m ((s.message m).map _) m = _
    rw [Function.update_self, hmessage]
    rfl

/-- From every state a run can reach, a message that the broker still has
can be settled: the worker is restarted, the message delivered once more,
and its handler meets no failing call. A mail that can be built is then
sent and acked, a request without a recipient acked, and a message that
fails before the first call nacked. -/
theorem unsettled_message_settles {events : List (Event B)} {s : System B}
    (hrun : run (System.step codec) {} events = some s) {m : Nat}
    {message : Message B} (hmessage : s.message m = some message)
    (hheld : message.place.Held) (fs : TemplateService.FileSystem) :
    ∃ t, run (System.step codec) s (s.restart ++ .deliver m
          :: handling s.delivered fs (prepare codec fs message.body))
        = some t
      ∧ t.message m = some
        (message.handled s.delivered (prepare codec fs message.body)) := by
  have hfirst : Returned ({} : System B) := by
    intro _ m message hmessage
    cases hmessage
  have hreturned : Returned s :=
    run_invariant_all (fun _ _ _ h hstep => returned_step h hstep) hfirst
      hrun
  obtain ⟨u, hu, hopen, hdelivered, hqueued⟩ :=
    run_restart codec hreturned hmessage hheld
  obtain ⟨v, hv, hunderWay⟩ := underWay_deliver codec hopen hqueued
    rfl
  obtain ⟨t, ht, hhandled⟩ := hunderWay.handling codec fs
  rw [hdelivered] at ht hhandled
  refine ⟨t, ?_, ?_⟩
  · refine run_append_eq_some.mpr ⟨u, hu, ?_⟩
    exact run_cons_eq_some.mpr ⟨v, hv, ht⟩
  · rw [hhandled]
    cases prepare codec fs message.body with
    | error why => rfl
    | ok mail =>
        cases mail with
        | none => rfl
        | some mail => rfl

/-- A message whose nack throws is still unsettled, its handler gone. -/
theorem unsettled_message_settles_reminder :
    ∃ s message t, run (System.step JsonCodec.document) {}
        [.publish reminder, .start, .deliver 0, .prepare 0 .empty,
          .smtp 0 true, .smtp 0 false, .smtp 0 true, .smtp 0 false,
          .smtp 0 true, .smtp 0 false, .smtp 0 true, .smtp 0 false,
          .settle 0 (.threw false)] = some s
      ∧ s.message 0 = some message ∧ message.place = .unsettled 0
      ∧ run (System.step JsonCodec.document) s
        (s.restart ++ .deliver 0 :: handling s.delivered .empty
          (prepare JsonCodec.document .empty message.body)) = some t := by
  obtain ⟨s, message, hrun, hmessage, hplace⟩ :
      ∃ s message, run (System.step JsonCodec.document) {}
          [.publish reminder, .start, .deliver 0, .prepare 0 .empty,
            .smtp 0 true, .smtp 0 false, .smtp 0 true, .smtp 0 false,
            .smtp 0 true, .smtp 0 false, .smtp 0 true, .smtp 0 false,
            .settle 0 (.threw false)] = some s
        ∧ s.message 0 = some message ∧ message.place = .unsettled 0 :=
    ⟨_, _, rfl, rfl, rfl⟩
  have hheld : message.place.Held := by
    rw [hplace]
    exact trivial
  obtain ⟨t, ht, -⟩ :=
    unsettled_message_settles hrun hmessage hheld .empty
  exact ⟨s, message, t, hrun, hmessage, hplace, ht⟩

end SkillBuddy
