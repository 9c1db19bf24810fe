/-
What the handler of a delivery does, whatever happens around it.

# One step, inverted

`delivery_of_step` says once where a delivery of the state after a step
comes from: it was there, its handler made a step, the broker just
delivered it, or a crash ended it. `message_of_step` and `body_of_step`
say the same of a message and its body, `nacked_of_step` of a nack. No
later proof looks at the system's step again.

# The policy

`Attempted` ties a state to the events of the run: every delivery has one
failed call behind it for each retry, and three retries at most; what it
sends is the mail that some `prepare` event of its own made from the body
the message was published with; and a nack says what went before it. For
a nacked message the delivery that did it is through, and a delivery that
is through stays as it is (`done_of_step`), so what was true when it was
nacked is true ever after. The run theorem is `attempts_within_policy`.

# Termination

`stepsLeft` is how many steps a handler can make at most: 23 before it
starts, one for the request, five for each of four attempts, the ack and
the nack. Each of its steps uses up one (`stepsLeft_advance`), and no
other step gives any back (`stepsLeft_step`), so however long a run is, no
handler makes more (`handler_steps_le`). `handler_makes_all_steps` has one
that makes them all: three disconnects that throw, a fourth attempt that
succeeds, an ack that throws.
-/
import SkillBuddy.Proofs.Delivery

namespace SkillBuddy

open DotNet
open Lib

variable {B : Type} {codec : JsonCodec B} {s t : System B} {e : Event B}

-- ===================================================== one step, inverted

/-- Where a delivery of the state after a step comes from. -/
theorem delivery_of_step (hstep : s.step codec e = some t) {k : Nat}
    {delivery' : Delivery} (h : t.delivery k = some delivery') :
    s.delivery k = some delivery'
      ∨ (∃ delivery effect, s.delivery k = some delivery
        ∧ Advance codec s k delivery e delivery' effect)
      ∨ (∃ m message, e = .deliver m ∧ k = s.delivered
        ∧ s.message m = some message
        ∧ delivery' = { message := m, channel := s.channel })
      ∨ (e = .crash ∧ ∃ delivery, s.delivery k = some delivery
        ∧ delivery' = { delivery with phase := .done }) := by
  cases step_spec hstep with
  | publish body => exact .inl h
  | start hclosed => exact .inl h
  | deliver m message hmessage hopen hplace =>
      change Function.update s.delivery s.delivered _ k = _ at h
      rw [Function.update_apply] at h
      by_cases hk : k = s.delivered
      · rw [if_pos hk] at h
        exact .inr (.inr (.inl ⟨m, message, rfl, hk, hmessage,
          (Option.some.inj h).symm⟩))
      · rw [if_neg hk] at h
        exact .inl h
  | handler d delivery delivery'' e effect hdelivery hadvance =>
      rw [delivery_advance] at h
      by_cases hk : k = d
      · subst hk
        rw [if_pos rfl] at h
        obtain rfl := Option.some.inj h
        exact .inr (.inl ⟨delivery, effect, hdelivery, hadvance⟩)
      · rw [if_neg hk] at h
        exact .inl h
  | stop hopen => exact .inl h
  | crash =>
      obtain ⟨delivery, hdelivery, rfl⟩ := Option.map_eq_some_iff.mp h
      exact .inr (.inr (.inr ⟨rfl, delivery, hdelivery, rfl⟩))

/-- A published message keeps its body. -/
theorem body_of_step (hinv : LossInv codec s)
    (hstep : s.step codec e = some t) {m : Nat} {message : Message B}
    (h : s.message m = some message) :
    ∃ message', t.message m = some message'
      ∧ message'.body = message.body := by
  cases step_spec hstep with
  | publish body =>
      refine ⟨message, ?_, rfl⟩
      show Function.update s.message s.published _ m = _
      rw [Function.update_of_ne, h]
      intro hm
      rw [hm, hinv.unpublished _ (Nat.le_refl _)] at h
      cases h
  | start hclosed => exact ⟨message, h, rfl⟩
  | deliver k old hmessage hopen hplace =>
      show ∃ message', Function.update s.message k _ m = some message' ∧ _
      rw [Function.update_apply]
      by_cases hm : m = k
      · rw [if_pos hm, ← hm, h]
        exact ⟨_, rfl, rfl⟩
      · rw [if_neg hm]
        exact ⟨message, h, rfl⟩
  | handler d delivery delivery' e effect hdelivery hadvance =>
      obtain ⟨hsame, -, -, heffect⟩ := advance_frame hadvance
      by_cases hm : m = delivery'.message
      · subst hm
        exact ⟨_, message_advance_self h, (heffect message).1⟩
      · rw [message_advance_of_ne hm]
        exact ⟨message, h, rfl⟩
  | stop hopen =>
      refine ⟨message.requeue, ?_, ?_⟩
      · show (s.message m).map Message.requeue = _
        rw [h]
        rfl
      · unfold Message.requeue
        split <;> rfl
  | crash =>
      refine ⟨message.requeue, ?_, ?_⟩
      · show (s.message m).map Message.requeue = _
        rw [h]
        rfl
      · unfold Message.requeue
        split <;> rfl

/-- A message is published with its body, and keeps it. -/
theorem message_of_step (hstep : s.step codec e = some t) {m : Nat}
    {message' : Message B} (h : t.message m = some message') :
    e = .publish message'.body
      ∨ ∃ message, s.message m = some message
        ∧ message'.body = message.body := by
  have hrequeue : ∀ message : Message B,
      message.requeue.body = message.body := by
    intro message
    unfold Message.requeue
    split <;> rfl
  cases step_spec hstep with
  | publish body =>
      change Function.update s.message s.published _ m = _ at h
      rw [Function.update_apply] at h
      by_cases hm : m = s.published
      · rw [if_pos hm] at h
        obtain rfl := Option.some.inj h
        exact .inl rfl
      · rw [if_neg hm] at h
        exact .inr ⟨message', h, rfl⟩
  | start hclosed => exact .inr ⟨message', h, rfl⟩
  | deliver k message hmessage hopen hplace =>
      change Function.update s.message k _ m = _ at h
      rw [Function.update_apply] at h
      by_cases hm : m = k
      · rw [if_pos hm, hmessage] at h
        obtain rfl := Option.some.inj h
        exact .inr ⟨message, by rw [hm, hmessage], rfl⟩
      · rw [if_neg hm] at h
        exact .inr ⟨message', h, rfl⟩
  | handler d delivery delivery' e effect hdelivery hadvance =>
      obtain ⟨-, -, -, heffect⟩ := advance_frame hadvance
      obtain ⟨message, hmessage, rfl⟩ := message_advance h
      refine .inr ⟨message, hmessage, ?_⟩
      split
      · exact (heffect message).1
      · rfl
  | stop hopen =>
      obtain ⟨message, hmessage, rfl⟩ := Option.map_eq_some_iff.mp h
      exact .inr ⟨message, hmessage, hrequeue message⟩
  | crash =>
      obtain ⟨message, hmessage, rfl⟩ := Option.map_eq_some_iff.mp h
      exact .inr ⟨message, hmessage, hrequeue message⟩

/-- A message is settled as it was, or as its handler settles it. -/
theorem settle_place (d : Nat) (place : Place) (reached : Bool)
    (message : Message B) :
    ((if reached then Message.settle d place else id) message).place
        = message.place
      ∨ reached = true ∧ message.place = .unsettled d
        ∧ ((if reached then Message.settle d place else id) message).place
          = place := by
  cases reached with
  | false => exact .inl rfl
  | true =>
      show (Message.settle d place message).place = _
        ∨ true = true ∧ _ ∧ (Message.settle d place message).place = place
      unfold Message.settle
      split
      next hplace => exact .inr ⟨rfl, hplace, rfl⟩
      · exact .inl rfl

/-- Where a handler's step leaves its message: where it was, or settled, if
the broker waited for this very delivery. A nack is the handler's last
step. -/
theorem place_advance {d : Nat} {delivery delivery' : Delivery}
    {effect : Message B → Message B}
    (h : Advance codec s d delivery e delivery' effect)
    (message : Message B) :
    (effect message).place = message.place
      ∨ message.place = .unsettled d
        ∧ (delivery.phase = .acking ∧ (effect message).place = .acked
          ∨ ∃ why, delivery.phase = .nacking why
            ∧ delivery' = { delivery with phase := .done }
            ∧ (effect message).place = .nacked d why) := by
  cases h with
  | prepare fs message' hphase hmessage' => exact .inl rfl
  | returned mail retryCount call hphase =>
      refine .inl ?_
      split <;> rfl
  | threw mail retryCount call hphase => exact .inl rfl
  | ack how phase hphase hnext hlive =>
      rcases settle_place d .acked how.reached message with
        hkept | ⟨-, hunsettled, hset⟩
      · exact .inl hkept
      · exact .inr ⟨hunsettled, .inl ⟨hphase, hset⟩⟩
  | nack how why hphase hlive =>
      rcases settle_place d (.nacked d why) how.reached message with
        hkept | ⟨-, hunsettled, hset⟩
      · exact .inl hkept
      · exact .inr ⟨hunsettled, .inr ⟨why, hphase, rfl, hset⟩⟩

/-- A nacked message was nacked before, or its handler just did it. Nothing
else settles, and nothing takes a nacked message back. -/
theorem nacked_of_step (hstep : s.step codec e = some t) {m d : Nat}
    {message' : Message B} {why : Failure}
    (hmessage' : t.message m = some message')
    (hplace : message'.place = .nacked d why) :
    (∃ message, s.message m = some message ∧ message.place = .nacked d why)
      ∨ ∃ delivery, s.delivery d = some delivery ∧ delivery.message = m
        ∧ delivery.phase = .nacking why
        ∧ t.delivery d = some { delivery with phase := .done } := by
  have hrequeue : ∀ message : Message B,
      message.requeue.place = .nacked d why →
        message.place = .nacked d why := by
    intro message h
    unfold Message.requeue at h
    split at h
    · cases h
    · exact h
    · exact h
    · exact h
  cases step_spec hstep with
  | publish body =>
      change Function.update s.message s.published _ m = _ at hmessage'
      rw [Function.update_apply] at hmessage'
      by_cases hm : m = s.published
      · rw [if_pos hm] at hmessage'
        obtain rfl := Option.some.inj hmessage'
        cases hplace
      · rw [if_neg hm] at hmessage'
        exact .inl ⟨message', hmessage', hplace⟩
  | start hclosed => exact .inl ⟨message', hmessage', hplace⟩
  | deliver k message hmessage hopen hqueued =>
      change Function.update s.message k _ m = _ at hmessage'
      rw [Function.update_apply] at hmessage'
      by_cases hm : m = k
      · rw [if_pos hm, hmessage] at hmessage'
        obtain rfl := Option.some.inj hmessage'
        cases hplace
      · rw [if_neg hm] at hmessage'
        exact .inl ⟨message', hmessage', hplace⟩
  | handler k delivery delivery' e effect hdelivery hadvance =>
      obtain ⟨hsame, -, -, -⟩ := advance_frame hadvance
      obtain ⟨message, hmessage, rfl⟩ := message_advance hmessage'
      by_cases hm : m = delivery'.message
      · rw [if_pos hm] at hplace
        rcases place_advance hadvance message with
          hkept | ⟨-, ⟨-, hacked⟩ | ⟨why', hphase, hdone, hset⟩⟩
        · exact .inl ⟨message, hmessage, hkept.symm.trans hplace⟩
        · rw [hacked] at hplace
          cases hplace
        · rw [hset] at hplace
          obtain ⟨rfl, rfl⟩ := Place.nacked.inj hplace
          refine .inr ⟨delivery, hdelivery, hsame.symm.trans hm.symm, hphase,
            ?_⟩
          rw [delivery_advance, if_pos rfl, hdone]
      · rw [if_neg hm] at hplace
        exact .inl ⟨message, hmessage, hplace⟩
  | stop hopen =>
      obtain ⟨message, hmessage, rfl⟩ := Option.map_eq_some_iff.mp hmessage'
      exact .inl ⟨message, hmessage, hrequeue message hplace⟩
  | crash =>
      obtain ⟨message, hmessage, rfl⟩ := Option.map_eq_some_iff.mp hmessage'
      exact .inl ⟨message, hmessage, hrequeue message hplace⟩

-- ============================================================ the policy

/-- How many attempts there were before a failure. -/
def Failure.After : Failure → Nat → Prop
  | .malformed, attempts => attempts = 0
  | .templateFailed, attempts => attempts = 0
  | .attemptsFailed, attempts => attempts = maxRetries + 1
  | .ackFailed, attempts => attempts ≤ maxRetries

/-- A delivery within the policy, among the events of a run: `body` is its
message's. -/
def Delivery.Tried (codec : JsonCodec B) (events : List (Event B)) (d : Nat)
    (body : B) (delivery : Delivery) : Prop :=
  match delivery.phase with
  | .received => delivery.failed = []
  | .sending mail retryCount _ =>
      delivery.failed.length = retryCount ∧ retryCount ≤ maxRetries
        ∧ ∃ fs, .prepare d fs ∈ events
          ∧ prepare codec fs body = .ok (some mail)
  | .acking => delivery.failed.length ≤ maxRetries
  | .nacking why => why.After delivery.failed.length
  | .done => delivery.failed.length ≤ maxRetries + 1

/-- None of the failures comes after more attempts than the policy allows.
They are at most four. -/
theorem Failure.After.le {why : Failure} {attempts : Nat}
    (h : why.After attempts) : attempts ≤ maxRetries + 1 := by
  cases why with
  | malformed => exact (Nat.le_of_eq h).trans (Nat.zero_le _)
  | templateFailed => exact (Nat.le_of_eq h).trans (Nat.zero_le _)
  | attemptsFailed => exact Nat.le_of_eq h
  | ackFailed => exact Nat.le_succ_of_le h

/-- No delivery has more attempts behind it than the policy allows. -/
theorem Delivery.Tried.le {events : List (Event B)} {d : Nat} {body : B}
    {delivery : Delivery} (h : delivery.Tried codec events d body) :
    delivery.failed.length ≤ maxRetries + 1 := by
  unfold Delivery.Tried at h
  split at h
  · rw [h]
    exact Nat.zero_le _
  · omega
  · omega
  · exact h.le
  · exact h

/-- Before the first call only the request and the template can fail. -/
theorem prepare_error {fs : TemplateService.FileSystem} {body : B}
    {why : Failure} (h : prepare codec fs body = .error why) :
    why = .malformed ∨ why = .templateFailed := by
  unfold prepare at h
  split at h
  · exact .inl (Except.error.inj h).symm
  · cases h
  · split at h
    · cases h
    · split at h
      · cases h
      · split at h
        · exact .inr (Except.error.inj h).symm
        · cases h

/-- A handler's step stays within the policy. Only a call that throws makes
the list of failed ones longer, and it starts the next attempt or, after
the last, the nack. -/
theorem tried_advance {events : List (Event B)} {d : Nat}
    {delivery delivery' : Delivery} {effect : Message B → Message B}
    {message : Message B} (he : e ∈ events)
    (h : Advance codec s d delivery e delivery' effect)
    (hmessage : s.message delivery.message = some message)
    (htried : delivery.Tried codec events d message.body) :
    delivery'.Tried codec events d message.body := by
  cases h with
  | prepare fs message' hphase hmessage' =>
      obtain rfl := Option.some.inj (hmessage'.symm.trans hmessage)
      unfold Delivery.Tried at htried
      rw [hphase] at htried
      have hlength : delivery.failed.length = 0 := by
        rw [show delivery.failed = [] from htried]
        rfl
      cases hprepared : prepare codec fs message'.body with
      | error why =>
          show why.After delivery.failed.length
          rcases prepare_error hprepared with rfl | rfl
          · exact hlength
          · exact hlength
      | ok mail =>
          cases mail with
          | none => exact hlength.le.trans (Nat.zero_le _)
          | some mail =>
              exact ⟨hlength, Nat.zero_le _, fs, he, hprepared⟩
  | returned mail retryCount call hphase =>
      unfold Delivery.Tried at htried
      rw [hphase] at htried
      obtain ⟨hlength, hretry, hmail⟩ := htried
      cases call with
      | disconnect => exact hlength.le.trans hretry
      | build => exact ⟨hlength, hretry, hmail⟩
      | connect => exact ⟨hlength, hretry, hmail⟩
      | authenticate => exact ⟨hlength, hretry, hmail⟩
      | send => exact ⟨hlength, hretry, hmail⟩
  | threw mail retryCount call hphase =>
      unfold Delivery.Tried at htried
      rw [hphase] at htried
      obtain ⟨hlength, hretry, hmail⟩ := htried
      have hnext : (delivery.failed ++ [call]).length = retryCount + 1 := by
        rw [List.length_append, hlength]
        rfl
      unfold Delivery.threw
      by_cases hmore : retryCount < maxRetries
      · rw [if_pos hmore]
        exact ⟨hnext, hmore, hmail⟩
      · rw [if_neg hmore]
        show (delivery.failed ++ [call]).length = maxRetries + 1
        omega
  | ack how phase hphase hnext hlive =>
      unfold Delivery.Tried at htried
      rw [hphase] at htried
      subst hnext
      cases how with
      | returned => exact Nat.le_succ_of_le htried
      | threw reached => exact htried
  | nack how why hphase hlive =>
      unfold Delivery.Tried at htried
      rw [hphase] at htried
      exact htried.le

/-- The policy is kept: by every delivery of a published message, and
where a message was nacked by the delivery that did it. -/
structure Attempted (codec : JsonCodec B) (events : List (Event B))
    (s : System B) : Prop where
  body : ∀ m message, s.message m = some message →
    .publish message.body ∈ events
  delivery : ∀ d delivery, s.delivery d = some delivery →
    ∃ message, s.message delivery.message = some message
      ∧ delivery.Tried codec events d message.body
  nacked : ∀ m message d why, s.message m = some message →
    message.place = .nacked d why →
      ∃ delivery, s.delivery d = some delivery
        ∧ delivery.message = m ∧ delivery.phase = .done
        ∧ why.After delivery.failed.length

/-- A delivery that is through stays as it is. -/
theorem done_of_step (hinv : LossInv codec s)
    (hstep : s.step codec e = some t) {d : Nat} {delivery : Delivery}
    (hdelivery : s.delivery d = some delivery)
    (hdone : delivery.phase = .done) : t.delivery d = some delivery := by
  cases step_spec hstep with
  | publish body => exact hdelivery
  | start hclosed => exact hdelivery
  | deliver m message hmessage hopen hplace =>
      show Function.update s.delivery s.delivered _ d = _
      rw [Function.update_of_ne, hdelivery]
      intro hd
      rw [hd, hinv.undelivered _ (Nat.le_refl _)] at hdelivery
      cases hdelivery
  | handler k other delivery' e effect hother hadvance =>
      obtain ⟨-, -, hphase, -⟩ := advance_frame hadvance
      rw [delivery_advance, if_neg, hdelivery]
      intro hd
      rw [← hd, hdelivery] at hother
      exact hphase ((Option.some.inj hother) ▸ hdone)
  | stop hopen => exact hdelivery
  | crash =>
      show (s.delivery d).map _ = _
      rw [hdelivery, Option.map_some, ← hdone]

/-- Every step of a run keeps the policy. A delivery is looked up where it
comes from (`delivery_of_step`), a nack where it was made. -/
theorem attempted_step {events : List (Event B)} (hinv : LossInv codec s)
    (h : Attempted codec events s) (he : e ∈ events)
    (hstep : s.step codec e = some t) : Attempted codec events t := by
  refine ⟨?_, ?_, ?_⟩
  · intro m message' hmessage'
    rcases message_of_step hstep hmessage' with
      rfl | ⟨message, hmessage, hbody⟩
    · exact he
    · rw [hbody]
      exact h.body m message hmessage
  · intro d delivery' hdelivery'
    rcases delivery_of_step hstep hdelivery' with
      hkept | ⟨delivery, effect, hdelivery, hadvance⟩
      | ⟨m, message, -, -, hmessage, rfl⟩ | ⟨-, delivery, hdelivery, rfl⟩
    · obtain ⟨message, hmessage, htried⟩ := h.delivery d delivery' hkept
      obtain ⟨message', hmessage', hbody⟩ :=
        body_of_step hinv hstep hmessage
      exact ⟨message', hmessage', hbody ▸ htried⟩
    · obtain ⟨message, hmessage, htried⟩ := h.delivery d delivery hdelivery
      obtain ⟨message', hmessage', hbody⟩ :=
        body_of_step hinv hstep hmessage
      obtain ⟨hsame, -, -, -⟩ := advance_frame hadvance
      refine ⟨message', by rw [hsame, hmessage'], ?_⟩
      rw [hbody]
      exact tried_advance he hadvance hmessage htried
    · obtain ⟨message', hmessage', -⟩ := body_of_step hinv hstep hmessage
      exact ⟨message', hmessage', rfl⟩
    · obtain ⟨message, hmessage, htried⟩ := h.delivery d delivery hdelivery
      obtain ⟨message', hmessage', -⟩ := body_of_step hinv hstep hmessage
      exact ⟨message', hmessage', htried.le⟩
  · intro m message' d why hmessage' hplace
    rcases nacked_of_step hstep hmessage' hplace with
      ⟨message, hmessage, hbefore⟩ | ⟨delivery, hdelivery, hm, hphase, hdone⟩
    · obtain ⟨delivery, hdelivery, hm, hdone, hafter⟩ :=
        h.nacked m message d why hmessage hbefore
      exact ⟨delivery, done_of_step hinv hstep hdelivery hdone, hm, hdone,
        hafter⟩
    · obtain ⟨message, -, htried⟩ := h.delivery d delivery hdelivery
      unfold Delivery.Tried at htried
      rw [hphase] at htried
      exact ⟨_, hdone, hm, rfl, htried⟩

/-- In every run, whatever fails and whenever the worker stops or dies:
every delivery keeps to the retry policy, tries to send only the mail
prepared from the body its message was published with, and a message is
nacked after four attempts, or after none if there was nothing to send,
or after at most three if the ack failed. -/
theorem attempts_within_policy {events : List (Event B)} {s : System B}
    (hrun : run (System.step codec) {} events = some s) :
    Attempted codec events s := by
  have hinit : LossInv codec ({} : System B)
      ∧ Attempted codec events ({} : System B) :=
    ⟨⟨fun _ _ => rfl, fun _ _ => rfl, nofun, nofun⟩, nofun, nofun, nofun⟩
  have hstep : ∀ s e t,
      LossInv codec s ∧ Attempted codec events s → e ∈ events →
      s.step codec e = some t → LossInv codec t ∧ Attempted codec events t :=
    fun s e t h he hstep =>
      ⟨lossInv_step h.1 hstep, attempted_step h.1 h.2 he hstep⟩
  exact (run_invariant hstep hinit (along_of_forall (fun _ he => he) _)
    hrun).2

/-- The request of the examples below. -/
def reminder : Json String :=
  publishEmail JsonCodec.document { to_ := "bob@example.com" }

/-- The first attempt fails at its second call, then the worker dies. -/
theorem attempts_before_crash :
    ∃ s, run (System.step JsonCodec.document) {}
        [.publish reminder, .start, .deliver 0, .prepare 0 .empty,
          .smtp 0 true, .smtp 0 false, .crash] = some s
      ∧ ∃ delivery, s.delivery 0 = some delivery
        ∧ delivery.failed.length ≤ 4 := by
  obtain ⟨s, hrun⟩ : ∃ s, run (System.step JsonCodec.document) {}
      [.publish reminder, .start, .deliver 0, .prepare 0 .empty,
        .smtp 0 true, .smtp 0 false, .crash] = some s := ⟨_, rfl⟩
  have hattempted := attempts_within_policy hrun
  obtain ⟨delivery, hdelivery⟩ :
      ∃ delivery, s.delivery 0 = some delivery := by
    obtain rfl := Option.some.inj hrun
    exact ⟨_, rfl⟩
  obtain ⟨message, -, htried⟩ := hattempted.delivery 0 delivery hdelivery
  exact ⟨s, hrun, delivery, hdelivery, htried.le⟩

-- ========================================================== termination

/-- The event is a step of the handler of delivery `d`. -/
def Event.isStepOf (d : Nat) : Event B → Bool
  | .prepare k _ => k == d
  | .smtp k _ => k == d
  | .settle k _ => k == d
  | .publish _ | .start | .deliver _ | .stop | .crash => false

/-- The calls of an attempt from a call on. -/
def SmtpCall.left : SmtpCall → Nat
  | .build => 5
  | .connect => 4
  | .authenticate => 3
  | .send => 2
  | .disconnect => 1

/-- How many steps a handler can make at most: those of its attempt, five
for each retry that is left, the ack and the nack. -/
def Phase.stepsLeft : Phase → Nat
  | .received => 23
  | .sending _ retryCount call =>
      (maxRetries - retryCount) * 5 + call.left + 2
  | .acking => 2
  | .nacking _ => 1
  | .done => 0

/-- How many steps the handler of delivery `d`, if it comes, can make. -/
def System.stepsLeft (s : System B) (d : Nat) : Nat :=
  (s.delivery d).elim 23 fun delivery => delivery.phase.stepsLeft

/-- What a handler has left goes by its phase. -/
theorem stepsLeft_some {d : Nat} {delivery : Delivery}
    (h : s.delivery d = some delivery) :
    s.stepsLeft d = delivery.phase.stepsLeft := by
  rw [System.stepsLeft, h]
  rfl

/-- A handler that has not come has everything left. -/
theorem stepsLeft_none {d : Nat} (h : s.delivery d = none) :
    s.stepsLeft d = 23 := by
  rw [System.stepsLeft, h]
  rfl

/-- A handler's step is one of its steps. -/
theorem isStepOf_advance {d : Nat} {delivery delivery' : Delivery}
    {effect : Message B → Message B}
    (h : Advance codec s d delivery e delivery' effect) (k : Nat) :
    e.isStepOf k = (d == k) := by
  cases h <;> rfl

/-- It uses up one of those that are left. A retry costs the calls it skips:
the next attempt has five of its own. -/
theorem stepsLeft_advance {d : Nat} {delivery delivery' : Delivery}
    {effect : Message B → Message B}
    (h : Advance codec s d delivery e delivery' effect) :
    delivery'.phase.stepsLeft + 1 ≤ delivery.phase.stepsLeft := by
  cases h with
  | prepare fs message hphase hmessage =>
      rw [hphase]
      cases prepare codec fs message.body with
      | error why => exact Nat.le_add_left 2 21
      | ok mail =>
          cases mail with
          | none => exact Nat.le_add_left 3 20
          | some mail => exact Nat.le_refl 23
  | returned mail retryCount call hphase =>
      rw [hphase]
      cases call with
      | disconnect => exact Nat.le_add_left 3 _
      | build => exact Nat.le_refl _
      | connect => exact Nat.le_refl _
      | authenticate => exact Nat.le_refl _
      | send => exact Nat.le_refl _
  | threw mail retryCount call hphase =>
      have hcall : 1 ≤ call.left := by
        cases call <;> decide
      have hleft : (Phase.sending mail retryCount call).stepsLeft
          = (maxRetries - retryCount) * 5 + call.left + 2 := rfl
      rw [hphase, hleft]
      unfold Delivery.threw
      dsimp only
      split
      next hmore =>
          show (maxRetries - (retryCount + 1)) * 5 + 5 + 2 + 1 ≤ _
          omega
      · show 1 + 1 ≤ _
        omega
  | ack how phase hphase hnext hlive =>
      rw [hphase, hnext]
      cases how with
      | returned => exact Nat.le_succ 1
      | threw reached => exact Nat.le_refl 2
  | nack how why hphase hlive =>
      rw [hphase]
      exact Nat.le_refl 1

/-- A step of the system is none of handler `d`'s, and leaves it what it
had left, or is one of them and uses it up. -/
theorem stepsLeft_step (hinv : LossInv codec s)
    (hstep : s.step codec e = some t) (d : Nat) :
    t.stepsLeft d + (if e.isStepOf d then 1 else 0) ≤ s.stepsLeft d := by
  cases step_spec hstep with
  | publish body => exact Nat.le_refl _
  | start hclosed => exact Nat.le_refl _
  | deliver m message hmessage hopen hplace =>
      by_cases hd : d = s.delivered
      · subst hd
        rw [stepsLeft_none (hinv.undelivered _ (Nat.le_refl _)),
          stepsLeft_some (Function.update_self _ _ _)]
        exact Nat.le_refl _
      · have hsame : (s.deliverMessage m).delivery d = s.delivery d :=
          Function.update_of_ne hd _ _
        rw [System.stepsLeft, hsame]
        exact Nat.le_refl _
  | handler k delivery delivery' e effect hdelivery hadvance =>
      rw [isStepOf_advance hadvance]
      by_cases hd : d = k
      · subst hd
        rw [stepsLeft_some hdelivery, stepsLeft_some
          (delivery_advance.trans (if_pos rfl)), if_pos (beq_self_eq_true d)]
        exact stepsLeft_advance hadvance
      · have hsame : (s.advance k delivery' effect).delivery d
            = s.delivery d := delivery_advance.trans (if_neg hd)
        rw [System.stepsLeft, hsame, if_neg (by simp [Ne.symm hd])]
        exact Nat.le_refl _
  | stop hopen => exact Nat.le_refl _
  | crash =>
      cases hdelivery : s.delivery d with
      | none =>
          have hnone : s.crashWorker.delivery d = none := by
            show (s.delivery d).map _ = none
            rw [hdelivery]
            rfl
          rw [stepsLeft_none hdelivery, stepsLeft_none hnone]
          exact Nat.le_refl _
      | some delivery =>
          have hdone : s.crashWorker.delivery d
              = some { delivery with phase := .done } := by
            show (s.delivery d).map _ = _
            rw [hdelivery]
            rfl
          rw [stepsLeft_some hdone]
          exact Nat.zero_le _

/-- The steps of a handler in a run are paid for by what it had left. By
induction on the run, from any state it starts in. -/
theorem countP_isStepOf_run {events : List (Event B)} (d : Nat) :
    ∀ {s t : System B}, LossInv codec s →
      run (System.step codec) s events = some t →
      t.stepsLeft d + events.countP (Event.isStepOf d) ≤ s.stepsLeft d := by
  induction events with
  | nil =>
      intro s t _ hrun
      obtain rfl := Option.some.inj hrun
      exact Nat.le_refl _
  | cons e events ih =>
      intro s t hinv hrun
      obtain ⟨u, hu, hrest⟩ := run_cons_eq_some.mp hrun
      have hfirst := stepsLeft_step hinv hu d
      have hothers := ih (lossInv_step hinv hu) hrest
      rw [List.countP_cons]
      omega

/-- In every run no handler makes more than 23 steps: the request, four
attempts of five calls, the ack and the nack. -/
theorem handler_steps_le {events : List (Event B)} {s : System B}
    (hrun : run (System.step codec) {} events = some s) (d : Nat) :
    events.countP (Event.isStepOf d) ≤ 23 := by
  have hinit : LossInv codec ({} : System B) :=
    ⟨fun _ _ => rfl, fun _ _ => rfl, nofun, nofun⟩
  have hpaid := countP_isStepOf_run d hinit hrun
  rw [stepsLeft_none (s := {}) rfl] at hpaid
  omega

/-- An attempt whose last call throws. -/
def unhungUp : List (Event (Json String)) :=
  [.smtp 0 true, .smtp 0 true, .smtp 0 true, .smtp 0 true, .smtp 0 false]

/-- Three such attempts, one that succeeds, an ack that throws, and the
nack. -/
def longestHandling : List (Event (Json String)) :=
  [.publish reminder, .start, .deliver 0, .prepare 0 .empty]
    ++ unhungUp ++ unhungUp ++ unhungUp
    ++ [.smtp 0 true, .smtp 0 true, .smtp 0 true, .smtp 0 true, .smtp 0 true,
      .settle 0 (.threw false), .settle 0 .returned]

/-- The bound is reached. -/
theorem handler_makes_all_steps :
    ∃ s, run (System.step JsonCodec.document) {} longestHandling = some s
      ∧ 23 ≤ longestHandling.countP (Event.isStepOf 0)
      ∧ longestHandling.countP (Event.isStepOf 0) ≤ 23 := by
  obtain ⟨s, hrun⟩ : ∃ s,
      run (System.step JsonCodec.document) {} longestHandling = some s :=
    ⟨_, rfl⟩
  exact ⟨s, hrun, by decide, handler_steps_le hrun 0⟩

end SkillBuddy
