/-
What becomes of a queued message: never lost before four attempts, and
when it is mailed only once.

# Runs

The system is the broker, the worker and the mail server; a step is a
publish, a delivery, one call of a handler, or a stop or crash of the
worker, in any order and with any outcome. `Advance` lists what a
handler's step can do (`Proofs/QueueMessage`), and `advance_frame` what
it leaves alone. Both invariants below are proved for one step and carried
along the run from there, so neither assumes anything of the order of
events.

# Loss

A message whose mail no server accepted is owed. `LossInv` says what the
handler of an owed message can be doing: its `failed` list is one call
long for each attempt behind it, it is never before the ack, and it comes
to the nack only through a template that failed to load or through all
attempts. So the broker still has every owed message, or one of its
deliveries was nacked for one of these two reasons
(`held_or_nacked_after_failure`). Crashes and closed channels only put
messages back into the queue.

# Duplication

A message can be accepted again once two handlers can reach `SendAsync`
with it, or one handler twice. `OnceInv` excludes both: every handler on
the open channel owns its message, and a message is unaccepted until its
owner is past `SendAsync`. Three steps break it: a disconnect that throws
sends the owner back to the first call, a send over a closed channel is
not the owner's, and closing the channel disowns a message that was
already mailed. Without these three a run accepts every message at most
once (`accepted_at_most_once`); `request_mailed_twice` has a run for the
first and for the last.
-/
import SkillBuddy.Proofs.QueueMessage
import SkillBuddy.Lib.Run

namespace SkillBuddy

open DotNet
open Lib

variable {B : Type} {codec : JsonCodec B}

-- ================================================= what a step leaves alone

/-- The messages after a handler's step. -/
theorem message_advance {s : System B} {d : Nat} {delivery : Delivery}
    {effect : Message B → Message B} {m : Nat} {message : Message B}
    (h : (s.advance d delivery effect).message m = some message) :
    ∃ old, s.message m = some old
      ∧ message = if m = delivery.message then effect old else old := by
  change Function.update s.message delivery.message
    ((s.message delivery.message).map effect) m = some message at h
  rw [Function.update_apply] at h
  by_cases hm : m = delivery.message
  · rw [if_pos hm] at h
    obtain ⟨old, hold, rfl⟩ := Option.map_eq_some_iff.mp h
    exact ⟨old, by rw [hm, hold], by rw [if_pos hm]⟩
  · rw [if_neg hm] at h
    exact ⟨message, h, by rw [if_neg hm]⟩

/-- The handler's own message after its step. -/
theorem message_advance_self {s : System B} {d : Nat}
    {delivery : Delivery} {effect : Message B → Message B}
    {message : Message B}
    (h : s.message delivery.message = some message) :
    (s.advance d delivery effect).message delivery.message
      = some (effect message) := by
  show Function.update s.message delivery.message
    ((s.message delivery.message).map effect) delivery.message = _
  rw [Function.update_self, h]
  rfl

/-- The other messages after a handler's step. -/
theorem message_advance_of_ne {s : System B} {d : Nat}
    {delivery : Delivery} {effect : Message B → Message B} {m : Nat}
    (h : m ≠ delivery.message) :
    (s.advance d delivery effect).message m = s.message m :=
  Function.update_of_ne h _ _

/-- The deliveries after a handler's step. -/
theorem delivery_advance {s : System B} {d k : Nat}
    {delivery : Delivery} {effect : Message B → Message B} :
    (s.advance d delivery effect).delivery k
      = if k = d then some delivery else s.delivery k := by
  show Function.update s.delivery d (some delivery) k = _
  rw [Function.update_apply]

/-- A handler's step keeps what its delivery is for, starts before the
end, and takes nothing back from its message. -/
theorem advance_frame {s : System B} {d : Nat}
    {delivery delivery' : Delivery} {e : Event B}
    {effect : Message B → Message B}
    (h : Advance codec s d delivery e delivery' effect) :
    delivery'.message = delivery.message
      ∧ delivery'.channel = delivery.channel
      ∧ delivery.phase ≠ .done
      ∧ ∀ message, (effect message).body = message.body
        ∧ message.accepted ≤ (effect message).accepted := by
  have hsettle : ∀ (place : Place) (reached : Bool) (message : Message B),
      ((if reached then Message.settle d place else id) message).body
          = message.body
        ∧ message.accepted
          ≤ ((if reached then Message.settle d place else id)
            message).accepted := by
    intro place reached message
    cases reached with
    | false => exact ⟨rfl, Nat.le_refl _⟩
    | true =>
        show (Message.settle d place message).body = _
          ∧ _ ≤ (Message.settle d place message).accepted
        unfold Message.settle
        split
        · exact ⟨rfl, Nat.le_refl _⟩
        · exact ⟨rfl, Nat.le_refl _⟩
  cases h with
  | prepare fs message hphase hmessage =>
      have hsame : ∀ r, (delivery.prepared r).message = delivery.message
          ∧ (delivery.prepared r).channel = delivery.channel := by
        intro r
        match r with
        | .error why => exact ⟨rfl, rfl⟩
        | .ok none => exact ⟨rfl, rfl⟩
        | .ok (some mail) => exact ⟨rfl, rfl⟩
      exact ⟨(hsame _).1, (hsame _).2, by rw [hphase]; exact nofun,
        fun _ => ⟨rfl, Nat.le_refl _⟩⟩
  | returned mail retryCount call hphase =>
      have hsame : (delivery.returned mail retryCount call).message
            = delivery.message
          ∧ (delivery.returned mail retryCount call).channel
            = delivery.channel := by
        cases call <;> exact ⟨rfl, rfl⟩
      refine ⟨hsame.1, hsame.2, by rw [hphase]; exact nofun, fun msg => ?_⟩
      split
      · exact ⟨rfl, Nat.le_succ _⟩
      · exact ⟨rfl, Nat.le_refl _⟩
  | threw mail retryCount call hphase =>
      exact ⟨rfl, rfl, by rw [hphase]; exact nofun,
        fun _ => ⟨rfl, Nat.le_refl _⟩⟩
  | ack how phase hphase hnext hlive =>
      exact ⟨rfl, rfl, by rw [hphase]; exact nofun, hsettle _ _⟩
  | nack how why hphase hlive =>
      exact ⟨rfl, rfl, by rw [hphase]; exact nofun, hsettle _ _⟩

-- ==================================================================== loss

/-- A request with a recipient. -/
def WellFormed (codec : JsonCodec B) (body : B) : Prop :=
  ∃ request to_, EmailRequestDto.deserialize codec body = .ok (some request)
    ∧ request.to_ = some to_ ∧ to_ ≠ ""

/-- A message that should be mailed and has not been. -/
def Owed (codec : JsonCodec B) (message : Message B) : Prop :=
  WellFormed codec message.body ∧ message.accepted = 0

/-- A failure that gives an owed message up: its template could not be
loaded, or every attempt threw. -/
def GaveUp (why : Failure) (failed : List SmtpCall) : Prop :=
  why = .templateFailed
    ∨ why = .attemptsFailed ∧ failed.length = maxRetries + 1

/-- What the handler of an owed message can be doing. -/
def Delivery.Owing (delivery : Delivery) : Prop :=
  match delivery.phase with
  | .received => delivery.failed = []
  | .sending _ retryCount call =>
      delivery.failed.length = retryCount ∧ retryCount ≤ maxRetries
        ∧ call ≠ .disconnect
  | .acking => False
  | .nacking why => GaveUp why delivery.failed
  | .done => True

/-- Where an owed message can be. -/
def System.OwedAt (s : System B) (m : Nat) : Place → Prop
  | .queued => True
  | .unsettled _ => True
  | .acked => False
  | .nacked d why => ∃ delivery, s.delivery d = some delivery
      ∧ delivery.message = m ∧ delivery.phase = .done
      ∧ GaveUp why delivery.failed

/-- The invariant about owed messages. -/
structure LossInv (codec : JsonCodec B) (s : System B) : Prop where
  undelivered : ∀ d, s.delivered ≤ d → s.delivery d = none
  unpublished : ∀ m, s.published ≤ m → s.message m = none
  delivery : ∀ d delivery, s.delivery d = some delivery →
    ∃ message, s.message delivery.message = some message
      ∧ (Owed codec message → delivery.Owing)
  message : ∀ m message, s.message m = some message →
    Owed codec message → s.OwedAt m message.place

/-- A well-formed request becomes a mail unless its template fails to
load. -/
theorem prepare_of_wellFormed (fs : TemplateService.FileSystem) {body : B}
    (h : WellFormed codec body) :
    prepare codec fs body = .error .templateFailed
      ∨ ∃ mail, prepare codec fs body = .ok (some mail) := by
  obtain ⟨request, to_, hrequest, hto, hne⟩ := h
  unfold prepare
  simp only [hrequest, hto, if_neg hne]
  cases EmailService.mailFor fs to_ (request.templateName.getD "Default")
      (request.placeholders.getD []) with
  | error e => exact Or.inl rfl
  | ok mail => exact Or.inr ⟨mail, rfl⟩

/-- The handler of a message that stays owed stays in order: a failed call
makes the list longer by one and the next attempt counts one more, and
after `SendAsync` the message is not owed. -/
theorem owing_advance {s : System B} {d : Nat}
    {delivery delivery' : Delivery} {e : Event B}
    {effect : Message B → Message B} {message : Message B}
    (h : Advance codec s d delivery e delivery' effect)
    (hmessage : s.message delivery.message = some message)
    (howed : Owed codec (effect message)) (howing : delivery.Owing) :
    delivery'.Owing := by
  cases h with
  | prepare fs message' hphase hmessage' =>
      obtain rfl := Option.some.inj (hmessage'.symm.trans hmessage)
      unfold Delivery.Owing at howing
      rw [hphase] at howing
      have hwell : WellFormed codec message'.body := howed.1
      rcases prepare_of_wellFormed fs hwell with h | ⟨mail, h⟩
      · rw [h]
        exact Or.inl rfl
      · rw [h]
        refine ⟨?_, Nat.zero_le _, nofun⟩
        show delivery.failed.length = 0
        rw [show delivery.failed = [] from howing]
        rfl
  | returned mail retryCount call hphase =>
      unfold Delivery.Owing at howing
      rw [hphase] at howing
      obtain ⟨hfailed, hretry, hcall⟩ := howing
      cases call with
      | build => exact ⟨hfailed, hretry, nofun⟩
      | connect => exact ⟨hfailed, hretry, nofun⟩
      | authenticate => exact ⟨hfailed, hretry, nofun⟩
      | send =>
          -- an accepted mail is no longer owed
          exact absurd howed.2 (Nat.succ_ne_zero _)
      | disconnect => exact absurd rfl hcall
  | threw mail retryCount call hphase =>
      unfold Delivery.Owing at howing
      rw [hphase] at howing
      obtain ⟨hfailed, hretry, -⟩ := howing
      have hlen : (delivery.failed ++ [call]).length = retryCount + 1 := by
        rw [List.length_append, hfailed]
        rfl
      unfold Delivery.threw
      by_cases hmore : retryCount < maxRetries
      · rw [if_pos hmore]
        exact ⟨hlen, hmore, nofun⟩
      · rw [if_neg hmore]
        refine Or.inr ⟨rfl, ?_⟩
        show (delivery.failed ++ [call]).length = _
        omega
  | ack how phase hphase hnext hlive =>
      unfold Delivery.Owing at howing
      rw [hphase] at howing
      exact howing.elim
  | nack how why hphase hlive => exact trivial

/-- Where a message that stays owed is after its handler's step. Only an ack
or a nack moves it, and the handler of an owed message comes to no ack. -/
theorem owedAt_advance {s : System B} {d : Nat}
    {delivery delivery' : Delivery} {e : Event B}
    {effect : Message B → Message B} {message : Message B}
    (h : Advance codec s d delivery e delivery' effect)
    (howing : delivery.Owing)
    (hstays : (s.advance d delivery' effect).OwedAt delivery.message
      message.place) :
    (s.advance d delivery' effect).OwedAt delivery.message
      (effect message).place := by
  cases h with
  | prepare fs message' hphase hmessage' => exact hstays
  | returned mail retryCount call hphase =>
      split <;> exact hstays
  | threw mail retryCount call hphase => exact hstays
  | ack how phase hphase hnext hlive =>
      unfold Delivery.Owing at howing
      rw [hphase] at howing
      exact howing.elim
  | nack how why hphase hlive =>
      unfold Delivery.Owing at howing
      rw [hphase] at howing
      split
      case isFalse => exact hstays
      case isTrue hreached =>
        unfold Message.settle
        split
        case isFalse =>
          rw [if_pos hreached] at hstays
          exact hstays
        case isTrue =>
          exact ⟨{ delivery with phase := .done }, by
            rw [delivery_advance, if_pos rfl], rfl, rfl, howing⟩

/-- A handler's step leaves nacked messages where they are. -/
theorem owedAt_of_advance {s : System B} {d m : Nat}
    {delivery delivery' : Delivery} {effect : Message B → Message B}
    (hdelivery : s.delivery d = some delivery)
    (hphase : delivery.phase ≠ .done) {place : Place}
    (h : s.OwedAt m place) :
    (s.advance d delivery' effect).OwedAt m place := by
  cases place with
  | queued => exact trivial
  | unsettled k => exact trivial
  | acked => exact h
  | nacked k why =>
      obtain ⟨other, hother, hm, hdone, hwhy⟩ := h
      refine ⟨other, ?_, hm, hdone, hwhy⟩
      rw [delivery_advance, if_neg, hother]
      intro hk
      rw [hk, hdelivery] at hother
      exact hphase ((Option.some.inj hother) ▸ hdone)

/-- A handler's step delivers nothing. -/
private theorem undelivered_advance {s : System B} {d : Nat}
    {delivery delivery' : Delivery} {effect : Message B → Message B}
    (hnone : ∀ k, s.delivered ≤ k → s.delivery k = none)
    (hdelivery : s.delivery d = some delivery) :
    ∀ k, s.delivered ≤ k →
      (s.advance d delivery' effect).delivery k = none := by
  intro k hk
  rw [delivery_advance, if_neg, hnone k hk]
  intro hkd
  rw [← hkd, hnone k hk] at hdelivery
  cases hdelivery

/-- A handler's step keeps the invariant. -/
private theorem lossInv_handler {s : System B} {d : Nat}
    {delivery delivery' : Delivery} {e : Event B}
    {effect : Message B → Message B} (hinv : LossInv codec s)
    (hdelivery : s.delivery d = some delivery)
    (h : Advance codec s d delivery e delivery' effect) :
    LossInv codec (s.advance d delivery' effect) := by
  obtain ⟨hsame, -, hphase, heffect⟩ := advance_frame h
  obtain ⟨message, hmessage, howing⟩ := hinv.delivery d delivery hdelivery
  have hback : Owed codec (effect message) → Owed codec message := by
    rintro ⟨hwell, haccepted⟩
    obtain ⟨hbody, hle⟩ := heffect message
    rw [hbody] at hwell
    exact ⟨hwell, by omega⟩
  refine ⟨?_, ?_, ?_, ?_⟩
  · exact undelivered_advance hinv.undelivered hdelivery
  · intro m hm
    have hm : s.published ≤ m := hm
    rw [message_advance_of_ne, hinv.unpublished m hm]
    intro heq
    rw [← hsame, ← heq, hinv.unpublished m hm] at hmessage
    cases hmessage
  · intro k other hother
    rw [delivery_advance] at hother
    by_cases hkd : k = d
    · rw [if_pos hkd] at hother
      obtain rfl := Option.some.inj hother
      rw [← hsame] at hmessage
      refine ⟨_, message_advance_self hmessage, fun howed => ?_⟩
      rw [hsame] at hmessage
      exact owing_advance h hmessage howed (howing (hback howed))
    · rw [if_neg hkd] at hother
      obtain ⟨message', hmessage', howing'⟩ := hinv.delivery k other hother
      by_cases hm : other.message = delivery'.message
      · have heq : message' = message := by
          rw [hm, hsame, hmessage] at hmessage'
          exact (Option.some.inj hmessage').symm
        subst heq
        refine ⟨effect message', ?_, fun howed => howing' (hback howed)⟩
        rw [hm]
        rw [← hsame] at hmessage
        exact message_advance_self hmessage
      · exact ⟨message', by rw [message_advance_of_ne hm, hmessage'],
          howing'⟩
  · intro m message' hmessage' howed
    obtain ⟨old, hold, rfl⟩ := message_advance hmessage'
    by_cases hm : m = delivery'.message
    · rw [if_pos hm] at howed ⊢
      rw [hsame] at hm
      subst hm
      obtain rfl := Option.some.inj (hold.symm.trans hmessage)
      exact owedAt_advance h (howing (hback howed))
        (owedAt_of_advance hdelivery hphase
          (hinv.message _ old hold (hback howed)))
    · rw [if_neg hm] at howed ⊢
      exact owedAt_of_advance hdelivery hphase
        (hinv.message m old hold howed)

/-- Taking unsettled messages back leaves them owed where they were. -/
private theorem owed_requeue {message : Message B} :
    Owed codec message.requeue ↔ Owed codec message := by
  unfold Message.requeue
  split <;> exact Iff.rfl

private theorem owedAt_requeue {s : System B} {m : Nat}
    {message : Message B} (h : s.OwedAt m message.place) :
    s.OwedAt m message.requeue.place := by
  unfold Message.requeue
  split
  · exact trivial
  · exact h
  · exact h
  · exact h

/-- A closing channel keeps the invariant. -/
private theorem lossInv_closeChannel {s : System B}
    (hinv : LossInv codec s) : LossInv codec s.closeChannel := by
  refine ⟨hinv.undelivered, ?_, ?_, ?_⟩
  · intro m hm
    show (s.message m).map Message.requeue = none
    rw [hinv.unpublished m hm]
    rfl
  · intro k other hother
    obtain ⟨message, hmessage, howing⟩ := hinv.delivery k other hother
    refine ⟨message.requeue, ?_, fun h => howing (owed_requeue.mp h)⟩
    show (s.message other.message).map Message.requeue = _
    rw [hmessage]
    rfl
  · intro m message' hmessage' howed
    obtain ⟨message, hmessage, rfl⟩ := Option.map_eq_some_iff.mp hmessage'
    exact owedAt_requeue
      (hinv.message m message hmessage (owed_requeue.mp howed))

/-- Publishing keeps the invariant: the new message is queued. -/
private theorem lossInv_publish {s : System B} (body : B)
    (hinv : LossInv codec s) : LossInv codec (s.publish body) := by
  have hne : ∀ m message, s.message m = some message →
      (s.publish body).message m = some message := by
    intro m message hmessage
    show Function.update s.message s.published _ m = _
    rw [Function.update_of_ne, hmessage]
    intro hm
    rw [hm, hinv.unpublished _ (Nat.le_refl _)] at hmessage
    cases hmessage
  refine ⟨hinv.undelivered, ?_, ?_, ?_⟩
  · intro m hm
    have hm : s.published + 1 ≤ m := hm
    show Function.update s.message s.published _ m = none
    rw [Function.update_of_ne (by omega), hinv.unpublished m (by omega)]
  · intro k other hother
    obtain ⟨message, hmessage, howing⟩ := hinv.delivery k other hother
    exact ⟨message, hne _ _ hmessage, howing⟩
  · intro m message hmessage howed
    change Function.update s.message s.published _ m = _ at hmessage
    rw [Function.update_apply] at hmessage
    by_cases hm : m = s.published
    · rw [if_pos hm] at hmessage
      obtain rfl := Option.some.inj hmessage
      exact trivial
    · rw [if_neg hm] at hmessage
      exact hinv.message m message hmessage howed

/-- Delivering a queued message keeps the invariant: the new delivery has
not started. -/
private theorem lossInv_deliver {s : System B} {m : Nat}
    {message : Message B} (hinv : LossInv codec s)
    (hmessage : s.message m = some message) :
    LossInv codec (s.deliverMessage m) := by
  have hnew : ∀ k, k ≠ s.delivered →
      (s.deliverMessage m).delivery k = s.delivery k :=
    fun k hk => Function.update_of_ne hk _ _
  have hmsg : ∀ k old, s.message k = some old →
      ∃ new, (s.deliverMessage m).message k = some new
        ∧ (Owed codec new ↔ Owed codec old) := by
    intro k old hold
    show ∃ new, Function.update s.message m _ k = some new ∧ _
    rw [Function.update_apply]
    by_cases hk : k = m
    · rw [if_pos hk, ← hk, hold]
      exact ⟨_, rfl, Iff.rfl⟩
    · rw [if_neg hk]
      exact ⟨old, hold, Iff.rfl⟩
  refine ⟨?_, ?_, ?_, ?_⟩
  · intro k hk
    have hk : s.delivered + 1 ≤ k := hk
    rw [hnew k (by omega), hinv.undelivered k (by omega)]
  · intro k hk
    have hk : s.published ≤ k := hk
    show Function.update s.message m _ k = none
    rw [Function.update_of_ne, hinv.unpublished k hk]
    intro hkm
    rw [← hkm, hinv.unpublished k hk] at hmessage
    cases hmessage
  · intro k other hother
    by_cases hk : k = s.delivered
    · subst hk
      change Function.update s.delivery s.delivered _ _ = _ at hother
      rw [Function.update_self] at hother
      obtain rfl := Option.some.inj hother
      obtain ⟨new, hnew, -⟩ := hmsg m message hmessage
      exact ⟨new, hnew, fun _ => rfl⟩
    · rw [hnew k hk] at hother
      obtain ⟨old, hold, howing⟩ := hinv.delivery k other hother
      obtain ⟨new, hnew, howed⟩ := hmsg _ old hold
      exact ⟨new, hnew, fun h => howing (howed.mp h)⟩
  · intro k new hk howed
    change Function.update s.message m _ k = some new at hk
    rw [Function.update_apply] at hk
    by_cases hkm : k = m
    · rw [if_pos hkm, hmessage] at hk
      obtain rfl := Option.some.inj hk
      exact trivial
    · rw [if_neg hkm] at hk
      have hat := hinv.message k new hk howed
      revert hat
      cases new.place with
      | queued => exact fun _ => trivial
      | unsettled _ => exact fun _ => trivial
      | acked => exact id
      | nacked j why =>
          rintro ⟨other, hother, hrest⟩
          refine ⟨other, ?_, hrest⟩
          rw [hnew j, hother]
          intro hj
          rw [hj, hinv.undelivered _ (Nat.le_refl _)] at hother
          cases hother

/-- A crash keeps the invariant: it ends the handlers and closes the
channel. -/
private theorem lossInv_crash {s : System B} (hinv : LossInv codec s) :
    LossInv codec s.crashWorker := by
  have hclosed := lossInv_closeChannel hinv
  refine ⟨?_, hclosed.unpublished, ?_, ?_⟩
  · intro k hk
    show (s.delivery k).map _ = none
    rw [hinv.undelivered k hk]
    rfl
  · intro k other hother
    obtain ⟨old, hold, rfl⟩ := Option.map_eq_some_iff.mp hother
    obtain ⟨message, hmessage, -⟩ := hclosed.delivery k old hold
    exact ⟨message, hmessage, fun _ => trivial⟩
  · intro m message hmessage howed
    have hat := hclosed.message m message hmessage howed
    revert hat
    cases message.place with
    | queued => exact fun _ => trivial
    | unsettled _ => exact fun _ => trivial
    | acked => exact id
    | nacked j why =>
        rintro ⟨other, hother, hm, hdone, hwhy⟩
        refine ⟨{ other with phase := .done }, ?_, hm, rfl, hwhy⟩
        show (s.delivery j).map _ = _
        rw [show s.delivery j = some other from hother]
        rfl

/-- Every step keeps the invariant about owed messages: a handler's through
`owing_advance` and `owedAt_advance`, the others because they start no
handler beyond its first phase. -/
theorem lossInv_step {s t : System B} {e : Event B}
    (hinv : LossInv codec s) (hstep : s.step codec e = some t) :
    LossInv codec t := by
  cases step_spec hstep with
  | publish body => exact lossInv_publish body hinv
  | start hclosed =>
      exact ⟨hinv.undelivered, hinv.unpublished, hinv.delivery, hinv.message⟩
  | deliver m message hmessage hopen hplace =>
      exact lossInv_deliver hinv hmessage
  | handler d delivery delivery' e effect hdelivery h =>
      exact lossInv_handler hinv hdelivery h
  | stop hopen => exact lossInv_closeChannel hinv
  | crash => exact lossInv_crash hinv

/-- The invariant holds in every reachable state. -/
theorem lossInv_run {es : List (Event B)} {s : System B}
    (hrun : run (System.step codec) {} es = some s) : LossInv codec s := by
  have hinit : LossInv codec ({} : System B) :=
    ⟨fun _ _ => rfl, fun _ _ => rfl, nofun, nofun⟩
  exact run_invariant_all (fun s e t => lossInv_step) hinit hrun

/-- The broker holds the message. -/
def Place.Held : Place → Prop
  | .queued => True
  | .unsettled _ => True
  | .acked => False
  | .nacked _ _ => False

/-- In every run, a well-formed message whose mail has never been accepted
is held by the broker, or one of its deliveries was nacked after its
template failed to load or after all four attempts to send it threw. There
is no assumption on the run. -/
theorem held_or_nacked_after_failure {es : List (Event B)} {s : System B}
    (hrun : run (System.step codec) {} es = some s) {m : Nat}
    {message : Message B} (hmessage : s.message m = some message)
    (hwell : WellFormed codec message.body) (haccepted : message.accepted = 0) :
    message.place.Held
      ∨ ∃ d delivery why, message.place = .nacked d why
        ∧ s.delivery d = some delivery ∧ delivery.message = m
        ∧ (why = .templateFailed
          ∨ why = .attemptsFailed
            ∧ delivery.failed.length = maxRetries + 1) := by
  have hinv := lossInv_run hrun
  have hat := hinv.message m message hmessage ⟨hwell, haccepted⟩
  cases hplace : message.place with
  | queued => exact Or.inl trivial
  | unsettled d => exact Or.inl trivial
  | acked =>
      rw [hplace] at hat
      exact hat.elim
  | nacked d why =>
      rw [hplace] at hat
      obtain ⟨delivery, hdelivery, hm, -, hwhy⟩ := hat
      exact Or.inr ⟨d, delivery, why, rfl, hdelivery, hm, hwhy⟩

/-- A request with a recipient. -/
private def request : Json String :=
  publishEmail JsonCodec.document { to_ := "ann@example.com" }

private theorem wellFormed_request : WellFormed JsonCodec.document request :=
  ⟨_, _, deserialize_publishEmail JsonCodec.document _, rfl, by decide⟩

/-- Publishing the request up to the first call of its first attempt. -/
private def begun : List (Event (Json String)) :=
  [.publish request, .start, .deliver 0, .prepare 0 .empty]

/-- An attempt whose connect throws. -/
private def unreachable : List (Event (Json String)) :=
  [.smtp 0 true, .smtp 0 false]

/-- Four attempts to an unreachable server, then the nack. -/
private def outage : List (Event (Json String)) :=
  begun ++ unreachable ++ unreachable ++ unreachable ++ unreachable
    ++ [.settle 0 .returned]

/-- A server that is down for all four attempts: the request was never
mailed, and the broker no longer has it. -/
theorem outage_loses_request :
    ∃ s message, run (System.step JsonCodec.document) {} outage = some s
      ∧ s.message 0 = some message
      ∧ WellFormed JsonCodec.document message.body
      ∧ message.accepted = 0
      ∧ ¬ message.place.Held :=
  ⟨_, _, rfl, rfl, wellFormed_request, rfl, id⟩

/-- After the outage the message is gone for the second reason. -/
theorem nacked_after_outage :
    ∃ s message, run (System.step JsonCodec.document) {} outage = some s
      ∧ s.message 0 = some message
      ∧ (message.place.Held
        ∨ ∃ d delivery why, message.place = .nacked d why
          ∧ s.delivery d = some delivery ∧ delivery.message = 0
          ∧ (why = .templateFailed
            ∨ why = .attemptsFailed
              ∧ delivery.failed.length = maxRetries + 1)) := by
  obtain ⟨s, message, hrun, hmessage, hwell, haccepted⟩ :
      ∃ s message, run (System.step JsonCodec.document) {} outage = some s
        ∧ s.message 0 = some message ∧ WellFormed JsonCodec.document message.body
        ∧ message.accepted = 0 :=
    ⟨_, _, rfl, rfl, wellFormed_request, rfl⟩
  exact ⟨s, message, hrun, hmessage,
    held_or_nacked_after_failure hrun hmessage hwell haccepted⟩

-- ============================================================= duplication

/-- What is assumed of broker and process: a broker call returns exactly
over an open channel, and the process does not crash. -/
def System.BrokerReliable (s : System B) : Event B → Prop
  | .settle d how => ∀ delivery, s.delivery d = some delivery →
      (how = .returned ↔ s.live delivery)
  | .crash => False
  | .publish _ | .start | .deliver _ | .prepare _ _ | .smtp _ _ | .stop =>
      True

/-- The steps after which a mail can be sent again: a disconnect that
throws, a send over a closed channel, and closing the channel while a
message that was mailed is unsettled. -/
def System.Harmless (s : System B) : Event B → Prop
  | .smtp d ok => ∀ delivery mail retryCount call,
      s.delivery d = some delivery →
      delivery.phase = .sending mail retryCount call →
      (call = .disconnect → ok = true)
        ∧ (call = .send → ok = true → s.live delivery)
  | .stop => ∀ m message d, s.message m = some message →
      message.place = .unsettled d → message.accepted = 0
  | .publish _ | .start | .deliver _ | .prepare _ _ | .settle _ _ | .crash =>
      True

/-- Phases before the mail of the current attempt is accepted. -/
def Phase.Unmailed : Phase → Prop
  | .received => True
  | .sending _ _ call => call ≠ .disconnect
  | .acking => False
  | .nacking _ => False
  | .done => False

/-- Delivery `d` owns its message: the broker waits for it, and the
message is unaccepted while the handler has not mailed it. -/
def System.Owns (s : System B) (d : Nat) (delivery : Delivery) : Prop :=
  ∃ message, s.message delivery.message = some message
    ∧ message.place = .unsettled d
    ∧ (delivery.phase.Unmailed → message.accepted = 0)

/-- The invariant about accepted mails. -/
structure OnceInv (s : System B) : Prop where
  undelivered : ∀ d, s.delivered ≤ d → s.delivery d = none
  unpublished : ∀ m, s.published ≤ m → s.message m = none
  channel : ∀ d delivery, s.delivery d = some delivery →
    delivery.channel ≤ s.channel
  once : ∀ m message, s.message m = some message → message.accepted ≤ 1
  queued : ∀ m message, s.message m = some message →
    message.place = .queued → message.accepted = 0
  owns : ∀ d delivery, s.delivery d = some delivery → s.live delivery →
    delivery.phase ≠ .done → s.Owns d delivery

/-- Being live depends on the channel only. -/
theorem live_congr {s t : System B} {delivery delivery' : Delivery}
    (hopen : t.channelOpen = s.channelOpen) (hchannel : t.channel = s.channel)
    (h : delivery'.channel = delivery.channel) :
    t.live delivery' = s.live delivery := by
  unfold System.live
  rw [hopen, hchannel, h]

/-- Settling touches no message but the delivery's own. -/
theorem settle_of_ne {d : Nat} {place : Place} {message : Message B}
    (h : message.place ≠ .unsettled d) :
    Message.settle d place message = message :=
  if_neg h

/-- What a handler's step does to a message that waits for another delivery:
nothing. A handler that is not the owner is on a closed channel; what it
acks is its own delivery, and a harmless step sends no mail from there. -/
private theorem effect_of_other {s : System B} {d k : Nat}
    {delivery delivery' : Delivery} {e : Event B}
    {effect : Message B → Message B} {message : Message B}
    (hinv : OnceInv s) (hdelivery : s.delivery d = some delivery)
    (h : Advance codec s d delivery e delivery' effect)
    (hharmless : s.Harmless e)
    (hmessage : s.message delivery.message = some message)
    (hplace : message.place = .unsettled k) (hk : k ≠ d) :
    effect message = message := by
  have hne : message.place ≠ .unsettled d := by
    rw [hplace]
    exact fun h => hk (Place.unsettled.inj h)
  cases h with
  | prepare fs message' hphase hmessage' => rfl
  | returned mail retryCount call hphase =>
      by_cases hcall : call = .send
      · -- only the owner sends
        have hlive := (hharmless delivery mail retryCount call hdelivery
          hphase).2 hcall rfl
        obtain ⟨own, hown, hplace', -⟩ := hinv.owns d delivery hdelivery hlive
          (by rw [hphase]; exact nofun)
        obtain rfl := Option.some.inj (hown.symm.trans hmessage)
        exact absurd hplace' hne
      · rw [if_neg hcall]
        rfl
  | threw mail retryCount call hphase => rfl
  | ack how phase hphase hnext hlive =>
      split
      · exact settle_of_ne hne
      · rfl
  | nack how why hphase hlive =>
      split
      · exact settle_of_ne hne
      · rfl

/-- A message is accepted at most once, and queued ones not at all, after a
handler's step. The one step that adds to `accepted` is the owner's send,
before which there was none. -/
private theorem accepted_advance {s : System B} {d : Nat}
    {delivery delivery' : Delivery} {e : Event B}
    {effect : Message B → Message B} {message : Message B}
    (hinv : OnceInv s) (hdelivery : s.delivery d = some delivery)
    (h : Advance codec s d delivery e delivery' effect)
    (hharmless : s.Harmless e)
    (hmessage : s.message delivery.message = some message) :
    (effect message).accepted ≤ 1
      ∧ ((effect message).place = .queued → (effect message).accepted = 0) := by
  have honce := hinv.once _ message hmessage
  have hqueued := hinv.queued _ message hmessage
  have hsettle : ∀ (place : Place) (reached : Bool), place ≠ .queued →
      ((if reached then Message.settle d place else id) message).accepted ≤ 1
        ∧ (((if reached then Message.settle d place else id) message).place
            = .queued →
          ((if reached then Message.settle d place else id) message).accepted
            = 0) := by
    intro place reached hplace
    cases reached with
    | false => exact ⟨honce, hqueued⟩
    | true =>
        show (Message.settle d place message).accepted ≤ 1
          ∧ ((Message.settle d place message).place = .queued →
            (Message.settle d place message).accepted = 0)
        unfold Message.settle
        split
        · exact ⟨honce, fun h => absurd h hplace⟩
        · exact ⟨honce, hqueued⟩
  cases h with
  | prepare fs message' hphase hmessage' => exact ⟨honce, hqueued⟩
  | returned mail retryCount call hphase =>
      by_cases hcall : call = .send
      · have hlive := (hharmless delivery mail retryCount call hdelivery
          hphase).2 hcall rfl
        obtain ⟨own, hown, hplace, hunmailed⟩ := hinv.owns d delivery
          hdelivery hlive (by rw [hphase]; exact nofun)
        obtain rfl := Option.some.inj (hown.symm.trans hmessage)
        have hzero : own.accepted = 0 := by
          apply hunmailed
          rw [hphase, hcall]
          exact nofun
        rw [if_pos hcall]
        refine ⟨?_, fun h => ?_⟩
        · show own.accepted + 1 ≤ 1
          omega
        · have h : own.place = .queued := h
          rw [hplace] at h
          cases h
      · rw [if_neg hcall]
        exact ⟨honce, hqueued⟩
  | threw mail retryCount call hphase => exact ⟨honce, hqueued⟩
  | ack how phase hphase hnext hlive => exact hsettle _ _ nofun
  | nack how why hphase hlive => exact hsettle _ _ nofun

/-- The owner of a message goes on owning it. -/
private theorem owns_advance {s : System B} {d : Nat}
    {delivery delivery' : Delivery} {e : Event B}
    {effect : Message B → Message B}
    (hdelivery : s.delivery d = some delivery)
    (h : Advance codec s d delivery e delivery' effect)
    (hreliable : s.BrokerReliable e) (hharmless : s.Harmless e)
    (hlive : s.live delivery) (hphase' : delivery'.phase ≠ .done)
    (howns : s.Owns d delivery) :
    (s.advance d delivery' effect).Owns d delivery' := by
  obtain ⟨hsame, -, -, -⟩ := advance_frame h
  obtain ⟨message, hmessage, hplace, hunmailed⟩ := howns
  have hmessage' := hmessage
  rw [← hsame] at hmessage'
  refine ⟨effect message, message_advance_self hmessage', ?_⟩
  cases h with
  | prepare fs message' hphase hmessage'' =>
      exact ⟨hplace, fun _ => hunmailed (by rw [hphase]; exact trivial)⟩
  | returned mail retryCount call hphase =>
      rw [hphase] at hunmailed
      cases call with
      | build => exact ⟨hplace, fun _ => hunmailed nofun⟩
      | connect => exact ⟨hplace, fun _ => hunmailed nofun⟩
      | authenticate => exact ⟨hplace, fun _ => hunmailed nofun⟩
      | send => exact ⟨hplace, fun h => absurd rfl h⟩
      | disconnect => exact ⟨hplace, fun h => h.elim⟩
  | threw mail retryCount call hphase =>
      have hcall : call ≠ .disconnect := by
        intro hcall
        have := (hharmless delivery mail retryCount call hdelivery
          hphase).1 hcall
        cases this
      exact ⟨hplace, fun _ => hunmailed (by rw [hphase]; exact hcall)⟩
  | ack how phase hphase hnext _ =>
      -- over an open channel the ack returns
      have hreturned := (hreliable delivery hdelivery).mpr hlive
      subst hreturned
      exact absurd hnext hphase'
  | nack how why hphase _ => exact absurd rfl hphase'

/-- A handler's step keeps the invariant. -/
private theorem onceInv_handler {s : System B} {d : Nat}
    {delivery delivery' : Delivery} {e : Event B}
    {effect : Message B → Message B} (hinv : OnceInv s)
    (hreliable : s.BrokerReliable e) (hharmless : s.Harmless e)
    (hdelivery : s.delivery d = some delivery)
    (h : Advance codec s d delivery e delivery' effect) :
    OnceInv (s.advance d delivery' effect) := by
  obtain ⟨hsame, hchannel, hphase, -⟩ := advance_frame h
  refine ⟨?_, ?_, ?_, ?_, ?_, ?_⟩
  · exact undelivered_advance hinv.undelivered hdelivery
  · intro m hm
    have hnone := hinv.unpublished m hm
    cases hnew : (s.advance d delivery' effect).message m with
    | none => rfl
    | some message =>
        obtain ⟨old, hold, -⟩ := message_advance hnew
        rw [hnone] at hold
        cases hold
  · intro k other hother
    rw [delivery_advance] at hother
    split at hother
    · obtain rfl := Option.some.inj hother
      rw [hchannel]
      exact hinv.channel d delivery hdelivery
    · exact hinv.channel k other hother
  · intro m message' hmessage'
    obtain ⟨old, hold, rfl⟩ := message_advance hmessage'
    split
    case isFalse => exact hinv.once m old hold
    case isTrue hm =>
      rw [hm, hsame] at hold
      exact (accepted_advance hinv hdelivery h hharmless hold).1
  · intro m message' hmessage'
    obtain ⟨old, hold, rfl⟩ := message_advance hmessage'
    split
    case isFalse => exact hinv.queued m old hold
    case isTrue hm =>
      rw [hm, hsame] at hold
      exact (accepted_advance hinv hdelivery h hharmless hold).2
  · intro k other hother hlive hdone
    rw [delivery_advance] at hother
    have hlive : s.live other := hlive
    by_cases hkd : k = d
    · rw [if_pos hkd] at hother
      obtain rfl := Option.some.inj hother
      have hlive' : s.live delivery := by
        rwa [live_congr rfl rfl hchannel] at hlive
      rw [hkd]
      exact owns_advance hdelivery h hreliable hharmless hlive' hdone
        (hinv.owns d delivery hdelivery hlive' hphase)
    · rw [if_neg hkd] at hother
      obtain ⟨message, hmessage, hplace, hunmailed⟩ :=
        hinv.owns k other hother hlive hdone
      refine ⟨message, ?_, hplace, hunmailed⟩
      by_cases hm : other.message = delivery'.message
      · rw [hm] at hmessage ⊢
        rw [message_advance_self hmessage]
        rw [hsame] at hmessage
        rw [effect_of_other hinv hdelivery h hharmless hmessage hplace hkd]
      · rw [message_advance_of_ne hm, hmessage]

/-- Publishing keeps the invariant. -/
private theorem onceInv_publish {s : System B} (body : B)
    (hinv : OnceInv s) : OnceInv (s.publish body) := by
  have hmessage : ∀ m message, (s.publish body).message m = some message →
      s.message m = some message ∨ message = { body } := by
    intro m message h
    change Function.update s.message s.published _ m = _ at h
    rw [Function.update_apply] at h
    split at h
    · exact Or.inr (Option.some.inj h).symm
    · exact Or.inl h
  refine ⟨hinv.undelivered, ?_, hinv.channel, ?_, ?_, ?_⟩
  · intro m hm
    have hm : s.published + 1 ≤ m := hm
    show Function.update s.message s.published _ m = none
    rw [Function.update_of_ne (by omega), hinv.unpublished m (by omega)]
  · intro m message h
    rcases hmessage m message h with h | rfl
    · exact hinv.once m message h
    · exact Nat.zero_le _
  · intro m message h hplace
    rcases hmessage m message h with h | rfl
    · exact hinv.queued m message h hplace
    · rfl
  · intro k other hother hlive hdone
    obtain ⟨message, h, hrest⟩ := hinv.owns k other hother hlive hdone
    refine ⟨message, ?_, hrest⟩
    show Function.update s.message s.published _ _ = _
    rw [Function.update_of_ne, h]
    intro heq
    rw [heq, hinv.unpublished _ (Nat.le_refl _)] at h
    cases h

/-- Delivering a queued message keeps the invariant: the new delivery is
its owner. -/
private theorem onceInv_deliver {s : System B} {m : Nat}
    {message : Message B} (hinv : OnceInv s)
    (hmessage : s.message m = some message)
    (hplace : message.place = .queued) : OnceInv (s.deliverMessage m) := by
  have hself : (s.deliverMessage m).message m
      = some { message with place := .unsettled s.delivered } := by
    show Function.update s.message m _ m = _
    rw [Function.update_self, hmessage]
    rfl
  have hother : ∀ k, k ≠ m → (s.deliverMessage m).message k = s.message k :=
    fun k hk => Function.update_of_ne hk _ _
  have hzero := hinv.queued m message hmessage hplace
  refine ⟨?_, ?_, ?_, ?_, ?_, ?_⟩
  · intro k hk
    have hk : s.delivered + 1 ≤ k := hk
    show Function.update s.delivery s.delivered _ k = none
    rw [Function.update_of_ne (by omega), hinv.undelivered k (by omega)]
  · intro k hk
    rw [hother, hinv.unpublished k hk]
    intro hkm
    rw [← hkm, hinv.unpublished k hk] at hmessage
    cases hmessage
  · intro k other hdelivery
    change Function.update s.delivery s.delivered _ k = _ at hdelivery
    rw [Function.update_apply] at hdelivery
    split at hdelivery
    · obtain rfl := Option.some.inj hdelivery
      exact Nat.le_refl _
    · exact hinv.channel k other hdelivery
  · intro k new hnew
    by_cases hk : k = m
    · rw [hk, hself] at hnew
      obtain rfl := Option.some.inj hnew
      exact hinv.once m message hmessage
    · rw [hother k hk] at hnew
      exact hinv.once k new hnew
  · intro k new hnew hqueued
    by_cases hk : k = m
    · rw [hk, hself] at hnew
      obtain rfl := Option.some.inj hnew
      cases hqueued
    · rw [hother k hk] at hnew
      exact hinv.queued k new hnew hqueued
  · intro k other hdelivery hlive hdone
    change Function.update s.delivery s.delivered _ k = _ at hdelivery
    rw [Function.update_apply] at hdelivery
    split at hdelivery
    case isTrue hk =>
      obtain rfl := Option.some.inj hdelivery
      rw [hk]
      exact ⟨_, hself, rfl, fun _ => hzero⟩
    case isFalse hk =>
      obtain ⟨own, hown, hunsettled, hunmailed⟩ :=
        hinv.owns k other hdelivery hlive hdone
      refine ⟨own, ?_, hunsettled, hunmailed⟩
      rw [hother, hown]
      intro heq
      rw [heq, hmessage] at hown
      obtain rfl := Option.some.inj hown
      rw [hplace] at hunsettled
      cases hunsettled

/-- Closing the channel keeps the invariant if no mailed message is
unsettled. -/
private theorem onceInv_stop {s : System B} (hinv : OnceInv s)
    (hharmless : ∀ m message d, s.message m = some message →
      message.place = .unsettled d → message.accepted = 0) :
    OnceInv s.closeChannel := by
  have haccepted : ∀ message : Message B,
      message.requeue.accepted = message.accepted := by
    intro message
    unfold Message.requeue
    split <;> rfl
  refine ⟨hinv.undelivered, ?_, hinv.channel, ?_, ?_, ?_⟩
  · intro m hm
    show (s.message m).map Message.requeue = none
    rw [hinv.unpublished m hm]
    rfl
  · intro m new hnew
    obtain ⟨message, hmessage, rfl⟩ := Option.map_eq_some_iff.mp hnew
    rw [haccepted]
    exact hinv.once m message hmessage
  · intro m new hnew hqueued
    obtain ⟨message, hmessage, rfl⟩ := Option.map_eq_some_iff.mp hnew
    rw [haccepted]
    cases hplace : message.place with
    | queued => exact hinv.queued m message hmessage hplace
    | unsettled d => exact hharmless m message d hmessage hplace
    | acked =>
        unfold Message.requeue at hqueued
        rw [hplace] at hqueued
        cases hplace.symm.trans hqueued
    | nacked d why =>
        unfold Message.requeue at hqueued
        rw [hplace] at hqueued
        cases hplace.symm.trans hqueued
  · intro k other hdelivery hlive
    exact absurd hlive Bool.false_ne_true

/-- Every harmless step keeps the invariant about accepted mails. Where the
step has to be harmless it is for one of the three ways to mail twice. -/
theorem onceInv_step {s t : System B} {e : Event B} (hinv : OnceInv s)
    (hok : s.BrokerReliable e ∧ s.Harmless e)
    (hstep : s.step codec e = some t) : OnceInv t := by
  cases step_spec hstep with
  | publish body => exact onceInv_publish body hinv
  | start hclosed =>
      refine ⟨hinv.undelivered, hinv.unpublished, ?_, hinv.once, hinv.queued,
        ?_⟩
      · intro k other hother
        exact Nat.le_succ_of_le (hinv.channel k other hother)
      · -- no delivery came over the new channel yet
        intro k other hother hlive
        have hle := hinv.channel k other hother
        have heq : other.channel = s.channel + 1 := by
          unfold System.live System.startWorker at hlive
          rw [Bool.true_and, beq_iff_eq] at hlive
          exact hlive
        omega
  | deliver m message hmessage hopen hplace =>
      exact onceInv_deliver hinv hmessage hplace
  | handler d delivery delivery' e effect hdelivery h =>
      exact onceInv_handler hinv hok.1 hok.2 hdelivery h
  | stop hopen => exact onceInv_stop hinv hok.2
  | crash => exact hok.1.elim

/-- In every run over a reliable broker and without a crash, in which no
disconnect throws after its send was accepted, a send is accepted only
over an open channel, and the channel is not closed while a mailed message
is unsettled, the SMTP server accepts at most one mail for each message. -/
theorem accepted_at_most_once {es : List (Event B)} {s : System B}
    (hrun : run (System.step codec) {} es = some s)
    (hok : Along (System.step codec)
      (fun s e => s.BrokerReliable e ∧ s.Harmless e) {} es)
    {m : Nat} {message : Message B}
    (hmessage : s.message m = some message) : message.accepted ≤ 1 := by
  have hinit : OnceInv ({} : System B) :=
    ⟨fun _ _ => rfl, fun _ _ => rfl, nofun, nofun, nofun, nofun⟩
  have hinv := run_invariant (fun s e t => onceInv_step) hinit hok hrun
  exact hinv.once m message hmessage

/-- The calls of an attempt that succeeds up to the send. -/
private def mailed : List (Event (Json String)) :=
  [.smtp 0 true, .smtp 0 true, .smtp 0 true, .smtp 0 true]

/-- The bound over a run that mails, disconnects and acks. -/
theorem accepted_once_example :
    ∃ s message,
      run (System.step JsonCodec.document) {}
          (begun ++ mailed ++ [.smtp 0 true, .settle 0 .returned]) = some s
        ∧ s.message 0 = some message ∧ message.accepted ≤ 1 := by
  have hsmtp : ∀ s : System (Json String),
      (∀ delivery, s.delivery 0 = some delivery → s.live delivery) →
      s.BrokerReliable (.smtp 0 true) ∧ s.Harmless (.smtp 0 true) :=
    fun s h => ⟨trivial, fun delivery _ _ _ hdelivery _ =>
      ⟨fun _ => rfl, fun _ _ => h delivery hdelivery⟩⟩
  obtain ⟨s, message, hrun, hmessage⟩ : ∃ s message,
      run (System.step JsonCodec.document) {}
          (begun ++ mailed ++ [.smtp 0 true, .settle 0 .returned]) = some s
        ∧ s.message 0 = some message := ⟨_, _, rfl, rfl⟩
  refine ⟨s, message, hrun, hmessage,
    accepted_at_most_once hrun ?_ hmessage⟩
  refine along_cons ⟨trivial, trivial⟩ rfl ?_
  refine along_cons ⟨trivial, trivial⟩ rfl ?_
  refine along_cons ⟨trivial, trivial⟩ rfl ?_
  refine along_cons ⟨trivial, trivial⟩ rfl ?_
  refine along_cons (hsmtp _ (fun _ h => Option.some.inj h ▸ rfl)) rfl ?_
  refine along_cons (hsmtp _ (fun _ h => Option.some.inj h ▸ rfl)) rfl ?_
  refine along_cons (hsmtp _ (fun _ h => Option.some.inj h ▸ rfl)) rfl ?_
  refine along_cons (hsmtp _ (fun _ h => Option.some.inj h ▸ rfl)) rfl ?_
  refine along_cons (hsmtp _ (fun _ h => Option.some.inj h ▸ rfl)) rfl ?_
  refine along_cons ⟨fun _ h => ?_, trivial⟩ rfl trivial
  exact iff_of_true rfl (Option.some.inj h ▸ rfl)

/-- Mails are sent twice: when the disconnect throws after the server took
the mail, and when the channel is closed under a handler that has mailed. -/
theorem request_mailed_twice :
    (∃ s message,
      run (System.step JsonCodec.document) {}
          (begun ++ mailed ++ [.smtp 0 false] ++ mailed) = some s
        ∧ s.message 0 = some message ∧ message.accepted = 2)
    ∧ ∃ s message,
      run (System.step JsonCodec.document) {}
          (begun ++ mailed ++ [.stop, .start, .deliver 0,
            .prepare 1 .empty, .smtp 1 true, .smtp 1 true,
            .smtp 1 true, .smtp 1 true]) = some s
        ∧ s.message 0 = some message ∧ message.accepted = 2 :=
  ⟨⟨_, _, rfl, rfl, rfl⟩, _, _, rfl, rfl, rfl⟩

end SkillBuddy
