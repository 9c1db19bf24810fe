/-
`SkillBuddy.Worker.Email.Workers.EmailConsumerWorker`: the handler of a
queue message, and the system it runs in.

# The handler

`prepare` is the part before the first call on the network: the request
is read and the mail built. What follows are calls that return or throw,
so a delivery is a small machine (`Phase`): the calls of an attempt, the
next attempt, then the ack; every exception inside the `try`, the ack's
own included, leads to the nack, and the nack's own exception ends the
handler.

# The system

The publisher puts messages into the queue; the broker delivers queued
messages over the worker's channel and keeps a delivered message until it
is settled over that channel. A nack is made with `requeue: false`, and
the queue has no dead-letter exchange, so it removes the message like an
ack does. `StopAsync` closes the channel without waiting for handlers:
they go on with the channel they were given, and the broker puts their
messages back into the queue.
-/
import SkillBuddy.DotNet.SystemTextJson
import SkillBuddy.Worker.EmailService
import Mathlib.Logic.Function.Basic

namespace SkillBuddy

open DotNet

-- =============================================================== requests

/-- `EmailRequestDto`. -/
structure EmailRequestDto where
  to_ : Option String := none
  templateName : Option String := none
  placeholders : Option (List (String × Option String)) := none
  deriving DecidableEq, Repr

/-- One member of the JSON object, put into the request. -/
def EmailRequestDto.setMember (request : EmailRequestDto)
    (member : String × Json String) : Except Exn EmailRequestDto :=
  if sameName member.1 "To" then do
    let to_ ← readString member.2
    return { request with to_ }
  else if sameName member.1 "TemplateName" then do
    let templateName ← readString member.2
    return { request with templateName }
  else if sameName member.1 "Placeholders" then do
    let placeholders ← readDictionary member.2
    return { request with placeholders }
  else return request

/-- `JsonSerializer.Deserialize<EmailRequestDto>`, on parsed JSON. -/
def EmailRequestDto.ofJson :
    Json String → Except Exn (Option EmailRequestDto)
  | .null => .ok none
  | .object members => do
      let request ← members.foldlM EmailRequestDto.setMember {}
      return some request
  | .bool _ | .number _ | .string _ | .array _ => .error .json

/-- `JsonSerializer.Deserialize<EmailRequestDto>(message)`. -/
def EmailRequestDto.deserialize {B : Type} (codec : JsonCodec B)
    (body : B) : Except Exn (Option EmailRequestDto) :=
  match codec.read body with
  | none => .error .json
  | some json => EmailRequestDto.ofJson json

-- ================================================================ handler

/-- What the handler's `catch` caught. -/
inductive Failure where
  | malformed
  | templateFailed
  | attemptsFailed
  | ackFailed
  deriving DecidableEq, Repr

/-- The handler up to the retried action: the mail to send, or none for a
request without a recipient. -/
def prepare {B : Type} (codec : JsonCodec B)
    (fs : TemplateService.FileSystem) (body : B) :
    Except Failure (Option Mail) :=
  match EmailRequestDto.deserialize codec body with
  | .error _ => .error .malformed
  | .ok none => .ok none
  | .ok (some emailRequest) =>
      match emailRequest.to_ with
      | none => .ok none
      | some to_ =>
          if to_ = "" then .ok none
          else
            match EmailService.mailFor fs to_
                (emailRequest.templateName.getD "Default")
                (emailRequest.placeholders.getD []) with
            | .error _ => .error .templateFailed
            | .ok mail => .ok (some mail)

/-- Where the handler of a delivery stands: before the request is read,
before a call of an attempt (`retryCount` attempts have thrown), before
the ack, before the nack, or through. -/
inductive Phase where
  | received
  | sending (mail : Mail) (retryCount : Nat) (call : SmtpCall)
  | acking
  | nacking (why : Failure)
  | done
  deriving DecidableEq, Repr

/-- A delivery: its message, the channel it came over, its handler, and
the calls at which its attempts threw. -/
structure Delivery where
  message : Nat
  channel : Nat
  phase : Phase := .received
  failed : List SmtpCall := []
  deriving DecidableEq, Repr

/-- After `prepare`. -/
def Delivery.prepared (delivery : Delivery) :
    Except Failure (Option Mail) → Delivery
  | .error why => { delivery with phase := .nacking why }
  | .ok none => { delivery with phase := .acking }
  | .ok (some mail) => { delivery with phase := .sending mail 0 .build }

/-- After a call that returned. -/
def Delivery.returned (delivery : Delivery) (mail : Mail)
    (retryCount : Nat) (call : SmtpCall) : Delivery :=
  match call.next with
  | some next => { delivery with phase := .sending mail retryCount next }
  | none => { delivery with phase := .acking }

/-- After a call that threw: another attempt, or out of the policy. -/
def Delivery.threw (delivery : Delivery) (mail : Mail)
    (retryCount : Nat) (call : SmtpCall) : Delivery :=
  { delivery with
    failed := delivery.failed ++ [call]
    phase :=
      if retryCount < maxRetries then .sending mail (retryCount + 1) .build
      else .nacking .attemptsFailed }

-- ================================================================= system

/-- Where the broker has a message. -/
inductive Place where
  | queued
  | unsettled (delivery : Nat)
  | acked
  | nacked (delivery : Nat) (why : Failure)
  deriving DecidableEq, Repr

/-- A published message, and how many mails the SMTP server accepted for
it. -/
structure Message (B : Type) where
  body : B
  place : Place := .queued
  accepted : Nat := 0

/-- A message the broker settles for delivery `d`: only that delivery's
own message can be. -/
def Message.settle {B : Type} (d : Nat) (place : Place) (message : Message B) :
    Message B :=
  if message.place = .unsettled d then { message with place } else message

/-- The SMTP server accepts a mail for a message. -/
def Message.accept {B : Type} (message : Message B) : Message B :=
  { message with accepted := message.accepted + 1 }

/-- The broker takes an unsettled message back. -/
def Message.requeue {B : Type} (message : Message B) : Message B :=
  match message.place with
  | .unsettled _ => { message with place := .queued }
  | .queued | .acked | .nacked _ _ => message

/-- Publisher, broker, worker and SMTP server. Messages, deliveries and
channels are numbered as they come. -/
structure System (B : Type) where
  message : Nat → Option (Message B) := fun _ => none
  published : Nat := 0
  delivery : Nat → Option Delivery := fun _ => none
  delivered : Nat := 0
  channel : Nat := 0
  channelOpen : Bool := false

/-- How a broker call ended. A call that threw may still have reached the
broker. -/
inductive Settlement where
  | returned
  | threw (reached : Bool)
  deriving DecidableEq, Repr

/-- The call reached the broker. -/
def Settlement.reached : Settlement → Bool
  | .returned => true
  | .threw reached => reached

/-- What can happen next. -/
inductive Event (B : Type) where
  | publish (body : B)
  | start
  | deliver (m : Nat)
  | prepare (d : Nat) (fs : TemplateService.FileSystem)
  | smtp (d : Nat) (ok : Bool)
  | settle (d : Nat) (how : Settlement)
  | stop
  | crash

namespace System

variable {B : Type}

/-- The channel a delivery came over is open. -/
def live (s : System B) (delivery : Delivery) : Bool :=
  s.channelOpen && delivery.channel == s.channel

/-- Put a delivery. -/
def setDelivery (s : System B) (d : Nat) (delivery : Delivery) :
    System B :=
  { s with delivery := Function.update s.delivery d (some delivery) }

/-- Change a message. -/
def changeMessage (s : System B) (m : Nat)
    (change : Message B → Message B) : System B :=
  { s with
    message := Function.update s.message m ((s.message m).map change) }

/-- The channel closes. -/
def closeChannel (s : System B) : System B :=
  { s with
    message := fun m => (s.message m).map Message.requeue
    channelOpen := false }

/-- `PublishEmailAsync`: the message is in the queue. -/
def publish (s : System B) (body : B) : System B :=
  { s with
    message := Function.update s.message s.published (some { body })
    published := s.published + 1 }

/-- `StartAsync` and `ExecuteAsync`: a new channel with a consumer. -/
def startWorker (s : System B) : System B :=
  { s with channel := s.channel + 1, channelOpen := true }

/-- The broker delivers a message over the open channel. -/
def deliverMessage (s : System B) (m : Nat) : System B :=
  { s.changeMessage m
      (fun message => { message with place := .unsettled s.delivered }) with
    delivery := Function.update s.delivery s.delivered
      (some { message := m, channel := s.channel })
    delivered := s.delivered + 1 }

/-- The process dies: its channel closes and its handlers are gone. -/
def crashWorker (s : System B) : System B :=
  { s.closeChannel with
    delivery := fun d => (s.delivery d).map fun delivery =>
      { delivery with phase := .done } }

/-- The handler of delivery `d` goes on as `delivery`, with an effect on
its message. -/
def advance (s : System B) (d : Nat) (delivery : Delivery)
    (effect : Message B → Message B) : System B :=
  (s.setDelivery d delivery).changeMessage delivery.message effect

/-- A broker call for delivery `d`: if it reaches the broker, its message
moves to `place`. Only an open channel reaches the broker. -/
def settle (s : System B) (d : Nat) (delivery : Delivery) (place : Place)
    (how : Settlement) : Option (System B) :=
  if how.reached && !s.live delivery then none
  else some (s.advance d delivery
    (if how.reached then Message.settle d place else id))

/-- One step of the system; `none` where the event cannot happen. -/
def step (codec : JsonCodec B) (s : System B) : Event B → Option (System B)
  | .publish body => some (s.publish body)
  | .start => if s.channelOpen then none else some s.startWorker
  | .deliver m =>
      match s.message m with
      | none => none
      | some message =>
          if s.channelOpen ∧ message.place = .queued then
            some (s.deliverMessage m)
          else none
  | .prepare d fs =>
      match s.delivery d with
      | none => none
      | some delivery =>
          match delivery.phase, s.message delivery.message with
          | .received, some message => some (s.advance d
              (delivery.prepared (SkillBuddy.prepare codec fs message.body))
              id)
          | _, _ => none
  | .smtp d ok =>
      match s.delivery d with
      | none => none
      | some delivery =>
          match delivery.phase with
          | .sending mail retryCount call =>
              if ok then some (s.advance d
                (delivery.returned mail retryCount call)
                (if call = .send then Message.accept else id))
              else some (s.advance d
                (delivery.threw mail retryCount call) id)
          | _ => none
  | .settle d how =>
      match s.delivery d with
      | none => none
      | some delivery =>
          match delivery.phase with
          | .acking =>
              let phase := match how with
                | .returned => .done
                | .threw _ => .nacking .ackFailed
              s.settle d { delivery with phase } .acked how
          | .nacking why =>
              s.settle d { delivery with phase := .done } (.nacked d why) how
          | _ => none
  | .stop => if s.channelOpen then some s.closeChannel else none
  | .crash => some s.crashWorker

end System

-- ============================================== what a handler's step is

/-- A step of the handler of a delivery: the event, the delivery it goes
on as, and its effect on the message. -/
inductive Advance {B : Type} (codec : JsonCodec B) (s : System B) (d : Nat)
    (delivery : Delivery) :
    Event B → Delivery → (Message B → Message B) → Prop
  | prepare (fs : TemplateService.FileSystem) (message : Message B)
      (hphase : delivery.phase = .received)
      (hmessage : s.message delivery.message = some message) :
      Advance codec s d delivery (.prepare d fs)
        (delivery.prepared (SkillBuddy.prepare codec fs message.body)) id
  | returned (mail : Mail) (retryCount : Nat) (call : SmtpCall)
      (hphase : delivery.phase = .sending mail retryCount call) :
      Advance codec s d delivery (.smtp d true)
        (delivery.returned mail retryCount call)
        (if call = .send then Message.accept else id)
  | threw (mail : Mail) (retryCount : Nat) (call : SmtpCall)
      (hphase : delivery.phase = .sending mail retryCount call) :
      Advance codec s d delivery (.smtp d false)
        (delivery.threw mail retryCount call) id
  | ack (how : Settlement) (phase : Phase)
      (hphase : delivery.phase = .acking)
      (hnext : phase = match how with
        | .returned => .done
        | .threw _ => .nacking .ackFailed)
      (hlive : how.reached → s.live delivery) :
      Advance codec s d delivery (.settle d how)
        { delivery with phase }
        (if how.reached then Message.settle d .acked else id)
  | nack (how : Settlement) (why : Failure)
      (hphase : delivery.phase = .nacking why)
      (hlive : how.reached → s.live delivery) :
      Advance codec s d delivery (.settle d how)
        { delivery with phase := .done }
        (if how.reached then Message.settle d (.nacked d why) else id)

/-- What one step of the system can be. -/
inductive Step {B : Type} (codec : JsonCodec B) (s : System B) :
    Event B → System B → Prop
  | publish (body : B) : Step codec s (.publish body) (s.publish body)
  | start (hclosed : s.channelOpen = false) :
      Step codec s .start s.startWorker
  | deliver (m : Nat) (message : Message B)
      (hmessage : s.message m = some message)
      (hopen : s.channelOpen = true) (hplace : message.place = .queued) :
      Step codec s (.deliver m) (s.deliverMessage m)
  | handler (d : Nat) (delivery delivery' : Delivery) (e : Event B)
      (effect : Message B → Message B)
      (hdelivery : s.delivery d = some delivery)
      (h : Advance codec s d delivery e delivery' effect) :
      Step codec s e (s.advance d delivery' effect)
  | stop (hopen : s.channelOpen = true) :
      Step codec s .stop s.closeChannel
  | crash : Step codec s .crash s.crashWorker

/-- A broker call that could happen. -/
private theorem settle_eq_some {B : Type} {s t : System B} {d : Nat}
    {delivery : Delivery} {place : Place} {how : Settlement}
    (h : s.settle d delivery place how = some t) :
    (how.reached → s.live delivery)
      ∧ t = s.advance d delivery
        (if how.reached then Message.settle d place else id) := by
  unfold System.settle at h
  split at h
  case isTrue => cases h
  case isFalse hcond =>
    refine ⟨fun hreached => ?_, (Option.some.inj h).symm⟩
    rw [hreached, Bool.true_and, Bool.not_eq_true', Bool.not_eq_false]
      at hcond
    exact hcond

/-- Every step is one of these. -/
theorem step_spec {B : Type} {codec : JsonCodec B} {s t : System B}
    {e : Event B} (h : s.step codec e = some t) : Step codec s e t := by
  cases e with
  | publish body =>
      obtain rfl := Option.some.inj h
      exact .publish body
  | start =>
      rw [System.step] at h
      split at h
      case isTrue => cases h
      case isFalse hclosed =>
        obtain rfl := Option.some.inj h
        exact .start (by simpa using hclosed)
  | deliver m =>
      rw [System.step] at h
      split at h
      · cases h
      · rename_i message hmessage
        split at h
        case isFalse => cases h
        case isTrue hcond =>
          obtain rfl := Option.some.inj h
          exact .deliver m message hmessage hcond.1 hcond.2
  | prepare d fs =>
      rw [System.step] at h
      split at h
      · cases h
      · rename_i delivery hdelivery
        split at h
        · rename_i message hphase hmessage
          obtain rfl := Option.some.inj h
          exact .handler d delivery _ _ _ hdelivery
            (.prepare fs message hphase hmessage)
        · cases h
  | smtp d ok =>
      rw [System.step] at h
      split at h
      · cases h
      · rename_i delivery hdelivery
        split at h
        · rename_i mail retryCount call hphase
          cases ok with
          | true =>
              obtain rfl := Option.some.inj h
              exact .handler d delivery _ _ _ hdelivery
                (.returned mail retryCount call hphase)
          | false =>
              obtain rfl := Option.some.inj h
              exact .handler d delivery _ _ _ hdelivery
                (.threw mail retryCount call hphase)
        · cases h
  | settle d how =>
      simp only [System.step] at h
      split at h
      · cases h
      · rename_i delivery hdelivery
        split at h
        · rename_i hphase
          obtain ⟨hlive, rfl⟩ := settle_eq_some h
          exact .handler d delivery _ _ _ hdelivery
            (.ack how _ hphase rfl hlive)
        · rename_i why hphase
          obtain ⟨hlive, rfl⟩ := settle_eq_some h
          exact .handler d delivery _ _ _ hdelivery
            (.nack how why hphase hlive)
        · cases h
  | stop =>
      rw [System.step] at h
      split at h
      case isFalse => cases h
      case isTrue hopen =>
        obtain rfl := Option.some.inj h
        exact .stop hopen
  | crash =>
      obtain rfl := Option.some.inj h
      exact .crash

end SkillBuddy
