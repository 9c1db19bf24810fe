/-
A mail whose template does not exist.

# What is decided when

`LoadTemplate` reports a missing file in the text it returns, and nothing
on the way to the SMTP provider looks at that text again: the handler
mails it like a template and acks the delivery. So the one thing that
decides is whether the file is there when the request is prepared
(`mails_only_from_template_iff`). A file that is there may still fail to
be read, and then the delivery is nacked and nothing mailed.

# After the preparation

What a delivery can be doing after it was prepared is `Phase.From P`: a
mail in the handler has the property `P` the prepared one had, and the ack
comes after such a mail only. A step of the handler builds no new mail, a
retry least of all, so `Phase.From P` holds in every run that goes on from
there (`from_run`). With the text of the template for `P` this is one
direction.

# Without the file

For the other direction there has to be a run. Five calls that return
bring an attempt to the ack (`reachesAck_of_sending`), so a request whose
template is missing can be mailed and acked, whatever else happens to it
in other runs (`hands_and_acks_of_missing`).
-/
import SkillBuddy.Proofs.Delivery

namespace SkillBuddy

open DotNet
open Lib

variable {B : Type} {codec : JsonCodec B}

-- ===================================================== one delivery in a run

/-- What a step of the system does to one delivery: nothing, a step of its
handler, or the end of it. -/
theorem delivery_step {s t : System B} {e : Event B} {d : Nat}
    {delivery : Delivery} (hlt : d < s.delivered)
    (hdelivery : s.delivery d = some delivery)
    (hstep : s.step codec e = some t) :
    d < t.delivered ∧ ∃ delivery', t.delivery d = some delivery'
      ∧ (delivery' = delivery
        ∨ (∃ effect, Advance codec s d delivery e delivery' effect)
        ∨ delivery' = { delivery with phase := .done }) := by
  cases step_spec hstep with
  | publish body => exact ⟨hlt, delivery, hdelivery, Or.inl rfl⟩
  | start hclosed => exact ⟨hlt, delivery, hdelivery, Or.inl rfl⟩
  | deliver m message hmessage hopen hplace =>
      refine ⟨Nat.lt_succ_of_lt hlt, delivery, ?_, Or.inl rfl⟩
      show Function.update s.delivery s.delivered _ d = _
      rw [Function.update_of_ne (by omega), hdelivery]
  | handler k other other' e effect hother h =>
      refine ⟨hlt, ?_⟩
      rw [delivery_advance]
      by_cases hk : d = k
      · subst hk
        obtain rfl := Option.some.inj (hother.symm.trans hdelivery)
        rw [if_pos rfl]
        exact ⟨other', rfl, Or.inr (Or.inl ⟨effect, h⟩)⟩
      · rw [if_neg hk]
        exact ⟨delivery, hdelivery, Or.inl rfl⟩
  | stop hopen => exact ⟨hlt, delivery, hdelivery, Or.inl rfl⟩
  | crash =>
      refine ⟨hlt, { delivery with phase := .done }, ?_, Or.inr (Or.inr rfl)⟩
      show (s.delivery d).map _ = _
      rw [hdelivery]
      rfl

/-- The handler that takes a step is where the step leads. -/
theorem delivery_advance_self {s : System B} {d : Nat}
    {delivery : Delivery} {effect : Message B → Message B} :
    (s.advance d delivery effect).delivery d = some delivery := by
  rw [delivery_advance, if_pos rfl]

/-- Deliveries are numbered below the count. -/
theorem delivery_lt {es : List (Event B)} {s : System B} {d : Nat}
    {delivery : Delivery} (hrun : run (System.step codec) {} es = some s)
    (hdelivery : s.delivery d = some delivery) : d < s.delivered := by
  have hinv := lossInv_run hrun
  by_cases hlt : d < s.delivered
  · exact hlt
  · rw [hinv.undelivered d (by omega)] at hdelivery
    cases hdelivery

/-- A prepared delivery whose mail, if there is one, has `P`. -/
def Phase.From (P : Mail → Prop) : Phase → Prop
  | .received => False
  | .sending mail _ _ => P mail
  | .acking => ∃ mail, P mail
  | .nacking _ => True
  | .done => True

/-- A step of the handler builds no new mail. -/
theorem from_advance {P : Mail → Prop} {s : System B} {d : Nat}
    {delivery delivery' : Delivery} {e : Event B}
    {effect : Message B → Message B}
    (h : Advance codec s d delivery e delivery' effect)
    (hfrom : delivery.phase.From P) : delivery'.phase.From P := by
  cases h with
  | prepare fs message hphase hmessage =>
      rw [hphase] at hfrom
      exact hfrom.elim
  | returned mail retryCount call hphase =>
      rw [hphase] at hfrom
      cases call with
      | build => exact hfrom
      | connect => exact hfrom
      | authenticate => exact hfrom
      | send => exact hfrom
      | disconnect => exact ⟨mail, hfrom⟩
  | threw mail retryCount call hphase =>
      rw [hphase] at hfrom
      show Phase.From P (if retryCount < maxRetries then _ else _)
      by_cases hmore : retryCount < maxRetries
      · rw [if_pos hmore]
        exact hfrom
      · rw [if_neg hmore]
        exact trivial
  | ack how phase hphase hnext hlive =>
      subst hnext
      cases how <;> exact trivial
  | nack how why hphase hlive => exact trivial

/-- Whatever happens after a delivery was prepared, its mail stays. By
induction on the run; a crash ends the handler, and with it the mail. -/
theorem from_run {P : Mail → Prop} {es : List (Event B)} {s t : System B}
    {d : Nat} {delivery : Delivery} (hlt : d < s.delivered)
    (hdelivery : s.delivery d = some delivery)
    (hfrom : delivery.phase.From P)
    (hrun : run (System.step codec) s es = some t) :
    ∃ delivery', t.delivery d = some delivery' ∧ delivery'.phase.From P := by
  let I : System B → Prop := fun s =>
    d < s.delivered
      ∧ ∃ delivery, s.delivery d = some delivery ∧ delivery.phase.From P
  have hstep : ∀ s e t, I s → s.step codec e = some t → I t := by
    intro s e t hkept hstep
    obtain ⟨hlt, delivery, hdelivery, hfrom⟩ := hkept
    obtain ⟨hlt, delivery', hdelivery', h⟩ :=
      delivery_step hlt hdelivery hstep
    refine ⟨hlt, delivery', hdelivery', ?_⟩
    rcases h with rfl | ⟨effect, h⟩ | rfl
    · exact hfrom
    · exact from_advance h hfrom
    · exact trivial
  exact (run_invariant_all hstep ⟨hlt, delivery, hdelivery, hfrom⟩ hrun).2

-- ======================================================== the mail's body

/-- The file a request's template name stands for. -/
def EmailRequestDto.templatePath (fs : TemplateService.FileSystem)
    (request : EmailRequestDto) : String :=
  TemplateService.templatePath fs (request.templateName.getD "Default")

/-- The text is the request's template with its placeholders filled in. -/
def EmailRequestDto.BodyFromTemplate (fs : TemplateService.FileSystem)
    (request : EmailRequestDto) (htmlBody : String) : Prop :=
  ∃ content, fs.exists_ (request.templatePath fs) = true
    ∧ fs.readAllText (request.templatePath fs) = .ok content
    ∧ htmlBody = TemplateService.replacePlaceholders content
      (request.placeholders.getD [])

/-- A request with a recipient, read from a message. -/
structure Requests (codec : JsonCodec B) (body : B)
    (request : EmailRequestDto) : Prop where
  deserialized : EmailRequestDto.deserialize codec body = .ok (some request)
  recipient : ∃ to_, request.to_ = some to_ ∧ to_ ≠ ""

/-- The handler's mail for a request with a recipient. -/
theorem prepare_requests {fs : TemplateService.FileSystem} {body : B}
    {request : EmailRequestDto} (h : Requests codec body request) :
    ∃ to_, request.to_ = some to_ ∧ prepare codec fs body
      = match EmailService.mailFor fs to_
          (request.templateName.getD "Default")
          (request.placeholders.getD []) with
        | .error _ => .error .templateFailed
        | .ok mail => .ok (some mail) := by
  obtain ⟨hrequest, to_, hto, hne⟩ := h
  refine ⟨to_, hto, ?_⟩
  unfold prepare
  rw [hrequest]
  dsimp only
  rw [hto]
  exact if_neg hne

/-- What preparing a request gives where the template file is there. -/
theorem prepare_of_exists {fs : TemplateService.FileSystem} {body : B}
    {request : EmailRequestDto} (h : Requests codec body request)
    (hexists : fs.exists_ (request.templatePath fs) = true) :
    prepare codec fs body = .error .templateFailed
      ∨ ∃ mail, prepare codec fs body = .ok (some mail)
        ∧ request.BodyFromTemplate fs mail.htmlBody := by
  obtain ⟨to_, -, hprepare⟩ := @prepare_requests B codec fs body request h
  have hload : TemplateService.loadTemplate fs
      (request.templateName.getD "Default")
      = fs.readAllText (request.templatePath fs) := if_pos hexists
  rw [hprepare]
  unfold EmailService.mailFor
  rw [hload]
  cases hread : fs.readAllText (request.templatePath fs) with
  | error e => exact Or.inl rfl
  | ok content => exact Or.inr ⟨_, rfl, content, hexists, hread, rfl⟩

/-- What preparing a request gives where the file is missing: a mail of
the text that says so. -/
theorem prepare_of_missing {fs : TemplateService.FileSystem} {body : B}
    {request : EmailRequestDto} (h : Requests codec body request)
    (hmissing : fs.exists_ (request.templatePath fs) = false) :
    ∃ mail, prepare codec fs body = .ok (some mail)
      ∧ mail.htmlBody = TemplateService.replacePlaceholders
        (TemplateService.notFoundText
          (request.templateName.getD "Default"))
        (request.placeholders.getD []) := by
  obtain ⟨to_, -, hprepare⟩ := @prepare_requests B codec fs body request h
  have hload : TemplateService.loadTemplate fs
      (request.templateName.getD "Default")
      = .ok (TemplateService.notFoundText
        (request.templateName.getD "Default")) := by
    unfold TemplateService.loadTemplate
    rw [if_neg]
    show ¬fs.exists_ (request.templatePath fs) = true
    rw [hmissing]
    exact Bool.false_ne_true
  rw [hprepare]
  unfold EmailService.mailFor
  rw [hload]
  exact ⟨_, rfl, rfl⟩

-- ====================================================== what a handler does

/-- In some run that goes on by preparing delivery `d`, its handler hands
the mail to the SMTP provider. -/
def Hands (codec : JsonCodec B) (s : System B) (d : Nat)
    (fs : TemplateService.FileSystem) (mail : Mail) : Prop :=
  ∃ es t delivery retryCount call,
    run (System.step codec) s (.prepare d fs :: es) = some t
      ∧ t.delivery d = some delivery
      ∧ delivery.phase = .sending mail retryCount call

/-- Some run from here brings the handler of delivery `d` to the ack. -/
def ReachesAck (codec : JsonCodec B) (s : System B) (d : Nat) : Prop :=
  ∃ es t delivery, run (System.step codec) s es = some t
    ∧ t.delivery d = some delivery ∧ delivery.phase = .acking

/-- Once delivery `d` is prepared, some run brings its handler to the
ack. -/
def Acks (codec : JsonCodec B) (s : System B) (d : Nat)
    (fs : TemplateService.FileSystem) : Prop :=
  ∃ t, s.step codec (.prepare d fs) = some t ∧ ReachesAck codec t d

/-- The handler mails nothing but the request's template, and without the
file it neither mails nor acks. -/
structure MailsOnlyFromTemplate (codec : JsonCodec B) (s : System B)
    (d : Nat) (fs : TemplateService.FileSystem)
    (request : EmailRequestDto) : Prop where
  body : ∀ mail, Hands codec s d fs mail →
    request.BodyFromTemplate fs mail.htmlBody
  unmailed : fs.exists_ (request.templatePath fs) = false →
    ∀ mail, ¬Hands codec s d fs mail
  unacked : fs.exists_ (request.templatePath fs) = false →
    ¬Acks codec s d fs

/-- The step that prepares a delivery. -/
theorem step_prepare {s : System B} {d : Nat} {delivery : Delivery}
    {message : Message B} (fs : TemplateService.FileSystem)
    (hdelivery : s.delivery d = some delivery)
    (hphase : delivery.phase = .received)
    (hmessage : s.message delivery.message = some message) :
    s.step codec (.prepare d fs)
      = some (s.advance d
          (delivery.prepared (prepare codec fs message.body)) id) := by
  rw [System.step]
  simp only [hdelivery, hphase, hmessage]

/-- A call that returns goes on to the next one, if there is one. -/
theorem reachesAck_of_next {d : Nat} {mail : Mail} {retryCount : Nat}
    {call : SmtpCall}
    (hnext : ∀ next, call.next = some next →
      ∀ (s : System B) (delivery : Delivery),
        s.delivery d = some delivery →
        delivery.phase = .sending mail retryCount next →
        ReachesAck codec s d)
    (s : System B) (delivery : Delivery)
    (hdelivery : s.delivery d = some delivery)
    (hphase : delivery.phase = .sending mail retryCount call) :
    ReachesAck codec s d := by
  have hstep : s.step codec (.smtp d true)
      = some (s.advance d (delivery.returned mail retryCount call)
          (if call = .send then Message.accept else id)) := by
    rw [System.step]
    simp only [hdelivery, hphase]
    rfl
  cases hn : call.next with
  | none =>
      have hrun : run (System.step codec) s [.smtp d true] = some _ :=
        run_cons_eq_some.mpr ⟨_, hstep, rfl⟩
      refine ⟨_, _, _, hrun, delivery_advance_self, ?_⟩
      unfold Delivery.returned
      rw [hn]
  | some next =>
      have hphase' : (delivery.returned mail retryCount call).phase
          = .sending mail retryCount next := by
        unfold Delivery.returned
        rw [hn]
      obtain ⟨es, t, delivery', hrun, hrest⟩ :=
        hnext next hn _ _ delivery_advance_self hphase'
      exact ⟨.smtp d true :: es, t, delivery',
        run_cons_eq_some.mpr ⟨_, hstep, hrun⟩, hrest⟩

/-- An attempt whose calls all return comes to the ack: the last call first,
and each of the others through the next. -/
theorem reachesAck_of_sending {d : Nat} {mail : Mail} {retryCount : Nat}
    (s : System B) (delivery : Delivery)
    (hdelivery : s.delivery d = some delivery)
    (hphase : delivery.phase = .sending mail retryCount .build) :
    ReachesAck codec s d := by
  revert s delivery
  -- backwards from the last call
  apply reachesAck_of_next
  rintro next ⟨⟩
  apply reachesAck_of_next
  rintro next ⟨⟩
  apply reachesAck_of_next
  rintro next ⟨⟩
  apply reachesAck_of_next
  rintro next ⟨⟩
  apply reachesAck_of_next
  rintro next ⟨⟩

/-- A request whose template is missing is mailed and acked. -/
theorem hands_and_acks_of_missing {s : System B} {d : Nat}
    {delivery : Delivery} {message : Message B} {request : EmailRequestDto}
    (hdelivery : s.delivery d = some delivery)
    (hphase : delivery.phase = .received)
    (hmessage : s.message delivery.message = some message)
    (hrequest : Requests codec message.body request)
    {fs : TemplateService.FileSystem}
    (hmissing : fs.exists_ (request.templatePath fs) = false) :
    (∃ mail, Hands codec s d fs mail
        ∧ mail.htmlBody = TemplateService.replacePlaceholders
          (TemplateService.notFoundText
            (request.templateName.getD "Default"))
          (request.placeholders.getD []))
      ∧ Acks codec s d fs := by
  obtain ⟨mail, hprepare, hbody⟩ := prepare_of_missing hrequest hmissing
  have hstep := @step_prepare B codec s d delivery message fs hdelivery
    hphase hmessage
  rw [hprepare] at hstep
  have hrun : run (System.step codec) s [.prepare d fs] = some _ :=
    run_cons_eq_some.mpr ⟨_, hstep, rfl⟩
  refine ⟨⟨mail, ?_, hbody⟩, ?_⟩
  · exact ⟨[], _, _, 0, .build, hrun, delivery_advance_self, rfl⟩
  · exact ⟨_, hstep, reachesAck_of_sending _ _ delivery_advance_self rfl⟩

/-- The handler of a request with a recipient mails only from its template
exactly when the template's file exists. The state is any that a run
reaches with the delivery just received. -/
theorem mails_only_from_template_iff {es : List (Event B)} {s : System B}
    (hrun : run (System.step codec) {} es = some s) {d : Nat}
    {delivery : Delivery} (hdelivery : s.delivery d = some delivery)
    (hphase : delivery.phase = .received) {message : Message B}
    (hmessage : s.message delivery.message = some message)
    {request : EmailRequestDto}
    (hrequest : Requests codec message.body request)
    (fs : TemplateService.FileSystem) :
    MailsOnlyFromTemplate codec s d fs request
      ↔ fs.exists_ (request.templatePath fs) = true := by
  constructor
  · intro h
    by_cases hexists : fs.exists_ (request.templatePath fs) = true
    · exact hexists
    · rw [Bool.not_eq_true] at hexists
      obtain ⟨-, hacks⟩ := hands_and_acks_of_missing hdelivery hphase
        hmessage hrequest hexists
      exact absurd hacks (h.unacked hexists)
  · intro hexists
    have hmissing : ¬fs.exists_ (request.templatePath fs) = false := by
      rw [hexists]
      exact Bool.true_eq_false.mp
    refine ⟨?_, fun h => absurd h hmissing, fun h => absurd h hmissing⟩
    rintro mail ⟨es, t, delivery', retryCount, call, hrun', hdelivery',
      hsending⟩
    have hstep := @step_prepare B codec s d delivery message fs hdelivery
      hphase hmessage
    obtain ⟨u, hu, hrun'⟩ := run_cons_eq_some.mp hrun'
    obtain rfl := Option.some.inj (hstep.symm.trans hu)
    have hnumbered : d < s.delivered := delivery_lt hrun hdelivery
    have hlt : d < (s.advance d (delivery.prepared
        (prepare codec fs message.body)) id).delivered := hnumbered
    have hfrom : (delivery.prepared
        (prepare codec fs message.body)).phase.From
          fun mail => request.BodyFromTemplate fs mail.htmlBody := by
      rcases prepare_of_exists hrequest hexists with h | ⟨mail, h, hbody⟩
      · rw [h]
        exact trivial
      · rw [h]
        exact hbody
    obtain ⟨other, hother, hfrom⟩ :=
      from_run hlt delivery_advance_self hfrom hrun'
    obtain rfl := Option.some.inj (hdelivery'.symm.trans hother)
    rw [hsending] at hfrom
    exact hfrom

-- =============================================================== examples

/-- A request for the template `Welcome`. -/
private def welcomeRequest : EmailRequestDto where
  to_ := some "ann@example.com"
  templateName := some "Welcome"

/-- The request as a message. -/
private def welcomeMessage : Json String :=
  .object [("To", .string "ann@example.com"),
    ("TemplateName", .string "Welcome")]

/-- Publishing the request and delivering it. -/
private def welcomeDelivered : List (Event (Json String)) :=
  [.publish welcomeMessage, .start, .deliver 0]

private theorem requests_welcome :
    Requests JsonCodec.document welcomeMessage welcomeRequest :=
  ⟨rfl, _, rfl, by decide⟩

/-- A worker with the template `Welcome` only. -/
private def welcomeOnly : TemplateService.FileSystem where
  baseDirectory := "/app"
  exists_ path := path = "/app/Templates/Welcome"
  readAllText _ := .ok "<p>Welcome!</p>"

/-- The equivalence at the request, for that worker. -/
theorem mails_only_from_template_welcome :
    ∃ s, run (System.step JsonCodec.document) {} welcomeDelivered = some s
      ∧ (MailsOnlyFromTemplate JsonCodec.document s 0 welcomeOnly
          welcomeRequest
        ↔ welcomeOnly.exists_ (welcomeRequest.templatePath welcomeOnly)
          = true) :=
  ⟨_, rfl, @mails_only_from_template_iff _ _ welcomeDelivered _ rfl 0 _ rfl
    rfl _ rfl _ requests_welcome _⟩

/-- Without the template the recipient gets the text that says so, and the
message is acked. -/
theorem missing_template_is_mailed :
    ∃ s t u message mail,
      run (System.step JsonCodec.document) {} welcomeDelivered = some s
      ∧ run (System.step JsonCodec.document) s [.prepare 0 .empty] = some t
      ∧ t.delivery 0 = some ⟨0, 1, .sending mail 0 .build, []⟩
      ∧ mail.to_ = "ann@example.com"
      ∧ mail.htmlBody = "Template Welcome not found. "
        ++ "Ensure it exists in the Templates folder."
      ∧ run (System.step JsonCodec.document) t [.smtp 0 true, .smtp 0 true,
        .smtp 0 true, .smtp 0 true, .smtp 0 true, .settle 0 .returned]
        = some u
      ∧ u.message 0 = some message ∧ message.place = .acked
      ∧ message.accepted = 1
      ∧ ¬MailsOnlyFromTemplate JsonCodec.document s 0 .empty
        welcomeRequest := by
  refine ⟨_, _, _, _, _, rfl, rfl, rfl, rfl, by decide, rfl, rfl, rfl, rfl,
    ?_⟩
  intro h
  refine h.unmailed rfl _ ⟨[], _, _, _, _, rfl, rfl, rfl⟩

end SkillBuddy
