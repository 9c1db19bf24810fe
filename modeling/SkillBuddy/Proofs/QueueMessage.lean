/-
The queue message, from the publisher's side to the worker's.

The publisher writes the members `To`, `Subject` and `Body`; the worker
reads `To`, `TemplateName` and `Placeholders`. Only `To` is on both
lists, so every other member is ignored on one side and missing on the
other (`deserialize_publishEmail`): the worker always fills the template
`Default` with no values (`prepare_publishEmail`), under a subject of its
own.

The mail therefore agrees with the message only where the message happens
to hold the worker's own subject and body
(`mail_agrees_with_message_iff`): the body may be the constant text body,
or what the template `Default` is loaded as, which is its file's text, or
the text that reports a missing file (`DefaultTemplateIs`). Reading the
file may also throw, and then there is no mail.

Names of members are compared without regard to case, as the worker's
options say; none of the names on the two lists is the same but for that.
-/
import SkillBuddy.Ui.EmailPublisher
import SkillBuddy.Worker.EmailConsumerWorker

namespace SkillBuddy

open DotNet

variable {B : Type} (codec : JsonCodec B)
  (fs : TemplateService.FileSystem)

-- ==================================================== what the worker reads

/-- A member the worker does not know is ignored. -/
theorem setMember_unknown (request : EmailRequestDto)
    (value : Json String) {name : String}
    (h : ∀ property ∈ ["To", "TemplateName", "Placeholders"],
      sameName name property = false) :
    request.setMember (name, value) = .ok request := by
  simp only [List.forall_mem_cons] at h
  obtain ⟨hto, htemplate, hplaceholders, -⟩ := h
  unfold EmailRequestDto.setMember
  simp only [hto, htemplate, hplaceholders]
  rfl

/-- The request the worker reads from a published message: its recipient
and nothing else. -/
theorem deserialize_publishEmail (message : EmailMessage) :
    EmailRequestDto.deserialize codec (publishEmail codec message)
      = .ok (some { to_ := some message.to_ }) := by
  -- which of the published members the worker knows
  have hto : EmailRequestDto.setMember {} ("To", .string message.to_)
      = .ok { to_ := some message.to_ } := by
    unfold EmailRequestDto.setMember
    rw [if_pos (show sameName "To" "To" = true by decide)]
    rfl
  have hsubject := fun request => setMember_unknown request
    (.string message.subject) (by decide : ∀ property ∈ _,
      sameName "Subject" property = false)
  have hbody := fun request => setMember_unknown request
    (.string message.body) (by decide : ∀ property ∈ _,
      sameName "Body" property = false)
  unfold EmailRequestDto.deserialize publishEmail EmailMessage.toJson
  rw [codec.read_write]
  show (do
    let request ← List.foldlM EmailRequestDto.setMember {}
      [("To", Json.string message.to_), ("Subject", .string message.subject),
        ("Body", .string message.body)]
    return some request) = _
  rw [List.foldlM_cons, hto]
  show (do
    let request ← List.foldlM EmailRequestDto.setMember
      { to_ := some message.to_ } [("Subject", .string message.subject),
        ("Body", .string message.body)]
    return some request) = _
  rw [List.foldlM_cons, hsubject]
  show (do
    let request ← List.foldlM EmailRequestDto.setMember
      { to_ := some message.to_ } [("Body", .string message.body)]
    return some request) = _
  rw [List.foldlM_cons, hbody]
  rfl

/-- The handler of a published message builds the mail of the template
`Default` without values. -/
theorem prepare_publishEmail {message : EmailMessage}
    (hto : message.to_ ≠ "") :
    prepare codec fs (publishEmail codec message)
      = match EmailService.mailFor fs message.to_ "Default" [] with
        | .error _ => .error .templateFailed
        | .ok mail => .ok (some mail) := by
  unfold prepare
  rw [deserialize_publishEmail]
  show (if message.to_ = "" then _ else _) = _
  rw [if_neg hto]
  rfl

/-- A mail without values has the loaded template for a body and the
default subject. -/
theorem mailFor_nil (to_ templateName : String) :
    EmailService.mailFor fs to_ templateName []
      = (TemplateService.loadTemplate fs templateName).map fun template =>
          { to_
            subject := some EmailService.defaultSubject
            textBody := EmailService.textBody
            htmlBody := template } := by
  unfold EmailService.mailFor
  cases TemplateService.loadTemplate fs templateName with
  | error e => rfl
  | ok template =>
      simp only [TemplateService.replacePlaceholders_nil]
      rfl

-- ===================================================== the exact condition

/-- The text the template `Default` is loaded as: its file's, or the text
that reports a missing file. -/
def DefaultTemplateIs (text : String) : Prop :=
  if fs.exists_ (TemplateService.templatePath fs "Default") then
    fs.readAllText (TemplateService.templatePath fs "Default") = .ok text
  else text = TemplateService.notFoundText "Default"

/-- The template is loaded as a text exactly if it is that. -/
theorem loadTemplate_default_iff {text : String} :
    TemplateService.loadTemplate fs "Default" = .ok text
      ↔ DefaultTemplateIs fs text := by
  unfold TemplateService.loadTemplate DefaultTemplateIs
  split
  · exact Iff.rfl
  · rw [Except.ok.injEq]
    exact eq_comm

/-- The mail the worker hands to the SMTP provider for a published message
has the message's recipient, subject and body exactly when the subject is
the worker's default one and the body is the worker's constant text body
or the text of its template `Default`. -/
theorem mail_agrees_with_message_iff (message : EmailMessage)
    (hto : message.to_ ≠ "") :
    (∃ mail, prepare codec fs (publishEmail codec message)
          = .ok (some mail)
        ∧ mail.to_ = message.to_
        ∧ mail.subject = some message.subject
        ∧ (mail.textBody = message.body ∨ mail.htmlBody = message.body))
      ↔ message.subject = EmailService.defaultSubject
        ∧ ∃ template, DefaultTemplateIs fs template
          ∧ (message.body = EmailService.textBody
            ∨ message.body = template) := by
  rw [prepare_publishEmail codec fs hto, mailFor_nil]
  simp only [← loadTemplate_default_iff]
  cases TemplateService.loadTemplate fs "Default" with
  | error e =>
      constructor
      · rintro ⟨mail, hmail, -⟩
        cases hmail
      · rintro ⟨-, template, htemplate, -⟩
        cases htemplate
  | ok text =>
      constructor
      · rintro ⟨mail, hmail, -, hsubject, hbody⟩
        obtain rfl := Option.some.inj (Except.ok.inj hmail)
        refine ⟨(Option.some.inj hsubject).symm, text, rfl, ?_⟩
        exact hbody.imp Eq.symm Eq.symm
      · rintro ⟨hsubject, template, htemplate, hbody⟩
        obtain rfl := Except.ok.inj htemplate
        refine ⟨_, rfl, rfl, ?_, hbody.imp Eq.symm Eq.symm⟩
        rw [hsubject]

/-- The message of the test controller. -/
private def welcome : EmailMessage where
  to_ := "ann@example.com"
  subject := "Welcome to SkillBuddy!"
  body := "Hello Ann"

/-- The equivalence at the welcome message. -/
theorem mail_agrees_with_welcome :
    (∃ mail, prepare JsonCodec.document .empty
          (publishEmail JsonCodec.document welcome) = .ok (some mail)
        ∧ mail.to_ = welcome.to_
        ∧ mail.subject = some welcome.subject
        ∧ (mail.textBody = welcome.body ∨ mail.htmlBody = welcome.body))
      ↔ welcome.subject = EmailService.defaultSubject
        ∧ ∃ template, DefaultTemplateIs .empty template
          ∧ (welcome.body = EmailService.textBody
            ∨ welcome.body = template) :=
  mail_agrees_with_message_iff JsonCodec.document .empty welcome (by decide)

/-- The welcome message becomes a mail with neither its subject nor its
body. -/
theorem welcome_is_lost :
    ∃ mail, prepare JsonCodec.document .empty
        (publishEmail JsonCodec.document welcome) = .ok (some mail)
      ∧ mail.subject = some "Notification from SkillBuddy"
      ∧ mail.subject ≠ some welcome.subject
      ∧ mail.textBody ≠ welcome.body
      ∧ mail.htmlBody = "Template Default not found. "
        ++ "Ensure it exists in the Templates folder."
      ∧ mail.htmlBody ≠ welcome.body :=
  ⟨_, rfl, rfl, by decide, by decide, by decide, by decide⟩

end SkillBuddy
