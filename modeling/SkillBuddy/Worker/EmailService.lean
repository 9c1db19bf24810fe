/-
`EmailService`, `RetryService` and `SmtpProvider`: from a request to the
calls on the SMTP client.

`EmailService` builds one mail and hands it to the provider inside the
retried action. An attempt is a fixed sequence of calls, each of which
returns or throws; any throw ends the attempt, and the policy starts a
new one up to `maxRetries` times.
-/
import SkillBuddy.Worker.TemplateService

namespace SkillBuddy

open DotNet

-- ================================================================ the mail

/-- The arguments of `ISmtpProvider.SendEmailAsync`. -/
structure Mail where
  to_ : String
  subject : Option String
  textBody : String
  htmlBody : String
  deriving DecidableEq, Repr

namespace EmailService

/-- The subject of a mail whose values name none. -/
def defaultSubject : String := "Notification from SkillBuddy"

/-- The text part of every mail. -/
def textBody : String :=
  "Please view this email in an HTML-compatible client."

/-- `SendEmailAsync(to, templateName, templateValues)`, up to the mail
handed to the retried action. -/
def mailFor (fs : TemplateService.FileSystem) (to_ templateName : String)
    (templateValues : List (String × Option String)) : Except Exn Mail := do
  let templateContent ← TemplateService.loadTemplate fs templateName
  let htmlBody :=
    TemplateService.replacePlaceholders templateContent templateValues
  let subject := match templateValues.lookup "Subject" with
    | some value => value
    | none => some defaultSubject
  return { to_, subject, textBody, htmlBody }

end EmailService

-- ============================================================ the attempts

/-- The calls of `SmtpProvider.SendEmailAsync`, in order: building the
`MimeMessage`, then the four calls on the client. -/
inductive SmtpCall where
  | build
  | connect
  | authenticate
  | send
  | disconnect
  deriving DecidableEq, Repr

/-- The call after a call that returned. -/
def SmtpCall.next : SmtpCall → Option SmtpCall
  | .build => some .connect
  | .connect => some .authenticate
  | .authenticate => some .send
  | .send => some .disconnect
  | .disconnect => none

/-- `WaitAndRetryAsync(3, …)`. -/
def maxRetries : Nat := 3

end SkillBuddy
