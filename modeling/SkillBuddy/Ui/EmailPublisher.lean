/-
`SkillBuddy.ui.Services.EmailPublisher`: the message and how it is put
into bytes.
-/
import SkillBuddy.DotNet.SystemTextJson

namespace SkillBuddy

open DotNet

/-- `EmailMessage`. -/
structure EmailMessage where
  to_ : String := ""
  subject : String := ""
  body : String := ""
  deriving DecidableEq, Repr

/-- `JsonSerializer.Serialize(emailMessage)`: the public properties by
name. -/
def EmailMessage.toJson (message : EmailMessage) : Json String :=
  .object [("To", .string message.to_), ("Subject", .string message.subject),
    ("Body", .string message.body)]

/-- The bytes `PublishEmailAsync(emailMessage)` publishes. -/
def publishEmail {B : Type} (codec : JsonCodec B)
    (emailMessage : EmailMessage) : B :=
  codec.write emailMessage.toJson

end SkillBuddy
