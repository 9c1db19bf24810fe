/-
`SkillBuddy.Worker.Email.Services.TemplateService`: loading a template
and filling in its placeholders.

The file system enters as a value: which paths exist and what reading
them gives. A missing template is no error here; its name is reported in
the text that is returned as the template.
-/
import SkillBuddy.DotNet.Value
import SkillBuddy.Lib.Substitution

namespace SkillBuddy.TemplateService

open DotNet
open Lib.Substitution (replaceFrom)

-- ================================================================= files

/-- `File` and `AppDomain.CurrentDomain.BaseDirectory`. -/
structure FileSystem where
  baseDirectory : String
  exists_ : String → Bool
  readAllText : String → Except Exn String

/-- A worker without any template. -/
def FileSystem.empty : FileSystem where
  baseDirectory := "/app"
  exists_ _ := false
  readAllText _ := .error .io

/-- `Path.Combine` of two parts, with `/` for a separator. -/
def pathCombine (first second : String) : String :=
  if second = "" then first
  else if second.toList.head? = some '/' then second
  else if first = "" then second
  else if first.toList.getLast? = some '/' then first ++ second
  else first ++ "/" ++ second

/-- The path `LoadTemplate` looks at. -/
def templatePath (fs : FileSystem) (templateName : String) : String :=
  pathCombine (pathCombine fs.baseDirectory "Templates") templateName

/-- What `LoadTemplate` returns for a missing template. -/
def notFoundText (templateName : String) : String :=
  "Template " ++ templateName
    ++ " not found. Ensure it exists in the Templates folder."

/-- `LoadTemplate(templateName)`. -/
def loadTemplate (fs : FileSystem) (templateName : String) :
    Except Exn String :=
  if fs.exists_ (templatePath fs templateName) then
    fs.readAllText (templatePath fs templateName)
  else .ok (notFoundText templateName)

-- ========================================================== placeholders

/-- `string.IsNullOrWhiteSpace(text)`. -/
def isNullOrWhiteSpace (text : String) : Bool :=
  text.toList.all fun c => isWhiteSpaceNumber c.toNat

/-- `text.Replace(old, new)`: each occurrence of `old` from left to
right, without looking into what was inserted; a null `new` removes. -/
def replace (text old : String) (new : Option String) : String :=
  String.ofList
    (replaceFrom old.toList (new.getD "").toList 0 text.toList)

/-- `ReplacePlaceholders(template, values)`, in the order the entries
are enumerated. -/
def replacePlaceholders (template : String)
    (values : List (String × Option String)) : String :=
  if isNullOrWhiteSpace template then template
  else values.foldl
    (fun text item =>
      replace text ("\x7b\x7b" ++ item.1 ++ "\x7d\x7d") item.2) template

/-- Without placeholders a template is returned as it is. -/
@[simp] theorem replacePlaceholders_nil (template : String) :
    replacePlaceholders template [] = template := by
  unfold replacePlaceholders
  split <;> rfl

end SkillBuddy.TemplateService
