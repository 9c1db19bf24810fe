/-
Which file a template name reaches.

# The walk

`LoadTemplate` combines the name with the Templates folder and reads what
is there. A path is a list of moves: into a name, up, or nowhere; the
library says where a walk along them ends. `Path.Combine` drops the folder
before a rooted name, and the file system resolves `..`, so the name
decides where the walk ends: it leads on from the folder, or from the root
(`getFullPath_templatePath`).

# The file

Nothing checks it. The file that is read and mailed lies in the folder
exactly if the name's normal form leads there (`LeadsInside`), so a
request reaches only files in the folder exactly if its name does or there
is nothing to read where it leads (`mailed_file_confined_iff`). The files
are a disk (`Disk`), the folder the process runs in included; that a file
is there and can be read is `Readable`.

A name that starts with no separator and never climbs is enough
(`leadsInside_of_climb_eq_zero`). The two examples do one and the other:
`../appsettings.json` climbs, `/etc/passwd` is rooted.
-/
import SkillBuddy.Lib.Path
import SkillBuddy.Proofs.MissingTemplate

namespace SkillBuddy

open DotNet
open Lib

namespace TemplateService

-- ================================================================= paths

/-- A file or folder, by the names from the root. -/
abbrev Location := List (List Char)

/-- A component of a path. -/
def component (name : List Char) : Move (List Char) :=
  if name = [] ∨ name = ['.'] then .stay
  else if name = ['.', '.'] then .up
  else .down name

/-- A path, component by component. -/
def moves (path : String) : List (Move (List Char)) :=
  (path.toList.splitOn '/').map component

/-- `Path.IsPathRooted`. -/
def isPathRooted (path : String) : Bool :=
  path.toList.head? = some '/'

/-- `Path.GetFullPath`, for a process in the folder `cwd`. -/
def getFullPath (cwd : Location) (path : String) : Location :=
  walk (if isPathRooted path then [] else cwd) (moves path)

/-- The moves of a path with a separator in it. -/
theorem moves_of_separator {path : String} {first second : List Char}
    (h : path.toList = first ++ '/' :: second) :
    moves path = (first.splitOn '/').map component
      ++ (second.splitOn '/').map component := by
  unfold moves
  rw [h, List.splitOn_append_cons_self, List.map_append]

/-- A path that goes on after a separator leads on from where it was. The
separator may be the last letter of the first part, or stand between. -/
theorem getFullPath_of_separator (cwd : Location)
    {path first second : String} {init : List Char}
    (hpath : path.toList = init ++ '/' :: second.toList)
    (hfirst : first.toList = init ∨ first.toList = init ++ ['/'])
    (hrooted : isPathRooted path = isPathRooted first) :
    getFullPath cwd path = walk (getFullPath cwd first) (moves second) := by
  unfold getFullPath
  rw [hrooted, moves_of_separator hpath, walk_append]
  rcases hfirst with hfirst | hfirst
  · unfold moves
    rw [hfirst]
  · rw [moves_of_separator hfirst, walk_append]
    rfl

/-- A combined path leads where its second part leads from its first. -/
theorem getFullPath_pathCombine (cwd : Location) (first second : String) :
    getFullPath cwd (pathCombine first second)
      = walk (if isPathRooted second then [] else getFullPath cwd first)
        (moves second) := by
  unfold pathCombine
  by_cases hsecond : second = ""
  · rw [if_pos hsecond, hsecond]
    rfl
  rw [if_neg hsecond]
  by_cases hrooted : second.toList.head? = some '/'
  · have hrooted' : isPathRooted second = true := decide_eq_true hrooted
    rw [if_pos hrooted, if_pos hrooted']
    unfold getFullPath
    rw [if_pos hrooted']
  have hrooted' : ¬isPathRooted second = true := by
    rwa [isPathRooted, decide_eq_true_eq]
  rw [if_neg hrooted, if_neg hrooted']
  by_cases hfirst : first = ""
  · rw [if_pos hfirst, hfirst]
    unfold getFullPath
    rw [if_neg hrooted']
    rfl
  have hne : first.toList ≠ [] := fun h =>
    hfirst (String.toList_eq_nil_iff.mp h)
  rw [if_neg hfirst]
  by_cases hlast : first.toList.getLast? = some '/'
  · rw [if_pos hlast]
    obtain ⟨init, hinit⟩ := List.getLast?_eq_some_iff.mp hlast
    refine @getFullPath_of_separator cwd _ _ _ init ?_ (Or.inr hinit) ?_
    · rw [String.toList_append, hinit, List.append_assoc]
      rfl
    · unfold isPathRooted
      rw [String.toList_append, List.head?_append_of_ne_nil _ hne]
  · rw [if_neg hlast]
    refine @getFullPath_of_separator cwd _ _ _ first.toList ?_
      (Or.inl rfl) ?_
    · rw [String.toList_append, String.toList_append, List.append_assoc]
      rfl
    · unfold isPathRooted
      rw [String.toList_append, String.toList_append, List.append_assoc,
        List.head?_append_of_ne_nil _ hne]

/-- The Templates folder of a base directory. -/
def templatesFolder (cwd : Location) (baseDirectory : String) : Location :=
  getFullPath cwd (pathCombine baseDirectory "Templates")

/-- The path of a template leads from the folder along its name, or from
the root if the name is rooted. -/
theorem getFullPath_templatePath (cwd : Location) (fs : FileSystem)
    (templateName : String) :
    getFullPath cwd (templatePath fs templateName)
      = walk (if isPathRooted templateName then []
          else templatesFolder cwd fs.baseDirectory)
        (moves templateName) :=
  getFullPath_pathCombine ..

-- ================================================================= files

/-- A disk: the folder the process runs in, and what reading a file
gives. The root is a folder. -/
structure Disk where
  cwd : Location
  file : Location → Option (Except Exn String)
  file_root : file [] = none

/-- `File.Exists`: the path is none with a null character or a separator
at its end, and a file is there. -/
def Disk.exists_ (disk : Disk) (path : String) : Bool :=
  path ≠ "" && !path.toList.contains (Char.ofNat 0)
    && path.toList.getLast? ≠ some '/'
    && (disk.file (getFullPath disk.cwd path)).isSome

/-- `File.ReadAllText`. -/
def Disk.readAllText (disk : Disk) (path : String) : Except Exn String :=
  (disk.file (getFullPath disk.cwd path)).getD (.error .io)

/-- The files as the service finds them. -/
def Disk.fileSystem (disk : Disk) (baseDirectory : String) : FileSystem where
  baseDirectory
  exists_ := disk.exists_
  readAllText := disk.readAllText

/-- `LoadTemplate(templateName)` returns the content of the file at
`location`. -/
def Loads (disk : Disk) (baseDirectory templateName : String)
    (location : Location) (content : String) : Prop :=
  let path := templatePath (disk.fileSystem baseDirectory) templateName
  disk.exists_ path = true ∧ location = getFullPath disk.cwd path
    ∧ disk.file location = some (.ok content)

/-- The normal form of a template name leads below a folder: from the
folder itself, or from the root if the name is rooted. -/
def LeadsInside (folder : Location) (templateName : String) : Prop :=
  let route := route (moves templateName)
  if isPathRooted templateName then Inside folder route.names
  else Inside (folder.drop (folder.length - route.climb)) route.names

/-- The name decides whether its path ends in the folder. -/
theorem inside_templatePath_iff (cwd : Location) (fs : FileSystem)
    (templateName : String) :
    Inside (templatesFolder cwd fs.baseDirectory)
        (getFullPath cwd (templatePath fs templateName))
      ↔ LeadsInside (templatesFolder cwd fs.baseDirectory)
        templateName := by
  rw [getFullPath_templatePath]
  unfold LeadsInside
  by_cases hrooted : isPathRooted templateName = true
  · simp only [if_pos hrooted]
    rw [walk_root]
  · simp only [if_neg hrooted]
    exact inside_walk_iff _ _

/-- A relative name that enters some name and never climbs out leads
inside. -/
theorem leadsInside_of_climb_eq_zero {folder : Location}
    {templateName : String} (hrooted : isPathRooted templateName = false)
    (hclimb : (route (moves templateName)).climb = 0)
    (hnames : (route (moves templateName)).names ≠ []) :
    LeadsInside folder templateName := by
  unfold LeadsInside
  simp only [hrooted, hclimb, Nat.sub_zero, List.drop_length]
  exact ⟨List.nil_prefix, hnames⟩

/-- What is loaded is the file's content. -/
theorem loadTemplate_of_loads {disk : Disk}
    {baseDirectory templateName : String} {location : Location}
    {content : String}
    (h : Loads disk baseDirectory templateName location content) :
    loadTemplate (disk.fileSystem baseDirectory) templateName
      = .ok content := by
  obtain ⟨hexists, rfl, hfile⟩ := h
  have hload : loadTemplate (disk.fileSystem baseDirectory) templateName
      = disk.readAllText
        (templatePath (disk.fileSystem baseDirectory) templateName) :=
    if_pos hexists
  rw [hload, Disk.readAllText, hfile]
  rfl

end TemplateService

-- ================================================================= mails

variable {B : Type} {codec : JsonCodec B}

open TemplateService

/-- The handler of a request mails the content of the file at `location`
to the request's recipient. -/
def Mails (codec : JsonCodec B) (disk : Disk) (baseDirectory : String)
    (body : B) (request : EmailRequestDto) (mail : Mail)
    (location : Location) : Prop :=
  prepare codec (disk.fileSystem baseDirectory) body = .ok (some mail)
    ∧ request.to_ = some mail.to_
    ∧ ∃ content, Loads disk baseDirectory
        (request.templateName.getD "Default") location content
      ∧ mail.htmlBody = replacePlaceholders content
        (request.placeholders.getD [])

/-- What is loaded is mailed. -/
theorem mails_of_loads {disk : Disk} {baseDirectory : String} {body : B}
    {request : EmailRequestDto} (hrequest : Requests codec body request)
    {location : Location} {content : String}
    (h : Loads disk baseDirectory (request.templateName.getD "Default")
      location content) :
    ∃ mail, Mails codec disk baseDirectory body request mail location := by
  obtain ⟨to_, hto, hprepare⟩ := @prepare_requests B codec
    (disk.fileSystem baseDirectory) body request hrequest
  unfold EmailService.mailFor at hprepare
  rw [loadTemplate_of_loads h] at hprepare
  exact ⟨_, hprepare, hto, content, h, rfl⟩

/-- Every file a request makes `LoadTemplate` return and `EmailService`
mail lies inside the Templates folder. -/
structure ConfinedToTemplates (codec : JsonCodec B) (disk : Disk)
    (baseDirectory : String) (body : B) (request : EmailRequestDto) :
    Prop where
  loaded : ∀ location content,
    Loads disk baseDirectory (request.templateName.getD "Default") location
      content →
    Inside (templatesFolder disk.cwd baseDirectory) location
  mailed : ∀ mail location,
    Mails codec disk baseDirectory body request mail location →
    Inside (templatesFolder disk.cwd baseDirectory) location

/-- A readable file is at the path of the template. -/
def Readable (fs : FileSystem) (templateName : String) : Prop :=
  fs.exists_ (templatePath fs templateName) = true
    ∧ ∃ content, fs.readAllText (templatePath fs templateName) = .ok content

/-- A readable file is loaded. -/
theorem loads_of_readable {disk : Disk}
    {baseDirectory templateName : String}
    (h : Readable (disk.fileSystem baseDirectory) templateName) :
    ∃ location content,
      Loads disk baseDirectory templateName location content := by
  obtain ⟨hexists, content, hread⟩ := h
  refine ⟨_, content, hexists, rfl, ?_⟩
  change (disk.file _).getD (.error .io) = .ok content at hread
  cases hfile : disk.file (getFullPath disk.cwd
      (templatePath (disk.fileSystem baseDirectory) templateName)) with
  | none =>
      rw [hfile] at hread
      cases hread
  | some result =>
      rw [hfile] at hread
      exact congrArg some hread

/-- The files a request with a recipient reaches lie in the Templates
folder exactly if its template name leads inside, or to no readable
file. The name is the request's, or `Default`. -/
theorem mailed_file_confined_iff (disk : Disk) (baseDirectory : String)
    {body : B} {request : EmailRequestDto}
    (hrequest : Requests codec body request) :
    ConfinedToTemplates codec disk baseDirectory body request
      ↔ (Readable (disk.fileSystem baseDirectory)
            (request.templateName.getD "Default") →
          LeadsInside (templatesFolder disk.cwd baseDirectory)
            (request.templateName.getD "Default")) := by
  have hinside := inside_templatePath_iff disk.cwd
    (disk.fileSystem baseDirectory) (request.templateName.getD "Default")
  constructor
  · intro h hreadable
    obtain ⟨location, content, hloads⟩ := loads_of_readable hreadable
    obtain ⟨mail, hmails⟩ := mails_of_loads hrequest hloads
    have hmailed := h.mailed mail location hmails
    obtain ⟨-, rfl, -⟩ := hloads
    exact hinside.mp hmailed
  · intro h
    have hloaded : ∀ location content,
        Loads disk baseDirectory (request.templateName.getD "Default")
          location content →
        Inside (templatesFolder disk.cwd baseDirectory) location := by
      intro location content hloads
      obtain ⟨hexists, rfl, hfile⟩ := hloads
      apply hinside.mpr
      apply h
      refine ⟨hexists, content, ?_⟩
      show (disk.file _).getD _ = _
      rw [hfile]
      rfl
    refine ⟨hloaded, ?_⟩
    intro mail location hmails
    obtain ⟨-, -, content, hloads, -⟩ := hmails
    exact hloaded location content hloads

-- =============================================================== examples

/-- The disk of a worker in `/app`, with its settings, one template and a
file of the system. -/
private def workerDisk : Disk where
  cwd := ["app".toList]
  file location :=
    if location = ["app".toList, "appsettings.json".toList] then
      some (.ok "Password=secret")
    else if location
        = ["app".toList, "Templates".toList, "Welcome".toList] then
      some (.ok "<p>Welcome!</p>")
    else if location = ["etc".toList, "passwd".toList] then
      some (.ok "root:x:0:0")
    else none
  file_root := rfl

/-- A message that names a template. -/
private def naming (templateName : String) : Json String :=
  .object [("To", .string "ann@example.com"),
    ("TemplateName", .string templateName)]

/-- The equivalence at a name that climbs out and comes back. -/
theorem mailed_file_confined_welcome :
    ConfinedToTemplates JsonCodec.document workerDisk "/app/"
        (naming "../Templates/Welcome")
        ⟨some "ann@example.com", some "../Templates/Welcome", none⟩
      ↔ (Readable (workerDisk.fileSystem "/app/") "../Templates/Welcome" →
          LeadsInside (templatesFolder workerDisk.cwd "/app/")
            "../Templates/Welcome") :=
  mailed_file_confined_iff workerDisk "/app/"
    ⟨rfl, _, rfl, by decide⟩

example : LeadsInside (templatesFolder workerDisk.cwd "/app/")
    "../Templates/Welcome" :=
  ⟨by decide, by decide⟩

/-- One name reads the settings beside the folder, another a file of the
system, and both are mailed. -/
theorem mailed_file_outside_templates :
    (∃ mail, Mails JsonCodec.document workerDisk "/app/"
        (naming "../appsettings.json")
        ⟨some "ann@example.com", some "../appsettings.json", none⟩ mail
        ["app".toList, "appsettings.json".toList]
      ∧ mail.htmlBody = "Password=secret")
    ∧ (∃ mail, Mails JsonCodec.document workerDisk "/app/"
        (naming "/etc/passwd")
        ⟨some "ann@example.com", some "/etc/passwd", none⟩ mail
        ["etc".toList, "passwd".toList]
      ∧ mail.htmlBody = "root:x:0:0")
    ∧ templatesFolder workerDisk.cwd "/app/"
      = ["app".toList, "Templates".toList]
    ∧ ¬Inside ["app".toList, "Templates".toList]
      ["app".toList, "appsettings.json".toList]
    ∧ ¬Inside ["app".toList, "Templates".toList]
      ["etc".toList, "passwd".toList] := by
  refine ⟨⟨_, ⟨rfl, rfl, _, ⟨by decide, by decide, rfl⟩, by decide⟩,
    by decide⟩, ⟨_, ⟨rfl, rfl, _, ⟨by decide, by decide, rfl⟩, by decide⟩,
    by decide⟩, by decide, by decide, by decide⟩

end SkillBuddy
