/-
System.Text.Json, as far as the queue message needs it.

Texts here are Unicode texts (`String`): what travels through the queue
is UTF-8. `JsonCodec` stands for serialising to bytes and reading bytes
back, with the law that reading undoes writing as a field; `B` is the
type of byte strings. Deserialisation to an object goes member by
member: names match without regard to case, unknown members are ignored,
a repeated member counts at its last place, and a member of the wrong
JSON type is an error.
-/
import SkillBuddy.DotNet.Value

namespace SkillBuddy.DotNet

/-- `JsonSerializer` and `Encoding.UTF8`, between JSON and bytes. -/
structure JsonCodec (B : Type) where
  write : Json String → B
  read : B → Option (Json String)
  read_write : ∀ json, read (write json) = some json

/-- Documents as their own bytes. -/
def JsonCodec.document : JsonCodec (Json String) where
  write := id
  read := some
  read_write _ := rfl

/-- `PropertyNameCaseInsensitive`. -/
def sameName (member property : String) : Bool :=
  member.toList.map Char.toLower == property.toList.map Char.toLower

/-- A `string?` property. -/
def readString : Json String → Except Exn (Option String)
  | .null => .ok none
  | .string s => .ok (some s)
  | .bool _ | .number _ | .array _ | .object _ => .error .json

/-- `dictionary[key] = value`: a new key goes to the end, a known one
keeps its place. -/
def setEntry (key : String) (value : Option String) :
    List (String × Option String) → List (String × Option String)
  | [] => [(key, value)]
  | (k, v) :: entries =>
      if k = key then (key, value) :: entries
      else (k, v) :: setEntry key value entries

/-- A `Dictionary<string, string>?` property. -/
def readDictionary :
    Json String → Except Exn (Option (List (String × Option String)))
  | .null => .ok none
  | .object members => do
      let entries ← members.foldlM (fun entries m => do
        let value ← readString m.2
        return setEntry m.1 value entries) []
      return some entries
  | .bool _ | .number _ | .string _ | .array _ => .error .json

end SkillBuddy.DotNet
