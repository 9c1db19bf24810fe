/-
`SkillBuddy.Core.Helper`: rendering values as SQL text.

`GetQuotedDbString` dispatches on the run-time type of a value;
everything it does not name is rendered as the empty text. Its `toType`
argument only selects between renderings of an enum value, and every
caller passes either nothing or `typeof(string)`, which take the same
arm; its `format` argument is never passed. `ToCsvString` renders each
element by its run-time type and joins with commas; it ignores `toType`.
-/
import SkillBuddy.DotNet.Value

namespace SkillBuddy.Helper

open DotNet

/-- `$"'{text}'"`. -/
def quoted (text : Str) : Str := unit '\'' :: (text ++ [unit '\''])

/-- Quotes make a text longer. -/
theorem length_quoted (text : Str) :
    (quoted text).length = text.length + 2 := by
  rw [quoted, List.length_cons, List.length_append, List.length_singleton]

/-- `obj.GetQuotedDbString()`. -/
def getQuotedDbString : Option Obj → Str
  | none => []
  | some obj =>
    match obj with
    | .byte n => intText n.toNat
    | .short n => intText n.toInt
    | .int n => intText n.toInt
    | .long n => intText n.toInt
    | .bool b => if b then str "1" else str "0"
    | .char c => quoted [c]
    | .string s => quoted s
    | .guid g => quoted g.toText
    | .dateTime d => quoted d.toText
    | .enum _ v => quoted v.toText
    | .sbyte _ | .ushort _ | .uint _ | .ulong _ | .float _ | .double _
    | .decimal _ | .bigInteger _ | .list _ _ | .jArray _ | .jObject _ => []

/-- `list.ToCsvString()`, over the elements as objects. -/
def toCsvString : Option (List (Option Obj)) → Str
  | none | some [] => []
  | some list => joinComma (list.map getQuotedDbString)

/-- `o.IsList()`: a generic `List<>`, which a `JArray` is not. -/
def isList : Option Obj → Bool
  | some (.list _ _) => true
  | _ => false

/-- The empty-list test in `ToCsvString` agrees with an empty join. -/
theorem toCsvString_some (list : List (Option Obj)) :
    toCsvString (some list) = joinComma (list.map getQuotedDbString) := by
  cases list with
  | nil => rfl
  | cons x xs => rfl

end SkillBuddy.Helper
