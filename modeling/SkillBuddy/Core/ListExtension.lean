/-
`SkillBuddy.Core.ListExtension.ToCsv`: a list rendered by its declared
element type.

Unlike `Helper.ToCsvString` this renderer looks at `typeof(T)`, knows
every numeric type, and writes an enum value's name without quotes
(every C# enum is numeric underneath, so its quoting arm for
non-numeric enums is never taken). Floating-point texts are the
framework's shortest round-trip texts; they enter as a parameter.
-/
import SkillBuddy.DotNet.Value
import SkillBuddy.Core.Helper

namespace SkillBuddy.ListExtension

open DotNet

/-- `float.ToString()` and `double.ToString()`. -/
structure FloatText where
  float : UInt32 → Str
  double : UInt64 → Str

variable (ft : FloatText)

/-- `x?.ToString() ?? String.Empty` for an element of type `t`. -/
def elemText : (t : ElemType) → t.Carrier → Str
  | .byte, n => intText (UInt8.toNat n)
  | .sbyte, n => intText (Int8.toInt n)
  | .short, n => intText (Int16.toInt n)
  | .ushort, n => intText (UInt16.toNat n)
  | .int, n => intText (Int32.toInt n)
  | .uint, n => intText (UInt32.toNat n)
  | .long, n => intText (Int64.toInt n)
  | .ulong, n => intText (UInt64.toNat n)
  | .float, b => ft.float b
  | .double, b => ft.double b
  | .decimal, d => Decimal.toText d
  | .bool, b => cond b (str "True") (str "False")
  | .char, c => [c]
  | .string, s => Option.getD s []
  | .guid, g => Guid.toText g
  | .dateTime, d => DateTime.toText d
  | .enum _, v => EnumValue.toText v

/-- `list.ToCsv()`. -/
def toCsv (t : ElemType) (list : Option (List t.Carrier)) : Str :=
  match list with
  | none | some [] => []
  | some list =>
    let texts := list.map (elemText ft t)
    match t with
    | .enum _ => joinComma texts
    | .byte | .short | .int | .long | .sbyte | .ushort | .uint | .ulong
    | .float | .double | .decimal => joinComma texts
    | .char | .string => joinComma (texts.map Helper.quoted)
    | .guid => joinComma (texts.map Helper.quoted)
    | .bool | .dateTime => []

end SkillBuddy.ListExtension
