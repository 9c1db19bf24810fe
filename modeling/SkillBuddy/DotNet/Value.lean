/-
The run-time values the query code dispatches on, and JSON documents.

# Values

`ElemType` lists the types the dispatches name, `Carrier` gives the
values of each, and `Obj` is a boxed value: what an `object` member can
hold once Newtonsoft.Json has filled it or a caller has assigned it. A
`List<T>` keeps its element type, because `ValueOf` dispatches on it; a
`JArray` is not a `List<>`.

A value of an enum type is a number in the range of the underlying type,
which need not have a name; its text is the name if it has one.

Floating-point numbers are kept as their bit patterns: nothing modelled
computes with them.

# Texts

What a rendered value tells of the value is decided by its text. A Guid's
text has a fixed length (`Guid.length_toText`) and its groups stand at
fixed places, so it determines the Guid (`Guid.toText_inj`).
-/
import Mathlib.Algebra.Order.Ring.Int
import SkillBuddy.DotNet.Text

namespace SkillBuddy.DotNet

-- ============================================================ exceptions

/-- The exceptions the modelled code lets out. -/
inductive Exn where
  | nullReference
  | argumentNull (paramName : String)
  | argument
  | overflow
  | invalidOperation (message : String)
  | json
  | io
  | npgsql
  deriving DecidableEq, Repr

-- ========================================================= simple values

/-- A hexadecimal digit in lower case. -/
def hexUnit (d : Fin 16) : CodeUnit :=
  if d.val < 10 then UInt16.ofNat (48 + d.val)
  else UInt16.ofNat (87 + d.val)

/-- A `Guid`: its 128 bits as the five groups of hexadecimal digits. -/
structure Guid where
  group1 : Vector (Fin 16) 8
  group2 : Vector (Fin 16) 4
  group3 : Vector (Fin 16) 4
  group4 : Vector (Fin 16) 4
  group5 : Vector (Fin 16) 12
  deriving DecidableEq, Repr

/-- The digits of a group as text. -/
def hexText {n : Nat} (ds : Vector (Fin 16) n) : Str :=
  ds.toList.map hexUnit

/-- `guid.ToString()`, format "D". -/
def Guid.toText (g : Guid) : Str :=
  hexText g.group1 ++ (unit '-' :: (hexText g.group2 ++
    (unit '-' :: (hexText g.group3 ++ (unit '-' :: (hexText g.group4 ++
      (unit '-' :: hexText g.group5)))))))

/-- A `DateTime`, by its calendar fields (months from 0). -/
structure DateTime where
  year : Nat
  month : Fin 12
  day : Nat
  hour : Fin 24
  minute : Fin 60
  second : Fin 60
  millisecond : Fin 1000
  deriving DecidableEq, Repr

/-- The invariant culture's abbreviated month names. -/
def monthAbbreviation (m : Fin 12) : Str :=
  (["Jan", "Feb", "Mar", "Apr", "May", "Jun", "Jul", "Aug", "Sep", "Oct",
    "Nov", "Dec"].map str).getD m.val []

/-- `date.ToString("dd-MMM-yyyy HH:mm:ss.fff")`. -/
def DateTime.toText (d : DateTime) : Str :=
  padZero 2 (natText d.day) ++ str "-" ++ monthAbbreviation d.month
    ++ str "-" ++ padZero 4 (natText d.year) ++ str " "
    ++ padZero 2 (natText d.hour) ++ str ":"
    ++ padZero 2 (natText d.minute) ++ str ":"
    ++ padZero 2 (natText d.second) ++ str "."
    ++ padZero 3 (natText d.millisecond)

/-- A `decimal`: sign, 96-bit magnitude and decimal scale. -/
structure Decimal where
  negative : Bool
  magnitude : Fin (2 ^ 96)
  scale : Fin 29
  deriving DecidableEq, Repr

/-- `decimal.ToString()`: `scale` digits after the point. -/
def Decimal.toText (d : Decimal) : Str :=
  let digits := padZero (d.scale.val + 1) (natText d.magnitude.val)
  let whole := digits.take (digits.length - d.scale.val)
  let part := digits.drop (digits.length - d.scale.val)
  (if d.negative && d.magnitude.val != 0 then str "-" else [])
    ++ whole ++ (if part.isEmpty then [] else str "." ++ part)

-- ================================================================= enums

/-- The underlying type of an enum. -/
inductive IntegralType where
  | byte | sbyte | short | ushort | int | uint | long | ulong
  deriving DecidableEq, Repr

/-- The least value of an integral type. -/
def IntegralType.minValue : IntegralType → Int
  | .byte | .ushort | .uint | .ulong => 0
  | .sbyte => -(2 ^ 7)
  | .short => -(2 ^ 15)
  | .int => -(2 ^ 31)
  | .long => -(2 ^ 63)

/-- The greatest value of an integral type. -/
def IntegralType.maxValue : IntegralType → Int
  | .byte => 2 ^ 8 - 1
  | .ushort => 2 ^ 16 - 1
  | .uint => 2 ^ 32 - 1
  | .ulong => 2 ^ 64 - 1
  | .sbyte => 2 ^ 7 - 1
  | .short => 2 ^ 15 - 1
  | .int => 2 ^ 31 - 1
  | .long => 2 ^ 63 - 1

/-- An enum type: its underlying type and its named constants. -/
structure EnumType where
  underlying : IntegralType
  members : List (Str × Int)
  deriving DecidableEq, Repr

/-- A value of an enum type, in the range of the underlying type. -/
structure EnumValue (e : EnumType) where
  value : Int
  inRange : e.underlying.minValue ≤ value ∧ value ≤ e.underlying.maxValue
  deriving DecidableEq, Repr

/-- `value.ToString()`: the constant's name, or the number of an unnamed
value. -/
def EnumValue.toText {e : EnumType} (v : EnumValue e) : Str :=
  match e.members.find? fun m => m.2 == v.value with
  | some m => m.1
  | none => intText v.value

-- ================================================================== JSON

/-- A JSON number literal: without fraction and exponent, or with
(`mantissa · 10 ^ exponent`). -/
inductive JsonNumber where
  | integer (n : Int)
  | fraction (mantissa exponent : Int)
  deriving DecidableEq, Repr

/-- A JSON document with texts in `S`. -/
inductive Json (S : Type) where
  | null
  | bool (b : Bool)
  | number (n : JsonNumber)
  | string (s : S)
  | array (items : List (Json S))
  | object (members : List (S × Json S))

-- ========================================================= boxed values

/-- The value types, and `string`, that the dispatches name. -/
inductive ElemType where
  | byte | sbyte | short | ushort | int | uint | long | ulong
  | float | double | decimal
  | bool | char | string | guid | dateTime
  | enum (e : EnumType)
  deriving DecidableEq, Repr

/-- The values a variable of the type can hold. -/
def ElemType.Carrier : ElemType → Type
  | .byte => UInt8
  | .sbyte => Int8
  | .short => Int16
  | .ushort => UInt16
  | .int => Int32
  | .uint => UInt32
  | .long => Int64
  | .ulong => UInt64
  | .float => UInt32
  | .double => UInt64
  | .decimal => Decimal
  | .bool => Bool
  | .char => CodeUnit
  | .string => Option Str
  | .guid => Guid
  | .dateTime => DateTime
  | .enum e => EnumValue e

/-- A non-null `object`, by its run-time type. -/
inductive Obj where
  | byte (n : UInt8)
  | sbyte (n : Int8)
  | short (n : Int16)
  | ushort (n : UInt16)
  | int (n : Int32)
  | uint (n : UInt32)
  | long (n : Int64)
  | ulong (n : UInt64)
  | float (bits : UInt32)
  | double (bits : UInt64)
  | decimal (d : Decimal)
  | bigInteger (n : Int)
  | bool (b : Bool)
  | char (c : CodeUnit)
  | string (s : Str)
  | guid (g : Guid)
  | dateTime (d : DateTime)
  | enum (e : EnumType) (v : EnumValue e)
  | list (t : ElemType) (items : List t.Carrier)
  | jArray (items : List (Json Str))
  | jObject (members : List (Str × Json Str))

/-- Boxing: a variable of type `t`, seen as an `object`. -/
def ElemType.box : (t : ElemType) → t.Carrier → Option Obj
  | .byte, n => some (.byte n)
  | .sbyte, n => some (.sbyte n)
  | .short, n => some (.short n)
  | .ushort, n => some (.ushort n)
  | .int, n => some (.int n)
  | .uint, n => some (.uint n)
  | .long, n => some (.long n)
  | .ulong, n => some (.ulong n)
  | .float, b => some (.float b)
  | .double, b => some (.double b)
  | .decimal, d => some (.decimal d)
  | .bool, b => some (.bool b)
  | .char, c => some (.char c)
  | .string, s => Option.map Obj.string s
  | .guid, g => some (.guid g)
  | .dateTime, d => some (.dateTime d)
  | .enum e, v => some (.enum e v)

-- ============================================================ Guid texts

/-- A hexadecimal digit's letter determines it. -/
theorem hexUnit_inj {a b : Fin 16} (h : hexUnit a = hexUnit b) :
    a = b := by
  revert a b
  decide

/-- A group has as many letters as digits. -/
theorem length_hexText {n : Nat} (ds : Vector (Fin 16) n) :
    (hexText ds).length = n := by
  rw [hexText, List.length_map, Vector.length_toList]

/-- Its letters determine it. -/
theorem hexText_inj {n : Nat} {ds es : Vector (Fin 16) n}
    (h : hexText ds = hexText es) : ds = es :=
  Vector.toList_inj.mp
    ((List.map_inj_right fun _ _ => hexUnit_inj).mp h)

/-- A Guid's text always has 36 characters. -/
theorem Guid.length_toText (g : Guid) : g.toText.length = 36 := by
  simp only [Guid.toText, List.length_append, List.length_cons,
    length_hexText]

/-- A Guid's text determines it: the groups stand at fixed places. -/
theorem Guid.toText_inj {g h : Guid} (heq : g.toText = h.toText) :
    g = h := by
  obtain ⟨h1, heq⟩ := List.append_inj heq (by
    rw [length_hexText, length_hexText])
  obtain ⟨h2, heq⟩ := List.append_inj (List.cons.inj heq).2 (by
    rw [length_hexText, length_hexText])
  obtain ⟨h3, heq⟩ := List.append_inj (List.cons.inj heq).2 (by
    rw [length_hexText, length_hexText])
  obtain ⟨h4, heq⟩ := List.append_inj (List.cons.inj heq).2 (by
    rw [length_hexText, length_hexText])
  have h5 := (List.cons.inj heq).2
  cases g
  cases h
  simp only [Guid.mk.injEq]
  exact ⟨hexText_inj h1, hexText_inj h2, hexText_inj h3, hexText_inj h4,
    hexText_inj h5⟩

end SkillBuddy.DotNet
