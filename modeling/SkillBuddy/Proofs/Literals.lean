/-
The SQL text of string values, read back.

# What is written

Three renderers turn a list of strings into the text of an IN list, and
all three write the same thing: every element between single quotes,
joined by commas (`Writes`). A single value is written as a list of one.
None of the renderers doubles a quote inside an element.

# What is read

`sqlLiterals` reads a text as SQL does: a literal goes from a quote to the
next one that is not doubled, and literals are separated by commas. The
exact agreement of quoting and lexing is a fact about any letters and
any quote; it applies to each of the renderers, because it speaks of what
is written and not of who writes it (`sqlLiterals_iff`).

So the text reads back as the elements exactly when no element contains a
quote (`string_literals_iff`). An element with a quote ends its literal
early, and what follows is read as SQL (`quote_escapes_literal`).
-/
import SkillBuddy.Data.DataHelper
import SkillBuddy.Core.ListExtension
import SkillBuddy.Lib.Quoted

namespace SkillBuddy

open DotNet
open Lib

-- ====================================================== reading literals

/-- The values of the comma-separated string literals `text` consists of,
if it does. -/
def sqlLiterals (text : Str) : Option (List Str) :=
  Quoted.lex (unit '\'') (unit ',') text

/-- Literals written between quotes, as they are. -/
def Writes (text : Str) (values : List Str) : Prop :=
  text = List.intercalate [unit ','] (values.map (Quoted.wrap (unit '\'')))

/-- Text written so reads back exactly when no value has a quote. -/
theorem sqlLiterals_iff {text : Str} {values : List Str}
    (h : Writes text values) :
    sqlLiterals text = some values ↔ ∀ s ∈ values, unit '\'' ∉ s := by
  unfold Writes at h
  unfold sqlLiterals
  rw [h]
  apply Quoted.lex_wrapped_iff
  decide

-- ========================================================= the renderers

/-- `GetQuotedDbString` writes a string as one literal. -/
theorem writes_getQuotedDbString (s : Str) :
    Writes (Helper.getQuotedDbString (some (.string s))) [s] := by
  unfold Writes
  rw [List.map_singleton, List.intercalate_singleton]
  rfl

/-- `Helper.ToCsvString` writes the elements of a list of strings. -/
theorem writes_helper_toCsvString (values : List Str) :
    Writes (Helper.toCsvString
      (some (values.map fun s => some (Obj.string s)))) values := by
  unfold Writes
  rw [Helper.toCsvString_some, List.map_map]
  rfl

/-- The list renderers that go by the element type quote each element's
text, which for a string is the string. -/
private theorem map_quoted_map_some {text : Option Str → Str}
    (h : ∀ s, text (some s) = s) (values : List Str) :
    ((values.map some).map text).map Helper.quoted
      = values.map (Quoted.wrap (unit '\'')) := by
  rw [List.map_map, List.map_map]
  apply List.map_congr_left
  intro s hs
  show Helper.quoted (text (some s)) = _
  rw [h]
  rfl

/-- `DataHelper.ToCsvString` returns normally on a list of strings and
writes its elements, whatever type is asked for. -/
theorem writes_dataHelper_toCsvString (toType : Option ElemType)
    (values : List Str) :
    ∃ text, DataHelper.toCsvString .string (some (values.map some)) toType
      = .ok text ∧ Writes text values := by
  cases values with
  | nil => exact ⟨[], rfl, rfl⟩
  | cons s values =>
      refine ⟨_, rfl, ?_⟩
      exact congrArg joinComma
        (map_quoted_map_some (fun _ => rfl) (s :: values))

/-- `ListExtension.ToCsv` writes the elements of a list of strings. -/
theorem writes_toCsv (ft : ListExtension.FloatText) (values : List Str) :
    Writes (ListExtension.toCsv ft .string (some (values.map some)))
      values := by
  cases values with
  | nil => rfl
  | cons s values =>
      exact congrArg joinComma
        (map_quoted_map_some (fun _ => rfl) (s :: values))

-- ===================================================== the exact condition

/-- A rendered string is one literal with the string's value exactly when
the string has no single quote, and each of the three renderings of a list
of strings is the list of its literals exactly when no element has one. -/
theorem string_literals_iff (ft : ListExtension.FloatText)
    (toType : Option ElemType) :
    (∀ s : Str,
      sqlLiterals (Helper.getQuotedDbString (some (.string s))) = some [s]
        ↔ unit '\'' ∉ s)
    ∧ ∀ values : List Str,
      (sqlLiterals (Helper.toCsvString
          (some (values.map fun s => some (Obj.string s)))) = some values
        ↔ ∀ s ∈ values, unit '\'' ∉ s)
      ∧ ((∃ text,
          DataHelper.toCsvString .string (some (values.map some)) toType
            = .ok text ∧ sqlLiterals text = some values)
        ↔ ∀ s ∈ values, unit '\'' ∉ s)
      ∧ (sqlLiterals
          (ListExtension.toCsv ft .string (some (values.map some)))
            = some values
        ↔ ∀ s ∈ values, unit '\'' ∉ s) := by
  constructor
  · intro s
    rw [sqlLiterals_iff (writes_getQuotedDbString s),
      List.forall_mem_singleton]
  · intro values
    refine ⟨sqlLiterals_iff (writes_helper_toCsvString values), ?_,
      sqlLiterals_iff (writes_toCsv ft values)⟩
    obtain ⟨text, htext, hwrites⟩ :=
      writes_dataHelper_toCsvString toType values
    rw [← sqlLiterals_iff hwrites, htext]
    constructor
    · rintro ⟨text', htext', hlex⟩
      obtain rfl := Except.ok.inj htext'
      exact hlex
    · exact fun hlex => ⟨text, rfl, hlex⟩

/-- The value `a' OR '1'='1` ends its literal: alone it is no literal list
at all, and the one-element list `a','b` reads as two elements. -/
theorem quote_escapes_literal :
    sqlLiterals (Helper.getQuotedDbString
        (some (.string (str "a' OR '1'='1")))) = none
      ∧ sqlLiterals (Helper.toCsvString
          (some [some (Obj.string (str "a','b"))]))
        = some [str "a", str "b"]
      ∧ DataHelper.toCsvString .string (some [some (str "a','b")]) none
        = .ok (Helper.toCsvString
          (some [some (Obj.string (str "a','b"))])) := by
  decide

end SkillBuddy
