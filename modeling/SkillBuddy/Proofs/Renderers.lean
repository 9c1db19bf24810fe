/-
The three list renderers side by side.

Each joins a text for every element, so they agree on a list iff they
agree on its elements: a join of longer pieces is longer. On the numeric
types, `char` and `Guid` the texts are the same. Of a null string
`GetQuotedDbString` writes nothing and the other two write a pair of
quotes. Of an enum value `ToCsv` writes the bare name and
`GetQuotedDbString` the quoted one.

`DataHelper.ToCsvString` dispatches on the element type itself, but for the
enums to the same effect as `ToCsv` (`dataHelper_toCsvString_eq`), so there
are two functions to compare and one exception. The element types are those
that all three have a text for (`RendersAll`); a null or empty list has
the empty text in each of them.
-/
import SkillBuddy.Data.DataHelper
import SkillBuddy.Core.ListExtension
import SkillBuddy.Lib.Joined

namespace SkillBuddy

open DotNet Lib

variable (ft : ListExtension.FloatText)

-- ============================================================= the property

/-- `byte`, `short`, `int`, `long`, `char`, `string`, `Guid` and enums. -/
def RendersAll : ElemType → Prop
  | .byte | .short | .int | .long | .char | .string | .guid | .enum _ => True
  | .sbyte | .ushort | .uint | .ulong | .float | .double | .decimal
  | .bool | .dateTime => False

/-- `ListExtension.ToCsv`, `Helper.ToCsvString` and
`DataHelper.ToCsvString` return the same text. -/
def RendersAlike (t : ElemType) (list : Option (List t.Carrier)) : Prop :=
  Helper.toCsvString (list.map (List.map t.box))
      = ListExtension.toCsv ft t list
    ∧ DataHelper.toCsvString t list none
      = .ok (ListExtension.toCsv ft t list)

/-- No null string, and no enum value. -/
def NoNullNoEnum : (t : ElemType) → List t.Carrier → Prop
  | .string, list => ∀ s ∈ list, Option.isSome s = true
  | .enum _, list => list = []
  | _, _ => True

-- ================================================ the renderers, by element

/-- `Helper.ToCsvString` joins what `GetQuotedDbString` writes. -/
theorem helper_toCsvString_map {t : ElemType} (list : List t.Carrier) :
    Helper.toCsvString (some (list.map t.box))
      = joinComma (list.map fun x =>
          Helper.getQuotedDbString (t.box x)) := by
  rw [Helper.toCsvString_some, List.map_map]
  rfl

/-- `ToCsv` joins the texts of numbers and of enum values. -/
theorem toCsv_plain {t : ElemType} (list : List t.Carrier)
    (ht : t = .byte ∨ t = .short ∨ t = .int ∨ t = .long
      ∨ ∃ e, t = .enum e) :
    ListExtension.toCsv ft t (some list)
      = joinComma (list.map (ListExtension.elemText ft t)) := by
  cases list with
  | nil => rfl
  | cons x xs =>
      obtain rfl | rfl | rfl | rfl | ⟨e, rfl⟩ := ht <;> rfl

/-- `ToCsv` quotes the other texts first. -/
theorem toCsv_quoted {t : ElemType} (list : List t.Carrier)
    (ht : t = .char ∨ t = .string ∨ t = .guid) :
    ListExtension.toCsv ft t (some list) = joinComma (list.map fun x =>
      Helper.quoted (ListExtension.elemText ft t x)) := by
  cases list with
  | nil => rfl
  | cons x xs =>
      rcases ht with rfl | rfl | rfl <;>
        simp only [ListExtension.toCsv, List.map_map] <;> rfl

/-- But for enums `DataHelper.ToCsvString` does what `ToCsv` does. -/
theorem dataHelper_toCsvString_eq {t : ElemType} (ht : RendersAll t)
    (hne : ∀ e, t ≠ .enum e) (list : List t.Carrier) :
    DataHelper.toCsvString t (some list) none
      = .ok (ListExtension.toCsv ft t (some list)) := by
  cases list with
  | nil => rfl
  | cons x xs =>
      cases t with
      | byte | short | int | long | char | string | guid => rfl
      | enum e => exact absurd rfl (hne e)
      | sbyte | ushort | uint | ulong | float | double | decimal | bool
      | dateTime => exact ht.elim

-- ========================================================= the agreement

/-- On strings they agree iff none is null. -/
theorem rendersAlike_string_iff (list : List ElemType.string.Carrier) :
    RendersAlike ft .string (some list)
      ↔ ∀ s ∈ list, Option.isSome s = true := by
  have hhelper := helper_toCsvString_map (t := .string) list
  have htoCsv := toCsv_quoted ft (t := .string) list (Or.inr (Or.inl rfl))
  constructor
  · intro h s hs
    obtain ⟨h, -⟩ := h
    rw [Option.map_some, hhelper, htoCsv] at h
    -- a null string is two letters shorter for `GetQuotedDbString`
    have hle : ∀ s ∈ list, (Helper.getQuotedDbString
          (ElemType.string.box s)).length
        ≤ (Helper.quoted (ListExtension.elemText ft .string s)).length := by
      intro s _
      cases s with
      | none => exact Nat.zero_le _
      | some s => exact Nat.le_refl _
    have hlength := length_eq_of_intercalate_eq hle h s hs
    cases s with
    | none =>
        rw [Helper.length_quoted] at hlength
        exact absurd hlength (Nat.succ_ne_zero _).symm
    | some s => rfl
  · intro h
    refine ⟨?_, @dataHelper_toCsvString_eq ft .string trivial
      (fun _ => ElemType.noConfusion) list⟩
    rw [Option.map_some, hhelper, htoCsv]
    refine congrArg joinComma (List.map_congr_left ?_)
    intro s hs
    obtain ⟨value, rfl⟩ := Option.isSome_iff_exists.mp (h s hs)
    rfl

/-- On enum values they never agree. -/
theorem rendersAlike_enum_iff {e : EnumType}
    (list : List (ElemType.enum e).Carrier) :
    RendersAlike ft (.enum e) (some list) ↔ list = [] := by
  constructor
  · intro h
    obtain ⟨h, -⟩ := h
    rw [Option.map_some, helper_toCsvString_map, toCsv_plain ft _
      (Or.inr (Or.inr (Or.inr (Or.inr ⟨e, rfl⟩))))] at h
    have hle : ∀ v ∈ list, (ListExtension.elemText ft (.enum e) v).length
        ≤ (Helper.getQuotedDbString ((ElemType.enum e).box v)).length := by
      intro v _
      show (EnumValue.toText v).length ≤ (Helper.quoted _).length
      rw [Helper.length_quoted]
      omega
    cases list with
    | nil => rfl
    | cons v vs =>
        have hlength : (EnumValue.toText v).length
            = (Helper.quoted v.toText).length :=
          length_eq_of_intercalate_eq hle h.symm v List.mem_cons_self
        rw [Helper.length_quoted] at hlength
        omega
  · intro h
    subst h
    exact ⟨rfl, rfl⟩

/-- The three list renderers return the same text iff no element is a null
string or an enum value. -/
theorem renderers_agree_iff {t : ElemType} (ht : RendersAll t)
    (list : Option (List t.Carrier)) :
    RendersAlike ft t list ↔ NoNullNoEnum t (list.getD []) := by
  cases list with
  | none => exact iff_of_true ⟨rfl, rfl⟩ (by cases t <;> simp [NoNullNoEnum])
  | some list =>
      cases t with
      | byte | short | int | long =>
          refine iff_of_true ⟨?_, ?_⟩ trivial
          · rw [Option.map_some, helper_toCsvString_map,
              toCsv_plain ft _ (by simp)]
            rfl
          · exact dataHelper_toCsvString_eq ft ht (by simp) list
      | char | guid =>
          refine iff_of_true ⟨?_, ?_⟩ trivial
          · rw [Option.map_some, helper_toCsvString_map,
              toCsv_quoted ft _ (by simp)]
            rfl
          · exact dataHelper_toCsvString_eq ft ht (by simp) list
      | string => exact rendersAlike_string_iff ft list
      | enum e => exact rendersAlike_enum_iff ft list
      | sbyte | ushort | uint | ulong | float | double | decimal | bool
      | dateTime => exact ht.elim

/-- A list with a null string. -/
theorem renderers_agree_names :
    RendersAlike ⟨fun _ => [], fun _ => []⟩ .string
        (some [some (str "Ann"), none])
      ↔ NoNullNoEnum .string [some (str "Ann"), none] :=
  @renderers_agree_iff _ .string trivial _

/-- `enum Status { Active, Inactive }`. -/
private def statusEnum : EnumType where
  underlying := .int
  members := [(str "Active", 0), (str "Inactive", 1)]

private def active : EnumValue statusEnum := ⟨0, by decide⟩

private def inactive : EnumValue statusEnum := ⟨1, by decide⟩

/-- `ToCsv` writes `Active,Inactive` where `Helper.ToCsvString` writes
`'Active','Inactive'`, whatever the texts of floating-point numbers. -/
theorem status_rendered_differently :
    Helper.toCsvString (some ([active, inactive].map
        (ElemType.enum statusEnum).box)) = str "'Active','Inactive'"
      ∧ ListExtension.toCsv ⟨fun _ => [], fun _ => []⟩ (.enum statusEnum)
        (some [active, inactive]) = str "Active,Inactive"
      ∧ ¬RendersAlike ⟨fun _ => [], fun _ => []⟩ (.enum statusEnum)
        (some [active, inactive]) := by
  refine ⟨by decide, by decide, ?_⟩
  intro h
  exact absurd h.1 (by decide)

end SkillBuddy
