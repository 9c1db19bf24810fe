/-
Which comparison values survive in a rule's text.

# Two dispatches

A JSON value passes two dispatches before it is text: Newtonsoft.Json
picks a run-time type, and `GetQuotedDbString` writes the types it names
and nothing for the others. Of the JSON numbers only integers in the
range of `long` meet a named type; fractions (`double`), larger integers
(`BigInteger`) and arrays (`JArray`) become the empty text. So two numbers
keep different texts exactly when both are `long`s
(`keptApart_number_iff`), and two arrays never do
(`not_keptApart_array`).

# Lists

`ValueOf` dispatches on twelve element types, but its elements go through
`GetQuotedDbString` again, which names six of them (`written`). For these
the join can be read back: numbers because their texts have no comma
(`joinComma_inj_of_notMem`), characters and Guids because their texts have
a fixed length (`joinComma_inj_of_length`). For the other six a list
becomes its commas, so only its length survives (`joinComma_of_empty`).
No list reaches `ValueOf` from a document, but the constructor is public.

The three results together are `values_kept_apart_iff`.
-/
import SkillBuddy.Entity.QueryBuilder
import SkillBuddy.Lib.Joined
import Mathlib.Algebra.Field.Rat
import Mathlib.Tactic.NormNum

namespace SkillBuddy

open DotNet
open Lib

-- ============================================================ list values

/-- The text of a list: its elements' texts, joined. -/
theorem listText_eq (t : ElemType) (items : List t.Carrier) :
    listText t items = joinComma
      (items.map fun x => Helper.getQuotedDbString (t.box x)) := by
  have h := Helper.toCsvString_some (items.map t.box)
  rw [List.map_map] at h
  cases t <;> exact h

/-- Texts without a comma, one for each value, can be read back. -/
theorem joinComma_inj_of_notMem {α : Type} {text : α → Str}
    (hinj : Function.Injective text) (hcomma : ∀ x, unit ',' ∉ text x)
    {xs ys : List α} (hx : xs ≠ []) (hy : ys ≠ [])
    (h : joinComma (xs.map text) = joinComma (ys.map text)) : xs = ys := by
  have hmap : xs.map text = ys.map text := by
    apply intercalate_inj_of_notMem _ _ _ _ h
    · exact fun hnil => hx (List.map_eq_nil_iff.mp hnil)
    · exact fun hnil => hy (List.map_eq_nil_iff.mp hnil)
    · exact List.forall_mem_map.mpr fun x _ => hcomma x
    · exact List.forall_mem_map.mpr fun y _ => hcomma y
  exact hinj.list_map hmap

/-- So can texts of one length. -/
theorem joinComma_inj_of_length {α : Type} {text : α → Str} {k : Nat}
    (hinj : Function.Injective text) (hlen : ∀ x, (text x).length = k)
    {xs ys : List α} (hx : xs ≠ []) (hy : ys ≠ [])
    (h : joinComma (xs.map text) = joinComma (ys.map text)) : xs = ys := by
  have hmap : xs.map text = ys.map text := by
    apply intercalate_inj_of_length (k := k) _ _ _ _ h
    · exact fun hnil => hx (List.map_eq_nil_iff.mp hnil)
    · exact fun hnil => hy (List.map_eq_nil_iff.mp hnil)
    · exact List.forall_mem_map.mpr fun x _ => hlen x
    · exact List.forall_mem_map.mpr fun y _ => hlen y
  exact hinj.list_map hmap

/-- Empty texts join to commas: one less than there are texts. -/
theorem joinComma_of_empty {α : Type} {text : α → Str}
    (hnil : ∀ x, text x = []) {xs : List α} (hx : xs ≠ []) :
    joinComma (xs.map text) = List.replicate (xs.length - 1) (unit ',') := by
  obtain ⟨x, xs, rfl⟩ := List.exists_cons_of_ne_nil hx
  have hmap : (x :: xs).map text = List.replicate (xs.length + 1) [] := by
    rw [List.eq_replicate_iff]
    refine ⟨by rw [List.length_map, List.length_cons], ?_⟩
    exact List.forall_mem_map.mpr fun y _ => hnil y
  rw [hmap]
  exact intercalate_replicate_nil _ _

/-- The element types `ValueOf` dispatches on. -/
def dispatched : List ElemType :=
  [.byte, .short, .int, .long, .ushort, .uint, .ulong, .float, .double,
    .decimal, .char, .guid]

/-- Those among them that `GetQuotedDbString` writes. -/
def written : List ElemType :=
  [.byte, .short, .int, .long, .char, .guid]

/-- Lists of a written type can be read back, each type by its own
reason. -/
theorem listText_inj {t : ElemType} (ht : t ∈ written)
    {xs ys : List t.Carrier} (hx : xs ≠ []) (hy : ys ≠ [])
    (h : listText t xs = listText t ys) : xs = ys := by
  rw [listText_eq, listText_eq] at h
  simp only [written, List.mem_cons, List.not_mem_nil, or_false] at ht
  rcases ht with rfl | rfl | rfl | rfl | rfl | rfl
  · refine joinComma_inj_of_notMem (fun (m n : UInt8) hmn => ?_)
      (fun (n : UInt8) => comma_notMem_intText n.toNat) hx hy h
    exact UInt8.toNat_inj.mp (Int.ofNat.inj (intText_inj hmn))
  · refine joinComma_inj_of_notMem (fun (m n : Int16) hmn => ?_)
      (fun _ => comma_notMem_intText _) hx hy h
    exact Int16.toInt_inj.mp (intText_inj hmn)
  · refine joinComma_inj_of_notMem (fun (m n : Int32) hmn => ?_)
      (fun _ => comma_notMem_intText _) hx hy h
    exact Int32.toInt_inj.mp (intText_inj hmn)
  · refine joinComma_inj_of_notMem (fun (m n : Int64) hmn => ?_)
      (fun _ => comma_notMem_intText _) hx hy h
    exact Int64.toInt_inj.mp (intText_inj hmn)
  · refine joinComma_inj_of_length (k := 3) (fun (c d : CodeUnit) hcd => ?_)
      (fun _ => rfl) hx hy h
    exact (List.cons.inj (List.cons.inj hcd).2).1
  · refine joinComma_inj_of_length (k := 38) (fun (f g : Guid) hfg => ?_)
      (fun (g : Guid) => ?_) hx hy h
    · exact Guid.toText_inj (List.append_cancel_right (List.cons.inj hfg).2)
    · show (Helper.quoted g.toText).length = 38
      rw [Helper.length_quoted, Guid.length_toText]

/-- Lists of the other dispatched types become their commas. -/
theorem listText_of_not_written {t : ElemType} (ht : t ∈ dispatched)
    (hw : t ∉ written) {xs : List t.Carrier} (hx : xs ≠ []) :
    listText t xs = List.replicate (xs.length - 1) (unit ',') := by
  rw [listText_eq]
  apply joinComma_of_empty _ hx
  intro x
  simp only [dispatched, List.mem_cons, List.not_mem_nil, or_false] at ht
  rcases ht with rfl | rfl | rfl | rfl | rfl | rfl | rfl | rfl | rfl | rfl
    | rfl | rfl
  -- a silent type writes nothing; the others are excluded
  all_goals first | rfl | exact absurd (by decide) hw

/-- Two lists of a dispatched type have different texts exactly when the
type is written or the lists differ in length. -/
theorem listText_ne_iff {t : ElemType} (ht : t ∈ dispatched)
    {xs ys : List t.Carrier} (hx : xs ≠ []) (hy : ys ≠ [])
    (hne : xs ≠ ys) :
    listText t xs ≠ listText t ys
      ↔ t ∈ written ∨ xs.length ≠ ys.length := by
  by_cases hw : t ∈ written
  · exact ⟨fun _ => Or.inl hw, fun _ h => hne (listText_inj hw hx hy h)⟩
  · rw [listText_of_not_written ht hw hx, listText_of_not_written ht hw hy]
    have hposx := List.length_pos_iff.mpr hx
    have hposy := List.length_pos_iff.mpr hy
    constructor
    · intro h
      refine Or.inr fun hlen => h ?_
      rw [hlen]
    · rintro (h | hlen) heq
      · exact hw h
      · have hcount := congrArg List.length heq
        rw [List.length_replicate, List.length_replicate] at hcount
        omega

-- ============================================================ JSON values

/-- The value of a number literal. -/
def jsonValue : JsonNumber → ℚ
  | .integer n => n
  | .fraction mantissa exponent => mantissa * (10 : ℚ) ^ exponent

/-- A literal that Newtonsoft.Json reads as a `long`. -/
def IsInt64 : JsonNumber → Prop
  | .integer n => -(2 ^ 63) ≤ n ∧ n < 2 ^ 63
  | .fraction _ _ => False

/-- The two value members of a rule. -/
inductive ValueMember where
  | value1
  | value2
  deriving DecidableEq, Repr

/-- A leaf rule of a document with `value` at a member and `other` at the
other one. -/
def leafRule (field : Str) (operator : Option QueryBuilderOperator)
    (member : ValueMember) (value : Json Str) (other : Option (Json Str)) :
    QueryRule (Json Str) where
  field := some field
  operator := operator
  value1 := match member with
    | .value1 => some value
    | .value2 => other
  value2 := match member with
    | .value1 => other
    | .value2 => some value
  rules := none
  condition := none

/-- The value of a member. -/
def memberOf (r : QueryRule Obj) : ValueMember → Option Obj
  | .value1 => r.value1
  | .value2 => r.value2

/-- The text `FromJson` puts at a member of the one rule it makes of a
document with that leaf. -/
def textOf (nj : Newtonsoft) (member : ValueMember)
    (r : QueryRule (Json Str)) : Option Str :=
  match fromJson nj (some { condition := some .and, rules := some [some r] })
    with
  | .ok { rules := some [some rule], .. } =>
      match memberOf rule member with
      | some (.string text) => some text
      | _ => none
  | _ => none

/-- `FromJson` gives two values different, non-empty texts at a member of
otherwise equal leaf rules. -/
def KeptApart (nj : Newtonsoft) (field : Str)
    (operator : Option QueryBuilderOperator) (member : ValueMember)
    (other : Option (Json Str)) (x y : Json Str) : Prop :=
  ∃ s t, textOf nj member (leafRule field operator member x other) = some s
    ∧ textOf nj member (leafRule field operator member y other) = some t
    ∧ s ≠ [] ∧ t ≠ [] ∧ s ≠ t

variable (nj : Newtonsoft) (field : Str)
  (operator : Option QueryBuilderOperator) (member : ValueMember)
  (other : Option (Json Str))

/-- The text at a member is what `GetQuotedDbString` writes for the value
received there. -/
theorem textOf_leafRule {x : Json Str} (obj : Obj)
    (hx : nj.received x = some obj) (hlist : ∀ t items, obj ≠ .list t items) :
    textOf nj member (leafRule field operator member x other)
      = some (Helper.getQuotedDbString (some obj)) := by
  have hvalue : valueOf (some obj)
      = some (.string (Helper.getQuotedDbString (some obj))) := by
    cases obj
    case list t items => exact absurd rfl (hlist t items)
    all_goals rfl
  have hmember : textOf nj member (leafRule field operator member x other)
      = match valueOf (nj.received x) with
        | some (.string text) => some text
        | _ => none := by
    cases member <;> rfl
  rw [hmember, hx, hvalue]

/-- What is left of a number: its digits if it is read as a `long`. -/
def numberText : JsonNumber → Str
  | .integer n =>
      if -(2 ^ 63) ≤ n ∧ n < 2 ^ 63 then intText n else []
  | .fraction _ _ => []

/-- Of a number that is left at a member, therefore. -/
theorem textOf_number (n : JsonNumber) :
    textOf nj member (leafRule field operator member (.number n) other)
      = some (numberText n) := by
  cases n with
  | fraction m e =>
      exact textOf_leafRule nj field operator member other (.double _)
        rfl (fun _ _ h => nomatch h)
  | integer i =>
      rw [numberText]
      by_cases hi : -(2 ^ 63) ≤ i ∧ i < 2 ^ 63
      · have hreceived : nj.received (.number (.integer i))
            = some (.long (Int64.ofInt i)) := if_pos hi
        rw [if_pos hi, textOf_leafRule nj field operator member other _
          hreceived (fun _ _ h => nomatch h)]
        show some (intText (Int64.ofInt i).toInt) = _
        rw [Int64.toInt_ofInt_of_le hi.1 hi.2]
      · have hreceived : nj.received (.number (.integer i))
            = some (.bigInteger i) := if_neg hi
        rw [if_neg hi, textOf_leafRule nj field operator member other _
          hreceived (fun _ _ h => nomatch h)]
        rfl

/-- Something is left of it exactly if it is read as a `long`. -/
theorem numberText_ne_nil_iff {n : JsonNumber} :
    numberText n ≠ [] ↔ IsInt64 n := by
  cases n with
  | fraction => exact ⟨fun h => h rfl, fun h => h.elim⟩
  | integer i =>
      rw [numberText, IsInt64]
      by_cases hi : -(2 ^ 63) ≤ i ∧ i < 2 ^ 63
      · rw [if_pos hi]
        exact ⟨fun _ => hi, fun _ => intText_ne_nil i⟩
      · rw [if_neg hi]
        exact ⟨fun h => absurd rfl h, fun h => absurd h hi⟩

/-- The texts of `long`s determine their values. -/
theorem jsonValue_eq_of_numberText {m n : JsonNumber} (hm : IsInt64 m)
    (hn : IsInt64 n) (h : numberText m = numberText n) :
    jsonValue m = jsonValue n := by
  cases m with
  | fraction => exact hm.elim
  | integer i =>
      cases n with
      | fraction => exact hn.elim
      | integer j =>
          rw [IsInt64] at hm hn
          rw [numberText, numberText, if_pos hm, if_pos hn] at h
          rw [intText_inj h]

/-- Two different numbers are kept apart exactly when both are read as
`long`s. -/
theorem keptApart_number_iff {m n : JsonNumber}
    (hne : jsonValue m ≠ jsonValue n) :
    KeptApart nj field operator member other (.number m) (.number n)
      ↔ IsInt64 m ∧ IsInt64 n := by
  unfold KeptApart
  rw [textOf_number, textOf_number, ← numberText_ne_nil_iff,
    ← numberText_ne_nil_iff]
  constructor
  · rintro ⟨s, t, hs, ht, hsne, htne, -⟩
    obtain rfl := Option.some.inj hs
    obtain rfl := Option.some.inj ht
    exact ⟨hsne, htne⟩
  · rintro ⟨hm, hn⟩
    refine ⟨_, _, rfl, rfl, hm, hn, fun h => hne ?_⟩
    exact jsonValue_eq_of_numberText (numberText_ne_nil_iff.mp hm)
      (numberText_ne_nil_iff.mp hn) h

/-- Arrays are never kept apart: each becomes the empty text. -/
theorem not_keptApart_array (xs ys : List (Json Str)) :
    ¬ KeptApart nj field operator member other (.array xs) (.array ys) := by
  rintro ⟨s, t, hs, -, hsne, -⟩
  rw [textOf_leafRule nj field operator member other (.jArray xs)
    rfl (fun _ _ h => nomatch h)] at hs
  exact hsne (Option.some.inj hs).symm

-- ===================================================== the exact condition

/-- Two JSON numbers of different value keep different, non-empty texts at
either member exactly when both are integers in the range of `long`; two
arrays never do; and two different non-empty lists of a dispatched element
type get different texts from the constructor exactly when the type is a
written one or the lists differ in length. -/
theorem values_kept_apart_iff :
    (∀ m n, jsonValue m ≠ jsonValue n →
      (KeptApart nj field operator member other (.number m) (.number n)
        ↔ IsInt64 m ∧ IsInt64 n))
    ∧ (∀ xs ys,
      ¬ KeptApart nj field operator member other (.array xs) (.array ys))
    ∧ ∀ t ∈ dispatched, ∀ (xs ys : List t.Carrier) (op value2),
      xs ≠ [] → ys ≠ [] → xs ≠ ys →
      ((QueryRule.new field op (some (.list t xs)) value2).value1
          ≠ (QueryRule.new field op (some (.list t ys)) value2).value1
        ↔ t ∈ written ∨ xs.length ≠ ys.length) := by
  refine ⟨fun m n hne => ?_, fun xs ys => ?_, ?_⟩
  · exact keptApart_number_iff nj field operator member other hne
  · exact not_keptApart_array nj field operator member other xs ys
  · intro t ht xs ys op value2 hx hy hne
    rw [← listText_ne_iff ht hx hy hne]
    show some (Obj.string (listText t xs)) ≠ some (.string (listText t ys))
      ↔ _
    rw [ne_eq, Option.some.injEq, Obj.string.injEq]

/-- A deserialiser for inputs without strings and fractions. -/
private def bareNewtonsoft : Newtonsoft where
  parseDate _ := none
  parseDouble _ := 0

/-- The equivalences at `1` and `2`, at two arrays, and at the lists `[1]`
and `[2]` of `int`. -/
theorem values_kept_apart_one_two :
    (KeptApart bareNewtonsoft (str "age") none .value1 none
        (.number (.integer 1)) (.number (.integer 2))
      ↔ IsInt64 (.integer 1) ∧ IsInt64 (.integer 2))
    ∧ ¬ KeptApart bareNewtonsoft (str "age") none .value1 none
        (.array [.number (.integer 1)]) (.array [])
    ∧ ((QueryRule.new (str "age") .in_
            (some (.list .int [(1 : Int32)])) none).value1
          ≠ (QueryRule.new (str "age") .in_
            (some (.list .int [(2 : Int32)])) none).value1
        ↔ ElemType.int ∈ written
          ∨ [(1 : Int32)].length ≠ [(2 : Int32)].length) :=
  have h := values_kept_apart_iff bareNewtonsoft (str "age") none .value1 none
  ⟨h.1 _ _ (by decide), h.2.1 _ _,
    h.2.2 .int (by decide) [(1 : Int32)] [(2 : Int32)] .in_ none
      (List.cons_ne_nil _ _) (List.cons_ne_nil _ _)
      (show [(1 : Int32)] ≠ [2] by decide)⟩

/-- Values are lost: `0.5` and `1.5`, `10^19` and `10^20`, the arrays `[1]`
and `[2]`, and the lists `[1]` and `[2]` of `ulong` all become the empty
text. -/
theorem values_lost :
    (jsonValue (.fraction 5 (-1)) ≠ jsonValue (.fraction 15 (-1))
      ∧ ¬ KeptApart bareNewtonsoft (str "age") none .value1 none
        (.number (.fraction 5 (-1))) (.number (.fraction 15 (-1))))
    ∧ (jsonValue (.integer (10 ^ 19)) ≠ jsonValue (.integer (10 ^ 20))
      ∧ ¬ KeptApart bareNewtonsoft (str "age") none .value1 none
        (.number (.integer (10 ^ 19))) (.number (.integer (10 ^ 20))))
    ∧ ¬ KeptApart bareNewtonsoft (str "age") none .value1 none
        (.array [.number (.integer 1)]) (.array [.number (.integer 2)])
    ∧ ((QueryRule.new (str "age") .in_
          (some (.list .ulong [(1 : UInt64)])) none).value1
        = some (.string [])
      ∧ (QueryRule.new (str "age") .in_
          (some (.list .ulong [(2 : UInt64)])) none).value1
        = some (.string [])) := by
  refine ⟨⟨by norm_num [jsonValue], fun h => ?_⟩,
    ⟨by norm_num [jsonValue], fun h => ?_⟩,
    not_keptApart_array _ _ _ _ _ _ _, rfl, rfl⟩
  · exact ((keptApart_number_iff _ _ _ _ _
      (by norm_num [jsonValue])).mp h).1
  · have hint := ((keptApart_number_iff _ _ _ _ _
      (by norm_num [jsonValue])).mp h).1
    exact absurd hint.2 (by decide)

end SkillBuddy
