/-
The sort order of a query, read off its ORDER rows.

# Positions as texts

The rows keep the position of an entry as ten digits in Value2. Every
position of a list that an `Int32` can index has at most ten, so the texts
have one length, and their ordinal order is that of the positions
(`padZero_lt_iff`): of two numerals of one length the smaller number is
the smaller text, a law of the library for any letters that stand for
digits in their order. Null entries leave a gap in the positions and
nothing else, so the texts still grow along the rows
(`pairwise_orderRows`).

# The rows

Only the order entries have ORDER rows (`orderRowsOf_queryBuilderRows`),
one for each entry that is not null. Since their Value2 texts are distinct
and grow, the rows have one order by Value2 only. So however the table
stores its rows, sorting by Value2 gives the entries back in the order of
`OrderBy` (`sortOrder_survives`).

What is read off a row is the field and the text of the direction. The two
directions have different texts (`orderTypeText_inj`), so these two
determine the entry, but for a null field, which is read as an empty one.
-/
import SkillBuddy.Lib.SortKey
import SkillBuddy.Proofs.RowOrder
import SkillBuddy.Proofs.Rows

namespace SkillBuddy

open DotNet DataHelper
open Lib.SortKey (Digits sortBy sortBy_eq_of_perm nodup_map_of_pairwise_lt)

-- ====================================================== padded positions

/-- The decimal digits among the code units. -/
def decimalDigits : Digits CodeUnit 10 where
  isDigit u := 48 ≤ u.toNat ∧ u.toNat ≤ 57
  digit u := u.toNat - 48
  digit_lt := by
    intro u hu
    omega
  lt_iff := by
    intro u v hu hv
    rw [UInt16.lt_iff_toNat_lt]
    omega
  eq_of_digit_eq := by
    intro u v hu hv h
    apply UInt16.toNat_inj.mp
    omega

/-- A decimal text is the numeral of its number. -/
theorem value_natText (n : Nat) : decimalDigits.value (natText n) = n := by
  have hfold : decimalDigits.value (natText n)
      = Nat.ofDigitChars 10 (Nat.toDigits 10 n) 0 := by
    rw [Nat.ofDigitChars_eq_foldl, Digits.value, natText, List.foldl_map]
    refine List.foldl_ext _ _ 0 ?_
    intro sofar c hc
    have hu := mem_natText (List.mem_map_of_mem (f := unit) hc)
    have hdigit := Nat.isDigit_of_mem_toDigits (by decide) (by decide) hc
    simp only [Char.isDigit, Bool.and_eq_true, decide_eq_true_eq] at hdigit
    have hc57 : c.toNat ≤ 57 := hdigit.2
    show 10 * sofar + ((unit c).toNat - 48) = _
    rw [unit, UInt16.toNat_ofNat', Nat.mod_eq_of_lt (by omega)]
    rfl
  rw [hfold, Nat.ofDigitChars_ten_toDigits]

/-- Zeros in front leave the number as it is; they only make the text as
long as the others. -/
theorem value_padZero (width : Nat) (text : Str) :
    decimalDigits.value (padZero width text) = decimalDigits.value text := by
  have hzeros : ∀ k, decimalDigits.value
      (List.replicate k (unit '0') ++ text) = decimalDigits.value text := by
    intro k
    induction k with
    | zero => rfl
    | succ k ih =>
        rw [List.replicate_succ, List.cons_append, Digits.value_cons, ih]
        exact Nat.zero_add _
  exact hzeros _

/-- Letters of a padded decimal text are digits. -/
theorem isNumeral_padZero (width n : Nat) :
    decimalDigits.IsNumeral (padZero width (natText n)) := by
  intro u hu
  rcases List.mem_append.mp hu with hu | hu
  · rw [List.eq_of_mem_replicate hu]
    exact ⟨by decide, by decide⟩
  · exact mem_natText hu

/-- Ten places hold every number below ten to the ten. -/
theorem length_padZero {width n : Nat} (hwidth : 0 < width)
    (hn : n < 10 ^ width) : (padZero width (natText n)).length = width := by
  have hlength : (natText n).length ≤ width := by
    rw [natText, List.length_map]
    exact (Nat.length_toDigits_le_iff (by decide) hwidth).mpr hn
  rw [padZero, List.length_append, List.length_replicate]
  omega

/-- The ordinal order of padded positions is the order of the
positions. -/
theorem padZero_lt_iff {width m n : Nat} (hwidth : 0 < width)
    (hm : m < 10 ^ width) (hn : n < 10 ^ width) :
    padZero width (natText m) < padZero width (natText n) ↔ m < n := by
  have hlength := (length_padZero hwidth hm).trans
    (length_padZero hwidth hn).symm
  rw [decimalDigits.lt_iff_value_lt hlength (isNumeral_padZero width m)
    (isNumeral_padZero width n), value_padZero, value_padZero,
    value_natText, value_natText]

-- ============================================================ ORDER rows

variable {toString : Obj → Str}

/-- The ORDER rows of a table. -/
def orderRowsOf (rows : List DataRow) : List DataRow :=
  rows.filter fun row => row.type = .order

/-- A row's Value2 as text. -/
def value2Text (row : DataRow) : Str := row.value2.getD []

/-- The non-null entries of a query's order. -/
def QueryBuilder.orderEntries (queryBuilder : QueryBuilder Obj) :
    List QueryOrder :=
  (queryBuilder.orderBy.getD []).filterMap id

/-- No rule has an ORDER row: a comparison has a RULE row, and a group has
CONDITION and RULE rows. -/
theorem type_ne_order_of_mem_ruleRows (r : QueryRule Obj) :
    ∀ level, ∀ row ∈ ruleRows toString level r, row.type ≠ .order := by
  induction r using QueryRule.induct with
  | step r ih =>
      intro level row hrow
      cases hc : r.condition with
      | none =>
          rw [ruleRows_leaf toString level hc] at hrow
          rw [List.mem_singleton.mp hrow]
          exact RowType.noConfusion
      | some condition =>
          rw [ruleRows_cons toString level hc] at hrow
          rcases List.mem_cons.mp hrow with rfl | hrow
          · exact RowType.noConfusion
          · rw [rulesRows_eq] at hrow
            obtain ⟨q, hq, hrow⟩ := List.mem_flatMap.mp hrow
            obtain ⟨entry, hentry, rfl⟩ := List.mem_filterMap.mp hq
            exact ih q hentry _ row hrow

/-- Only the order entries have ORDER rows. The other parts have rows of
types of their own. -/
theorem type_ne_order_of_mem_partRows {queryBuilder : QueryBuilder Obj}
    {k : Part} (hk : k ≠ .order) {row : DataRow}
    (h : row ∈ partRows toString queryBuilder k) : row.type ≠ .order := by
  cases k with
  | order => exact absurd rfl hk
  | rules =>
      rw [partRows, rulesRows_eq] at h
      obtain ⟨q, -, hrow⟩ := List.mem_flatMap.mp h
      exact type_ne_order_of_mem_ruleRows q none row hrow
  | condition =>
      obtain ⟨c, -, hrow⟩ := exists_mem_of_mem_getD h
      rw [List.mem_singleton.mp hrow]
      exact RowType.noConfusion
  | not =>
      rw [partRows] at h
      split at h
      · rw [List.mem_singleton.mp h]
        exact RowType.noConfusion
      · exact absurd h List.not_mem_nil
  | count | offset =>
      obtain ⟨n, -, hrow⟩ := exists_mem_of_mem_getD h
      rw [List.mem_singleton.mp hrow]
      exact RowType.noConfusion
  | page =>
      obtain ⟨n, -, hrow⟩ := exists_mem_of_mem_getD h
      rcases List.mem_cons.mp hrow with rfl | hrow
      · exact RowType.noConfusion
      · rw [List.mem_singleton.mp hrow]
        exact RowType.noConfusion

/-- The ORDER rows of a query are those of its order entries. -/
theorem orderRowsOf_queryBuilderRows (queryBuilder : QueryBuilder Obj) :
    orderRowsOf (queryBuilderRows toString queryBuilder none)
      = orderRows none 0 (queryBuilder.orderBy.getD []) := by
  have hother : ∀ k, k ≠ Part.order →
      orderRowsOf (partRows toString queryBuilder k) = [] := by
    intro k hk
    apply List.filter_eq_nil_iff.mpr
    intro row hrow
    rw [decide_eq_true_eq]
    exact type_ne_order_of_mem_partRows hk hrow
  have horder : orderRowsOf (partRows toString queryBuilder .order)
      = orderRows none 0 (queryBuilder.orderBy.getD []) := by
    apply List.filter_eq_self.mpr
    intro row hrow
    obtain ⟨j, o, rfl⟩ := mem_orderRows hrow
    exact decide_eq_true rfl
  have happend : ∀ rows rows', orderRowsOf (rows ++ rows')
      = orderRowsOf rows ++ orderRowsOf rows' :=
    List.filter_append
  rw [queryBuilderRows_eq_parts]
  simp only [List.flatMap_cons, List.flatMap_nil, happend, horder,
    hother .condition (by decide), hother .not (by decide),
    hother .count (by decide), hother .offset (by decide),
    hother .page (by decide), hother .rules (by decide), List.nil_append,
    List.append_nil]

/-- Positions grow along the rows, so Value2 does. A null entry takes a
position without a row. -/
theorem pairwise_orderRows (orders : List (Option QueryOrder)) :
    ∀ i, i + orders.length ≤ 10 ^ 10 →
      (orderRows none i orders).Pairwise
          (fun row row' => value2Text row < value2Text row')
        ∧ ∀ row ∈ orderRows none i orders, ∃ j, i ≤ j ∧ j < 10 ^ 10
          ∧ value2Text row = padZero 10 (natText j) := by
  induction orders with
  | nil =>
      intro i _
      exact ⟨List.Pairwise.nil, fun row h => absurd h List.not_mem_nil⟩
  | cons entry orders ih =>
      intro i hi
      rw [List.length_cons] at hi
      obtain ⟨hrows, hkeys⟩ := ih (i + 1) (by omega)
      have hlater : ∀ row ∈ orderRows none (i + 1) orders, ∃ j, i < j
          ∧ j < 10 ^ 10 ∧ value2Text row = padZero 10 (natText j) := hkeys
      cases entry with
      | none =>
          refine ⟨hrows, ?_⟩
          intro row hrow
          obtain ⟨j, hij, hj, hkey⟩ := hlater row hrow
          exact ⟨j, Nat.le_of_lt hij, hj, hkey⟩
      | some order =>
          constructor
          · refine List.Pairwise.cons ?_ hrows
            intro row hrow
            obtain ⟨j, hij, hj, hkey⟩ := hlater row hrow
            rw [hkey]
            exact (padZero_lt_iff (by decide) (by omega) hj).mpr hij
          · intro row hrow
            rcases List.mem_cons.mp hrow with rfl | hrow
            · exact ⟨i, Nat.le_refl i, by omega, rfl⟩
            · obtain ⟨j, hij, hj, hkey⟩ := hlater row hrow
              exact ⟨j, Nat.le_of_lt hij, hj, hkey⟩

/-- `QueryBuilderToDataTable` appends one ORDER row for each non-null order
entry, with different Value2 texts; sorted by them, in whatever order the
table stores the rows, they list the entries in their order, field and
direction. The direction is shown by its text, which determines it
(`orderTypeText_inj`). -/
theorem sortOrder_survives (toString : Obj → Str)
    (queryBuilder : QueryBuilder Obj) (table : DataTable)
    (hlength : (queryBuilder.orderBy.getD []).length ≤ 2 ^ 31 - 1) :
    ∃ rows, queryBuilderToDataTable toString queryBuilder (some table) none
        = .ok (some ⟨true, table.rows ++ rows⟩)
      ∧ (orderRowsOf rows).length = queryBuilder.orderEntries.length
      ∧ ((orderRowsOf rows).map value2Text).Nodup
      ∧ ∀ stored, stored.Perm rows →
          (sortBy value2Text (orderRowsOf stored)).map
              (fun row => (row.field, row.condition))
            = queryBuilder.orderEntries.map fun order =>
                (order.field.getD [], some (orderTypeText order.type)) := by
  refine ⟨queryBuilderRows toString queryBuilder none,
    queryBuilderToDataTable_some toString queryBuilder table none, ?_⟩
  have hshown := map_orderRows (queryBuilder.orderBy.getD []) 0
  obtain ⟨hrows, -⟩ := pairwise_orderRows (queryBuilder.orderBy.getD []) 0
    (by omega)
  have horder := @orderRowsOf_queryBuilderRows toString queryBuilder
  refine ⟨?_, ?_, ?_⟩
  · rw [horder]
    have hcount := congrArg List.length hshown
    rwa [List.length_map, List.length_map] at hcount
  · rw [horder]
    exact nodup_map_of_pairwise_lt hrows
  · intro stored hstored
    have hperm : (orderRowsOf stored).Perm
        (orderRows none 0 (queryBuilder.orderBy.getD [])) := by
      rw [← horder]
      exact hstored.filter _
    rw [sortBy_eq_of_perm hrows hperm]
    exact hshown

/-- By level, then by name, with a null entry between them. -/
private def byLevelAndName : QueryBuilder Obj where
  orderBy := some [some ⟨some (str "Level"), .desc⟩, none,
    some ⟨some (str "Name"), .asc⟩]

theorem sortOrder_survives_gap :
    ∃ rows, queryBuilderToDataTable (fun _ => []) byLevelAndName (some {})
        none = .ok (some ⟨true, [] ++ rows⟩)
      ∧ (orderRowsOf rows).length = byLevelAndName.orderEntries.length
      ∧ ((orderRowsOf rows).map value2Text).Nodup
      ∧ ∀ stored, stored.Perm rows →
          (sortBy value2Text (orderRowsOf stored)).map
              (fun row => (row.field, row.condition))
            = byLevelAndName.orderEntries.map fun order =>
                (order.field.getD [], some (orderTypeText order.type)) :=
  sortOrder_survives _ byLevelAndName {} (by decide)

end SkillBuddy
