/-
Clones of queries.

# Whether there is one

A clone is the query written as JSON and read again, and the reader does
not read what is nested deeper than its `MaxDepth`. Each level of rules
takes two of the 64 (`depth_nested`), so a comparison inside thirty groups
has a clone and one inside thirty-one makes `Clone` throw
(`clone_nested_iff`). `clone_eq` is the exact rule, by the depth of the
document the query is written as.

# What it is

The tree comes back as it was: reading fills in what writing has listed,
rule by rule (`fillAll_fillAll`). What may change are the values, since
Newtonsoft.Json takes some strings for dates. The rows of a query and
those of its clone have the same length, rule by rule, so they are equal
exactly if every comparison the table shows keeps the texts of its values
(`rulesRows_fillAll_iff`); which comparisons those are is the traversal of
the table (`visits`). For values that are null or strings this comes to a
condition on the strings alone (`clone_keeps_rows_iff`).

A filter that `FromJson` has returned is flat and its values are rendered
texts, none of which looks like a date. So it is three levels deep at
most, and its own clone (`clone_of_fromJson`).
-/
import SkillBuddy.Proofs.Rows
import SkillBuddy.Proofs.Reload
import SkillBuddy.Proofs.RowOrder
import SkillBuddy.Proofs.Traversals

namespace SkillBuddy

open DotNet DataHelper

variable {U V W : Type}

-- ========================================================= values in a tree

theorem fillAll_eq_map (f : V → Option W)
    (rules : List (Option (QueryRule V))) :
    fillAll f rules = rules.map (Option.map (QueryRule.fill f)) := by
  induction rules with
  | nil => rfl
  | cons entry rules ih =>
      rw [fillAll, ih]
      cases entry <;> rfl

theorem QueryRule.fill_eq (f : V → Option W) (r : QueryRule V) :
    r.fill f
      = { field := r.field
          operator := r.operator
          value1 := r.value1.bind f
          value2 := r.value2.bind f
          rules := r.rules.map (fillAll f)
          condition := r.condition } := by
  obtain ⟨field, operator, value1, value2, rules, condition⟩ := r
  cases rules <;> rfl

/-- Values that are changed twice are changed once. -/
theorem fillAll_fillAll_of {f : V → Option W} {g : U → Option V}
    {rules : List (Option (QueryRule U))}
    (h : ∀ r, some r ∈ rules →
      (r.fill g).fill f = r.fill fun value => (g value).bind f) :
    fillAll f (fillAll g rules)
      = fillAll (fun value => (g value).bind f) rules := by
  rw [fillAll_eq_map, fillAll_eq_map, fillAll_eq_map, List.map_map]
  refine List.map_congr_left fun entry hentry => ?_
  cases entry with
  | none => rfl
  | some r => exact congrArg some (h r hentry)

theorem fill_fill (f : V → Option W) (g : U → Option V) (r : QueryRule U) :
    (r.fill g).fill f = r.fill fun value => (g value).bind f := by
  induction r using QueryRule.induct with
  | step r ih =>
      have hrules : (r.rules.map (fillAll g)).map (fillAll f)
          = r.rules.map (fillAll fun value => (g value).bind f) := by
        cases hr : r.rules with
        | none => rfl
        | some rules =>
            rw [hr] at ih
            exact congrArg some (fillAll_fillAll_of ih)
      rw [QueryRule.fill_eq, QueryRule.fill_eq g, QueryRule.fill_eq _ r]
      dsimp only
      rw [hrules, Option.bind_assoc, Option.bind_assoc]

theorem fillAll_fillAll (f : V → Option W) (g : U → Option V)
    (rules : List (Option (QueryRule U))) :
    fillAll f (fillAll g rules)
      = fillAll (fun value => (g value).bind f) rules :=
  fillAll_fillAll_of fun r _ => fill_fill f g r

-- =============================================================== their rows

variable {toString : Obj → Str} {f : Obj → Option Obj}

/-- The values of a comparison keep their texts; those of a null test are
not shown. -/
def KeepsTexts (toString : Obj → Str) (f : Obj → Option Obj)
    (r : QueryRule Obj) : Prop :=
  r.operator ≠ some .isNull → r.operator ≠ some .isNotNull →
    (r.value1.bind f).map (cellText toString)
        = r.value1.map (cellText toString)
      ∧ (r.value2.bind f).map (cellText toString)
        = r.value2.map (cellText toString)

theorem ruleRow_bind_iff (level : Option Int) (r : QueryRule Obj) :
    ruleRow toString level r.field r.operator (r.value1.bind f)
          (r.value2.bind f)
        = ruleRow toString level r.field r.operator r.value1 r.value2
      ↔ KeepsTexts toString f r := by
  obtain ⟨field, operator, value1, value2, rules, condition⟩ := r
  unfold ruleRow KeepsTexts
  cases operator with
  | none => simp
  | some operator => cases operator <;> simp

/-- The rows of a list, given their number for each rule. -/
theorem length_rulesRows_of {rules : List (Option (QueryRule Obj))}
    {level : Option Int}
    (h : ∀ r, some r ∈ rules →
      (ruleRows toString level (r.fill f)).length
        = (ruleRows toString level r).length) :
    (rulesRows toString level (fillAll f rules)).length
      = (rulesRows toString level rules).length := by
  induction rules with
  | nil => rfl
  | cons entry rules ih =>
      have hrest := ih fun r hr => h r (List.mem_cons_of_mem entry hr)
      rw [fillAll, rulesRows, rulesRows, List.length_append,
        List.length_append, hrest]
      cases entry with
      | none => rfl
      | some r =>
          rw [fillEntry, entryRows, entryRows, h r List.mem_cons_self]

theorem getD_map_fillAll (rules : Option (List (Option (QueryRule V))))
    (g : V → Option W) :
    (rules.map (fillAll g)).getD [] = fillAll g (rules.getD []) := by
  cases rules <;> rfl

/-- Changing values changes no number of rows. -/
theorem length_ruleRows_fill (r : QueryRule Obj) :
    ∀ level, (ruleRows toString level (r.fill f)).length
      = (ruleRows toString level r).length := by
  induction r using QueryRule.induct with
  | step r ih =>
      intro level
      rw [QueryRule.fill_eq]
      cases hcondition : r.condition with
      | none =>
          rw [ruleRows_leaf toString level rfl,
            ruleRows_leaf toString level hcondition]
          rfl
      | some condition =>
          rw [ruleRows_cons toString level rfl,
            ruleRows_cons toString level hcondition, List.length_cons,
            List.length_cons, getD_map_fillAll]
          rw [length_rulesRows_of fun q hq => ih q hq _]

/-- The comparisons a list of rules shows keep their texts. -/
def ShownKeepTexts (toString : Obj → Str) (f : Obj → Option Obj)
    (rules : List (Option (QueryRule Obj))) : Prop :=
  ∀ q, some (true, q) ∈ visits true rules → q.condition = none →
    KeepsTexts toString f q

/-- The rows of a list are kept, given when those of its rules are. -/
theorem rulesRows_fillAll_iff_of {rules : List (Option (QueryRule Obj))}
    {level : Option Int}
    (h : ∀ r, some r ∈ rules →
      (ruleRows toString level (r.fill f) = ruleRows toString level r
        ↔ ∀ q, some (true, q) ∈ r.visits true → q.condition = none →
          KeepsTexts toString f q)) :
    rulesRows toString level (fillAll f rules)
        = rulesRows toString level rules
      ↔ ShownKeepTexts toString f rules := by
  unfold ShownKeepTexts
  induction rules with
  | nil => exact iff_of_true rfl fun q hq => absurd hq List.not_mem_nil
  | cons entry rules ih =>
      have hrest := ih fun r hr => h r (List.mem_cons_of_mem entry hr)
      rw [fillAll, rulesRows, rulesRows]
      cases entry with
      | none =>
          rw [visits_cons_none]
          show rulesRows toString level (fillAll f rules) = _ ↔ _
          refine hrest.trans (forall_congr' fun q => ?_)
          have hnull : ¬some (true, q) = none := Option.some_ne_none _
          rw [List.mem_cons, or_iff_right hnull]
      | some r =>
          rw [visits_cons_some, ← List.cons_append, ← QueryRule.visits_eq,
            fillEntry, entryRows, entryRows]
          have hsplit : ruleRows toString level (r.fill f)
                ++ rulesRows toString level (fillAll f rules)
              = ruleRows toString level r ++ rulesRows toString level rules
              ↔ ruleRows toString level (r.fill f)
                  = ruleRows toString level r
                ∧ rulesRows toString level (fillAll f rules)
                  = rulesRows toString level rules := by
            constructor
            · exact fun heq =>
                List.append_inj heq (length_ruleRows_fill r level)
            · exact fun heq => by rw [heq.1, heq.2]
          rw [hsplit, h r List.mem_cons_self, hrest, ← forall_and]
          refine forall_congr' fun q => ?_
          rw [List.mem_append, or_imp]

theorem ruleRows_fill_iff (r : QueryRule Obj) :
    ∀ level,
      ruleRows toString level (r.fill f) = ruleRows toString level r
        ↔ ∀ q, some (true, q) ∈ r.visits true → q.condition = none →
          KeepsTexts toString f q := by
  induction r using QueryRule.induct with
  | step r ih =>
      intro level
      rw [QueryRule.fill_eq, QueryRule.visits_eq]
      cases hcondition : r.condition with
      | none =>
          -- the table does not go below a comparison
          have hbelow : ∀ q,
              some (true, q) ∈ visits false (r.rules.getD []) →
              q.condition = none → False := by
            intro q hq hnone
            have hshown := List.filterMap_eq_nil_iff.mp
              (filterMap_shown_below (r.rules.getD [])) _ hq
            rw [shown_comparison ⟨rfl, hnone⟩] at hshown
            cases hshown
          rw [ruleRows_leaf toString level rfl,
            ruleRows_leaf toString level hcondition, List.singleton_inj]
          refine (ruleRow_bind_iff level r).trans ?_
          constructor
          · intro hkeeps q hq hnone
            rcases List.mem_cons.mp hq with heq | hq
            · cases heq
              exact hkeeps
            · exact (hbelow q hq hnone).elim
          · intro hkeeps
            exact hkeeps r List.mem_cons_self hcondition
      | some condition =>
          rw [ruleRows_cons toString level rfl,
            ruleRows_cons toString level hcondition, List.cons_inj_right,
            getD_map_fillAll,
            rulesRows_fillAll_iff_of fun q hq => ih q hq _]
          refine forall_congr' fun q => ?_
          rw [List.mem_cons]
          constructor
          · intro hkeeps hq hnone
            rcases hq with heq | hq
            · cases heq
              rw [hcondition] at hnone
              cases hnone
            · exact hkeeps hq hnone
          · exact fun hkeeps hq => hkeeps (Or.inr hq)

/-- The rows are kept exactly if the texts of the values are that they
show. -/
theorem rulesRows_fillAll_iff (level : Option Int)
    (rules : List (Option (QueryRule Obj))) :
    rulesRows toString level (fillAll f rules)
        = rulesRows toString level rules
      ↔ ShownKeepTexts toString f rules :=
  rulesRows_fillAll_iff_of fun r _ => ruleRows_fill_iff r level

-- =================================================================== clones

/-- A value that is written and read again. -/
def reread (nj : Newtonsoft) (write : Obj → Json Str) (value : Obj) :
    Option Obj :=
  nj.received (write value)

/-- A query has a clone if what it is written as can be read. -/
theorem clone_eq (nj : Newtonsoft) (write : Obj → Json Str)
    (qb : QueryBuilder Obj) :
    DateTimeExtension.clone nj write (some qb)
      = if (serializeObject write qb).depth ≤ maxDepth then
          .ok (some
            { qb with
              rules :=
                some (fillAll (reread nj write) (qb.rules.getD [])) })
        else .error .json := by
  have hrules : fillAll nj.received
      ((fillRules (fun value => some (write value)) qb.rules).getD [])
      = fillAll (reread nj write) (qb.rules.getD []) := by
    cases qb.rules with
    | none => rfl
    | some rules => exact fillAll_fillAll _ _ _
  unfold DateTimeExtension.clone readObject
  dsimp only
  rw [← hrules]
  rfl

theorem exists_clone_iff (nj : Newtonsoft) (write : Obj → Json Str)
    (qb : QueryBuilder Obj) :
    (∃ copy, DateTimeExtension.clone nj write (some qb) = .ok (some copy))
      ↔ (serializeObject write qb).depth ≤ maxDepth := by
  rw [clone_eq]
  constructor
  · rintro ⟨copy, hcopy⟩
    split at hcopy
    · assumption
    · cases hcopy
  · intro hdepth
    rw [if_pos hdepth]
    exact ⟨_, rfl⟩

-- ==================================================================== depth

/-- Entries of one level make a list of two. -/
theorem depthEntries_le {entries : List (Option Nat)}
    (h : ∀ entry ∈ entries, entry.getD 0 ≤ 1) :
    depthEntries entries ≤ 2 := by
  induction entries with
  | nil => exact Nat.le_succ 1
  | cons entry entries ih =>
      rw [List.forall_mem_cons] at h
      have hrest := ih h.2
      have hentry := h.1
      rw [depthEntries]
      omega

theorem QueryRule.depth_eq (r : QueryRule (Json Str)) :
    r.depth = 1 + max (max (depthValue r.value1) (depthValue r.value2))
      (depthList (r.rules.map fun rules =>
        rules.map (Option.map QueryRule.depth))) :=
  QueryRule.fold_eq _ r

/-- `field = value` for every value null, inside `n` groups. -/
def nested (field : Str) : Nat → QueryRule Obj
  | 0 => ⟨some field, some .isNull, none, none, none, none⟩
  | n + 1 => ⟨none, none, none, none, some [some (nested field n)],
      some .and⟩

/-- Each group takes two levels. -/
theorem depth_nested (write : Obj → Json Str) (field : Str) (n : Nat) :
    ((nested field n).fill fun value => some (write value)).depth
      = 2 * n + 1 := by
  induction n with
  | zero => rfl
  | succ n ih =>
      rw [QueryRule.depth_eq]
      show 1 + max (max 0 0) (depthEntries [some
        ((nested field n).fill fun value => some (write value)).depth]) = _
      rw [ih, depthEntries, depthEntries, Option.getD_some]
      omega

/-- A comparison has a clone inside up to thirty groups, and no more. -/
theorem clone_nested_iff (nj : Newtonsoft) (write : Obj → Json Str)
    (field : Str) (n : Nat) :
    (∃ copy, DateTimeExtension.clone nj write
        (some { rules := some [some (nested field n)] }) = .ok (some copy))
      ↔ n ≤ 30 := by
  rw [exists_clone_iff]
  show 1 + max (depthEntries [some ((nested field n).fill fun value =>
    some (write value)).depth]) 0 ≤ 64 ↔ _
  rw [depth_nested, depthEntries, depthEntries, Option.getD_some]
  omega

section
variable {nj : Newtonsoft} {write : Obj → Json Str}
  (hwrite : ∀ text, write (.string text) = .string text)
include hwrite

/-- A string comes back as a string, or as the date it is taken for. -/
theorem reread_string (text : Str) :
    reread nj write (.string text)
      = some ((nj.parseDate text).elim (.string text) .dateTime) := by
  unfold reread
  rw [hwrite, Newtonsoft.received]
  cases nj.parseDate text <;> rfl

/-- A null or a string keeps its text if it is not a date, or one that is
written as it was. -/
theorem map_cellText_reread_iff {value : Option Obj} (h : PlainValue value) :
    (value.bind (reread nj write)).map (cellText toString)
        = value.map (cellText toString)
      ↔ ∀ text date, value = some (.string text) →
          nj.parseDate text = some date →
          toString (.dateTime date) = text := by
  unfold PlainValue at h
  split at h
  · exact iff_of_true rfl nofun
  · next text =>
      rw [Option.bind_some, reread_string hwrite, Option.map_some,
        Option.map_some, Option.some.injEq]
      constructor
      · intro hkeeps text' date heq hdate
        cases heq
        rw [hdate] at hkeeps
        exact hkeeps
      · intro hall
        cases hdate : nj.parseDate text with
        | none => rfl
        | some date => exact hall text date rfl hdate
  · exact h.elim

/-- The values a table shows of a query are null or strings. -/
def ShowsPlain (qb : QueryBuilder Obj) : Prop :=
  ∀ r, some (true, r) ∈ visits true (qb.rules.getD []) →
    r.condition = none → PlainValue r.value1 ∧ PlainValue r.value2

/-- A query has a clone exactly if the document it is written as is no
deeper than the reader's `MaxDepth`. The clone has the rows of the query
exactly if each text that they show as a value of a comparison, and that
Newtonsoft.Json takes for a date, is how this date is written. -/
theorem clone_keeps_rows_iff (toString : Obj → Str) {qb : QueryBuilder Obj}
    (hqb : ShowsPlain qb) (level : Option Int) :
    ((∃ copy, DateTimeExtension.clone nj write (some qb)
        = .ok (some copy))
      ↔ (serializeObject write qb).depth ≤ maxDepth)
    ∧ ∀ copy, DateTimeExtension.clone nj write (some qb) = .ok (some copy) →
      (queryBuilderRows toString copy level
          = queryBuilderRows toString qb level
        ↔ ∀ r, some (true, r) ∈ visits true (qb.rules.getD []) →
          r.condition = none → r.operator ≠ some .isNull →
          r.operator ≠ some .isNotNull →
          ∀ text date, some (.string text) ∈ [r.value1, r.value2] →
            nj.parseDate text = some date →
            toString (.dateTime date) = text) := by
  refine ⟨exists_clone_iff nj write qb, ?_⟩
  intro copy hcopy
  have hdepth := (exists_clone_iff nj write qb).mp ⟨copy, hcopy⟩
  rw [clone_eq, if_pos hdepth] at hcopy
  obtain rfl := Option.some.inj (Except.ok.inj hcopy)
  unfold queryBuilderRows
  -- the rows of the root's own members are the same
  refine (List.append_right_inj _).trans ?_
  refine (rulesRows_fillAll_iff level (qb.rules.getD [])).trans ?_
  unfold ShownKeepTexts KeepsTexts
  refine forall_congr' fun r => forall_congr' fun hr =>
    forall_congr' fun hcondition => forall_congr' fun _ =>
      forall_congr' fun _ => ?_
  obtain ⟨hplain1, hplain2⟩ := hqb r hr hcondition
  rw [map_cellText_reread_iff hwrite hplain1,
    map_cellText_reread_iff hwrite hplain2]
  constructor
  · intro hkeeps text date hmem hdate
    rcases List.mem_cons.mp hmem with h | h
    · exact hkeeps.1 text date h.symm hdate
    · exact hkeeps.2 text date (List.mem_singleton.mp h).symm hdate
  · intro hkeeps
    constructor
    · intro text date h hdate
      exact hkeeps text date (h ▸ List.mem_cons_self) hdate
    · intro text date h hdate
      exact hkeeps text date
        (List.mem_cons_of_mem _ (List.mem_singleton.mpr h.symm)) hdate

/-- A rendered value comes back as it was. -/
theorem bind_reread_of_rendered
    (hdates : ∀ text date, nj.parseDate text = some date → DateShaped text)
    {value : Option Obj} (h : RenderedValue value) :
    value.bind (reread nj write) = value := by
  cases value with
  | none => rfl
  | some value =>
      obtain ⟨source, rfl⟩ := h value rfl
      have hnone :
          nj.parseDate (Helper.getQuotedDbString source) = none := by
        cases hdate : nj.parseDate (Helper.getQuotedDbString source) with
        | none => rfl
        | some date =>
            exact absurd (hdates _ date hdate)
              (not_dateShaped_getQuotedDbString source)
      rw [Option.bind_some, reread_string hwrite, hnone]
      rfl

/-- What a rendered value is written as has no depth. -/
theorem depthValue_of_rendered {value : Option Obj}
    (h : RenderedValue value) :
    depthValue (value.bind fun v => some (write v)) = 0 := by
  cases value with
  | none => rfl
  | some value =>
      obtain ⟨source, rfl⟩ := h value rfl
      show (write _).depth = 0
      rw [hwrite, Json.depth]

/-- A filter of rendered rules is three levels deep at most. -/
theorem depth_of_rendered {qb : QueryBuilder Obj}
    {rules : List (QueryRule Obj)} (hrules : qb.rules = some (rules.map some))
    (h : ∀ r ∈ rules, Rendered r) :
    (serializeObject write qb).depth ≤ 3 := by
  have hrule : ∀ r ∈ rules,
      (r.fill fun value => some (write value)).depth ≤ 1 := by
    intro r hr
    have hr := h r hr
    rw [QueryRule.fill_eq, QueryRule.depth_eq]
    dsimp only
    rw [depthValue_of_rendered hwrite hr.value1,
      depthValue_of_rendered hwrite hr.value2, hr.rules]
    exact Nat.le_refl 1
  have hlist : depthEntries
      ((fillAll (fun value => some (write value)) (rules.map some)).map
        (Option.map QueryRule.depth)) ≤ 2 := by
    apply depthEntries_le
    rw [fillAll_eq_map, List.map_map, List.map_map]
    intro entry hentry
    obtain ⟨r, hr, rfl⟩ := List.mem_map.mp hentry
    exact hrule r hr
  have horders : depthList (qb.orderBy.map fun orders =>
      orders.map (Option.map fun _ => 1)) ≤ 2 := by
    cases qb.orderBy with
    | none => exact Nat.zero_le 2
    | some orders =>
        apply depthEntries_le
        intro entry hentry
        obtain ⟨order, -, rfl⟩ := List.mem_map.mp hentry
        cases order
        · exact Nat.zero_le 1
        · exact Nat.le_refl 1
  unfold QueryBuilder.depth serializeObject
  dsimp only
  rw [hrules]
  have hmax := Nat.max_le.mpr ⟨hlist, horders⟩
  exact Nat.add_le_add_left hmax 1

/-- A normalised filter is its own clone. -/
theorem clone_of_fromJson
    (hdates : ∀ text date, nj.parseDate text = some date → DateShaped text)
    {json : Option (QueryBuilder (Json Str))} {qb : QueryBuilder Obj}
    (h : fromJson nj json = .ok qb) :
    DateTimeExtension.clone nj write (some qb) = .ok (some qb) := by
  obtain ⟨rules, hrules, hrendered⟩ := rendered_of_fromJson h
  have hdepth : (serializeObject write qb).depth ≤ maxDepth :=
    (depth_of_rendered hwrite hrules hrendered).trans (by decide)
  have hsame : fillAll (reread nj write) (rules.map some)
      = rules.map some := by
    rw [fillAll_eq_map, List.map_map]
    refine List.map_congr_left fun r hr => ?_
    have hr := hrendered r hr
    show some (r.fill _) = some r
    rw [QueryRule.fill_eq, bind_reread_of_rendered hwrite hdates hr.value1,
      bind_reread_of_rendered hwrite hdates hr.value2, hr.rules]
    obtain ⟨field, operator, value1, value2, nested, condition⟩ := r
    obtain rfl : nested = none := hr.rules
    rfl
  rw [clone_eq, if_pos hdepth, hrules, Option.getD_some, hsame, ← hrules]

end

-- ================================================================= examples

/-- New Year of 2020. -/
private def newYear : DateTime := ⟨2020, 0, 1, 0, 0, 0, 0⟩

/-- A deserialiser that takes every text for the date, or none for one. -/
private def readsDate (date : Option DateTime) : Newtonsoft where
  parseDate _ := date
  parseDouble _ := 0

private def writesStrings : Obj → Json Str
  | .string text => .string text
  | _ => .null

/-- `since = value`. -/
private def since {V : Type} (value : V) : QueryBuilder V where
  rules := some [some ⟨some (str "since"), some .equals, some value, none,
    none, none⟩]

/-- A text that is taken for a date, and written in another way. -/
theorem clone_keeps_rows_since :
    ∃ copy, DateTimeExtension.clone (readsDate (some newYear)) writesStrings
        (some (since (.string (str "2020-01-01T00:00:00"))))
          = .ok (some copy)
      ∧ queryBuilderRows (fun _ => str "1/1/2020") copy none
        ≠ queryBuilderRows (fun _ => str "1/1/2020")
          (since (.string (str "2020-01-01T00:00:00"))) none := by
  have hplain : ShowsPlain
      (since (.string (str "2020-01-01T00:00:00"))) := by
    intro r hr _
    obtain rfl := (Prod.mk.inj (Option.some.inj
      (List.mem_singleton.mp hr))).2
    exact ⟨trivial, trivial⟩
  obtain ⟨hexists, hiff⟩ := @clone_keeps_rows_iff
    (readsDate (some newYear)) writesStrings (fun _ => rfl)
    (fun _ => str "1/1/2020") _ hplain none
  obtain ⟨copy, hcopy⟩ := hexists.mpr (by decide)
  refine ⟨copy, hcopy, fun heq => ?_⟩
  have hsame := (hiff copy hcopy).mp heq _ List.mem_cons_self rfl
    (by decide) (by decide) _ newYear List.mem_cons_self rfl
  exact absurd hsame (by decide)

theorem clone_of_fromJson_since :
    DateTimeExtension.clone (readsDate none) writesStrings
        (some (since (.string (str "'2020'"))))
      = .ok (some (since (.string (str "'2020'")))) :=
  @clone_of_fromJson (readsDate none) writesStrings (fun _ => rfl)
    (fun _ _ h => absurd h (Option.some_ne_none _).symm)
    (some (since (.string (str "2020")))) _ rfl

end SkillBuddy
