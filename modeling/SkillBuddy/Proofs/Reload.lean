/-
Saving and reloading a normalised filter.

# What comes back from `FromJson`

Whatever the document, the rules `FromJson` returns are flat, and each
value they hold is a text its constructor rendered (`Rendered`,
`rendered_of_fromJson`). The constructor renders what it is given through
`GetQuotedDbString`, except for lists, and the reader makes no lists of
what stands in a document (`noList_received`).

# What comes back from a second pass

Saved and read again, such a text comes back as a string: it is quoted, or
an integer, or empty, so Newtonsoft.Json does not take it for a date
(`not_dateShaped_getQuotedDbString`). And `ValueOf` renders a string by
quoting it. So the second pass returns the filter with every value in one
more pair of quotes and all else as it was (`fromJson_serializeObject`).
Quoting makes a text longer; hence a filter is its own normal form exactly
when its rules hold no values.

# What is assumed

Of Newtonsoft.Json two things: a string is written as itself, and a text
it takes for a date looks like one (`DateShaped`). Both are hypotheses of
the theorem.
-/
import SkillBuddy.Proofs.FromJson

namespace SkillBuddy

open DotNet

-- ========================================================= rendered values

/-- A text Newtonsoft.Json may take for a date: `/Date(...)/`, or an
ISO 8601 date, which begins with a digit and has its `T` after ten
characters. -/
def DateShaped (text : Str) : Prop :=
  text[0]? = some (unit '/')
    ∨ (∃ u, text[0]? = some u ∧ 48 ≤ u.toNat ∧ u.toNat ≤ 57)
      ∧ text[10]? = some (unit 'T')

/-- A text in quotes begins with a quote, which is neither a digit nor a
slash, -/
theorem not_dateShaped_quoted (text : Str) :
    ¬DateShaped (Helper.quoted text) := by
  intro h
  have hfirst : (Helper.quoted text)[0]? = some (unit '\'') := rfl
  unfold DateShaped at h
  rw [hfirst] at h
  rcases h with h | ⟨⟨u, hu, hlow, -⟩, -⟩
  · exact absurd (Option.some.inj h) (by decide)
  · obtain rfl := Option.some.inj hu
    exact absurd hlow (by decide)

/-- and a number has no letter in it. -/
theorem not_dateShaped_intText (i : Int) : ¬DateShaped (intText i) := by
  intro h
  rcases h with h | ⟨-, h⟩
  · rcases mem_intText (List.mem_of_getElem? h) with h | ⟨hlow, -⟩
    · exact absurd h (by decide)
    · exact absurd hlow (by decide)
  · rcases mem_intText (List.mem_of_getElem? h) with h | ⟨-, hhigh⟩
    · exact absurd h (by decide)
    · exact absurd hhigh (by decide)

/-- No text of `GetQuotedDbString` looks like a date: it is quoted, or an
integer, or empty. -/
theorem not_dateShaped_getQuotedDbString (value : Option Obj) :
    ¬DateShaped (Helper.getQuotedDbString value) := by
  have hempty : ¬DateShaped [] := by
    intro h
    rcases h with h | ⟨-, h⟩ <;> cases h
  have hdigit : ∀ b : Bool,
      ¬DateShaped (if b then str "1" else str "0") := by
    intro b
    cases b
    · exact not_dateShaped_intText 0
    · exact not_dateShaped_intText 1
  cases value with
  | none => exact hempty
  | some obj =>
      cases obj with
      | byte n => exact not_dateShaped_intText n.toNat
      | short n => exact not_dateShaped_intText _
      | int n => exact not_dateShaped_intText _
      | long n => exact not_dateShaped_intText _
      | bool b => exact hdigit b
      | char c => exact not_dateShaped_quoted _
      | string s => exact not_dateShaped_quoted _
      | guid g => exact not_dateShaped_quoted _
      | dateTime d => exact not_dateShaped_quoted _
      | enum e v => exact not_dateShaped_quoted _
      | _ => exact hempty

/-- A member is null or holds a text of `GetQuotedDbString`. -/
def RenderedValue (value : Option Obj) : Prop :=
  ∀ v, value = some v →
    ∃ source, v = .string (Helper.getQuotedDbString source)

/-- A rule as `FromJson` returns it: a comparison without nested rules,
its values rendered. -/
structure Rendered (r : QueryRule Obj) : Prop where
  field : r.field.isSome
  operator : r.operator.isSome
  value1 : RenderedValue r.value1
  value2 : RenderedValue r.value2
  rules : r.rules = none
  condition : r.condition = none

/-- No member that the deserialiser fills holds a `List<>`. -/
def NoList (value : Option Obj) : Prop := Helper.isList value = false

/-- What the reader makes of a value is null or a simple value. -/
theorem noList_received (nj : Newtonsoft) (value : Option (Json Str)) :
    NoList (value.bind nj.received) := by
  cases value with
  | none => rfl
  | some json =>
      cases json with
      | number n =>
          cases n with
          | integer n =>
              show Helper.isList (if _ then _ else _) = false
              split <;> rfl
          | fraction mantissa exponent => rfl
      | string s =>
          show NoList (nj.received (.string s))
          rw [Newtonsoft.received]
          cases nj.parseDate s <;> rfl
      | _ => rfl

/-- `ValueOf` renders what is not a list through `GetQuotedDbString`. -/
theorem renderedValue_valueOf {value : Option Obj} (h : NoList value) :
    RenderedValue (valueOf value) := by
  intro v hv
  cases value with
  | none => cases hv
  | some obj =>
      cases obj with
      | list t items => cases h
      | _ => exact ⟨_, (Option.some.inj hv).symm⟩

theorem rendered_new (field : Str) (operator : QueryBuilderOperator)
    {value1 value2 : Option Obj} (h1 : NoList value1) (h2 : NoList value2) :
    Rendered (QueryRule.new field operator value1 value2) where
  field := rfl
  operator := rfl
  value1 := renderedValue_valueOf h1
  value2 := renderedValue_valueOf h2
  rules := rfl
  condition := rfl

-- ==================================================== what FromJson returns

/-- A property of everything each non-null rule of a list contributes
holds of everything the list contributes. -/
theorem forall_mem_getQueryRules {f : V → Option Obj}
    {P : QueryRule Obj → Prop} {es : List (Option (QueryRule V))}
    (h : ∀ q, some q ∈ es → ∀ out, getQueryRule (q.fill f) = .ok out →
      ∀ r ∈ out, P r) :
    ∀ out, getQueryRules (fillAll f es) = .ok out → ∀ r ∈ out, P r := by
  induction es with
  | nil =>
      intro out hout r hr
      obtain rfl := Except.ok.inj hout
      exact absurd hr List.not_mem_nil
  | cons e es ih =>
      intro out hout r hr
      cases e with
      | none => cases hout
      | some q =>
          rw [fillAll, fillEntry, getQueryRules, getQueryRulesEntry] at hout
          cases hfirst : getQueryRule (q.fill f) with
          | error e => rw [hfirst] at hout; cases hout
          | ok first =>
              cases hrest : getQueryRules (fillAll f es) with
              | error e => rw [hfirst, hrest] at hout; cases hout
              | ok rest =>
                  rw [hfirst, hrest] at hout
                  obtain rfl := Except.ok.inj hout
                  rcases List.mem_append.mp hr with hr | hr
                  · exact h q List.mem_cons_self first hfirst r hr
                  · exact ih (fun q hq => h q (List.mem_cons_of_mem _ hq))
                      rest hrest r hr

/-- Every rule that a rule of a document contributes is rendered: the
rule itself by the constructor, the nested ones by the recursion. -/
theorem rendered_of_getQueryRule (nj : Newtonsoft)
    (r : QueryRule (Json Str)) :
    ∀ out, getQueryRule (r.fill nj.received) = .ok out →
      ∀ q ∈ out, Rendered q := by
  induction r using QueryRule.induct with
  | step r ih =>
      intro out hout q hq
      obtain ⟨field, operator, value1, value2, rules, condition⟩ := r
      rw [getQueryRule_eq, fill_rules_getD] at hout
      cases hnested : getQueryRules (fillAll nj.received (rules.getD []))
        with
      | error e => rw [hnested] at hout; cases hout
      | ok nested =>
          rw [hnested] at hout
          obtain rfl := Except.ok.inj hout
          rcases List.mem_append.mp hq with hq | hq
          · cases field with
            | none => exact absurd hq List.not_mem_nil
            | some field =>
                obtain rfl := List.mem_singleton.mp hq
                exact rendered_new _ _ (noList_received nj value1)
                  (noList_received nj value2)
          · exact forall_mem_getQueryRules ih nested hnested q hq

/-- The rules `FromJson` returns are non-null and rendered. -/
theorem rendered_of_fromJson {nj : Newtonsoft}
    {json : Option (QueryBuilder (Json Str))} {qb : QueryBuilder Obj}
    (h : fromJson nj json = .ok qb) :
    ∃ rs : List (QueryRule Obj), qb.rules = some (rs.map some)
      ∧ ∀ r ∈ rs, Rendered r := by
  cases json with
  | none =>
      obtain rfl := Except.ok.inj h
      exact ⟨[], rfl, fun r hr => absurd hr List.not_mem_nil⟩
  | some doc =>
      rw [fromJson_some] at h
      cases hrs : getQueryRules
          (fillAll nj.received (doc.rules.getD [])) with
      | error e => rw [hrs] at h; cases h
      | ok rs =>
          rw [hrs] at h
          obtain rfl := Except.ok.inj h
          refine ⟨rs, rfl, ?_⟩
          exact forall_mem_getQueryRules
            (fun q _ => rendered_of_getQueryRule nj q) rs hrs

-- ========================================================= the second pass

/-- A value in one more pair of quotes, if it is a text. -/
def requoted : Obj → Obj
  | .string text => .string (Helper.quoted text)
  | value => value

/-- A rule whose values are quoted once more. -/
def QueryRule.requoted (r : QueryRule Obj) : QueryRule Obj :=
  { r with value1 := r.value1.map SkillBuddy.requoted
           value2 := r.value2.map SkillBuddy.requoted }

/-- A filter whose rules' values are quoted once more. -/
def QueryBuilder.requoted (qb : QueryBuilder Obj) : QueryBuilder Obj :=
  { qb with rules := qb.rules.map fun rules =>
      rules.map (Option.map QueryRule.requoted) }

section
variable {nj : Newtonsoft} {write : Obj → Json Str}
  (hwrite : ∀ text, write (.string text) = .string text)
  (hdates : ∀ text d, nj.parseDate text = some d → DateShaped text)
include hwrite hdates

/-- A rendered value is written as a string, read back as one, and
rendered again in quotes. -/
theorem valueOf_reload {value : Option Obj} (h : RenderedValue value) :
    valueOf ((value.bind fun v => some (write v)).bind nj.received)
      = value.map requoted := by
  cases value with
  | none => rfl
  | some v =>
      obtain ⟨source, rfl⟩ := h v rfl
      have hdate :
          nj.parseDate (Helper.getQuotedDbString source) = none := by
        cases hd : nj.parseDate (Helper.getQuotedDbString source) with
        | none => rfl
        | some d =>
            exact absurd (hdates _ d hd)
              (not_dateShaped_getQuotedDbString source)
      have hread : nj.received (write
          (.string (Helper.getQuotedDbString source)))
          = some (.string (Helper.getQuotedDbString source)) := by
        rw [hwrite, Newtonsoft.received, hdate]
      show valueOf (nj.received (write _)) = _
      rw [hread]
      rfl

/-- A rendered rule, written and read, contributes itself with its values
quoted once more. -/
theorem getQueryRule_reload {r : QueryRule Obj} (h : Rendered r) :
    getQueryRule ((r.fill fun v => some (write v)).fill nj.received)
      = .ok [r.requoted] := by
  obtain ⟨hfield, hoperator, h1, h2, hrules, hcondition⟩ := h
  obtain ⟨field, operator, value1, value2, rules, condition⟩ := r
  obtain ⟨field, rfl⟩ := Option.isSome_iff_exists.mp hfield
  obtain ⟨operator, rfl⟩ := Option.isSome_iff_exists.mp hoperator
  obtain rfl : rules = none := hrules
  obtain rfl : condition = none := hcondition
  have hrebuilt : QueryRule.new field operator
      ((value1.bind fun v => some (write v)).bind nj.received)
      ((value2.bind fun v => some (write v)).bind nj.received)
      = QueryRule.requoted
          ⟨some field, some operator, value1, value2, none, none⟩ := by
    unfold QueryRule.new
    rw [valueOf_reload hwrite hdates h1, valueOf_reload hwrite hdates h2]
    rfl
  rw [← hrebuilt]
  rfl

/-- So do the rules of a list, each in its place. -/
theorem getQueryRules_reload {rs : List (QueryRule Obj)}
    (h : ∀ r ∈ rs, Rendered r) :
    getQueryRules (fillAll nj.received
        (fillAll (fun v => some (write v)) (rs.map some)))
      = .ok (rs.map QueryRule.requoted) := by
  induction rs with
  | nil => rfl
  | cons r rs ih =>
      rw [List.forall_mem_cons] at h
      rw [List.map_cons, fillAll, fillEntry, fillAll, fillEntry,
        getQueryRules, getQueryRulesEntry,
        getQueryRule_reload hwrite hdates h.1, ih h.2]
      rfl

/-- A filter of rendered rules, saved and reloaded, has its values quoted
once more. -/
theorem fromJson_reload {qb : QueryBuilder Obj} {rs : List (QueryRule Obj)}
    (hrules : qb.rules = some (rs.map some)) (h : ∀ r ∈ rs, Rendered r) :
    fromJson nj (some (serializeObject write qb)) = .ok qb.requoted := by
  obtain ⟨condition, rules, not, valid, count, offset, pageSize, orderBy⟩ :=
    qb
  obtain rfl : rules = some (rs.map some) := hrules
  have hsecond := getQueryRules_reload hwrite hdates h
  rw [fromJson_some]
  show (getQueryRules (fillAll nj.received
    (fillAll (fun v => some (write v)) (rs.map some)))).map _ = _
  rw [hsecond]
  show Except.ok _ = Except.ok _
  unfold QueryBuilder.requoted
  simp only [Option.map_some, List.map_map]
  rfl
end

/-- Quoting makes a text longer, so it never gives the text back. -/
theorem map_requoted_eq_iff {value : Option Obj} (h : RenderedValue value) :
    value.map requoted = value ↔ value = none := by
  cases value with
  | none => exact ⟨fun _ => rfl, fun _ => rfl⟩
  | some v =>
      obtain ⟨source, rfl⟩ := h v rfl
      constructor
      · intro heq
        have htext : Helper.quoted (Helper.getQuotedDbString source)
            = Helper.getQuotedDbString source :=
          Obj.string.inj (Option.some.inj heq)
        have hlength := congrArg List.length htext
        rw [Helper.length_quoted] at hlength
        omega
      · intro hnone
        cases hnone

/-- So the filter is unchanged exactly if there is nothing to quote. -/
theorem requoted_eq_iff {qb : QueryBuilder Obj} {rs : List (QueryRule Obj)}
    (hrules : qb.rules = some (rs.map some)) (h : ∀ r ∈ rs, Rendered r) :
    qb.requoted = qb
      ↔ ∀ r, some r ∈ qb.rules.getD [] →
          r.value1 = none ∧ r.value2 = none := by
  have hqb : qb.requoted = qb ↔ ∀ r ∈ rs, r.requoted = r := by
    obtain ⟨condition, rules, not, valid, count, offset, pageSize,
      orderBy⟩ := qb
    obtain rfl : rules = some (rs.map some) := hrules
    unfold QueryBuilder.requoted
    simp only [Option.map_some, List.map_map, QueryBuilder.mk.injEq,
      Option.some.injEq, true_and, and_true, List.map_inj_left,
      Function.comp_apply]
  have hrule : ∀ r ∈ rs, r.requoted = r
      ↔ r.value1 = none ∧ r.value2 = none := by
    intro r hr
    rw [← map_requoted_eq_iff (h r hr).value1,
      ← map_requoted_eq_iff (h r hr).value2]
    obtain ⟨field, operator, value1, value2, rules, condition⟩ := r
    simp only [QueryRule.requoted, QueryRule.mk.injEq, true_and, and_true]
  rw [hqb, hrules]
  constructor
  · intro heq r hr
    obtain ⟨q, hq, hqr⟩ := List.mem_map.mp hr
    obtain rfl := Option.some.inj hqr
    exact (hrule q hq).mp (heq q hq)
  · intro hnull r hr
    exact (hrule r hr).mpr (hnull r (List.mem_map_of_mem hr))

/-- A filter that `FromJson` returned, saved and loaded again, loads, and
comes back with each of its rules' values in one more pair of quotes and
everything else as it was: unchanged exactly when no rule holds a
value. -/
theorem fromJson_serializeObject (nj : Newtonsoft) (write : Obj → Json Str)
    (hwrite : ∀ text, write (.string text) = .string text)
    (hdates : ∀ text d, nj.parseDate text = some d → DateShaped text)
    (json : Option (QueryBuilder (Json Str))) (qb : QueryBuilder Obj)
    (h : fromJson nj json = .ok qb) :
    fromJson nj (some (serializeObject write qb)) = .ok qb.requoted
      ∧ (qb.requoted = qb ↔ ∀ r, some r ∈ qb.rules.getD [] →
          r.value1 = none ∧ r.value2 = none) := by
  obtain ⟨rs, hrules, hrendered⟩ := rendered_of_fromJson h
  exact ⟨fromJson_reload hwrite hdates hrules hrendered,
    requoted_eq_iff hrules hrendered⟩

/-- A filter with one rule, `name = value`. -/
private def nameIs {V : Type} (value : V) : QueryBuilder V where
  condition := some .and
  rules := some [some
    { field := some (str "name")
      operator := some .equals
      value1 := some value
      value2 := none
      rules := none
      condition := none }]

/-- A deserialiser that reads no string as a date. -/
private def datelessNewtonsoft : Newtonsoft where
  parseDate _ := none
  parseDouble _ := 0

/-- A serialiser of strings. -/
private def writeString : Obj → Json Str
  | .string text => .string text
  | _ => .null

/-- The law at a filter whose one value is `'abc'`. -/
theorem fromJson_serializeObject_name :
    fromJson datelessNewtonsoft (some (serializeObject writeString
        (nameIs (Obj.string (str "'abc'")))))
      = .ok (nameIs (Obj.string (str "'abc'"))).requoted
      ∧ ((nameIs (Obj.string (str "'abc'"))).requoted
          = nameIs (Obj.string (str "'abc'"))
        ↔ ∀ r, some r ∈ (nameIs (Obj.string (str "'abc'"))).rules.getD [] →
            r.value1 = none ∧ r.value2 = none) :=
  fromJson_serializeObject datelessNewtonsoft writeString (fun _ => rfl)
    (fun _ _ h => by cases h) (some (nameIs (.string (str "abc")))) _ rfl

/-- `name = abc` is normalised to `'abc'`; reloaded, it is `''abc''`. -/
theorem reload_quotes_again :
    fromJson datelessNewtonsoft (some (nameIs (.string (str "abc"))))
        = .ok (nameIs (.string (str "'abc'")))
      ∧ fromJson datelessNewtonsoft (some (serializeObject writeString
          (nameIs (.string (str "'abc'")))))
        = .ok (nameIs (.string (str "''abc''")))
      ∧ nameIs (Obj.string (str "''abc''"))
        ≠ nameIs (Obj.string (str "'abc'")) := by
  refine ⟨rfl, rfl, ?_⟩
  intro h
  have htext : str "''abc''" = str "'abc'" := by
    simpa [nameIs] using h
  exact absurd htext (by decide)

end SkillBuddy
