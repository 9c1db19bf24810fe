/-
`SkillBuddy.Entity.QueryBuilder`: the query object, its rules, `FromJson`,
and the `Clone` of `DateTimeExtension` on query objects.

The objects are generic in what their `Value1`/`Value2` members hold, so
that one type serves twice. `QueryBuilder (Json Str)` is a JSON filter
document, read off under the names in the `JsonProperty` attributes;
`QueryBuilder Obj` is the object graph. `fill` is what Newtonsoft.Json
does between the two: it copies the tree and gives every untyped member
a run-time value (`received`).

A rule list may hold null entries and may itself be null, and so may
every member: the types say so, and `GetQueryRules` throws on a null
entry as the source does.

# Newtonsoft.Json

What the library decides by itself is a parameter (`Newtonsoft`): which
strings it takes for dates, and the double nearest to a literal. That a
document is filled into the objects under the names of the attributes is
what `deserializeObject` says; `FromJson` is stated over documents that
are read, of whatever depth.

`Clone` writes a query and reads what it has written, and there the depth
is the library's: a reader refuses what is nested deeper than its
`MaxDepth`, 64 by default, and `Clone` passes settings that do not change
it. A rule takes two levels, its object and the array it is in, so this is
a bound on how deeply rules may be nested (`readObject`).
-/
import SkillBuddy.Core.Helper

namespace SkillBuddy

open DotNet

-- ============================================================ the objects

/-- `QueryBuilderCondition`. -/
inductive QueryBuilderCondition where
  | and
  | or
  deriving DecidableEq, Repr

/-- `QueryBuilderOperator`. -/
inductive QueryBuilderOperator where
  | equals
  | notEquals
  | lessThan
  | lessThanOrEquals
  | greaterThan
  | greaterThanOrEqual
  | is
  | isNot
  | in_
  | notIn
  | between
  | notBetween
  | isNull
  | isNotNull
  deriving DecidableEq, Repr

/-- `QueryOrderType`. -/
inductive QueryOrderType where
  | asc
  | desc
  deriving DecidableEq, Repr

/-- `QueryOrder`. -/
structure QueryOrder where
  field : Option Str
  type : QueryOrderType
  deriving DecidableEq, Repr

/-- `QueryRule`: a comparison, a group of rules, or any mixture. -/
structure QueryRule (V : Type) where
  field : Option Str
  operator : Option QueryBuilderOperator
  value1 : Option V
  value2 : Option V
  rules : Option (List (Option (QueryRule V)))
  condition : Option QueryBuilderCondition

/-- `QueryBuilder`. -/
structure QueryBuilder (V : Type) where
  condition : Option QueryBuilderCondition := none
  rules : Option (List (Option (QueryRule V))) := some []
  not : Option Bool := none
  valid : Option Bool := none
  count : Option Int32 := none
  offset : Option Int64 := none
  pageSize : Option Int64 := none
  orderBy : Option (List (Option QueryOrder)) := none

variable {V W : Type}

/-- Induction over a rule and the non-null rules nested in it. -/
theorem QueryRule.induct {P : QueryRule V → Prop}
    (step : ∀ r, (∀ q, some q ∈ r.rules.getD [] → P q) → P r) :
    ∀ r, P r := by
  intro r
  refine @QueryRule.rec V P
    (fun rs => ∀ q, some q ∈ rs.getD [] → P q)
    (fun es => ∀ q, some q ∈ es → P q)
    (fun e => ∀ q, e = some q → P q) ?_ ?_ ?_ ?_ ?_ ?_ ?_ r
  · intro field operator value1 value2 rules condition ih
    exact step _ ih
  · intro q hq
    exact absurd hq List.not_mem_nil
  · intro es ih q hq
    exact ih q hq
  · intro q hq
    exact absurd hq List.not_mem_nil
  · intro e es ihe ihes q hq
    rcases List.mem_cons.mp hq with h | h
    · exact ihe q h.symm
    · exact ihes q h
  · intro q h
    cases h
  · intro r ih q h
    cases h
    exact ih

mutual
/-- Fold a rule: the function sees the rule and the results for its nested
rules, in place. -/
def QueryRule.fold (f : QueryRule V → Option (List (Option W)) → W) :
    QueryRule V → W
  | ⟨field, operator, value1, value2, rules, condition⟩ =>
      f ⟨field, operator, value1, value2, rules, condition⟩
        (foldRules f rules)
/-- The results for a rule's nested rules. -/
def foldRules (f : QueryRule V → Option (List (Option W)) → W) :
    Option (List (Option (QueryRule V))) → Option (List (Option W))
  | none => none
  | some rules => some (foldAll f rules)
/-- The results for a list of rules. -/
def foldAll (f : QueryRule V → Option (List (Option W)) → W) :
    List (Option (QueryRule V)) → List (Option W)
  | [] => []
  | entry :: rules => foldEntry f entry :: foldAll f rules
/-- The result for an entry of a list. -/
def foldEntry (f : QueryRule V → Option (List (Option W)) → W) :
    Option (QueryRule V) → Option W
  | none => none
  | some rule => some (rule.fold f)
end

theorem foldAll_eq_map (f : QueryRule V → Option (List (Option W)) → W)
    (rules : List (Option (QueryRule V))) :
    foldAll f rules = rules.map (Option.map (QueryRule.fold f)) := by
  induction rules with
  | nil => rfl
  | cons e es ih => cases e <;> rw [foldAll, ih] <;> rfl

/-- What a fold computes, one rule at a time. -/
theorem QueryRule.fold_eq (f : QueryRule V → Option (List (Option W)) → W)
    (r : QueryRule V) :
    r.fold f
      = f r (r.rules.map fun es => es.map (Option.map (QueryRule.fold f))) := by
  obtain ⟨field, operator, value1, value2, rules, condition⟩ := r
  cases rules with
  | none => rfl
  | some es => rw [QueryRule.fold, foldRules, foldAll_eq_map]; rfl

-- ======================================================= the constructors

/-- The text of a `List<T>`: the arms of `ValueOf`'s dispatch on the
element type, and its fallback over `Cast<object>()`. -/
def listText (t : ElemType) (items : List t.Carrier) : Str :=
  let boxed := items.map t.box
  match t with
  | .byte | .short | .int | .long | .ushort | .uint | .ulong | .float
  | .double | .decimal | .char | .guid => Helper.toCsvString (some boxed)
  | .sbyte | .bool | .string | .dateTime | .enum _ =>
      Helper.toCsvString (some boxed)

/-- `ValueOf(value)`. -/
def valueOf : Option Obj → Option Obj
  | some (.list t items) => some (.string (listText t items))
  | none => none
  | some value => some (.string (Helper.getQuotedDbString (some value)))

/-- `new QueryRule(field, operator, value1, value2)`. -/
def QueryRule.new (field : Str) (operator : QueryBuilderOperator)
    (value1 value2 : Option Obj) : QueryRule Obj where
  field := some field
  operator := some operator
  value1 := valueOf value1
  value2 := valueOf value2
  rules := none
  condition := none

-- ======================================================== deserialisation

/-- What Newtonsoft.Json decides by itself: which strings it takes for
dates, and the double nearest to a number literal. -/
structure Newtonsoft where
  parseDate : Str → Option DateTime
  parseDouble : JsonNumber → UInt64

/-- The value an `object` member receives from a JSON value. -/
def Newtonsoft.received (nj : Newtonsoft) : Json Str → Option Obj
  | .null => none
  | .bool b => some (.bool b)
  | .number (.integer n) =>
      if -(2 ^ 63) ≤ n ∧ n < 2 ^ 63 then some (.long (Int64.ofInt n))
      else some (.bigInteger n)
  | .number n => some (.double (nj.parseDouble n))
  | .string s =>
      match nj.parseDate s with
      | some d => some (.dateTime d)
      | none => some (.string s)
  | .array items => some (.jArray items)
  | .object members => some (.jObject members)

mutual
/-- A rule of the document as a `QueryRule` object. -/
def QueryRule.fill (f : V → Option W) : QueryRule V → QueryRule W
  | ⟨field, operator, value1, value2, rules, condition⟩ =>
      ⟨field, operator, value1.bind f, value2.bind f, fillRules f rules,
        condition⟩
/-- Its nested rules, if it has any. -/
def fillRules (f : V → Option W) :
    Option (List (Option (QueryRule V))) →
      Option (List (Option (QueryRule W)))
  | none => none
  | some rules => some (fillAll f rules)
/-- A list of rules. -/
def fillAll (f : V → Option W) :
    List (Option (QueryRule V)) → List (Option (QueryRule W))
  | [] => []
  | entry :: rules => fillEntry f entry :: fillAll f rules
/-- An entry of a list of rules. -/
def fillEntry (f : V → Option W) :
    Option (QueryRule V) → Option (QueryRule W)
  | none => none
  | some rule => some (rule.fill f)
end

/-- `JsonConvert.DeserializeObject<QueryBuilder>(json)`. A missing or null
`rules` leaves the constructor's empty list in place. -/
def deserializeObject (nj : Newtonsoft) :
    Option (QueryBuilder (Json Str)) → Option (QueryBuilder Obj)
  | none => none
  | some doc => some
      { condition := doc.condition
        rules := some (fillAll nj.received (doc.rules.getD []))
        not := doc.not
        valid := doc.valid
        count := doc.count
        offset := doc.offset
        pageSize := doc.pageSize
        orderBy := doc.orderBy }

/-- `JsonConvert.SerializeObject(qb)`, as the document it writes: the
declared members under their names, an omitted or null member read off
as `none`, and a `Value1` or `Value2` as `write` writes it. -/
def serializeObject (write : Obj → Json Str) (qb : QueryBuilder Obj) :
    QueryBuilder (Json Str) where
  condition := qb.condition
  rules := fillRules (fun value => some (write value)) qb.rules
  not := qb.not
  valid := qb.valid
  count := qb.count
  offset := qb.offset
  pageSize := qb.pageSize
  orderBy := qb.orderBy

-- ================================================================== clones

mutual
/-- How deeply arrays and objects are nested in a JSON value. -/
def DotNet.Json.depth : Json Str → Nat
  | .null | .bool _ | .number _ | .string _ => 0
  | .array items => 1 + depthItems items
  | .object members => 1 + depthMembers members
/-- The deepest of the items of an array. -/
def depthItems : List (Json Str) → Nat
  | [] => 0
  | item :: items => max item.depth (depthItems items)
/-- The deepest of the members of an object. -/
def depthMembers : List (Str × Json Str) → Nat
  | [] => 0
  | member :: members => max (depthMember member) (depthMembers members)
/-- The depth of a member. -/
def depthMember : Str × Json Str → Nat
  | (_, value) => value.depth
end

/-- The depth of a value member. -/
def depthValue (value : Option (Json Str)) : Nat :=
  value.elim 0 Json.depth

/-- The depth of a list, given those of its entries; a null has none. -/
def depthEntries : List (Option Nat) → Nat
  | [] => 1
  | entry :: entries => max (1 + entry.getD 0) (depthEntries entries)

/-- The depth of a list member. -/
def depthList (entries : Option (List (Option Nat))) : Nat :=
  entries.elim 0 depthEntries

/-- The depth of a rule. -/
def QueryRule.depth : QueryRule (Json Str) → Nat :=
  QueryRule.fold fun r kids =>
    1 + max (max (depthValue r.value1) (depthValue r.value2))
      (depthList kids)

/-- The depth of a document. -/
def QueryBuilder.depth (doc : QueryBuilder (Json Str)) : Nat :=
  1 + max
    (depthList (doc.rules.map fun rules =>
      rules.map (Option.map QueryRule.depth)))
    (depthList (doc.orderBy.map fun orders =>
      orders.map (Option.map fun _ => 1)))

/-- `JsonReader.MaxDepth`, by default. -/
def maxDepth : Nat := 64

/-- `JsonConvert.DeserializeObject<QueryBuilder>(json, settings)` with
settings that leave `MaxDepth` as it is. -/
def readObject (nj : Newtonsoft) (doc : QueryBuilder (Json Str)) :
    Except Exn (Option (QueryBuilder Obj)) :=
  if doc.depth ≤ maxDepth then .ok (deserializeObject nj (some doc))
  else .error .json

/-- `queryBuilder.Clone()` of `DateTimeExtension`. -/
def DateTimeExtension.clone (nj : Newtonsoft) (write : Obj → Json Str) :
    Option (QueryBuilder Obj) → Except Exn (Option (QueryBuilder Obj))
  | none => .ok none
  | some source => readObject nj (serializeObject write source)

-- ============================================================== FromJson

mutual
/-- The loop body of `GetQueryRules` for a rule object: the rule itself
if it has a field, then its nested rules. -/
def getQueryRule : QueryRule Obj → Except Exn (List (QueryRule Obj))
  | ⟨field, operator, value1, value2, rules, _⟩ => do
      let nested ← getNestedRules rules
      match field with
      | some field =>
          return QueryRule.new field (operator.getD .equals) value1 value2
            :: nested
      | none => return nested
/-- `rule.Rules != null && rule.Rules.Count > 0`, then the recursion. -/
def getNestedRules :
    Option (List (Option (QueryRule Obj))) →
      Except Exn (List (QueryRule Obj))
  | none => return []
  | some rules => getQueryRules rules
/-- `GetQueryRules(rules)`. -/
def getQueryRules :
    List (Option (QueryRule Obj)) → Except Exn (List (QueryRule Obj))
  | [] => return []
  | entry :: rules => do
      let result ← getQueryRulesEntry entry
      return result ++ (← getQueryRules rules)
/-- The loop body for one entry: a null entry has no `Field` to read. -/
def getQueryRulesEntry :
    Option (QueryRule Obj) → Except Exn (List (QueryRule Obj))
  | none => throw .nullReference
  | some rule => getQueryRule rule
end

/-- `QueryBuilder.FromJson(json)`, on the document `json` holds. -/
def fromJson (nj : Newtonsoft) (json : Option (QueryBuilder (Json Str))) :
    Except Exn (QueryBuilder Obj) :=
  match deserializeObject nj json with
  | none => return {}
  | some qb => do
      let rules ← match qb.rules with
        | some rules => getQueryRules rules
        | none => pure []
      return { condition := qb.condition
               rules := some (rules.map some)
               not := qb.not
               valid := qb.valid
               count := qb.count
               offset := qb.offset
               pageSize := qb.pageSize
               orderBy := qb.orderBy }

end SkillBuddy
