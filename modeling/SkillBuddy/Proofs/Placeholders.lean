/-
Filling in a template's placeholders.

# Two ways

The code replaces one placeholder after another over the whole text, so a
value is text like any other to the entries after it. What is asked for is
one pass over the template, which never looks into what it has inserted
(`substituteOnce`). The entries of a map come in no particular order, so
the first way may come out differently from one run to the next.

# When they agree

The two agree, in every order of the entries, where no value makes a new
placeholder together with what is around it: however many entries have
been filled in at once, each of the others occurs only where the pass has
found it (`replacePlaceholders_eq_substituteOnce`). The argument is the
library's, about patterns and pieces of any kind; what is shown here is
that the entries of a map are keys with values, and that a key finds its
own value.

# Without braces

That is so whenever braces come in placeholders only
(`fillsCleanly_of_braceFree`). A placeholder is two braces, the key, and
two braces back. Where only placeholders have braces, one can begin only
where another begins, and it is the same then, because a key without
braces is determined by what stands up to the next one
(`append_cons_inj_left`, `starts_placeholder`).
-/
import SkillBuddy.Lib.Substitution
import SkillBuddy.Worker.TemplateService

namespace SkillBuddy.TemplateService

open Lib.Substitution

-- ============================================================== one pass

/-- `{{key}}`. -/
def placeholder (key : String) : List Char :=
  ("\x7b\x7b" ++ key ++ "\x7d\x7d").toList

/-- The text an entry inserts; null is none. -/
def insertedText (value : Option String) : List Char :=
  (value.getD "").toList

/-- The text inserted for a key. -/
def valueOf (values : List (String × Option String)) (key : String) :
    List Char :=
  insertedText ((values.lookup key).getD none)

/-- The keys of a map. -/
def keys (values : List (String × Option String)) : List String :=
  values.map Prod.fst

/-- The template, with the placeholders one pass from left to right
finds. -/
def templatePieces (template : String)
    (values : List (String × Option String)) : List (Piece Char String) :=
  pieces placeholder (keys values) 0 template.toList

/-- All placeholders replaced in one pass that never looks into inserted
text. -/
def substituteOnce (template : String)
    (values : List (String × Option String)) : String :=
  String.ofList (render (valueOf values) (templatePieces template values))

-- ============================================================ the code's way

/-- A placeholder begins with a brace. -/
theorem head?_placeholder (key : String) :
    (placeholder key).head? = some '\x7b' := by
  unfold placeholder
  rw [String.toList_append, String.toList_append]
  rfl

/-- No placeholder is empty, so replacing one is defined. -/
theorem placeholder_ne_nil (key : String) : placeholder key ≠ [] := by
  intro h
  have hhead := head?_placeholder key
  rw [h] at hhead
  cases hhead

/-- Replacing entry by entry is replacing key by key. -/
theorem foldl_replace_eq {values order : List (String × Option String)}
    (hlookup : ∀ item ∈ order, values.lookup item.1 = some item.2)
    (template : String) :
    (order.foldl (fun text item =>
        replace text ("\x7b\x7b" ++ item.1 ++ "\x7d\x7d") item.2)
        template).toList
      = (keys order).foldl (fun text key =>
          replaceFrom (placeholder key)
            (valueOf values key) 0 text) template.toList := by
  induction order generalizing template with
  | nil => rfl
  | cons item order ih =>
      have hitem := hlookup item List.mem_cons_self
      have hrest := ih fun other hother =>
        hlookup other (List.mem_cons_of_mem item hother)
      have hvalue : valueOf values item.1 = insertedText item.2 := by
        unfold valueOf
        rw [hitem]
        rfl
      rw [List.foldl_cons, hrest]
      unfold replace keys
      rw [String.toList_ofList, List.map_cons, List.foldl_cons, hvalue]
      rfl

/-- A map's lookup finds the entry: its key is there only once. -/
theorem lookup_of_mem {values : List (String × Option String)}
    (hnodup : (keys values).Nodup) {item : String × Option String}
    (h : item ∈ values) : values.lookup item.1 = some item.2 := by
  induction values with
  | nil => exact absurd h List.not_mem_nil
  | cons other values ih =>
      obtain ⟨hnew, hnodup⟩ := List.nodup_cons.mp hnodup
      rw [List.lookup_cons]
      rcases List.mem_cons.mp h with rfl | h
      · rw [beq_self_eq_true]
      · have hne : item.1 ≠ other.1 := by
          intro heq
          rw [← heq] at hnew
          exact hnew (List.mem_map_of_mem h)
        rw [beq_false_of_ne hne]
        exact ih hnodup h

/-- A template of white space has no placeholders. -/
theorem substituteOnce_of_whiteSpace {template : String}
    (h : isNullOrWhiteSpace template = true)
    (values : List (String × Option String)) :
    substituteOnce template values = template := by
  have hnone : '\x7b' ∉ template.toList := by
    intro hmem
    have hwhite := List.all_eq_true.mp h _ hmem
    revert hwhite
    decide
  unfold substituteOnce templatePieces
  rw [pieces_eq_map_lit (fun key _ => head?_placeholder key) hnone,
    render_map_lit, String.ofList_toList]

/-- Where filling in entries makes no new placeholder, replacing one entry
after another, in any order of the map, is the single pass. -/
theorem replacePlaceholders_eq_substituteOnce {template : String}
    {values order : List (String × Option String)}
    (hnodup : (keys values).Nodup) (horder : order.Perm values)
    (hclean : FillsCleanly placeholder (valueOf values) (keys values)
      (templatePieces template values)) :
    replacePlaceholders template order = substituteOnce template values := by
  unfold replacePlaceholders
  by_cases hwhite : isNullOrWhiteSpace template = true
  · rw [if_pos hwhite, substituteOnce_of_whiteSpace hwhite]
  · rw [if_neg hwhite, substituteOnce]
    have hlookup : ∀ item ∈ order,
        values.lookup item.1 = some item.2 := fun item hitem =>
      lookup_of_mem hnodup (horder.subset hitem)
    have hperm : (keys order).Perm (keys values) := horder.map Prod.fst
    have hrender := foldl_replaceFrom_eq_render
      (fun key _ => placeholder_ne_nil key) hnodup hperm template.toList
      hclean
    have hfold := foldl_replace_eq hlookup template
    rw [hrender] at hfold
    rw [← String.toList_inj, hfold, String.toList_ofList]
    rfl

-- ============================================ braces in placeholders only

/-- A text without braces. -/
def BraceFree (text : List Char) : Prop :=
  '\x7b' ∉ text ∧ '\x7d' ∉ text

/-- A text up to a letter it does not contain is determined. -/
theorem append_cons_inj_left {a : Char} {x y : List Char} (hx : a ∉ x)
    (hy : a ∉ y) {u v : List Char} (h : x ++ a :: u = y ++ a :: v) :
    x = y := by
  have hsplit := congrArg (List.splitOn a) h
  rw [List.splitOn_append_cons_self_of_not_mem hx,
    List.splitOn_append_cons_self_of_not_mem hy] at hsplit
  exact (List.cons.inj hsplit).1

/-- The letters of a placeholder. -/
theorem placeholder_eq (key : String) :
    placeholder key
      = '\x7b' :: '\x7b' :: (key.toList ++ ['\x7d', '\x7d']) := by
  unfold placeholder
  rw [String.toList_append, String.toList_append]
  rfl

/-- In a placeholder a placeholder starts only if it is the same. -/
theorem starts_placeholder {key other : String}
    (hkey : BraceFree key.toList) (hother : BraceFree other.toList)
    (rest : List Char) :
    starts (placeholder key) (placeholder other) rest
      = if other = key then 1 else 0 := by
  -- behind the first letter there is none
  have hinner : starts (placeholder key)
      ('\x7b' :: (other.toList ++ ['\x7d', '\x7d'])) rest = 0 := by
    have hlast : '\x7b' ∉ other.toList ++ ['\x7d', '\x7d'] := by
      intro h
      rcases List.mem_append.mp h with h | h
      · exact hother.1 h
      · revert h
        decide
    rw [starts, starts_eq_zero (head?_placeholder key) hlast, if_neg]
    intro hpre
    obtain ⟨u, hu⟩ := List.isPrefixOf_iff_prefix.mp hpre
    rw [placeholder_eq, List.cons_append, List.cons.injEq,
      List.cons_append] at hu
    cases hletters : other.toList with
    | nil =>
        rw [hletters] at hu
        exact absurd (List.cons.inj hu.2).1 (by decide)
    | cons c cs =>
        rw [hletters] at hu
        have hc : '\x7b' = c := (List.cons.inj hu.2).1
        rw [hletters, ← hc] at hother
        exact hother.1 List.mem_cons_self
  conv_lhs => rw [placeholder_eq other]
  rw [starts, hinner, Nat.add_zero]
  congr 1
  rw [List.isPrefixOf_iff_prefix, placeholder_eq, eq_iff_iff]
  constructor
  · intro hstarts
    obtain ⟨u, hu⟩ := hstarts
    simp only [List.cons_append, List.cons.injEq, true_and,
      List.append_assoc, List.nil_append] at hu
    have hsame := append_cons_inj_left hkey.2 hother.2 hu
    exact (String.toList_inj.mp hsame).symm
  · intro hempty
    subst hempty
    exact ⟨rest, by simp⟩

/-- If keys, values and the template outside its placeholders have no
braces, filling in entries makes no new placeholder. What stands between
two placeholders has no brace to begin one with. -/
theorem fillsCleanly_of_braceFree {template : String}
    {values : List (String × Option String)}
    (hkeys : ∀ key ∈ keys values, BraceFree key.toList)
    (hvalues : ∀ key ∈ keys values, BraceFree (valueOf values key))
    (htemplate : ∀ c, .lit c ∈ templatePieces template values →
      BraceFree [c]) :
    FillsCleanly placeholder (valueOf values) (keys values)
      (templatePieces template values) := by
  intro done hdone b hb hnew
  have hslots : ∀ key, .slot key ∈ templatePieces template values →
      key ∈ keys values := fun key => mem_of_slot_mem_pieces _ 0
  revert htemplate hslots
  generalize templatePieces template values = ps
  intro htemplate hslots
  induction ps with
  | nil => rfl
  | cons p ps ih =>
      have hrest := ih (fun c hc => htemplate c (List.mem_cons_of_mem p hc))
        fun key hkey => hslots key (List.mem_cons_of_mem p hkey)
      rw [render_cons, occurrences_append, hrest]
      cases p with
      | lit c =>
          have hc := htemplate c List.mem_cons_self
          have hnone : starts (placeholder b) [c] (render
              (fill placeholder (valueOf values) done) ps) = 0 :=
            starts_eq_zero (head?_placeholder b) hc.1 _
          show starts _ [c] _ + _ = _
          rw [hnone, Nat.zero_add]
          rfl
      | slot key =>
          have hkey := hslots key List.mem_cons_self
          show starts _ (fill placeholder (valueOf values) done key) _ + _
            = (if key = b then 1 else 0) + _
          unfold fill
          by_cases hdone : key ∈ done
          · have hne : key ≠ b := fun h => hnew (h ▸ hdone)
            rw [if_pos hdone, if_neg hne,
              starts_eq_zero (head?_placeholder b) (hvalues key hkey).1]
          · rw [if_neg hdone,
              starts_placeholder (hkeys b hb) (hkeys key hkey)]

-- =============================================================== examples

/-- Two keys, the value of one the placeholder of the other. -/
private def nested : List (String × Option String) :=
  [("Name", some "\x7b\x7bCode\x7d\x7d"), ("Code", some "1234")]

/-- The agreement at a greeting, in both orders. -/
theorem replacePlaceholders_greeting :
    replacePlaceholders "Hi \x7b\x7bName\x7d\x7d, \x7b\x7bCode\x7d\x7d"
        [("Code", some "1234"), ("Name", some "Ann")]
      = substituteOnce "Hi \x7b\x7bName\x7d\x7d, \x7b\x7bCode\x7d\x7d"
        [("Name", some "Ann"), ("Code", some "1234")] :=
  replacePlaceholders_eq_substituteOnce (by decide) (List.Perm.swap ..)
    (by decide)

/-- A name that is written like a placeholder pulls in the code, if the
name comes first. -/
theorem replacePlaceholders_nested :
    replacePlaceholders "Hi \x7b\x7bName\x7d\x7d" nested = "Hi 1234"
    ∧ replacePlaceholders "Hi \x7b\x7bName\x7d\x7d" nested.reverse
      = "Hi \x7b\x7bCode\x7d\x7d"
    ∧ substituteOnce "Hi \x7b\x7bName\x7d\x7d" nested
      = "Hi \x7b\x7bCode\x7d\x7d" :=
  ⟨by decide, by decide, by decide⟩

end SkillBuddy.TemplateService
