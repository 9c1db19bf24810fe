/-
Comma-separated lists of quoted literals: the lexer, the renderer that
doubles inner quotes, and their exact agreement.

# The grammar

A literal runs from a quote to the next quote that is not doubled; a
doubled quote inside stands for one. `lex` reads a whole text as such
literals with single separators between them and nothing else around
them; the empty text is the empty list. It is one pass over the text, by
structural recursion, in four states.

# The agreement

`render` (double every inner quote) is the lexer's exact inverse:
`lex_render` reads a rendered list back, and `eq_render_of_lex` says the
lexer accepts nothing but rendered lists. So a text lexes as `vs` iff it
IS `render vs` (`lex_eq_some_iff`), which turns any question about a
renderer into a comparison of two texts. `wrap`, the renderer that only
adds the outer quotes, passes the comparison exactly on quote-free
values (`lex_wrapped_iff`): doubling strictly lengthens every other
value, and a join's length is the sum of its pieces'.
-/
import SkillBuddy.Lib.Joined

namespace SkillBuddy.Lib.Quoted

universe u

variable {α : Type u} [DecidableEq α]

-- =============================================================== lexer

/-- Where the lexer stands. -/
inductive State where
  | start
  | inside
  | closing
  | next
  deriving DecidableEq, Repr

/-- Put a character in front of the literal being read. -/
def consHead (c : α) : List (List α) → List (List α)
  | [] => []
  | v :: vs => (c :: v) :: vs

omit [DecidableEq α] in
/-- Characters put one by one in front of a literal lengthen it. -/
theorem foldr_consHead (v w : List α) (ws : List (List α)) :
    v.foldr consHead (w :: ws) = (v ++ w) :: ws := by
  induction v with
  | nil => rfl
  | cons c cs ih => rw [List.foldr_cons, ih]; rfl

/-- The values of the literals from state `s` on; inside a literal, the
head is what is left of its value. -/
def lexFrom (q sep : α) : State → List α → Option (List (List α))
  | .start, [] => some []
  | .start, c :: cs => if c = q then lexFrom q sep .inside cs else none
  | .inside, [] => none
  | .inside, c :: cs =>
      if c = q then lexFrom q sep .closing cs
      else (lexFrom q sep .inside cs).map (consHead c)
  | .closing, [] => some [[]]
  | .closing, c :: cs =>
      -- a quote right after a quote was a doubled one
      if c = q then (lexFrom q sep .inside cs).map (consHead q)
      else if c = sep then (lexFrom q sep .next cs).map ([] :: ·)
      else none
  | .next, [] => none
  | .next, c :: cs => if c = q then lexFrom q sep .inside cs else none

/-- The values of the comma-separated literals a text consists of. -/
def lex (q sep : α) (text : List α) : Option (List (List α)) :=
  lexFrom q sep .start text

-- ============================================================= renderers

/-- A value between quotes, as it is. -/
def wrap (q : α) (v : List α) : List α := q :: (v ++ [q])

/-- A value with every quote doubled. -/
def double (q : α) : List α → List α
  | [] => []
  | c :: cs => if c = q then q :: q :: double q cs else c :: double q cs

/-- The literal of a value: quotes doubled, then wrapped. -/
def literal (q : α) (v : List α) : List α := wrap q (double q v)

/-- The literals of a list of values, joined. -/
def render (q sep : α) (vs : List (List α)) : List α :=
  List.intercalate [sep] (vs.map (literal q))

theorem double_of_notMem {q : α} {v : List α} (h : q ∉ v) :
    double q v = v := by
  induction v with
  | nil => rfl
  | cons c cs ih =>
      rw [List.mem_cons, not_or] at h
      rw [double, if_neg (Ne.symm h.1), ih h.2]

/-- Doubling adds one character for each quote. -/
theorem length_double (q : α) (v : List α) :
    (double q v).length = v.length + v.count q := by
  induction v with
  | nil => rfl
  | cons c cs ih =>
      rw [double]
      by_cases hc : c = q
      · subst hc
        rw [if_pos rfl, List.count_cons_self]
        simp only [List.length_cons, ih]
        omega
      · rw [if_neg hc, List.count_cons_of_ne hc]
        simp only [List.length_cons, ih]
        omega

-- ================================================= reading a literal back

/-- What is left to read of a list of literals, its first one open. -/
private def rest (q sep : α) (v : List α) (vs : List (List α)) : List α :=
  double q v ++ q :: (vs.flatMap fun w => sep :: literal q w)

/-- A rendered list is its first literal's quote and the rest. -/
private theorem render_cons (q sep : α) (v : List α)
    (vs : List (List α)) :
    render q sep (v :: vs) = q :: rest q sep v vs := by
  rw [render, List.map_cons, intercalate_cons_eq, List.flatMap_map, literal,
    wrap, rest, List.cons_append, List.append_assoc, List.singleton_append]

/-- Inside a literal the lexer collects a doubled value up to its closing
quote. -/
private theorem lexFrom_double (q sep : α) (v text : List α) :
    lexFrom q sep .inside (double q v ++ q :: text)
      = (lexFrom q sep .closing text).map (v.foldr consHead) := by
  induction v with
  | nil =>
      rw [double, List.nil_append, lexFrom, if_pos rfl]
      exact Option.map_id'.symm
  | cons c cs ih =>
      by_cases hc : c = q
      · subst hc
        rw [double, if_pos rfl, List.cons_append, List.cons_append, lexFrom,
          if_pos rfl, lexFrom, if_pos rfl, ih, Option.map_map]
        rfl
      · rw [double, if_neg hc, List.cons_append, lexFrom, if_neg hc, ih,
          Option.map_map]
        rfl

/-- Inside a literal the lexer reads exactly what is left of a rendered
list, provided the separator is not the quote. -/
private theorem lexFrom_inside_rest {q sep : α} (hsep : sep ≠ q) :
    ∀ (vs : List (List α)) (v : List α),
      lexFrom q sep .inside (rest q sep v vs) = some (v :: vs) := by
  intro vs
  induction vs with
  | nil =>
      intro v
      rw [rest, List.flatMap_nil, lexFrom_double, lexFrom, Option.map_some,
        foldr_consHead, List.append_nil]
  | cons w vs ih =>
      intro v
      have hw := ih w
      rw [rest, lexFrom_double, List.flatMap_cons, literal, wrap]
      simp only [rest, List.cons_append, List.append_assoc,
        List.nil_append, lexFrom, if_neg hsep, if_true] at hw ⊢
      rw [hw, Option.map_some, Option.map_some, foldr_consHead,
        List.append_nil]

/-- Round trip: a rendered list lexes as its values. -/
theorem lex_render {q sep : α} (hsep : sep ≠ q) (vs : List (List α)) :
    lex q sep (render q sep vs) = some vs := by
  cases vs with
  | nil => rfl
  | cons v vs =>
      rw [render_cons, lex, lexFrom, if_pos rfl,
        lexFrom_inside_rest hsep]

-- ========================================== nothing else is accepted

/-- What each state has left to read, from the values it yields. -/
private def Left (q sep : α) : State → List α → List (List α) → Prop
  | .start, text, vs => text = render q sep vs
  | .inside, text, vs => ∃ w ws, vs = w :: ws ∧ text = rest q sep w ws
  | .closing, text, vs =>
      ∃ w ws, vs = w :: ws ∧ q :: text = rest q sep w ws
  | .next, text, vs =>
      ∃ w ws, vs = w :: ws ∧ text = literal q w
        ++ ws.flatMap fun w => sep :: literal q w

/-- The lexer yields `vs` only where `vs` was rendered. -/
private theorem left_of_lexFrom {q sep : α} (text : List α) :
    ∀ {s : State} {vs : List (List α)},
      lexFrom q sep s text = some vs → Left q sep s text vs := by
  induction text with
  | nil =>
      intro s vs h
      cases s with
      | start =>
          rw [lexFrom, Option.some.injEq] at h
          subst h
          rfl
      | inside => simp [lexFrom] at h
      | closing =>
          rw [lexFrom, Option.some.injEq] at h
          subst h
          exact ⟨[], [], rfl, rfl⟩
      | next => simp [lexFrom] at h
  | cons c cs ih =>
      intro s vs h
      cases s with
      | start =>
          rw [lexFrom] at h
          split at h
          case isFalse => cases h
          case isTrue hc =>
            obtain ⟨w, ws, rfl, hcs⟩ := ih h
            show c :: cs = render q sep (w :: ws)
            rw [render_cons, ← hcs, hc]
      | inside =>
          rw [lexFrom] at h
          split at h
          case isTrue hc =>
            obtain ⟨w, ws, rfl, hcs⟩ := ih h
            exact ⟨w, ws, rfl, by rw [← hcs, hc]⟩
          case isFalse hc =>
            obtain ⟨us, hus, rfl⟩ := Option.map_eq_some_iff.mp h
            obtain ⟨w, ws, rfl, hcs⟩ := ih hus
            refine ⟨c :: w, ws, rfl, ?_⟩
            rw [hcs, rest, rest, double, if_neg hc]
            rfl
      | closing =>
          rw [lexFrom] at h
          split at h
          case isTrue hc =>
            obtain ⟨us, hus, rfl⟩ := Option.map_eq_some_iff.mp h
            obtain ⟨w, ws, rfl, hcs⟩ := ih hus
            refine ⟨q :: w, ws, rfl, ?_⟩
            rw [hcs, hc, rest, rest, double, if_pos rfl]
            rfl
          case isFalse hc =>
            split at h
            case isFalse => cases h
            case isTrue hs =>
              obtain ⟨us, hus, rfl⟩ := Option.map_eq_some_iff.mp h
              obtain ⟨w, ws, rfl, hcs⟩ := ih hus
              refine ⟨[], w :: ws, rfl, ?_⟩
              rw [hcs, hs, rest, double, List.flatMap_cons]
              rfl
      | next =>
          rw [lexFrom] at h
          split at h
          case isFalse => cases h
          case isTrue hc =>
            obtain ⟨w, ws, rfl, hcs⟩ := ih h
            refine ⟨w, ws, rfl, ?_⟩
            rw [hcs, hc, literal, wrap, rest]
            simp only [List.append_assoc, List.cons_append,
              List.nil_append]

/-- Only rendered lists lex. -/
theorem eq_render_of_lex {q sep : α} {text : List α}
    {vs : List (List α)} (h : lex q sep text = some vs) :
    text = render q sep vs :=
  left_of_lexFrom text h

/-- A text lexes as `vs` exactly when it is `vs` rendered. -/
theorem lex_eq_some_iff {q sep : α} (hsep : sep ≠ q) {text : List α}
    {vs : List (List α)} :
    lex q sep text = some vs ↔ text = render q sep vs :=
  ⟨eq_render_of_lex, fun h => by rw [h, lex_render hsep]⟩

-- ===================================================== wrapping alone

/-- Wrapping is rendering exactly on quote-free values. -/
theorem join_wrap_eq_render_iff {q sep : α} (vs : List (List α)) :
    List.intercalate [sep] (vs.map (wrap q)) = render q sep vs
      ↔ ∀ v ∈ vs, q ∉ v := by
  constructor
  · intro h v hv
    -- doubling never shortens a piece
    have hle : ∀ v ∈ vs, (wrap q v).length ≤ (literal q v).length := by
      intro v _
      simp only [literal, wrap, List.length_cons, List.length_append,
        length_double]
      omega
    have heq := length_eq_of_intercalate_eq hle h v hv
    simp only [literal, wrap, List.length_cons, List.length_append,
      length_double, List.length_nil] at heq
    exact List.count_eq_zero.mp (by omega)
  · intro h
    rw [render]
    refine congrArg _ (List.map_congr_left fun v hv => ?_)
    rw [literal, double_of_notMem (h v hv)]

/-- Wrapped values read back as themselves exactly when none of them
contains a quote. -/
theorem lex_wrapped_iff {q sep : α} (hsep : sep ≠ q)
    (vs : List (List α)) :
    lex q sep (List.intercalate [sep] (vs.map (wrap q))) = some vs
      ↔ ∀ v ∈ vs, q ∉ v := by
  rw [lex_eq_some_iff hsep, join_wrap_eq_render_iff]

end SkillBuddy.Lib.Quoted
