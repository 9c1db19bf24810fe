/-
`System.Text.RegularExpressions`: what the constructor makes of a
pattern.

The pattern is read in two steps. `lex` is a transducer from characters
to tokens; `parse` keeps the groups that are open on a stack, with their
alternatives and what has been put together so far, and applies a
quantifier to the unit in front of it. Both keep to the constructs that
are modelled (literals, `.`, `^`, `$`, `|`, plain character classes,
greedy `*`, `+`, `?`, non-capturing groups and lookaheads): `none` says
that a pattern uses another one, such as a lazy quantifier or a capturing
group that gets closed. No options are set, so white space and `#` are
literals, and a brace that is no quantifier is one too.
-/
import SkillBuddy.DotNet.Text
import SkillBuddy.Lib.Regex

namespace SkillBuddy.DotNet

open Lib (Regex)

-- ================================================================ tokens

/-- The errors of a `RegexParseException` met here. -/
inductive RegexParseError where
  | insufficientOpeningParentheses
  | insufficientClosingParentheses
  | quantifierAfterNothing
  | nestedQuantifiersNotParenthesized
  | unterminatedBracket
  | unescapedEndingBackslash
  deriving DecidableEq, Repr

/-- The groups. -/
inductive GroupKind where
  | capturing
  | grouping
  | ahead (positive : Bool)
  deriving DecidableEq, Repr

/-- The greedy quantifiers. -/
inductive Quantifier where
  | star
  | plus
  | optional
  deriving DecidableEq, Repr

/-- The tokens of a pattern. -/
inductive RegexToken where
  | letter (negated : Bool) (letters : Str)
  | start
  | finish
  | bar
  | opening (kind : GroupKind)
  | closing
  | quantifier (quantifier : Quantifier)
  | bad (error : RegexParseError)
  | outside
  deriving DecidableEq, Repr

/-- Where the lexer is: behind a backslash, behind `(`, behind `(?`,
behind `{`, behind `[`, or in a class. -/
inductive LexMode where
  | plain
  | escape
  | group
  | extension
  | brace
  | bracket
  | set (negated first : Bool) (letters : Str)
  deriving DecidableEq, Repr

/-- The characters with a role in a pattern. -/
def specials : Str := str "\\*+?|\x7b[()^$."

/-- A character outside of classes, groups' heads and escapes. -/
def lexPlain (c : CodeUnit) : List RegexToken × LexMode :=
  if c = unit '\\' then ([], .escape)
  else if c = unit '[' then ([], .bracket)
  else if c = unit '(' then ([], .group)
  else if c = unit '{' then ([], .brace)
  else if c = unit ')' then ([.closing], .plain)
  else if c = unit '|' then ([.bar], .plain)
  else if c = unit '^' then ([.start], .plain)
  else if c = unit '$' then ([.finish], .plain)
  else if c = unit '.' then ([.letter true [unit '\n']], .plain)
  else if c = unit '*' then ([.quantifier .star], .plain)
  else if c = unit '+' then ([.quantifier .plus], .plain)
  else if c = unit '?' then ([.quantifier .optional], .plain)
  else ([.letter false [c]], .plain)

/-- A character of a class; ranges, escapes and `[:` are not modelled, and
a bracket that comes first is a letter. -/
def lexSet (negated first : Bool) (letters : Str) (c : CodeUnit) :
    List RegexToken × LexMode :=
  if c = unit ']' ∧ first = false then
    ([.letter negated letters.reverse], .plain)
  else if c = unit '\\' ∨ c = unit '-'
      ∨ c = unit ':' ∧ letters.head? = some (unit '[') then
    ([.outside], .plain)
  else ([], .set negated false (c :: letters))

/-- One character. -/
def lexStep (mode : LexMode) (c : CodeUnit) : List RegexToken × LexMode :=
  match mode with
  | .plain => lexPlain c
  | .escape =>
      if c ∈ specials then ([.letter false [c]], .plain)
      else ([.outside], .plain)
  | .group =>
      if c = unit '?' then ([], .extension)
      else (.opening .capturing :: (lexPlain c).1, (lexPlain c).2)
  | .extension =>
      if c = unit ':' then ([.opening .grouping], .plain)
      else if c = unit '=' then ([.opening (.ahead true)], .plain)
      else if c = unit '!' then ([.opening (.ahead false)], .plain)
      else ([.outside], .plain)
  | .brace =>
      -- a digit may begin a quantifier
      if 48 ≤ c.toNat ∧ c.toNat ≤ 57 then ([.outside], .plain)
      else (.letter false [unit '{'] :: (lexPlain c).1, (lexPlain c).2)
  | .bracket =>
      if c = unit '^' then ([], .set true true [])
      else lexSet false true [] c
  | .set negated first letters => lexSet negated first letters c

/-- The end of the pattern. -/
def lexEnd : LexMode → List RegexToken
  | .plain => []
  | .escape => [.bad .unescapedEndingBackslash]
  | .group => [.opening .capturing]
  | .extension => [.outside]
  | .brace => [.letter false [unit '{']]
  | .bracket | .set _ _ _ => [.bad .unterminatedBracket]

/-- The tokens of a pattern. -/
def lex : LexMode → Str → List RegexToken
  | mode, [] => lexEnd mode
  | mode, c :: cs => (lexStep mode c).1 ++ lex (lexStep mode c).2 cs

-- ================================================================ groups

/-- Expressions one behind the other. -/
def seqAll : List (Regex CodeUnit) → Regex CodeUnit
  | [] => .empty
  | [r] => r
  | r :: rs => .seq r (seqAll rs)

/-- The inside of a group that is open: the alternatives before the last
`|` and the units behind it, last first. -/
structure Level where
  branches : List (Regex CodeUnit) := []
  units : List (Regex CodeUnit) := []

/-- One more unit. -/
def Level.add (level : Level) (r : Regex CodeUnit) : Level :=
  { level with units := r :: level.units }

/-- A new alternative. -/
def Level.branch (level : Level) : Level where
  branches := seqAll level.units.reverse :: level.branches

/-- The expression inside the group. -/
def Level.body (level : Level) : Regex CodeUnit :=
  level.branches.foldl (fun right left => .alt left right)
    (seqAll level.units.reverse)

/-- A quantified unit. -/
def Quantifier.apply (r : Regex CodeUnit) : Quantifier → Regex CodeUnit
  | .star => .star r
  | .plus => .seq r (.star r)
  | .optional => .alt r .empty

/-- The last unit, quantified. -/
def Level.quantify (level : Level) (quantifier : Quantifier) : Level :=
  match level.units with
  | [] => level
  | r :: rs => { level with units := quantifier.apply r :: rs }

/-- What stands in front of a quantifier. -/
inductive Last where
  | nothing
  | unit
  | quantified
  deriving DecidableEq, Repr

/-- The groups that are open outside of `level`, innermost first, and the
tokens that are left. -/
def parse : List (GroupKind × Level) → Level → Last → List RegexToken →
    Option (Except RegexParseError (Regex CodeUnit))
  | [], level, _, [] => some (.ok level.body)
  | _ :: _, _, _, [] => some (.error .insufficientClosingParentheses)
  | outer, level, last, token :: tokens =>
      match token with
      | .letter negated letters =>
          parse outer (level.add (.letter negated letters)) .unit tokens
      | .start => parse outer (level.add .start) .unit tokens
      | .finish =>
          parse outer (level.add (.finish (unit '\n'))) .unit tokens
      | .bar => parse outer level.branch .nothing tokens
      | .opening kind => parse ((kind, level) :: outer) {} .nothing tokens
      | .closing =>
          match outer with
          | [] => some (.error .insufficientOpeningParentheses)
          | (.capturing, _) :: _ => none
          | (.grouping, above) :: outer =>
              parse outer (above.add level.body) .unit tokens
          | (.ahead positive, above) :: outer =>
              parse outer (above.add (.ahead positive level.body)) .unit
                tokens
      | .quantifier quantifier =>
          match last with
          | .nothing => some (.error .quantifierAfterNothing)
          | .unit =>
              parse outer (level.quantify quantifier) .quantified tokens
          | .quantified =>
              -- a question mark here makes the quantifier lazy
              if quantifier = .optional then none
              else some (.error .nestedQuantifiersNotParenthesized)
      | .bad error => some (.error error)
      | .outside => none

/-- `new Regex(pattern)`. -/
def newRegex (pattern : Str) :
    Option (Except RegexParseError (Regex CodeUnit)) :=
  parse [] {} .nothing (lex .plain pattern)

example : newRegex (str "a(?:b|c+)?$")
    = some (.ok (.seq (.letter false [unit 'a']) (.seq
        (.alt (.alt (.letter false [unit 'b']) (.seq
          (.letter false [unit 'c']) (.star (.letter false [unit 'c']))))
          .empty) (.finish (unit '\n'))))) := by
  rfl

end SkillBuddy.DotNet
