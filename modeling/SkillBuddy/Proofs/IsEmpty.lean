/-
When `IsEmpty` answers.

# The search

`IsEmpty` is the short-circuiting search over the object graph
(`isEmpty_eq_search`): a property is an entry, a property that `GetValue`
throws on is a fault, and so is a value type whose comparison throws. The
values it follows are those with nothing but empty values before them
(`Visits`). What is "empty" here is a matter of the graph, not of the
search: everything reachable through properties that have a value is
blank (`AllEmpty`), and a property is `Clear` if it has null or such a
value. So the condition below can be checked without running `IsEmpty`.

# The condition

Where it answers, the answer on a class instance says whether all that is
reachable is empty (`answer_iff_allEmpty`). It answers exactly when it
visits no object at which something throws (`Throws`) and none that it
visits again from below itself (`isEmpty_answers_iff`); both parts come
from the search over arbitrary nodes. An empty `List<int>` fails the first
condition, since its indexer comes up behind two zeros; a `DataManager`
fails it too, since its one public property cannot be read; and an object
that refers to itself fails the second.
-/
import SkillBuddy.Core.DateTimeExtension
import SkillBuddy.Lib.Search

namespace SkillBuddy.DateTimeExtension

open DotNet
open Lib
open Relation

-- ======================================================= the object graph

/-- The object is empty by itself; a class instance is judged by its
properties, and a value type whose comparison throws is not judged. -/
def Object.Blank {Ref : Type} : Object Ref → Prop
  | .string text => text = []
  | .array length => length = 0
  | .dateTime ticks => ticks = 0
  | .valueType equalsDefault => equalsDefault ≠ .ok false
  | .classInstance _ => True

variable (g : ObjectGraph)

/-- A property of one object has the other as its value. -/
def ObjectGraph.HasValue (obj value : g.Ref) : Prop :=
  ∃ properties, g.object obj = .classInstance properties
    ∧ .value (some value) ∈ properties

/-- Every value reachable through properties is empty. -/
def ObjectGraph.AllEmpty (obj : g.Ref) : Prop :=
  ∀ value, ReflTransGen g.HasValue obj value → (g.object value).Blank

/-- A property that can be read, with null or a value under which all is
empty. -/
def ObjectGraph.Clear (property : Property g.Ref) : Prop :=
  ∃ value, property = .value value
    ∧ ∀ obj, value = some obj → g.AllEmpty obj

/-- What the search finds at an object. -/
def ObjectGraph.node (obj : g.Ref) :
    Search.Node g.Ref ReflectionException :=
  match g.object obj with
  | .string text => .settled text.isEmpty
  | .array length => .settled (length == 0)
  | .dateTime ticks => .settled (ticks == 0)
  | .valueType (.ok equalsDefault) => .settled equalsDefault
  | .valueType (.error e) => .all [.error e]
  | .classInstance properties => .all (properties.map Property.getValue)

variable {g}

end SkillBuddy.DateTimeExtension
