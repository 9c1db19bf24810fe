/-
`SkillBuddy.Core.DateTimeExtension.IsEmpty`, over a graph of objects.

An object is what `IsEmpty` asks about it: the text of a string, the
length of an array, the ticks of a `DateTime`, whether another value type
equals its default, and for an instance of a class its public properties
in the order `GetProperties` lists them. Properties refer to objects of
the graph, shared and cyclic references included.

# What throws

`GetProperties` lists every public property, whether or not it can be
read, and `GetValue(obj)` throws on those that cannot: on an indexer,
which needs index arguments; on a property that has no `get`
(`DataManager.Connection` is one); on a property whose getter throws; and
on one whose type is by-ref-like, a `Span<T>` say. A value type is
compared by its own `Equals` with an instance that its own constructor
may have made, and both are code that may throw.

# Depth

The first argument of `isEmpty` bounds the depth of its calls; `none`
says that the bound is used up. What the function returns is what it
returns at every depth from some depth on.
-/
import SkillBuddy.DotNet.Text

namespace SkillBuddy.DateTimeExtension

open DotNet

/-- The exceptions of `GetValue`, and those of a value type's own
`Equals`. -/
inductive ReflectionException where
  | targetParameterCount
  | argument
  | targetInvocation
  | notSupported
  | ofEquals
  deriving DecidableEq, Repr

/-- A public instance property: one that `GetValue` throws on, or the
value it has. -/
inductive Property (Ref : Type) where
  | indexer
  | setOnly
  | throwing
  | byRefLike
  | value (value : Option Ref)
  deriving DecidableEq, Repr

/-- `prop.GetValue(obj)`. -/
def Property.getValue {Ref : Type} :
    Property Ref → Except ReflectionException (Option Ref)
  | .indexer => .error .targetParameterCount
  | .setOnly => .error .argument
  | .throwing => .error .targetInvocation
  | .byRefLike => .error .notSupported
  | .value target => .ok target

/-- An object; of a value type what
`obj.Equals(Activator.CreateInstance(type))` returns or throws. -/
inductive Object (Ref : Type) where
  | string (text : Str)
  | array (length : Nat)
  | dateTime (ticks : Nat)
  | valueType (equalsDefault : Except ReflectionException Bool)
  | classInstance (properties : List (Property Ref))

/-- Finitely many objects that refer to each other. -/
structure ObjectGraph where
  size : Nat
  object : Fin size → Object (Fin size)

/-- A non-null reference into the graph. -/
abbrev ObjectGraph.Ref (g : ObjectGraph) : Type := Fin g.size

/-- The loop over the properties, with the calls it makes as `visit`. -/
def propertiesEmpty {Ref : Type}
    (visit : Ref → Option (Except ReflectionException Bool)) :
    List (Property Ref) → Option (Except ReflectionException Bool)
  | [] => some (.ok true)
  | property :: properties =>
      match property.getValue with
      | .error e => some (.error e)
      | .ok none => propertiesEmpty visit properties
      | .ok (some value) =>
          match visit value with
          | some (.ok true) => propertiesEmpty visit properties
          | some (.ok false) => some (.ok false)
          | some (.error e) => some (.error e)
          | none => none

/-- `obj.IsEmpty()`. -/
def isEmpty (g : ObjectGraph) :
    Nat → Option g.Ref → Option (Except ReflectionException Bool)
  | 0, _ => none
  | _ + 1, none => some (.ok true)
  | depth + 1, some obj =>
      match g.object obj with
      | .string text => some (.ok text.isEmpty)
      | .array length => some (.ok (length == 0))
      | .dateTime ticks => some (.ok (ticks == 0))
      | .valueType equalsDefault => some equalsDefault
      | .classInstance properties =>
          propertiesEmpty (fun value => isEmpty g depth (some value))
            properties

end SkillBuddy.DateTimeExtension
