import Dataflow.Value.Text
/-!
The settings of a node: values under names, each handler reading the ones it knows.

A setting of the wrong type is as good as absent, except that `number?` takes whatever stands for a number.
-/

namespace Dataflow

abbrev Config := Dict Value

namespace Config

def text? (c : Config) (key : String) : Option String := (c.get? key).bind Value.text?

def bool? (c : Config) (key : String) : Option Bool := (c.get? key).bind Value.bool?

def number? (c : Config) (key : String) : Option Number := (c.get? key).bind Value.toNumber?

/-- A number as a count: whole and not negative, and held below `2^64`. -/
def count? (c : Config) (key : String) : Option Nat :=
  (c.number? key).bind fun x =>
    if x.isIntegral && Number.zero.le x then some x.toCount else none

/-- A text setting, or the given text in its place. -/
def textD (c : Config) (key default : String) : String := (c.text? key).getD default

theorem textD_of_text? {c : Config} {key default s : String} (h : c.text? key = some s) : c.textD key default = s := by
  rw [textD, h, Option.getD_some]

/-- Equality as users see it: numbers are compared as numbers. -/
def same (c d : Config) : Bool := Value.sameEntries c.entries d.entries

end Config

end Dataflow
