import Std.Data.HashMap
import MetricPipeline.Binary64.Arithmetic

/-! Exact histograms: the distinct values in the order they first came, each with the number of times it
came. The place of a value is looked up in an index; minus zero has a place of its own beside it. -/

namespace MetricPipeline

structure Histogram where
  values : Array Binary64
  counts : Array Nat
  index : Std.HashMap Binary64 Nat
  negativeZero : Option Nat

namespace Histogram

def empty : Histogram := ⟨#[], #[], ∅, none⟩

def size (histogram : Histogram) : Nat := histogram.values.size

def placeOf? (histogram : Histogram) (value : Binary64) : Option Nat :=
  if value = .zero true then histogram.negativeZero else histogram.index[value]?

def addNew (histogram : Histogram) (value : Binary64) : Histogram where
  values := histogram.values.push value
  counts := histogram.counts.push 1
  index := if value = .zero true then histogram.index else histogram.index.insert value histogram.size
  negativeZero := if value = .zero true then some histogram.size else histogram.negativeZero

def add (histogram : Histogram) (value : Binary64) : Histogram :=
  match histogram.placeOf? value with
  | some place => { histogram with counts := histogram.counts.modify place (· + 1) }
  | none => histogram.addNew value

/-- A position given as a double: its whole part, counted from the end when negative, and held within a
list of the given length. NaN is the first position. -/
def positionOf (x : Binary64) (length : Nat) : Nat :=
  match x with
  | .nan => 0
  | .infinite negative => if negative then 0 else length
  | .finite _ _ =>
    let t := x.truncate?.getD 0
    if t < 0 then (length + t).toNat else min t.toNat length

end Histogram
end MetricPipeline
