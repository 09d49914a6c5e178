import MetricPipeline.Binary64.Arithmetic

/-! Running least, greatest, sum and count of values. The sum is rounded at each value, in the order in
which the values come. -/

namespace MetricPipeline

structure Summary where
  minimum : Binary64
  maximum : Binary64
  sum : Binary64
  count : Nat
deriving DecidableEq

namespace Summary

def empty : Summary := ⟨.infinite false, .infinite true, .zero false, 0⟩

def add (summary : Summary) (value : Binary64) : Summary where
  minimum := .min summary.minimum value
  maximum := .max summary.maximum value
  sum := summary.sum + value
  count := summary.count + 1

end Summary
end MetricPipeline
