/-!
Bisection: where the entries of a list that satisfy a test end, when they all stand in front.
-/

namespace CsrMap

variable {α : Type}

/-- The search between `lo` and `hi`, which enclose the answer. -/
def bisectFrom (xs : Array α) (test : α → Bool) (lo hi : Nat) : Nat :=
  if lo < hi then
    let mid := (lo + hi) / 2
    match xs[mid]? with
    | none => lo
    | some x => if test x then bisectFrom xs test (mid + 1) hi else bisectFrom xs test lo mid
  else lo
termination_by hi - lo

/-- The number of leading entries that pass, if no entry passes after one that does not. -/
def bisect (xs : List α) (test : α → Bool) : Nat :=
  bisectFrom xs.toArray test 0 xs.length

end CsrMap
