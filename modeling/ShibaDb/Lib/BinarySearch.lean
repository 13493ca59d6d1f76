/-
Binary search for the first index at which a predicate that is true on an
initial segment becomes false.
-/
import Mathlib

namespace BinarySearch

/-- Halve `[low, high)` until it is empty; one pass uses one unit of fuel. -/
def partitionPoint (before : Nat → Bool) : Nat → Nat → Nat → Nat
  | 0, low, _ => low
  | fuel + 1, low, high =>
    if low < high then
      let middle := low + (high - low) / 2
      if before middle then partitionPoint before fuel (middle + 1) high
      else partitionPoint before fuel low middle
    else low

/-- With a boundary `point` inside the interval and enough fuel the search
returns it. -/
lemma partitionPoint_eq {before : Nat → Bool} {point : Nat}
    (htrue : ∀ index < point, before index = true) (fuel low high : Nat)
    (hfalse : ∀ index, point ≤ index → index < high → before index = false)
    (hlow : low ≤ point) (hhigh : point ≤ high) (hfuel : high - low ≤ fuel) :
    partitionPoint before fuel low high = point := by
  induction fuel generalizing low high with
  | zero =>
    simp only [partitionPoint]
    omega
  | succ fuel ih =>
    simp only [partitionPoint]
    split
    · by_cases hmiddle : low + (high - low) / 2 < point
      · rw [if_pos (htrue _ hmiddle)]
        exact ih _ _ hfalse (by omega) hhigh (by omega)
      · have hstop : before (low + (high - low) / 2) = false :=
          hfalse _ (by omega) (by omega)
        rw [if_neg (by simp [hstop])]
        exact ih _ _ (fun index hpoint hindex => hfalse index hpoint (by omega))
          hlow (by omega) (by omega)
    · omega

end BinarySearch
