/-
Cutting a list of sizes in two parts that both fit a room.  Where no size is more
than half the room and the total exceeds the room by no more than that half, a cut
exists, with or without an item taken out at the cut.
-/
import Mathlib

namespace Balance

open List

variable {sizes : List Nat} {room half : Nat}

/-- The item at which the running total reaches `goal`. -/
lemma exists_crossing (goal : Nat) (hpos : 0 < goal) (hgoal : goal ≤ sizes.sum) :
    ∃ left item right, sizes = left ++ item :: right ∧ left.sum < goal ∧
      goal ≤ left.sum + item := by
  induction sizes generalizing goal with
  | nil =>
    rw [sum_nil] at hgoal
    omega
  | cons size sizes ih =>
    rw [sum_cons] at hgoal
    by_cases hfirst : goal ≤ size
    · exact ⟨[], size, sizes, rfl, by simpa using hpos, by simpa using hfirst⟩
    · obtain ⟨left, item, right, rfl, hlow, hhigh⟩ :=
        ih (goal - size) (by omega) (by omega)
      refine ⟨size :: left, item, right, rfl, ?_, ?_⟩
      · rw [sum_cons]
        omega
      · rw [sum_cons]
        omega

/-- The sizes to cut: none above half the room, and too many for one room by at most
half of it. -/
structure Overfull (room half : Nat) (sizes : List Nat) : Prop where
  halves : 2 * half ≤ room
  each : ∀ size ∈ sizes, size ≤ half
  exceeds : room < sizes.sum
  total : sizes.sum ≤ room + half

/-- Where the running total reaches what one room cannot hold, at most half a room
lies before. -/
lemma Overfull.crossing (hsizes : Overfull room half sizes) :
    ∃ left item right, sizes = left ++ item :: right ∧ left.sum < half ∧ item ≤ half ∧
      right.sum ≤ room ∧ right ≠ [] := by
  obtain ⟨hhalves, heach, hover, htotal⟩ := hsizes
  obtain ⟨left, item, right, rfl, hlow, hhigh⟩ :=
    exists_crossing (sizes.sum - room) (by omega) (Nat.sub_le sizes.sum room)
  have hitem : item ≤ half := heach item (by simp)
  rw [sum_append, sum_cons] at hover htotal hlow hhigh
  refine ⟨left, item, right, rfl, by omega, hitem, by omega, ?_⟩
  rintro rfl
  rw [sum_nil] at hover
  omega

/-- A cut into two parts that fit. -/
lemma Overfull.exists_cut (hsizes : Overfull room half sizes) :
    ∃ left right, sizes = left ++ right ∧ left ≠ [] ∧ right ≠ [] ∧ left.sum ≤ room ∧
      right.sum ≤ room := by
  have hhalves := hsizes.halves
  obtain ⟨left, item, right, rfl, hleft, hitem, hright, hne⟩ := hsizes.crossing
  refine ⟨left ++ [item], right, by simp, by simp, hne, ?_, hright⟩
  rw [sum_append, sum_singleton]
  omega

/-- A cut into two parts that fit, with the item between them taken out. -/
lemma Overfull.exists_promotion (hsizes : Overfull room half sizes) :
    ∃ left item right, sizes = left ++ item :: right ∧ left ≠ [] ∧ right ≠ [] ∧
      left.sum ≤ room ∧ right.sum ≤ room := by
  have hhalves := hsizes.halves
  have hover := hsizes.exceeds
  have heach := hsizes.each
  obtain ⟨left, item, right, rfl, hleft, hitem, hright, hne⟩ := hsizes.crossing
  cases left with
  | cons first left => exact ⟨first :: left, item, right, rfl, by simp, hne, by omega, hright⟩
  | nil =>
    -- the first item alone reaches the goal, so the second one is taken out
    obtain ⟨second, rest, rfl⟩ := exists_cons_of_ne_nil hne
    have hsecond : second ≤ half := heach second (by simp)
    rw [nil_append, sum_cons, sum_cons] at hover
    rw [sum_cons] at hright
    refine ⟨[item], second, rest, rfl, by simp, ?_, ?_, by omega⟩
    · rintro rfl
      rw [sum_nil] at hover
      omega
    · rw [sum_singleton]
      omega

end Balance
