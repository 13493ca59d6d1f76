/-
The byte order of strings: bytes are linearly ordered, and a `memcmp` over the
common length followed by a length comparison decides the lexicographic order.
-/
import Mathlib

namespace ByteOrder

instance byteLinearOrder : LinearOrder UInt8 where
  le_refl _ := UInt8.le_refl _
  le_trans _ _ _ := UInt8.le_trans
  le_antisymm _ _ := UInt8.le_antisymm
  le_total := UInt8.le_total
  lt_iff_le_not_ge a b := by
    simp only [UInt8.le_iff_toNat_le, UInt8.lt_iff_toNat_lt]
    omega
  toDecidableLE := inferInstance
  toDecidableLT := inferInstance

/-- `memcmp` of two strings over their common length. -/
def memcmp : List UInt8 → List UInt8 → Int
  | left :: lefts, right :: rights =>
    if left < right then -1 else if right < left then 1 else memcmp lefts rights
  | _, _ => 0

/-- Common prefix first, then the shorter string is the smaller one. -/
def compare (left right : List UInt8) : Int :=
  let compared := memcmp left right
  if compared ≠ 0 then compared
  else if left.length < right.length then -1
  else if right.length < left.length then 1
  else 0

lemma compare_cons (a b : UInt8) (left right : List UInt8) : compare (a :: left) (b :: right) =
      if a < b then -1 else if b < a then 1 else compare left right := by
  simp only [compare, memcmp, List.length_cons, Nat.add_lt_add_iff_right]
  split
  · simp
  · split <;> simp

lemma compare_lt_zero_iff (left right : List UInt8) : compare left right < 0 ↔ left < right := by
  induction left generalizing right with
  | nil =>
    cases right with
    | nil => simp [compare, memcmp]
    | cons b right => simp [compare, memcmp]
  | cons a left ih =>
    cases right with
    | nil => simp [compare, memcmp]
    | cons b right =>
      rw [compare_cons, List.cons_lt_cons_iff, ← ih right]
      rcases lt_trichotomy a b with hab | rfl | hba
      · simp [hab]
      · simp
      · simp [hba, not_lt_of_gt hba, ne_of_gt hba]

lemma compare_eq_zero_iff (left right : List UInt8) : compare left right = 0 ↔ left = right := by
  induction left generalizing right with
  | nil =>
    cases right with
    | nil => simp [compare, memcmp]
    | cons b right => simp [compare, memcmp]
  | cons a left ih =>
    cases right with
    | nil => simp [compare, memcmp]
    | cons b right =>
      rw [compare_cons, List.cons.injEq, ← ih right]
      rcases lt_trichotomy a b with hab | rfl | hba
      · simp [hab, ne_of_lt hab]
      · simp
      · simp [hba, not_lt_of_gt hba, ne_of_gt hba]

end ByteOrder
