/-
Lists in lexicographic order and the fronts they start with.  What lies between two
lists with one front has that front too.  Where no front is the beginning of another,
the fronts are ordered as the lists are, so along a sorted list each front fills one
block, and dropping repeated neighbours leaves every front once.
-/
import Mathlib

namespace Fronts

open List

variable {α : Type} [LinearOrder α]

lemma front_of_between {front low middle high : List α} (hlow : front <+: low)
    (hhigh : front <+: high) (hle : low ≤ middle) (hge : middle ≤ high) : front <+: middle := by
  obtain ⟨lowRest, rfl⟩ := hlow
  obtain ⟨highRest, rfl⟩ := hhigh
  rw [← not_lt] at hle hge
  induction front generalizing middle with
  | nil => exact nil_prefix
  | cons item front ih =>
    cases middle with
    | nil => exact absurd (nil_lt_cons _ _) hle
    | cons head middle =>
      rw [cons_append, cons_lt_cons_iff, not_or, not_and] at hle hge
      have hhead : item = head := le_antisymm (not_lt.mp hle.1) (not_lt.mp hge.1)
      subst hhead
      rw [cons_prefix_cons]
      exact ⟨rfl, ih (hle.2 rfl) (hge.2 rfl)⟩

lemma append_lt_append_iff (front : List α) {left right : List α} :
    front ++ left < front ++ right ↔ left < right := by
  induction front with
  | nil => rfl
  | cons item front ih => rw [cons_append, cons_append, cons_lt_cons_iff, ih]; simp

/-- Two fronts of which neither begins the other are ordered as what they begin. -/
lemma front_lt {front front' left right : List α} (hleft : front <+: left)
    (hright : front' <+: right) (hfront : ¬front <+: front') (hfront' : ¬front' <+: front)
    (hlt : left < right) : front < front' := by
  obtain ⟨leftRest, rfl⟩ := hleft
  obtain ⟨rightRest, rfl⟩ := hright
  induction front generalizing front' with
  | nil => exact absurd nil_prefix hfront
  | cons item front ih =>
    cases front' with
    | nil => exact absurd nil_prefix hfront'
    | cons item' front' =>
      rw [cons_append, cons_append, cons_lt_cons_iff] at hlt
      rw [cons_lt_cons_iff]
      rcases hlt with hhead | ⟨rfl, hlt⟩
      · exact .inl hhead
      · rw [cons_prefix_cons] at hfront hfront'
        exact .inr ⟨rfl, ih (fun h => hfront ⟨rfl, h⟩) (fun h => hfront' ⟨rfl, h⟩) hlt⟩

section Blocks

variable {β : Type} {items : List β}

/-- Along a sorted list the elements of a downward closed set come first. -/
lemma takeWhile_eq_filter {before : β → β → Prop} {keep : β → Bool}
    (hsorted : items.Pairwise before)
    (hdown : ∀ left ∈ items, ∀ right ∈ items, before left right → keep right = true →
      keep left = true) : items.takeWhile keep = items.filter keep ∧
      items.dropWhile keep = items.filter fun item => !keep item := by
  induction items with
  | nil => exact ⟨rfl, rfl⟩
  | cons head items ih =>
    rw [pairwise_cons] at hsorted
    by_cases hhead : keep head = true
    · obtain ⟨htake, hdrop⟩ := ih hsorted.2 fun left hleft right hright =>
        hdown left (mem_cons_of_mem _ hleft) right (mem_cons_of_mem _ hright)
      rw [takeWhile_cons_of_pos hhead, filter_cons_of_pos hhead,
        dropWhile_cons_of_pos hhead, filter_cons_of_neg (by simp [hhead]), htake, hdrop]
      exact ⟨rfl, rfl⟩
    · have hnone : ∀ item ∈ items, ¬keep item = true := fun item hitem hkeep =>
        hhead (hdown head mem_cons_self item (mem_cons_of_mem _ hitem)
          (hsorted.1 item hitem) hkeep)
      rw [takeWhile_cons_of_neg hhead, filter_cons_of_neg hhead,
        dropWhile_cons_of_neg hhead, filter_cons_of_pos (by simp [hhead]),
        List.filter_eq_nil_iff.mpr hnone, List.filter_eq_self.mpr (by simpa using hnone)]
      exact ⟨rfl, rfl⟩

lemma mem_destutter'_ne [DecidableEq β] {item first : β} :
    item ∈ items.destutter' (· ≠ ·) first ↔ item = first ∨ item ∈ items := by
  induction items generalizing first with
  | nil => simp
  | cons head items ih =>
    by_cases hne : first ≠ head
    · rw [List.destutter'_cons_pos _ hne, mem_cons, ih, mem_cons]
    · rw [List.destutter'_cons_neg _ hne, ih, mem_cons, not_not.mp hne]
      tauto

/-- Dropping repeated neighbours loses no element. -/
lemma mem_destutter_ne [DecidableEq β] {item : β} :
    item ∈ items.destutter (· ≠ ·) ↔ item ∈ items := by
  cases items with
  | nil => simp
  | cons head items => rw [destutter_cons', mem_destutter'_ne, mem_cons]

/-- Dropping repeated neighbours of a sorted list leaves every element once. -/
lemma destutter_ne_nodup [PartialOrder β] [DecidableEq β] (hsorted : items.Pairwise (· ≤ ·)) :
    (items.destutter (· ≠ ·)).Nodup := by
  have hle : (items.destutter (· ≠ ·)).IsChain (· ≤ ·) :=
    (hsorted.sublist (destutter_sublist _ items)).isChain
  have hne := isChain_destutter (· ≠ ·) items
  have hlt : (items.destutter (· ≠ ·)).IsChain (· < ·) := by
    rw [isChain_iff_getElem] at hle hne ⊢
    intro i hi
    exact lt_of_le_of_ne (hle i hi) (hne i hi)
  exact hlt.pairwise.imp fun h => h.ne

end Blocks

end Fronts
