/-
Edits of a list at the position where a known front part ends, and removal of
an item from a list of items with distinct keys.
-/
import Mathlib

namespace ListEdit

open List

variable {α : Type}

lemma insertIdx_length (front back : List α) (item : α) :
    (front ++ back).insertIdx front.length item = front ++ item :: back := by
  induction front with
  | nil => rfl
  | cons head front ih => simpa using ih

lemma modify_length (front back : List α) (item : α) (change : α → α) :
    (front ++ item :: back).modify front.length change = front ++ change item :: back := by
  induction front with
  | nil => rfl
  | cons head front ih => simpa using ih

lemma modify_map {β : Type} {f : α → β} (edit : β → β) (edit' : α → α)
    (hedit : ∀ item, edit (f item) = f (edit' item)) (items : List α) (index : Nat) :
    (items.map f).modify index edit = (items.modify index edit').map f := by
  induction items generalizing index with
  | nil => simp
  | cons item items ih => cases index <;> simp [hedit, ih]

lemma eraseIdx_length (front back : List α) (item : α) :
    (front ++ item :: back).eraseIdx front.length = front ++ back := by
  induction front with
  | nil => rfl
  | cons head front ih => simpa using ih

section Keyed

variable {κ : Type} [DecidableEq κ] (key : α → κ) {items : List α}

/-- Removing the item of one key does not change what other keys find. -/
lemma find?_eraseP_of_ne {removed wanted : κ} (hne : wanted ≠ removed) :
    (items.eraseP fun item => key item = removed).find? (fun item => key item = wanted) =
      items.find? fun item => key item = wanted := by
  induction items with
  | nil => rfl
  | cons first items ih =>
    by_cases hfirst : key first = removed
    · have hother : key first ≠ wanted := fun h => hne (h.symm.trans hfirst)
      rw [eraseP_cons_of_pos (by simpa using hfirst),
        List.find?_cons_of_neg (by simpa using hother)]
    · rw [eraseP_cons_of_neg (by simpa using hfirst), List.find?_cons, List.find?_cons, ih]

lemma mem_eraseP_of_nodup {removed : κ} {item : α} (hnodup : (items.map key).Nodup)
    (hitem : item ∈ items.eraseP fun item => key item = removed) :
    item ∈ items ∧ key item ≠ removed := by
  refine ⟨mem_of_mem_eraseP hitem, ?_⟩
  induction items with
  | nil => simp at hitem
  | cons first items ih =>
    rw [map_cons, nodup_cons] at hnodup
    by_cases hfirst : key first = removed
    · rw [eraseP_cons_of_pos (by simpa using hfirst)] at hitem
      intro heq
      exact hnodup.1 (List.mem_map.mpr ⟨item, hitem, heq.trans hfirst.symm⟩)
    · rw [eraseP_cons_of_neg (by simpa using hfirst)] at hitem
      rcases List.mem_cons.mp hitem with rfl | hitem
      · exact hfirst
      · exact ih hnodup.2 hitem

lemma eraseP_nodup (removed : κ) (hnodup : (items.map key).Nodup) :
    ((items.eraseP fun item => key item = removed).map key).Nodup :=
  hnodup.sublist (List.eraseP_sublist.map _)

end Keyed

end ListEdit
