/-
Sorted rows as a finite map: writing and cutting one row in the middle of a
list of rows changes the map at that row's key and nowhere else.
-/
import ShibaDb.Lib.SepTree

namespace SepTree

open List

variable {K V : Type} {key : K} {value : V} {before after : List (K × V)} {row : K × V}

/-- `after` is `before` with the row of `key` written, replacing an old one. -/
def PutAt (key : K) (value : V) (before after : List (K × V)) : Prop :=
  ∃ left old right, before = left ++ (old ++ right) ∧
    after = left ++ (key, value) :: right ∧ (old = [] ∨ ∃ value', old = [(key, value')])

/-- `after` is `before` without the row of `key`. -/
def CutAt (key : K) (before after : List (K × V)) : Prop :=
  ∃ left value right, before = left ++ (key, value) :: right ∧ after = left ++ right

lemma PutAt.frame (hput : PutAt key value before after) (left right : List (K × V)) :
    PutAt key value (left ++ (before ++ right)) (left ++ (after ++ right)) := by
  obtain ⟨left', old, right', rfl, rfl, hold⟩ := hput
  exact ⟨left ++ left', old, right' ++ right, by simp, by simp, hold⟩

lemma CutAt.frame (hcut : CutAt key before after) (left right : List (K × V)) :
    CutAt key (left ++ (before ++ right)) (left ++ (after ++ right)) := by
  obtain ⟨left', value, right', rfl, rfl⟩ := hcut
  exact ⟨left ++ left', value, right' ++ right, by simp, by simp⟩

lemma PutAt.mem (hput : PutAt key value before after) (hrow : row ∈ after) :
    row = (key, value) ∨ row ∈ before := by
  obtain ⟨left, old, right, rfl, rfl, _⟩ := hput
  simp only [mem_append, mem_cons] at hrow ⊢
  tauto

lemma CutAt.subset (hcut : CutAt key before after) (hrow : row ∈ after) : row ∈ before := by
  obtain ⟨left, value, right, rfl, rfl⟩ := hcut
  simp only [mem_append, mem_cons] at hrow ⊢
  tauto

section Lookup

variable [BEq K] [LawfulBEq K] {key other : K}

lemma lookup_eq_none_of_forall_ne {rows : List (K × V)} (hrows : ∀ row ∈ rows, row.1 ≠ key) :
    rows.lookup key = none := by
  rw [lookup_eq_none_iff]
  intro row hrow
  simpa using (hrows row hrow).symm

lemma lookup_singleton_of_ne (value : V) (hne : other ≠ key) :
    List.lookup other [(key, value)] = none :=
  lookup_eq_none_of_forall_ne (by simpa using hne.symm)

lemma PutAt.lookup_of_ne {value : V} {before after : List (K × V)}
    (hput : PutAt key value before after) (hne : other ≠ key) :
    after.lookup other = before.lookup other := by
  obtain ⟨left, old, right, rfl, rfl, hold⟩ := hput
  have hold' : old.lookup other = none := by
    rcases hold with rfl | ⟨value', rfl⟩
    · rfl
    · exact lookup_singleton_of_ne value' hne
  rw [lookup_append, lookup_append, lookup_append, hold',
    ← singleton_append, lookup_append, lookup_singleton_of_ne value hne]

lemma CutAt.lookup_of_ne {before after : List (K × V)} (hcut : CutAt key before after)
    (hne : other ≠ key) : after.lookup other = before.lookup other := by
  obtain ⟨left, value, right, rfl, rfl⟩ := hcut
  rw [lookup_append, lookup_append, ← singleton_append,
    lookup_append, lookup_singleton_of_ne value hne, Option.none_or]

end Lookup

variable [LinearOrder K]

lemma SortedRows.forall_lt {left right : List (K × V)}
    (hsorted : SortedRows (left ++ row :: right)) :
    (∀ other ∈ left, other.1 < row.1) ∧ ∀ other ∈ right, row.1 < other.1 := by
  simp only [SortedRows, map_append, map_cons, pairwise_append,
    pairwise_cons] at hsorted
  obtain ⟨_, ⟨hright, _⟩, hleft⟩ := hsorted
  refine ⟨fun other hother => ?_, fun other hother => ?_⟩
  · exact hleft _ (mem_map_of_mem hother) _ mem_cons_self
  · exact hright _ (mem_map_of_mem hother)

lemma CutAt.sorted (hcut : CutAt key before after) (hsorted : SortedRows before) :
    SortedRows after := by
  obtain ⟨left, value, right, rfl, rfl⟩ := hcut
  refine List.Pairwise.sublist (List.Sublist.map _ ?_) hsorted
  exact (sublist_cons_self _ right).append_left left

variable [BEq K] [LawfulBEq K]

/-- A sorted list of rows maps each of its keys to the value beside it. -/
lemma lookup_of_mem {rows : List (K × V)} (hsorted : SortedRows rows) (hmem : (key, value) ∈ rows) :
    rows.lookup key = some value := by
  obtain ⟨left, right, rfl⟩ := append_of_mem hmem
  have hleft : left.lookup key = none := lookup_eq_none_of_forall_ne fun row hrow =>
    ne_of_lt (hsorted.forall_lt.1 row hrow)
  simp [lookup_append, hleft]

lemma PutAt.lookup_self (hput : PutAt key value before after) (hsorted : SortedRows after) :
    after.lookup key = some value := by
  apply lookup_of_mem hsorted
  obtain ⟨left, old, right, _, rfl, _⟩ := hput
  simp

lemma CutAt.lookup_self (hcut : CutAt key before after) (hsorted : SortedRows before) :
    after.lookup key = none := by
  obtain ⟨left, value, right, rfl, rfl⟩ := hcut
  obtain ⟨hleft, hright⟩ := hsorted.forall_lt
  apply lookup_eq_none_of_forall_ne
  intro row hrow
  rcases List.mem_append.mp hrow with hrow | hrow
  · exact ne_of_lt (hleft row hrow)
  · exact ne_of_gt (hright row hrow)

end SepTree
