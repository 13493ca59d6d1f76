/-
Null-terminated linked lists in a store of links.
-/
import Mathlib

namespace Chain

open List

variable {P : Type} {null head item : P} {link : P → Option P} {items : List P}

/-- Following `link` from `head` visits exactly `items` and ends at `null`. -/
def Visits (null : P) (link : P → Option P) : P → List P → Prop
  | head, [] => head = null
  | head, item :: rest =>
    head = item ∧ item ≠ null ∧ ∃ next, link item = some next ∧ Visits null link next rest

lemma Visits.nil_of_head_eq (hvisits : Visits null link null items) : items = [] := by
  cases items with
  | nil => rfl
  | cons item rest => exact absurd hvisits.1.symm hvisits.2.1

lemma Visits.of_append {left right : List P}
    (hvisits : Visits null link head (left ++ item :: right)) :
    Visits null link item (item :: right) := by
  induction left generalizing head with
  | nil =>
    obtain ⟨rfl, hrest⟩ := hvisits
    exact ⟨rfl, hrest⟩
  | cons first left ih =>
    obtain ⟨_, _, next, _, hrest⟩ := hvisits
    exact ih hrest

variable (hvisits : Visits null link head items)

include hvisits

/-- Only the links of the visited items matter. -/
lemma Visits.mono {link' : P → Option P}
    (hlink : ∀ item ∈ items, ∀ next, link item = some next → link' item = some next) :
    Visits null link' head items := by
  induction items generalizing head with
  | nil => exact hvisits
  | cons item rest ih =>
    obtain ⟨rfl, hne, next, hnext, hrest⟩ := hvisits
    refine ⟨rfl, hne, next, hlink head mem_cons_self next hnext, ih hrest ?_⟩
    exact fun other hother => hlink other (mem_cons_of_mem head hother)

lemma Visits.congr {link' : P → Option P} (hlink : ∀ item ∈ items, link' item = link item) :
    Visits null link' head items :=
  hvisits.mono fun item hitem _ hnext => (hlink item hitem).trans hnext

lemma Visits.cons_of_head_ne (hhead : head ≠ null) :
    ∃ rest next, items = head :: rest ∧ link head = some next ∧ Visits null link next rest := by
  cases items with
  | nil => exact absurd hvisits hhead
  | cons item rest =>
    obtain ⟨rfl, _, next, hnext, hrest⟩ := hvisits
    exact ⟨rest, next, rfl, hnext, hrest⟩

/-- A head determines the items behind it. -/
lemma Visits.unique {items' : List P} (hvisits' : Visits null link head items') :
    items = items' := by
  induction items generalizing head items' with
  | nil =>
    obtain rfl : head = null := hvisits
    exact hvisits'.nil_of_head_eq.symm
  | cons item rest ih =>
    obtain ⟨rfl, hne, next, hnext, hrest⟩ := hvisits
    obtain ⟨rest', next', rfl, hnext', hrest'⟩ := hvisits'.cons_of_head_ne hne
    obtain rfl : next = next' := Option.some.inj (hnext.symm.trans hnext')
    rw [ih hrest hrest']

lemma Visits.link_of_mem (hitem : item ∈ items) : ∃ next, link item = some next := by
  obtain ⟨left, right, rfl⟩ := append_of_mem hitem
  obtain ⟨_, _, next, hnext, _⟩ := hvisits.of_append
  exact ⟨next, hnext⟩

lemma Visits.ne_null_of_mem (hitem : item ∈ items) : item ≠ null := by
  obtain ⟨left, right, rfl⟩ := append_of_mem hitem
  exact hvisits.of_append.2.1

/-- A list that ends visits no item twice. -/
lemma Visits.nodup : items.Nodup := by
  induction items generalizing head with
  | nil => exact nodup_nil
  | cons item rest ih =>
    have hvisits' := hvisits
    obtain ⟨rfl, _, next, _, hrest⟩ := hvisits'
    refine List.nodup_cons.mpr ⟨fun hmem => ?_, ih hrest⟩
    obtain ⟨left, right, rfl⟩ := append_of_mem hmem
    have hlength := congrArg List.length (hvisits.unique hrest.of_append)
    simp only [length_cons, length_append] at hlength
    omega

end Chain
