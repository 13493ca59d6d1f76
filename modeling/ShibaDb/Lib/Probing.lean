/-
Open addressing with linear probing.  The slots of a table lie on a ring; a key is
searched from its home slot on, up to the first slot that is empty.  The invariant says
that nothing between the home of a key and its slot is empty; insertion at the slot where
a search ends keeps it, and so does deletion that shifts later keys back.
-/
import Mathlib

namespace Probing

open List Option

section Ring

/-- The position `count` places behind `start` on a ring of `n`. -/
def ahead (n start count : Nat) : Nat :=
  if start + count < n then start + count else start + count - n

/-- How far it is from one position to another. -/
def gap (n first last : Nat) : Nat := if first ≤ last then last - first else last + n - first

variable {n start first last count : Nat}

lemma ahead_lt (hstart : start < n) (hcount : count < n) : ahead n start count < n := by
  unfold ahead
  split <;> omega

lemma gap_lt (hfirst : first < n) (hlast : last < n) : gap n first last < n := by
  unfold gap
  split <;> omega

lemma ahead_gap (hfirst : first < n) (hlast : last < n) :
    ahead n first (gap n first last) = last := by
  unfold ahead gap
  split <;> split <;> omega

lemma gap_ahead (hstart : start < n) (hcount : count < n) :
    gap n start (ahead n start count) = count := by
  unfold ahead gap
  split <;> split <;> omega

@[simp] lemma ahead_zero (hstart : start < n) : ahead n start 0 = start := by
  simp [ahead, hstart]

lemma ahead_add {more : Nat} (hstart : start < n) (hcount : count + more < n) :
    ahead n (ahead n start count) more = ahead n start (count + more) := by
  unfold ahead
  split <;> split <;> split <;> omega

lemma gap_inj (hstart : start < n) (hfirst : first < n) (hlast : last < n)
    (heq : gap n start first = gap n start last) : first = last := by
  rw [← ahead_gap hstart hfirst, heq, ahead_gap hstart hlast]

lemma gap_self : gap n start start = 0 := by simp [gap]

lemma gap_pos (hstart : start < n) (hne : start ≠ last) : 0 < gap n start last := by
  unfold gap
  split <;> omega

lemma gap_next (hstart : start < n) (hlast : last < n) (hne : ahead n last 1 ≠ start) :
    gap n start (ahead n last 1) = gap n start last + 1 := by
  unfold ahead gap at *
  split_ifs at * <;> omega

/-- From `start` to `last` through a position between them. -/
lemma gap_through (hstart : start < n) (hlast : last < n) (hcount : count ≤ gap n start last) :
    gap n start last = count + gap n (ahead n start count) last := by
  unfold ahead gap at *
  split_ifs at * <;> omega

lemma gap_behind {between : Nat} (hstart : start < n) (hbetween : between < n)
    (hle : gap n between last ≤ gap n start last) :
    gap n start last = gap n start between + gap n between last := by
  unfold gap at *
  split_ifs at * <;> omega

lemma gap_last (hlast : last < n) (hsame : ahead n last 1 = start) :
    gap n start last + 1 = n := by
  unfold ahead gap at *
  split_ifs at * <;> omega

/-- On a ring whose size is a power of two, the next position is taken with a mask. -/
lemma and_mask_eq_ahead {power : Nat} (hn : n = 2 ^ power) (hstart : start < n) :
    (start + 1) &&& (n - 1) = ahead n start 1 := by
  rw [hn, Nat.and_two_pow_sub_one_eq_mod, ← hn]
  unfold ahead
  split
  · exact Nat.mod_eq_of_lt (by assumption)
  · have hend : start + 1 = n := by omega
    simp [hend]

end Ring

section Search

/-- Walk from `index` on to the first position that stops the search. -/
def probe (next : Nat → Nat) (stop : Nat → Bool) : (fuel index : Nat) → Option Nat
  | 0, _ => none
  | fuel + 1, index => if stop index then some index else probe next stop fuel (next index)

variable {next : Nat → Nat} {stop : Nat → Bool} {n fuel start : Nat}

lemma probe_eq_some (hnext : ∀ index < n, next index = ahead n index 1) (hstart : start < n)
    {count : Nat} (hcount : count < fuel) (hfuel : fuel ≤ n)
    (hstop : stop (ahead n start count) = true)
    (hbefore : ∀ earlier < count, stop (ahead n start earlier) = false) :
    probe next stop fuel start = some (ahead n start count) := by
  induction fuel generalizing start count with
  | zero => omega
  | succ fuel ih =>
    cases count with
    | zero =>
      rw [ahead_zero hstart] at hstop ⊢
      rw [probe, if_pos hstop]
    | succ count =>
      have hfirst := hbefore 0 (Nat.succ_pos count)
      rw [ahead_zero hstart] at hfirst
      have hlast : ahead n (ahead n start 1) count = ahead n start (count + 1) := by
        rw [ahead_add hstart (by omega), Nat.add_comm]
      rw [probe, hfirst, if_neg (by decide), hnext start hstart, ← hlast]
      refine ih (ahead_lt hstart (by omega)) (by omega) (by omega) (hlast ▸ hstop) ?_
      intro earlier hearlier
      rw [ahead_add hstart (by omega), Nat.add_comm]
      exact hbefore (earlier + 1) (by omega)

/-- A search ends at the first stop. -/
lemma exists_probe (hnext : ∀ index < n, next index = ahead n index 1) (hstart : start < n)
    {last : Nat} (hlast : last < n) (hstop : stop last = true) :
    ∃ count < n, probe next stop n start = some (ahead n start count) ∧
      stop (ahead n start count) = true ∧
      ∀ earlier < count, stop (ahead n start earlier) = false := by
  have hexists : ∃ count, count < n ∧ stop (ahead n start count) = true :=
    ⟨gap n start last, gap_lt hstart hlast, by rwa [ahead_gap hstart hlast]⟩
  obtain ⟨hlt, hfound⟩ := Nat.find_spec hexists
  have hbefore : ∀ earlier < Nat.find hexists, stop (ahead n start earlier) = false := by
    intro earlier hearlier
    have hnot := Nat.find_min hexists hearlier
    rw [not_and, Bool.not_eq_true] at hnot
    exact hnot (by omega)
  exact ⟨_, hlt, probe_eq_some hnext hstart hlt (le_refl n) hfound hbefore, hfound, hbefore⟩

end Search

variable {σ κ : Type} (key : σ → Option κ)

/-- The key in a slot, if the slot is one of the table and not empty. -/
def keyAt (slots : List σ) (index : Nat) : Option κ := slots[index]?.bind key

/-- Every key is in one slot, and no slot between its home and that slot is empty. -/
structure Hashed (home : κ → Nat) (slots : List σ) : Prop where
  home_lt : ∀ item, home item < slots.length
  once : ∀ first last item, keyAt key slots first = some item → keyAt key slots last = some item →
    first = last
  reach : ∀ index item, keyAt key slots index = some item →
    ∀ count < gap slots.length (home item) index,
      keyAt key slots (ahead slots.length (home item) count) ≠ none

/-- Where a search for an absent key ends. -/
structure Landing (home : κ → Nat) (slots : List σ) (item : κ) (index : Nat) : Prop where
  index_lt : index < slots.length
  empty : keyAt key slots index = none
  absent : ∀ other, keyAt key slots other ≠ some item
  path : ∀ count < gap slots.length (home item) index,
    keyAt key slots (ahead slots.length (home item) count) ≠ none

section Table

variable {key} {home : κ → Nat} {slots : List σ} {item : κ} {index : Nat} {slot : σ}

lemma lt_of_keyAt (hitem : keyAt key slots index = some item) : index < slots.length := by
  by_contra hge
  rw [keyAt, List.getElem?_eq_none (not_lt.mp hge)] at hitem
  cases hitem

lemma keyAt_set_self (hindex : index < slots.length) :
    keyAt key (slots.set index slot) index = key slot := by
  simp [keyAt, List.getElem?_set_self hindex]

lemma keyAt_set_ne {other : Nat} (hne : index ≠ other) :
    keyAt key (slots.set index slot) other = keyAt key slots other := by
  rw [keyAt, keyAt, List.getElem?_set_ne hne]

/-- The slots that are not empty, after an empty one was written. -/
lemma mem_set_of_empty {other : σ} (hindex : index < slots.length)
    (hempty : keyAt key slots index = none) (hother : key other ≠ none) :
    other ∈ slots.set index slot ↔ other = slot ∨ other ∈ slots := by
  constructor
  · intro hmem
    exact (mem_or_eq_of_mem_set hmem).symm
  · rintro (rfl | hmem)
    · exact mem_of_getElem? (List.getElem?_set_self hindex)
    · obtain ⟨place, hplace⟩ := mem_iff_getElem?.mp hmem
      have hne : index ≠ place := by
        rintro rfl
        rw [keyAt, hplace] at hempty
        exact hother hempty
      apply mem_of_getElem? (i := place)
      rw [List.getElem?_set_ne hne, hplace]

variable [DecidableEq κ]

/-- Stop at an empty slot or at the key. -/
def stopsAt (key : σ → Option κ) (slots : List σ) (item : κ) (index : Nat) : Bool :=
  keyAt key slots index = none || keyAt key slots index = some item

variable {next : Nat → Nat}

/-- A search for a key of the table ends at it. -/
lemma Hashed.probe_present (hslots : Hashed key home slots)
    (hnext : ∀ index < slots.length, next index = ahead slots.length index 1)
    (hitem : keyAt key slots index = some item) :
    probe next (stopsAt key slots item) slots.length (home item) = some index := by
  have hindex := lt_of_keyAt hitem
  have hhome := hslots.home_lt item
  have hlast := ahead_gap hhome hindex
  rw [probe_eq_some hnext hhome (gap_lt hhome hindex) (le_refl _), hlast]
  · rw [hlast, stopsAt, hitem]
    simp
  · intro earlier hearlier
    have hbound : earlier < slots.length := hearlier.trans (gap_lt hhome hindex)
    have hreach := hslots.reach index item hitem earlier hearlier
    have hother : keyAt key slots (ahead slots.length (home item) earlier) ≠ some item := by
      intro hsame
      have heq := hslots.once _ _ item hsame hitem
      have hgap := gap_ahead hhome hbound
      rw [heq] at hgap
      omega
    simp [stopsAt, hreach, hother]

/-- A search for an absent key ends at an empty slot. -/
lemma Hashed.probe_absent (hslots : Hashed key home slots)
    (hnext : ∀ index < slots.length, next index = ahead slots.length index 1)
    (habsent : ∀ other, keyAt key slots other ≠ some item)
    (hempty : ∃ index < slots.length, keyAt key slots index = none) :
    ∃ index, probe next (stopsAt key slots item) slots.length (home item) = some index ∧
      Landing key home slots item index := by
  obtain ⟨last, hlast, hnone⟩ := hempty
  have hstop : stopsAt key slots item last = true := by simp [stopsAt, hnone]
  obtain ⟨count, hcount, hprobe, hfound, hbefore⟩ :=
    exists_probe hnext (hslots.home_lt item) hlast hstop
  refine ⟨_, hprobe, ahead_lt (hslots.home_lt item) hcount, ?_, habsent, ?_⟩
  · simpa [stopsAt, habsent] using hfound
  · rw [gap_ahead (hslots.home_lt item) hcount]
    intro earlier hearlier
    have hgo := hbefore earlier hearlier
    simp only [stopsAt, Bool.or_eq_false_iff, decide_eq_false_iff_not] at hgo
    exact hgo.1

omit [DecidableEq κ] in
/-- The key goes where its search ended. -/
lemma Hashed.insert (hslots : Hashed key home slots)
    (hlanding : Landing key home slots item index) (hslot : key slot = some item) :
    Hashed key home (slots.set index slot) := by
  have hself : keyAt key (slots.set index slot) index = some item := by
    rw [keyAt_set_self hlanding.index_lt, hslot]
  have hgrow : ∀ other, keyAt key slots other ≠ none →
      keyAt key (slots.set index slot) other ≠ none := by
    intro other hother
    by_cases hsame : index = other
    · subst hsame
      rw [hself]
      exact some_ne_none item
    · rwa [keyAt_set_ne hsame]
  refine ⟨fun other => ?_, fun first last other hfirst hlast => ?_, fun place other hplace => ?_⟩
  · rw [length_set]
    exact hslots.home_lt other
  · by_cases hfirstIndex : index = first
    · by_cases hlastIndex : index = last
      · exact hfirstIndex.symm.trans hlastIndex
      · subst hfirstIndex
        rw [keyAt_set_ne hlastIndex] at hlast
        rw [hself, Option.some.injEq] at hfirst
        exact absurd (hfirst ▸ hlast) (hlanding.absent last)
    · rw [keyAt_set_ne hfirstIndex] at hfirst
      by_cases hlastIndex : index = last
      · subst hlastIndex
        rw [hself, Option.some.injEq] at hlast
        exact absurd (hlast ▸ hfirst) (hlanding.absent first)
      · rw [keyAt_set_ne hlastIndex] at hlast
        exact hslots.once first last other hfirst hlast
  · rw [length_set]
    intro count hcount
    apply hgrow
    by_cases hsame : index = place
    · subst hsame
      rw [hself, Option.some.injEq] at hplace
      subst hplace
      exact hlanding.path count hcount
    · rw [keyAt_set_ne hsame] at hplace
      exact hslots.reach place other hplace count hcount

omit [DecidableEq κ] in
/-- A table of empty slots. -/
lemma Hashed.replicate {n : Nat} {empty : σ} (hempty : key empty = none)
    (hhome : ∀ item, home item < n) : Hashed key home (List.replicate n empty) := by
  have hnone : ∀ index, keyAt key (List.replicate n empty) index = none := by
    intro index
    rw [keyAt, List.getElem?_replicate]
    split
    · exact hempty
    · rfl
  refine ⟨fun item => ?_, fun first last item hfirst => ?_, fun index item hindex => ?_⟩
  · rw [length_replicate]
    exact hhome item
  · rw [hnone] at hfirst
    cases hfirst
  · rw [hnone] at hindex
    cases hindex

omit [DecidableEq κ] in
/-- Only the keys matter. -/
lemma Hashed.congr {after : List σ} (hslots : Hashed key home slots)
    (hlength : after.length = slots.length)
    (hkeys : ∀ index, keyAt key after index = keyAt key slots index) : Hashed key home after := by
  refine ⟨fun other => ?_, fun first last other hfirst hlast => ?_, fun place other hplace => ?_⟩
  · rw [hlength]
    exact hslots.home_lt other
  · rw [hkeys] at hfirst hlast
    exact hslots.once first last other hfirst hlast
  · rw [hlength]
    rw [hkeys] at hplace
    intro count hcount
    rw [hkeys]
    exact hslots.reach place other hplace count hcount

omit [DecidableEq κ] in
/-- A slot is rewritten under its key. -/
lemma Hashed.replace (hslots : Hashed key home slots) (hitem : keyAt key slots index = some item)
    (hslot : key slot = some item) : Hashed key home (slots.set index slot) := by
  refine hslots.congr (length_set ..) fun other => ?_
  by_cases hsame : index = other
  · subst hsame
    rw [keyAt_set_self (lt_of_keyAt hitem), hslot, hitem]
  · exact keyAt_set_ne hsame

omit [DecidableEq κ] in
lemma Hashed.mem_replace (hslots : Hashed key home slots) {other : σ}
    (hitem : keyAt key slots index = some item) :
    other ∈ slots.set index slot ↔ other = slot ∨ (other ∈ slots ∧ key other ≠ some item) := by
  have hindex := lt_of_keyAt hitem
  constructor
  · intro hmem
    obtain ⟨place, hplace⟩ := mem_iff_getElem?.mp hmem
    by_cases hsame : index = place
    · subst hsame
      rw [List.getElem?_set_self hindex, Option.some.injEq] at hplace
      exact .inl hplace.symm
    · rw [List.getElem?_set_ne hsame] at hplace
      refine .inr ⟨mem_of_getElem? hplace, fun hkey => hsame ?_⟩
      exact hslots.once index place item hitem (by rw [keyAt, hplace, bind_some, hkey])
  · rintro (rfl | ⟨hmem, hkey⟩)
    · exact mem_of_getElem? (List.getElem?_set_self hindex)
    · obtain ⟨place, hplace⟩ := mem_iff_getElem?.mp hmem
      have hsame : index ≠ place := by
        rintro rfl
        rw [keyAt, hplace, bind_some] at hitem
        exact hkey hitem
      apply mem_of_getElem? (i := place)
      rw [List.getElem?_set_ne hsame, hplace]

omit [DecidableEq κ] in
/-- The keys of a table are distinct. -/
lemma Hashed.keys_nodup (hslots : Hashed key home slots) : (slots.filterMap key).Nodup := by
  rw [List.Nodup, pairwise_filterMap, pairwise_iff_getElem]
  intro first last hfirst hlast hlt found hfound other hother hsame
  subst hsame
  have hone : keyAt key slots first = some found := by
    rw [keyAt, List.getElem?_eq_getElem hfirst, bind_some, hfound]
  have htwo : keyAt key slots last = some found := by
    rw [keyAt, List.getElem?_eq_getElem hlast, bind_some, hother]
  exact absurd (hslots.once first last found hone htwo) (Nat.ne_of_lt hlt)

end Table

section Deletion

variable {item : κ} {erase : σ → σ} {slot : σ}

/-- Deletion without a mark: behind the emptied slot `hole`, a key that may not stay where
it is moves into the hole, and its slot is the next hole.  The loop ends at an empty slot;
nothing when the fuel does not reach one. -/
def shiftBack (key : σ → Option κ) (home : κ → Nat) (next : Nat → Nat)
    (stays : (hole index home : Nat) → Bool) (erase : σ → σ) :
    (fuel hole index : Nat) → List σ → Option (List σ)
  | 0, _, _, _ => none
  | fuel + 1, hole, index, slots =>
    match slots[next index]? with
    | none => none
    | some slot =>
      match key slot with
      | none => some slots
      | some item =>
        if stays hole (next index) (home item) then
          shiftBack key home next stays erase fuel hole (next index) slots
        else
          shiftBack key home next stays erase fuel (next index) (next index)
            ((slots.set hole slot).set (next index) (erase slot))

/-- The table while a hole is filled: only the hole is missing on the way to a key, and not
on the way to the keys up to `index`. -/
structure Hole (key : σ → Option κ) (home : κ → Nat) (slots : List σ) (hole index : Nat) :
    Prop where
  home_lt : ∀ item, home item < slots.length
  once : ∀ first last item, keyAt key slots first = some item → keyAt key slots last = some item →
    first = last
  hole_lt : hole < slots.length
  index_lt : index < slots.length
  empty : keyAt key slots hole = none
  reach : ∀ place item, keyAt key slots place = some item →
    ∀ count < gap slots.length (home item) place,
      keyAt key slots (ahead slots.length (home item) count) ≠ none ∨
        ahead slots.length (home item) count = hole
  scanned : ∀ place item, keyAt key slots place = some item →
    gap slots.length hole place ≤ gap slots.length hole index →
    gap slots.length (home item) place < gap slots.length hole place

variable {key} {home : κ → Nat} {slots : List σ} {hole index : Nat}

/-- Behind the keys that were looked at comes an empty slot: the hole stays. -/
lemma Hole.hashed (hhole : Hole key home slots hole index)
    (hend : keyAt key slots (ahead slots.length index 1) = none) : Hashed key home slots := by
  refine ⟨hhole.home_lt, hhole.once, fun place item hitem count hcount => ?_⟩
  rcases hhole.reach place item hitem count hcount with hfull | hcross
  · exact hfull
  · -- The way to the key leads over the hole, so the key lies behind the empty slot.
    exfalso
    have hplace := lt_of_keyAt hitem
    have hhome := hhole.home_lt item
    have hthrough := gap_through hhome hplace hcount.le
    rw [hcross] at hthrough
    have hfar : ¬gap slots.length hole place ≤ gap slots.length hole index := by
      intro hle
      have hnear := hhole.scanned place item hitem hle
      omega
    have hwrap : ahead slots.length index 1 ≠ hole := by
      intro hsame
      have hlt := gap_lt hhole.hole_lt hplace
      have hlast := gap_last hhole.index_lt hsame
      omega
    have hnext := gap_next hhole.hole_lt hhole.index_lt hwrap
    have hlt := gap_lt hhome hplace
    have hone : 1 < slots.length := by omega
    have hposition := ahead_lt hhole.index_lt hone
    by_cases hlast : gap slots.length hole (ahead slots.length index 1) =
        gap slots.length hole place
    · rw [gap_inj hhole.hole_lt hposition hplace hlast, hitem] at hend
      cases hend
    · have hbetween := hhole.reach place item hitem
        (count + gap slots.length hole (ahead slots.length index 1)) (by omega)
      rw [← ahead_add hhome (by omega), hcross, ahead_gap hhole.hole_lt hposition] at hbetween
      rcases hbetween with hfull | hsame
      · exact hfull hend
      · exact hwrap hsame

/-- A key that may stay. -/
lemma Hole.skip (hhole : Hole key home slots hole index)
    (hitem : keyAt key slots (ahead slots.length index 1) = some item)
    (hstays : gap slots.length (home item) (ahead slots.length index 1) <
      gap slots.length hole (ahead slots.length index 1)) :
    Hole key home slots hole (ahead slots.length index 1) := by
  have hposition := lt_of_keyAt hitem
  refine ⟨hhole.home_lt, hhole.once, hhole.hole_lt, hposition, hhole.empty, hhole.reach, ?_⟩
  intro place other hother hle
  have hwrap : ahead slots.length index 1 ≠ hole := by
    intro hsame
    rw [hsame, hhole.empty] at hitem
    cases hitem
  rw [gap_next hhole.hole_lt hhole.index_lt hwrap] at hle
  by_cases hlast : gap slots.length hole place ≤ gap slots.length hole index
  · exact hhole.scanned place other hother hlast
  · have hplace := lt_of_keyAt hother
    obtain rfl : place = ahead slots.length index 1 := by
      apply gap_inj hhole.hole_lt hplace hposition
      rw [gap_next hhole.hole_lt hhole.index_lt hwrap]
      omega
    rw [hitem, Option.some.injEq] at hother
    rw [← hother]
    exact hstays

section

variable (herase : ∀ slot, key (erase slot) = none)

include herase

/-- A key that moves into the hole. -/
lemma Hole.move
    (hhole : Hole key home slots hole index) {place : Nat} (hslot : slots[place]? = some slot)
    (hitem : key slot = some item)
    (hmoves : ¬gap slots.length (home item) place < gap slots.length hole place) :
    Hole key home ((slots.set hole slot).set place (erase slot)) place place := by
  have hkey : keyAt key slots place = some item := by rw [keyAt, hslot, bind_some, hitem]
  have hplace := lt_of_keyAt hkey
  have hne : hole ≠ place := by
    rintro rfl
    rw [hhole.empty] at hkey
    cases hkey
  have hemptied : keyAt key ((slots.set hole slot).set place (erase slot)) place = none := by
    rw [keyAt_set_self (by rwa [length_set]), herase]
  have hfilled : keyAt key ((slots.set hole slot).set place (erase slot)) hole = some item := by
    rw [keyAt_set_ne hne.symm, keyAt_set_self hhole.hole_lt, hitem]
  have hother : ∀ other, other ≠ hole → other ≠ place →
      keyAt key ((slots.set hole slot).set place (erase slot)) other = keyAt key slots other := by
    intro other hnotHole hnotPlace
    rw [keyAt_set_ne hnotPlace.symm, keyAt_set_ne hnotHole.symm]
  have hfull : ∀ other, keyAt key slots other ≠ none ∨ other = hole →
      keyAt key ((slots.set hole slot).set place (erase slot)) other ≠ none ∨ other = place := by
    intro other hold
    by_cases hnotPlace : other = place
    · exact .inr hnotPlace
    · left
      by_cases hnotHole : other = hole
      · rw [hnotHole, hfilled]
        exact some_ne_none item
      · rw [hother other hnotHole hnotPlace]
        exact hold.resolve_right hnotHole
  -- Where a key was before the move.
  have horigin : ∀ other found,
      keyAt key ((slots.set hole slot).set place (erase slot)) other = some found →
      (other = hole ∧ found = item) ∨
        (other ≠ hole ∧ other ≠ place ∧ keyAt key slots other = some found) := by
    intro other found hfound
    by_cases hnotHole : other = hole
    · rw [hnotHole, hfilled, Option.some.injEq] at hfound
      exact .inl ⟨hnotHole, hfound.symm⟩
    · have hnotPlace : other ≠ place := by
        rintro rfl
        rw [hemptied] at hfound
        cases hfound
      rw [hother other hnotHole hnotPlace] at hfound
      exact .inr ⟨hnotHole, hnotPlace, hfound⟩
  have hlength : ((slots.set hole slot).set place (erase slot)).length = slots.length := by
    rw [length_set, length_set]
  constructor
  · intro other
    rw [hlength]
    exact hhole.home_lt other
  · intro first last found hfirst hlast
    rcases horigin first found hfirst with ⟨hfirstHole, hfirstItem⟩ | ⟨_, hfirstNe, hfirstOld⟩
    · rcases horigin last found hlast with ⟨hlastHole, _⟩ | ⟨_, hlastNe, hlastOld⟩
      · rw [hfirstHole, hlastHole]
      · exact absurd (hhole.once last place found hlastOld (hfirstItem ▸ hkey)) hlastNe
    · rcases horigin last found hlast with ⟨_, hlastItem⟩ | ⟨_, _, hlastOld⟩
      · exact absurd (hhole.once first place found hfirstOld (hlastItem ▸ hkey)) hfirstNe
      · exact hhole.once first last found hfirstOld hlastOld
  · rwa [hlength]
  · rwa [hlength]
  · exact hemptied
  · rw [hlength]
    intro other found hfound count hcount
    apply hfull
    rcases horigin other found hfound with ⟨rfl, rfl⟩ | ⟨_, _, hold⟩
    · have hthrough := gap_behind (hhole.home_lt found) hhole.hole_lt (not_lt.mp hmoves)
      exact hhole.reach place found hkey count (by omega)
    · exact hhole.reach other found hold count hcount
  · rw [hlength, gap_self]
    intro other found hfound hle
    have hsame : other = place := by
      by_contra hdiffer
      have hpos := gap_pos hplace (Ne.symm hdiffer)
      omega
    rw [hsame, hemptied] at hfound
    cases hfound

/-- The slots that are not empty, after a key moved. -/
lemma mem_of_move {place : Nat}
    (hslot : slots[place]? = some slot) (hitem : key slot = some item) (hhole : hole < slots.length)
    (hempty : keyAt key slots hole = none) {other : σ} (hother : key other ≠ none) :
    other ∈ (slots.set hole slot).set place (erase slot) ↔ other ∈ slots := by
  constructor
  · intro hmem
    rcases mem_or_eq_of_mem_set hmem with hmem | rfl
    · rcases mem_or_eq_of_mem_set hmem with hmem | rfl
      · exact hmem
      · exact mem_of_getElem? hslot
    · exact absurd (herase slot) hother
  · intro hmem
    obtain ⟨position, hposition⟩ := mem_iff_getElem?.mp hmem
    have hnotHole : hole ≠ position := by
      rintro rfl
      rw [keyAt, hposition] at hempty
      exact hother hempty
    have hne : place ≠ hole := by
      rintro rfl
      rw [keyAt, hslot, bind_some, hitem] at hempty
      cases hempty
    by_cases hplace : place = position
    · subst hplace
      rw [hslot, Option.some.injEq] at hposition
      subst hposition
      apply mem_of_getElem? (i := hole)
      rw [List.getElem?_set_ne hne, List.getElem?_set_self hhole]
    · apply mem_of_getElem? (i := position)
      rw [List.getElem?_set_ne hplace, List.getElem?_set_ne hnotHole, hposition]

/-- Shifting back ends, and fills the hole for good. -/
lemma Hole.shiftBack_hashed {next : Nat → Nat} {stays : Nat → Nat → Nat → Bool} {n : Nat}
    (hnext : ∀ index < n, next index = ahead n index 1)
    (hstays : ∀ hole index home, hole < n → index < n → home < n →
      (stays hole index home = true ↔ gap n home index < gap n hole index))
    {fuel : Nat} (hn : slots.length = n) (hhole : Hole key home slots hole index) {last : Nat}
    (hlast : last < n) (hempty : keyAt key slots last = none) (hlastHole : last ≠ hole)
    (hlastIndex : last ≠ index) (hfuel : gap n index last ≤ fuel) :
    ∃ after, shiftBack key home next stays erase fuel hole index slots = some after ∧
      Hashed key home after ∧ after.length = n ∧
      ∀ slot, key slot ≠ none → (slot ∈ after ↔ slot ∈ slots) := by
  induction fuel generalizing slots hole index with
  | zero =>
    have hpos := gap_pos (hn ▸ hhole.index_lt) hlastIndex.symm
    omega
  | succ fuel ih =>
    subst hn
    have hindex := hhole.index_lt
    have hposition : ahead slots.length index 1 < slots.length :=
      ahead_lt hindex (by omega)
    obtain ⟨slot, hslot⟩ : ∃ slot, slots[ahead slots.length index 1]? = some slot :=
      ⟨_, List.getElem?_eq_getElem hposition⟩
    have hkey : keyAt key slots (ahead slots.length index 1) = key slot := by
      rw [keyAt, hslot, bind_some]
    rw [shiftBack, hnext index hindex, hslot]
    cases hitem : key slot with
    | none =>
      rw [hitem] at hkey
      exact ⟨slots, by simp only [hitem], hhole.hashed hkey, rfl, fun _ _ => Iff.rfl⟩
    | some item =>
      simp only [hitem]
      rw [hitem] at hkey
      have hlastNext : last ≠ ahead slots.length index 1 := by
        rintro rfl
        rw [hkey] at hempty
        cases hempty
      have hrest : gap slots.length index last =
          1 + gap slots.length (ahead slots.length index 1) last :=
        gap_through hindex hlast (gap_pos hindex hlastIndex.symm)
      have hdecides := hstays hole (ahead slots.length index 1) (home item) hhole.hole_lt
        hposition (hhole.home_lt item)
      split
      next hstay =>
        exact ih rfl (hhole.skip hkey (hdecides.mp hstay)) hempty hlastHole hlastNext (by omega)
      next hmove =>
        have hmoved := hhole.move herase hslot hitem fun hlt => hmove (hdecides.mpr hlt)
        have hlength : ((slots.set hole slot).set (ahead slots.length index 1)
            (erase slot)).length = slots.length := by
          rw [length_set, length_set]
        have hempty' : keyAt key ((slots.set hole slot).set (ahead slots.length index 1)
            (erase slot)) last = none := by
          rw [keyAt_set_ne hlastNext.symm, keyAt_set_ne hlastHole.symm, hempty]
        obtain ⟨after, hafter, hhashed, hsame, hmem⟩ :=
          ih hlength hmoved hempty' hlastNext hlastNext (by omega)
        refine ⟨after, hafter, hhashed, hsame, fun other hother => ?_⟩
        rw [hmem other hother, mem_of_move herase hslot hitem hhole.hole_lt hhole.empty hother]

/-- A key is deleted: its slot becomes a hole. -/
lemma Hashed.opened (hslots : Hashed key home slots)
    (hslot : slots[index]? = some slot) (hitem : key slot = some item) :
    Hole key home (slots.set index (erase slot)) index index := by
  have hkey : keyAt key slots index = some item := by rw [keyAt, hslot, bind_some, hitem]
  have hindex := lt_of_keyAt hkey
  have hemptied : keyAt key (slots.set index (erase slot)) index = none := by
    rw [keyAt_set_self hindex, herase]
  have hother : ∀ other found, keyAt key (slots.set index (erase slot)) other = some found →
      index ≠ other ∧ keyAt key slots other = some found := by
    intro other found hfound
    have hne : index ≠ other := by
      rintro rfl
      rw [hemptied] at hfound
      cases hfound
    rw [keyAt_set_ne hne] at hfound
    exact ⟨hne, hfound⟩
  refine ⟨?_, ?_, by rwa [length_set], by rwa [length_set], hemptied, ?_, ?_⟩
  · intro other
    rw [length_set]
    exact hslots.home_lt other
  · intro first last found hfirst hlast
    exact hslots.once first last found (hother first found hfirst).2 (hother last found hlast).2
  · rw [length_set]
    intro place found hfound count hcount
    by_cases hsame : ahead slots.length (home found) count = index
    · exact .inr hsame
    · rw [keyAt_set_ne (Ne.symm hsame)]
      exact .inl (hslots.reach place found (hother place found hfound).2 count hcount)
  · rw [length_set, gap_self]
    intro place found hfound hle
    have hpos := gap_pos hindex (hother place found hfound).1
    omega

/-- Deletion: the key is gone, and nothing else is. -/
lemma Hashed.delete {next : Nat → Nat} {stays : Nat → Nat → Nat → Bool}
    (hnext : ∀ index < slots.length, next index = ahead slots.length index 1)
    (hstays : ∀ hole index home, hole < slots.length → index < slots.length → home < slots.length →
      (stays hole index home = true ↔ gap slots.length home index < gap slots.length hole index))
    (hslots : Hashed key home slots) (hslot : slots[index]? = some slot)
    (hitem : key slot = some item) (hempty : ∃ last < slots.length, keyAt key slots last = none) :
    ∃ after, shiftBack key home next stays erase slots.length index index
        (slots.set index (erase slot)) = some after ∧
      Hashed key home after ∧ after.length = slots.length ∧
      ∀ other, key other ≠ none → (other ∈ after ↔ other ∈ slots ∧ key other ≠ some item) := by
  have hkey : keyAt key slots index = some item := by rw [keyAt, hslot, bind_some, hitem]
  obtain ⟨last, hlast, hnone⟩ := hempty
  have hne : last ≠ index := by
    rintro rfl
    rw [hkey] at hnone
    cases hnone
  obtain ⟨after, hafter, hhashed, hlength, hmem⟩ :=
    (hslots.opened herase hslot hitem).shiftBack_hashed herase hnext hstays (length_set ..)
      hlast (by rw [keyAt_set_ne hne.symm, hnone]) hne hne (gap_lt (lt_of_keyAt hkey) hlast).le
  refine ⟨after, hafter, hhashed, hlength, fun other hother => (hmem other hother).trans ?_⟩
  constructor
  · intro hmem
    obtain ⟨place, hplace⟩ := mem_iff_getElem?.mp hmem
    by_cases hsame : index = place
    · subst hsame
      rw [List.getElem?_set_self (lt_of_keyAt hkey), Option.some.injEq] at hplace
      rw [← hplace, herase] at hother
      exact absurd rfl hother
    · rw [List.getElem?_set_ne hsame] at hplace
      refine ⟨mem_of_getElem? hplace, fun hitem' => hsame ?_⟩
      exact hslots.once index place item hkey (by rw [keyAt, hplace, bind_some, hitem'])
  · rintro ⟨hmem, hdiffers⟩
    obtain ⟨place, hplace⟩ := mem_iff_getElem?.mp hmem
    have hsame : index ≠ place := by
      rintro rfl
      rw [hslot, Option.some.injEq] at hplace
      exact hdiffers (hplace ▸ hitem)
    apply mem_of_getElem? (i := place)
    rw [List.getElem?_set_ne hsame, hplace]

end

end Deletion

section Load

variable {key} {slots : List σ}

/-- How many slots are taken. -/
def load (key : σ → Option κ) (slots : List σ) : Nat := slots.countP fun slot => (key slot).isSome

lemma exists_empty (hload : load key slots < slots.length) :
    ∃ index < slots.length, keyAt key slots index = none := by
  by_contra hnone
  push Not at hnone
  have hfull : load key slots = slots.length := by
    rw [load, countP_eq_length]
    intro slot hslot
    obtain ⟨index, hindex⟩ := mem_iff_getElem?.mp hslot
    have htaken := hnone index (List.getElem?_eq_some_iff.mp hindex).1
    rw [keyAt, hindex, bind_some] at htaken
    exact Option.isSome_iff_ne_none.mpr htaken
  omega

/-- A slot that was empty is taken. -/
lemma load_set {index : Nat} {slot : σ} {item : κ} (hindex : index < slots.length)
    (hempty : keyAt key slots index = none) (hitem : key slot = some item) :
    load key (slots.set index slot) = load key slots + 1 := by
  have hold : key slots[index] = none := by
    rwa [keyAt, List.getElem?_eq_getElem hindex, bind_some] at hempty
  rw [load, load, countP_set hindex, hold, hitem]
  simp

/-- A slot that was taken stays taken. -/
lemma load_replace {index : Nat} {slot : σ} {item other : κ}
    (hitem : keyAt key slots index = some item) (hslot : key slot = some other) :
    load key (slots.set index slot) = load key slots := by
  have hindex := lt_of_keyAt hitem
  have hold : key slots[index] = some item := by
    rwa [keyAt, List.getElem?_eq_getElem hindex, bind_some] at hitem
  have hpos : 0 < load key slots := by
    rw [load, countP_pos_iff]
    exact ⟨slots[index], getElem_mem hindex, by rw [hold]; rfl⟩
  rw [load] at hpos
  rw [load, load, countP_set hindex, hold, hslot]
  simp only [isSome_some, if_true]
  omega

/-- The slots taken are as many as the keys. -/
lemma load_eq_length : load key slots = (slots.filterMap key).length := by
  rw [load, length_filterMap_eq_countP]

end Load

end Probing
