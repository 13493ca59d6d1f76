/-
The cache of `page_cache.c` as a map of copies: its frames are valid or free, a lookup
answers from the map, and only a removal, or a put of a new page that finds no free frame,
takes a page from it.
-/
import ShibaDb.Pager.PageCache
import ShibaDb.Wal.IdSet

namespace ShibaDb

open Probing List Option Function

namespace PageCache

/-- The pages and copies in the frames, without the reference bits. -/
def content (cache : PageCache) : List (Option (PageId × Bytes)) :=
  cache.entries.map (Option.map fun entry => (entry.pageId, entry.bytes))

/-- The frames hold the map, and each is valid or on the free list. -/
structure Pooled (cache : PageCache) (map : PageId → Option Bytes) : Prop where
  once : ∀ (first last : Nat) (pageId : PageId) (one two : Bytes),
    cache.content[first]? = some (some (pageId, one)) →
    cache.content[last]? = some (some (pageId, two)) → first = last
  shows : ∀ pageId bytes,
    map pageId = some bytes ↔ ∃ frame : Nat, cache.content[frame]? = some (some (pageId, bytes))
  zero : map 0 = none
  freeNodup : cache.freeList.Nodup
  free : ∀ frame : Nat, frame ∈ cache.freeList ↔ cache.content[frame]? = some none
  hand : cache.clockHand < cache.content.length

/-- The cache with a frame given back. -/
def released (cache : PageCache) (frame : Nat) : PageCache :=
  { cache.set frame none with freeList := frame :: cache.freeList }

section Content

variable {cache : PageCache} {frame : Nat} {entry : CacheEntry} {pageId : PageId} {bytes : Bytes}

@[simp] lemma length_content : cache.content.length = cache.entries.length := length_map ..

lemma content_eq_some : cache.content[frame]? = some (some (pageId, bytes)) ↔
      ∃ entry, cache.At frame entry ∧ entry.pageId = pageId ∧ entry.bytes = bytes := by
  rw [content, List.getElem?_map, map_eq_some_iff]
  constructor
  · rintro ⟨slot, hslot, hheld⟩
    obtain ⟨entry, rfl, hentry⟩ := Option.map_eq_some_iff.mp hheld
    obtain ⟨hpage, hbytes⟩ := Prod.mk.inj hentry
    exact ⟨entry, hslot, hpage, hbytes⟩
  · rintro ⟨entry, hat, rfl, rfl⟩
    exact ⟨some entry, hat, rfl⟩

lemma content_of_at (hat : cache.At frame entry) :
    cache.content[frame]? = some (some (entry.pageId, entry.bytes)) :=
  content_eq_some.mpr ⟨entry, hat, rfl, rfl⟩

lemma content_set (new : Option CacheEntry) : (cache.set frame new).content =
      cache.content.set frame (new.map fun entry => (entry.pageId, entry.bytes)) := by
  rw [content, content, set, map_set]

lemma content_released : (cache.released frame).content = cache.content.set frame none :=
  content_set none

/-- The reference bits are not part of the content. -/
lemma content_set_ref (hat : cache.At frame entry) (ref : Bool) :
    (cache.set frame (some { entry with ref })).content = cache.content := by
  rw [content_set]
  apply ext_getElem?
  intro other
  rw [List.getElem?_set]
  split
  · rename_i hsame
    subst hsame
    have hheld := content_of_at hat
    rw [if_pos (List.getElem?_eq_some_iff.mp hheld).1, hheld]
    rfl
  · rfl

end Content

section Pool

variable {cache after : PageCache} {map : PageId → Option Bytes} {frame : Nat} {entry : CacheEntry}
  {pageId : PageId} {bytes : Bytes}

section

variable (hpooled : cache.Pooled map)

include hpooled

/-- The reference bits and the place of the hand do not matter. -/
lemma Pooled.congr (hcontent : after.content = cache.content)
    (hfree : after.freeList = cache.freeList) (hhand : after.clockHand < cache.content.length) :
    after.Pooled map := by
  refine ⟨?_, ?_, hpooled.zero, ?_, ?_, ?_⟩
  · rw [hcontent]
    exact hpooled.once
  · rw [hcontent]
    exact hpooled.shows
  · rw [hfree]
    exact hpooled.freeNodup
  · rw [hfree, hcontent]
    exact hpooled.free
  · rwa [hcontent]

lemma Pooled.distinct : cache.Distinct := by
  intro first second one two hone htwo hpage
  have hfirst := content_of_at hone
  rw [hpage] at hfirst
  exact hpooled.once first second two.pageId one.bytes two.bytes hfirst (content_of_at htwo)

lemma Pooled.not_held (hmap : map pageId = none) (frame : Nat)
    (bytes : Bytes) : cache.content[frame]? ≠ some (some (pageId, bytes)) := by
  intro hheld
  have hsome := (hpooled.shows pageId bytes).mpr ⟨frame, hheld⟩
  rw [hmap] at hsome
  cases hsome

lemma Pooled.find_none (hmap : map pageId = none) :
    pageCacheFind cache pageId = none := by
  cases hfind : pageCacheFind cache pageId with
  | none => rfl
  | some found =>
    obtain ⟨hat, hpage⟩ := at_of_find hfind
    exact absurd (hpage ▸ content_of_at hat) (hpooled.not_held hmap found.1 found.2.bytes)

lemma Pooled.find_some (hmap : map pageId = some bytes) :
    ∃ frame entry, pageCacheFind cache pageId = some (frame, entry) ∧ cache.At frame entry ∧
      entry.pageId = pageId ∧ entry.bytes = bytes := by
  obtain ⟨frame, hheld⟩ := (hpooled.shows pageId bytes).mp hmap
  obtain ⟨entry, hat, hpage, hbytes⟩ := content_eq_some.mp hheld
  cases hfind : pageCacheFind cache pageId with
  | none => exact absurd hpage (not_at_of_find_none hfind hat)
  | some found =>
    obtain ⟨hother, hsame⟩ := at_of_find hfind
    have hframe : found.1 = frame :=
      hpooled.distinct _ _ _ _ hother hat (hsame.trans hpage.symm)
    rw [← hframe, At, hother] at hat
    obtain rfl := Option.some.inj (Option.some.inj hat)
    exact ⟨found.1, found.2, rfl, hother, hpage, hbytes⟩

lemma Pooled.page_ne_zero
    (hheld : cache.content[frame]? = some (some (pageId, bytes))) : pageId ≠ 0 := by
  rintro rfl
  exact hpooled.not_held hpooled.zero frame bytes hheld

/-- A valid frame is given up. -/
lemma Pooled.release
    (hheld : cache.content[frame]? = some (some (pageId, bytes)))
    (hcontent : after.content = cache.content.set frame none)
    (hfree : after.freeList = frame :: cache.freeList)
    (hhand : after.clockHand < cache.content.length) :
    after.Pooled (Function.update map pageId none) := by
  have hframe := (List.getElem?_eq_some_iff.mp hheld).1
  have hother : ∀ {other : Nat} {held : PageId × Bytes},
      after.content[other]? = some (some held) ↔
        other ≠ frame ∧ cache.content[other]? = some (some held) := by
    intro other held
    rw [hcontent, List.getElem?_set]
    by_cases hsame : frame = other
    · simp [hsame]
    · simp [hsame, Ne.symm hsame]
  refine ⟨fun first last page one two hfirst hlast => ?_, fun page copy => ?_, ?_, ?_,
    fun other => ?_, ?_⟩
  · exact hpooled.once first last page one two (hother.mp hfirst).2 (hother.mp hlast).2
  · by_cases hpage : page = pageId
    · subst hpage
      rw [update_self]
      refine ⟨fun hnone => (by cases hnone), fun ⟨other, hcopy⟩ => ?_⟩
      obtain ⟨hne, hold⟩ := hother.mp hcopy
      exact absurd (hpooled.once other frame page copy bytes hold hheld) hne
    · rw [update_of_ne hpage, hpooled.shows]
      refine exists_congr fun other => ⟨fun hold => hother.mpr ⟨?_, hold⟩, fun h => (hother.mp h).2⟩
      rintro rfl
      rw [hheld, Option.some.injEq, Option.some.injEq] at hold
      exact hpage (congrArg Prod.fst hold).symm
  · rw [update_of_ne (hpooled.page_ne_zero hheld).symm, hpooled.zero]
  · rw [hfree, nodup_cons, hpooled.free, hheld]
    exact ⟨by simp, hpooled.freeNodup⟩
  · rw [hfree, mem_cons, hpooled.free, hcontent, List.getElem?_set]
    by_cases hsame : frame = other
    · subst hsame
      rw [if_pos rfl, if_pos hframe]
      simp
    · simp [hsame, Ne.symm hsame]
  · rwa [hcontent, length_set]

end

/-- A frame from the top of the free list gets a page that has none. -/
lemma Pooled.fill {taken : PageCache} {rest : List Nat} (hpooled : taken.Pooled map)
    (htop : taken.freeList = frame :: rest) (hpage : pageId ≠ 0) (hmap : map pageId = none)
    (hcontent : after.content = taken.content.set frame (some (pageId, bytes)))
    (hfree : after.freeList = rest) (hhand : after.clockHand < taken.content.length) :
    after.Pooled (Function.update map pageId (some bytes)) := by
  have hempty : taken.content[frame]? = some none :=
    (hpooled.free frame).mp (by rw [htop]; exact mem_cons_self)
  have hframe := (List.getElem?_eq_some_iff.mp hempty).1
  have hself : after.content[frame]? = some (some (pageId, bytes)) := by
    rw [hcontent, List.getElem?_set_self hframe]
  have hother : ∀ {other : Nat}, other ≠ frame → after.content[other]? = taken.content[other]? := by
    intro other hne
    rw [hcontent, List.getElem?_set_ne hne.symm]
  have hunique : ∀ {other : Nat} {copy : Bytes},
      after.content[other]? = some (some (pageId, copy)) → other = frame := by
    intro other copy hcopy
    by_contra hne
    rw [hother hne] at hcopy
    exact hpooled.not_held hmap other copy hcopy
  have hold : ∀ {other : Nat} {page : PageId} {copy : Bytes}, page ≠ pageId →
      (after.content[other]? = some (some (page, copy)) ↔
        taken.content[other]? = some (some (page, copy))) := by
    intro other page copy hne
    by_cases hsame : other = frame
    · subst hsame
      rw [hself, hempty]
      simp [Ne.symm hne]
    · rw [hother hsame]
  have hnodup := hpooled.freeNodup
  rw [htop, nodup_cons] at hnodup
  refine ⟨fun first last page one two hfirst hlast => ?_, fun page copy => ?_, ?_, ?_,
    fun other => ?_, ?_⟩
  · by_cases hsame : page = pageId
    · subst hsame
      exact (hunique hfirst).trans (hunique hlast).symm
    · exact hpooled.once first last page one two ((hold hsame).mp hfirst) ((hold hsame).mp hlast)
  · by_cases hsame : page = pageId
    · subst hsame
      rw [update_self, Option.some.injEq]
      refine ⟨fun hbytes => ⟨frame, hbytes ▸ hself⟩, fun ⟨other, hcopy⟩ => ?_⟩
      rw [hunique hcopy, hself, Option.some.injEq, Option.some.injEq] at hcopy
      exact congrArg Prod.snd hcopy
    · rw [update_of_ne hsame, hpooled.shows]
      exact exists_congr fun other => (hold hsame).symm
  · rw [update_of_ne hpage.symm, hpooled.zero]
  · rw [hfree]
    exact hnodup.2
  · rw [hfree]
    by_cases hsame : other = frame
    · subst hsame
      rw [hself]
      simp [hnodup.1]
    · rw [hother hsame, ← hpooled.free, htop, mem_cons]
      simp [hsame]
  · rwa [hcontent, length_set]

/-- The copy in a valid frame is replaced. -/
lemma Pooled.rewrite (hpooled : cache.Pooled map) {old : Bytes}
    (hheld : cache.content[frame]? = some (some (pageId, old)))
    (hcontent : after.content = cache.content.set frame (some (pageId, bytes)))
    (hfree : after.freeList = cache.freeList) (hhand : after.clockHand < cache.content.length) :
    after.Pooled (Function.update map pageId (some bytes)) := by
  -- as if the frame were given up and taken again
  have hreleased : (cache.released frame).Pooled (Function.update map pageId none) :=
    hpooled.release hheld content_released rfl hpooled.hand
  have hfilled := hreleased.fill rfl (hpooled.page_ne_zero hheld)
    (update_self ..) (by rw [hcontent, content_released, set_set]) hfree
    (by rwa [content_released, length_set])
  rwa [update_idem] at hfilled

lemma pooled_init {capacity : Nat} (hcapacity : 0 < capacity) :
    (pageCacheInit capacity).Pooled fun _ => none := by
  have hcontent : (pageCacheInit capacity).content = List.replicate capacity none := by
    rw [content, pageCacheInit, map_replicate]
    rfl
  have hempty : ∀ {frame : Nat} {held : PageId × Bytes},
      (pageCacheInit capacity).content[frame]? ≠ some (some held) := by
    intro frame held hheld
    rw [hcontent, List.getElem?_replicate] at hheld
    split at hheld <;> cases hheld
  refine ⟨fun _ _ _ _ _ hfirst => absurd hfirst hempty, fun _ _ => ?_, rfl, nodup_range,
    fun frame => ?_, ?_⟩
  · exact ⟨fun hnone => (by cases hnone), fun ⟨_, hheld⟩ => absurd hheld hempty⟩
  · rw [hcontent, List.getElem?_replicate]
    simp [pageCacheInit]
  · rw [hcontent, length_replicate]
    exact hcapacity

end Pool

section Sweep

/-- The hand moves to the next frame. -/
def turned (cache : PageCache) : PageCache :=
  { cache with clockHand := (cache.clockHand + 1) % cache.entries.length }

/-- The frame under the hand loses its reference bit, and the hand moves on. -/
def cleared (cache : PageCache) (entry : CacheEntry) : PageCache :=
  cache.turned.set cache.clockHand (some { entry with ref := false })

variable {cache after : PageCache} {map : PageId → Option Bytes} {frame fuel : Nat}
  {entry : CacheEntry}

lemma clockEvict_cleared (hat : cache.At cache.clockHand entry) (href : entry.ref = true) :
    pageCacheClockEvict (fuel + 1) cache = pageCacheClockEvict fuel (cache.cleared entry) := by
  simp only [pageCacheClockEvict]
  rw [show cache.entries[cache.clockHand]? = _ from hat]
  exact if_pos href

lemma clockEvict_victim (hat : cache.At cache.clockHand entry) (href : entry.ref = false) :
    pageCacheClockEvict (fuel + 1) cache =
      some (cache.clockHand, cache.turned.set cache.clockHand none) := by
  simp only [pageCacheClockEvict]
  rw [show cache.entries[cache.clockHand]? = _ from hat]
  exact if_neg (by rw [href]; exact Bool.false_ne_true)

lemma clockEvict_invalid (hnot : ∀ entry, ¬cache.At cache.clockHand entry) :
    pageCacheClockEvict (fuel + 1) cache = pageCacheClockEvict fuel cache.turned := by
  simp only [pageCacheClockEvict]
  split
  · rename_i entry hat
    exact absurd hat (hnot entry)
  · rfl

lemma content_cleared (hat : cache.At cache.clockHand entry) :
    (cache.cleared entry).content = cache.content :=
  content_set_ref (show cache.turned.At cache.clockHand entry from hat) false

lemma turned_lt (hhand : cache.clockHand < cache.content.length) :
    cache.turned.clockHand < cache.content.length := by
  rw [length_content] at hhand ⊢
  exact Nat.mod_lt _ (by omega)

/-- The sweep empties one valid frame and puts it on no list. -/
lemma clockEvict_eq_some (hhand : cache.clockHand < cache.content.length)
    (h : pageCacheClockEvict fuel cache = some (frame, after)) :
    (∃ pageId bytes, cache.content[frame]? = some (some (pageId, bytes))) ∧
      after.content = cache.content.set frame none ∧ after.freeList = cache.freeList ∧
      after.clockHand < cache.content.length := by
  induction fuel generalizing cache with
  | zero => cases h
  | succ fuel ih =>
    by_cases hvalid : ∃ entry, cache.At cache.clockHand entry
    · obtain ⟨entry, hat⟩ := hvalid
      cases href : entry.ref with
      | true =>
        rw [clockEvict_cleared hat href] at h
        have hsame := content_cleared hat
        rw [← hsame]
        exact ih (by rw [hsame]; exact turned_lt hhand) h
      | false =>
        rw [clockEvict_victim hat href] at h
        obtain ⟨rfl, rfl⟩ := Prod.mk.inj (Option.some.inj h)
        exact ⟨⟨_, _, content_of_at hat⟩, content_set none, rfl, turned_lt hhand⟩
    · rw [clockEvict_invalid (not_exists.mp hvalid)] at h
      exact @ih cache.turned (turned_lt hhand) h

/-- Every frame is valid, and the last `count` frames that the hand passed have no
reference bit. -/
structure Swept (cache : PageCache) (count : Nat) : Prop where
  hand : cache.clockHand < cache.entries.length
  full : ∀ frame < cache.entries.length, ∃ entry, cache.At frame entry
  passed : ∀ back, 0 < back → back ≤ count → ∀ entry,
    cache.At (ahead cache.entries.length cache.clockHand (cache.entries.length - back)) entry →
      entry.ref = false

/-- The hand moves on from a frame that lost its reference bit. -/
lemma Swept.next {count : Nat} (hswept : cache.Swept count)
    (hcount : count < cache.entries.length) (entry : CacheEntry) :
    (cache.cleared entry).Swept (count + 1) := by
  have hhand := hswept.hand
  have hlength : (cache.cleared entry).entries.length = cache.entries.length := length_set ..
  have hturned :
      (cache.cleared entry).clockHand = ahead cache.entries.length cache.clockHand 1 := by
    change (cache.clockHand + 1) % cache.entries.length = _
    unfold ahead
    split
    · exact Nat.mod_eq_of_lt ‹_›
    · rw [show cache.clockHand + 1 = cache.entries.length by omega, Nat.mod_self, Nat.sub_self]
  constructor
  · rw [hlength, hturned]
    unfold ahead
    split_ifs <;> omega
  · rw [hlength]
    intro frame hframe
    by_cases hsame : frame = cache.clockHand
    · subst hsame
      exact ⟨_, List.getElem?_set_self hframe⟩
    · obtain ⟨found, hfound⟩ := hswept.full frame hframe
      exact ⟨found, (List.getElem?_set_ne (Ne.symm hsame)).trans hfound⟩
  · rw [hlength, hturned]
    intro back hpos hback found hfound
    rcases at_set _ hfound with ⟨_, hentry⟩ | ⟨hne, hold⟩
    · rw [← Option.some.inj hentry]
    · -- the frame just passed is the one that lost its bit; the others were passed before
      have hone : back ≠ 1 := by
        rintro rfl
        apply hne
        unfold ahead
        split_ifs <;> omega
      have hplace : ahead cache.entries.length (ahead cache.entries.length cache.clockHand 1)
          (cache.entries.length - back) =
            ahead cache.entries.length cache.clockHand (cache.entries.length - (back - 1)) := by
        unfold ahead
        split_ifs <;> omega
      rw [hplace] at hold
      exact hswept.passed (back - 1) (by omega) (by omega) found hold

/-- With every frame valid, the sweep finds its victim within one round and a step. -/
lemma Swept.evicts {count : Nat} (hswept : cache.Swept count)
    (hcount : count ≤ cache.entries.length) (hfuel : cache.entries.length - count < fuel) :
    ∃ frame after, pageCacheClockEvict fuel cache = some (frame, after) := by
  induction fuel generalizing cache count with
  | zero => omega
  | succ fuel ih =>
    have hhand := hswept.hand
    obtain ⟨entry, hat⟩ := hswept.full _ hhand
    cases href : entry.ref with
    | false => exact ⟨_, _, clockEvict_victim hat href⟩
    | true =>
      have hless : count < cache.entries.length := by
        rcases Nat.lt_or_eq_of_le hcount with hlt | heq
        · exact hlt
        · have hself : ahead cache.entries.length cache.clockHand
              (cache.entries.length - count) = cache.clockHand := by
            rw [heq, Nat.sub_self, ahead_zero hhand]
          have hclear := hswept.passed count (by omega) le_rfl entry (by rwa [hself])
          rw [href] at hclear
          cases hclear
      rw [clockEvict_cleared hat href]
      have hlength : (cache.cleared entry).entries.length = cache.entries.length :=
        length_set ..
      exact ih (hswept.next hless entry) (by omega) (by omega)

/-- A frame for a new page is there, from the free list or, with every frame taken, from the
sweep. -/
lemma Pooled.take (hpooled : cache.Pooled map) :
    ∃ frame taken left, pageCacheTake cache = some (frame, taken) ∧
      Pooled { taken with freeList := frame :: taken.freeList } left ∧
      (∀ pageId, map pageId = none → left pageId = none) ∧
      ((cache.freeList ≠ [] ∧ left = map) ∨ (cache.freeList = [] ∧ ∃ victim, map victim ≠ none ∧
        left = Function.update map victim none)) := by
  rw [pageCacheTake]
  cases hfree : cache.freeList with
  | cons frame rest =>
    refine ⟨frame, { cache with freeList := rest }, map, rfl, ?_, fun _ hmap => hmap,
      .inl ⟨by simp, rfl⟩⟩
    exact hpooled.congr rfl hfree.symm hpooled.hand
  | nil =>
    have hhand := hpooled.hand
    have hfull : cache.Swept 0 := by
      refine ⟨length_content ▸ hhand, fun frame hframe => ?_, fun back hpos hback => by omega⟩
      cases hentry : cache.entries[frame] with
      | some entry => exact ⟨entry, by rw [At, List.getElem?_eq_getElem hframe, hentry]⟩
      | none =>
        have hinvalid : frame ∈ cache.freeList := by
          rw [hpooled.free, content, List.getElem?_map, List.getElem?_eq_getElem hframe, hentry]
          rfl
        rw [hfree] at hinvalid
        cases hinvalid
    obtain ⟨frame, taken, hevict⟩ : ∃ frame taken,
        pageCacheClockEvict (2 * cache.entries.length + 1) cache = some (frame, taken) :=
      hfull.evicts (Nat.zero_le _) (by omega)
    obtain ⟨⟨pageId, bytes, hheld⟩, hcontent, hsame, hturned⟩ := clockEvict_eq_some hhand hevict
    refine ⟨frame, taken, Function.update map pageId none, hevict, ?_, fun other hmap => ?_,
      .inr ⟨rfl, pageId, ?_, rfl⟩⟩
    · exact hpooled.release hheld hcontent (by rw [hsame]) hturned
    · by_cases hsame : other = pageId
      · rw [hsame, update_self]
      · rw [update_of_ne hsame, hmap]
    · rw [(hpooled.shows pageId bytes).mpr ⟨frame, hheld⟩]
      exact some_ne_none bytes

end Sweep

section Calls

variable {cache : PageCache} {map : PageId → Option Bytes} {pageId : PageId}

lemma length_get (cache : PageCache) (pageId : PageId) :
    (pageCacheGet cache pageId).2.entries.length = cache.entries.length := by
  rw [pageCacheGet]
  split
  · rfl
  · split
    · rfl
    · exact length_set ..

lemma length_remove (cache : PageCache) (pageId : PageId) :
    (pageCacheRemove cache pageId).entries.length = cache.entries.length := by
  rw [pageCacheRemove]
  split
  · rfl
  · exact length_set ..

variable (hpooled : cache.Pooled map)

include hpooled

lemma Pooled.get (pageId : PageId) :
    (pageCacheGet cache pageId).1 = map pageId ∧ (pageCacheGet cache pageId).2.Pooled map := by
  rw [pageCacheGet]
  split
  · rename_i hzero
    rw [hzero]
    exact ⟨hpooled.zero.symm, hpooled⟩
  · cases hmap : map pageId with
    | none =>
      rw [hpooled.find_none hmap]
      exact ⟨rfl, hpooled⟩
    | some bytes =>
      obtain ⟨frame, entry, hfind, hat, _, hbytes⟩ := hpooled.find_some hmap
      rw [hfind]
      exact ⟨congrArg some hbytes, hpooled.congr (content_set_ref hat true) rfl hpooled.hand⟩

lemma Pooled.remove (pageId : PageId) :
    (pageCacheRemove cache pageId).Pooled (Function.update map pageId none) := by
  rw [pageCacheRemove]
  cases hmap : map pageId with
  | none =>
    rw [hpooled.find_none hmap, ← hmap, update_eq_self]
    exact hpooled
  | some bytes =>
    obtain ⟨frame, entry, hfind, hat, rfl, _⟩ := hpooled.find_some hmap
    rw [hfind]
    exact hpooled.release (content_of_at hat) content_released rfl hpooled.hand

/-- A put enters the copy; a new page can cost another one its frame, but only when no frame
is free. -/
lemma Pooled.put (hpage : pageId ≠ 0) (bytes : Bytes) :
    ∃ left, (pageCachePut cache pageId bytes).Pooled (Function.update left pageId (some bytes)) ∧
      ((left = map ∧ (map pageId ≠ none ∨ cache.freeList ≠ [])) ∨
        (map pageId = none ∧ cache.freeList = [] ∧ ∃ victim, map victim ≠ none ∧
          left = Function.update map victim none)) := by
  have hhand := hpooled.hand
  rw [length_content] at hhand
  have hframes : ¬(decide (pageId = 0) || decide (cache.entries.length = 0)) = true := by
    rw [decide_eq_false hpage, Bool.false_or, decide_eq_true_iff]
    omega
  rw [pageCachePut, if_neg hframes]
  cases hmap : map pageId with
  | some old =>
    obtain ⟨frame, entry, hfind, hat, rfl, _⟩ := hpooled.find_some hmap
    rw [hfind]
    refine ⟨map, ?_, .inl ⟨rfl, .inl (some_ne_none old)⟩⟩
    exact hpooled.rewrite (content_of_at hat) (content_set _) rfl hpooled.hand
  | none =>
    obtain ⟨frame, taken, left, htake, hleft, habsent, hcases⟩ := hpooled.take
    rw [hpooled.find_none hmap, htake]
    refine ⟨left, hleft.fill rfl hpage (habsent pageId hmap) (content_set _) rfl hleft.hand, ?_⟩
    rcases hcases with ⟨hfree, hsame⟩ | ⟨hfree, hvictim⟩
    · exact .inl ⟨hsame, .inr hfree⟩
    · exact .inr ⟨rfl, hfree, hvictim⟩

lemma Pooled.length_put (pageId : PageId) (bytes : Bytes) :
    (pageCachePut cache pageId bytes).entries.length = cache.entries.length := by
  rw [pageCachePut]
  split
  · rfl
  · split
    · exact length_set ..
    · split
      · rename_i frame taken htake
        refine (length_set ..).trans ?_
        rw [pageCacheTake] at htake
        split at htake
        · obtain ⟨_, rfl⟩ := Prod.mk.inj (Option.some.inj htake)
          rfl
        · obtain ⟨_, hcontent, _⟩ := clockEvict_eq_some hpooled.hand htake
          rw [← length_content, hcontent, length_set, length_content]
      · rfl

/-- The free frames are those that hold nothing. -/
lemma Pooled.length_freeList : cache.freeList.length = cache.content.countP Option.isNone := by
  have hindices : (List.range cache.content.length).map (fun frame => cache.content[frame]?) =
      cache.content.map some := by
    apply ext_getElem
    · simp
    · intro frame _ _
      simp
  have hperm : cache.freeList.Perm ((List.range cache.content.length).filter fun frame =>
      cache.content[frame]?.any Option.isNone) := by
    refine (perm_ext_iff_of_nodup hpooled.freeNodup (List.nodup_range.filter _)).mpr
      fun frame => ?_
    rw [hpooled.free, mem_filter, mem_range]
    constructor
    · intro hfree
      rw [hfree]
      exact ⟨(List.getElem?_eq_some_iff.mp hfree).1, rfl⟩
    · rintro ⟨hframe, hnone⟩
      rw [List.getElem?_eq_getElem hframe, any_some, isNone_iff_eq_none] at hnone
      rw [List.getElem?_eq_getElem hframe, hnone]
  have hcount := congrArg (List.countP fun held => held.any Option.isNone) hindices
  rw [countP_map, countP_map] at hcount
  rw [hperm.length_eq, ← countP_eq_length_filter]
  exact hcount

/-- The pages are as many as the frames that are not free. -/
lemma Pooled.pages :
    ∃ count, Pages map count ∧ count + cache.freeList.length = cache.entries.length := by
  have hheld : ∀ {held : Option (PageId × Bytes)} {pageId : PageId},
      held.map Prod.fst = some pageId → ∃ bytes, held = some (pageId, bytes) := by
    intro held pageId hmap
    obtain ⟨⟨page, bytes⟩, hsome, rfl⟩ := Option.map_eq_some_iff.mp hmap
    exact ⟨bytes, hsome⟩
  refine ⟨_, ⟨cache.content.filterMap (Option.map Prod.fst), ?_, rfl, fun pageId => ?_⟩, ?_⟩
  · rw [List.Nodup, pairwise_filterMap, pairwise_iff_getElem]
    intro first last hfirst hlast hlt found hfound other hother hsame
    subst hsame
    obtain ⟨one, hone⟩ := hheld hfound
    obtain ⟨two, htwo⟩ := hheld hother
    apply Nat.ne_of_lt hlt
    apply hpooled.once first last found one two
    · rw [List.getElem?_eq_getElem hfirst, hone]
    · rw [List.getElem?_eq_getElem hlast, htwo]
  · rw [mem_filterMap, ne_none_iff_exists']
    constructor
    · rintro ⟨held, hmem, hmap⟩
      obtain ⟨bytes, rfl⟩ := hheld hmap
      exact ⟨bytes, (hpooled.shows pageId bytes).mpr (mem_iff_getElem?.mp hmem)⟩
    · rintro ⟨bytes, hmap⟩
      exact ⟨_, mem_iff_getElem?.mpr ((hpooled.shows pageId bytes).mp hmap), rfl⟩
  · have hsplit : cache.content.length = _ := length_eq_countP_add_countP Option.isSome
    rw [length_filterMap_eq_countP, hpooled.length_freeList, ← length_content, hsplit]
    congr 2
    · funext held
      exact isSome_map
    · funext held
      cases held <;> rfl

end Calls

end PageCache

end ShibaDb
