/-
`page_cache.c`: copies of plain pages in a fixed number of frames, with a
second-chance sweep that frees one when all are taken.  The hash slots only find
the frame of a page; here the frames are searched.
-/
import ShibaDb.Status

namespace ShibaDb

open LittleEndian

/-- `sdb_page_cache_entry` of a frame that is valid. -/
structure CacheEntry where
  pageId : PageId
  bytes : Bytes
  ref : Bool
  deriving DecidableEq, Repr

structure PageCache where
  /-- The frames; one that is not valid holds nothing. -/
  entries : List (Option CacheEntry)
  /-- The unused frames, the next one to take first. -/
  freeList : List Nat
  clockHand : Nat
  deriving DecidableEq, Repr

def pageCacheInit (capacity : Nat) : PageCache :=
  { entries := List.replicate capacity none, freeList := List.range capacity, clockHand := 0 }

/-- Frame `frame` is valid and holds `entry`. -/
def PageCache.At (cache : PageCache) (frame : Nat) (entry : CacheEntry) : Prop :=
  cache.entries[frame]? = some (some entry)

def PageCache.set (cache : PageCache) (frame : Nat) (entry : Option CacheEntry) : PageCache :=
  { cache with entries := cache.entries.set frame entry }

/-- `sdb_page_cache_find_slot` and the frame it names. -/
def pageCacheFind (cache : PageCache) (pageId : PageId) : Option (Nat × CacheEntry) :=
  (cache.entries.findIdx? fun entry => entry.any (·.pageId = pageId)).bind fun frame =>
    cache.entries[frame]?.join.map fun entry => (frame, entry)

def pageCacheGet (cache : PageCache) (pageId : PageId) : Option Bytes × PageCache :=
  if pageId = 0 then (none, cache)
  else
    match pageCacheFind cache pageId with
    | none => (none, cache)
    | some (frame, entry) => (some entry.bytes, cache.set frame (some { entry with ref := true }))

/-- The sweep: a frame whose reference bit is set loses the bit, the first one
without it loses its page.  With every frame taken two rounds are enough. -/
def pageCacheClockEvict : Nat → PageCache → Option (Nat × PageCache)
  | 0, _ => none
  | fuel + 1, cache =>
    let frame := cache.clockHand
    let swept := { cache with clockHand := (cache.clockHand + 1) % cache.entries.length }
    match cache.entries[frame]? with
    | some (some entry) =>
      if entry.ref then
        pageCacheClockEvict fuel (swept.set frame (some { entry with ref := false }))
      else some (frame, swept.set frame none)
    | _ => pageCacheClockEvict fuel swept

/-- A frame for a page that has none. -/
def pageCacheTake (cache : PageCache) : Option (Nat × PageCache) :=
  match cache.freeList with
  | frame :: rest => some (frame, { cache with freeList := rest })
  | [] => pageCacheClockEvict (2 * cache.entries.length + 1) cache

def pageCachePut (cache : PageCache) (pageId : PageId) (bytes : Bytes) : PageCache :=
  if pageId = 0 || cache.entries.length = 0 then cache
  else
    match pageCacheFind cache pageId with
    | some (frame, entry) => cache.set frame (some { entry with bytes, ref := true })
    | none =>
      match pageCacheTake cache with
      | some (frame, cache) => cache.set frame (some { pageId, bytes, ref := false })
      | none => cache

def pageCacheRemove (cache : PageCache) (pageId : PageId) : PageCache :=
  match pageCacheFind cache pageId with
  | none => cache
  | some (frame, _) =>
    { cache.set frame none with freeList := frame :: cache.freeList }

namespace PageCache

variable {cache : PageCache} {pageId other : PageId} {frame : Nat} {entry : CacheEntry}
  {bytes : Bytes} {after : PageCache}

/-- The cache has a copy of a page. -/
def Holds (cache : PageCache) (pageId : PageId) (bytes : Bytes) : Prop :=
  ∃ frame entry, cache.At frame entry ∧ entry.pageId = pageId ∧ entry.bytes = bytes

/-- No page is in two frames. -/
def Distinct (cache : PageCache) : Prop :=
  ∀ first second one two, cache.At first one → cache.At second two →
    one.pageId = two.pageId → first = second

/-- Each copy in `after` was in `cache`. -/
def Keeps (after cache : PageCache) : Prop :=
  ∀ frame entry, after.At frame entry → ∃ old, cache.At frame old ∧
    old.pageId = entry.pageId ∧ old.bytes = entry.bytes

lemma at_set (entry : Option CacheEntry) {other : Nat} {found : CacheEntry}
    (h : (cache.set frame entry).At other found) :
    (other = frame ∧ entry = some found) ∨ (other ≠ frame ∧ cache.At other found) := by
  by_cases hframe : other = frame
  · subst hframe
    left
    constructor
    · rfl
    · simp only [At, set, List.getElem?_set_self'] at h
      cases hslot : cache.entries[other]? with
      | none =>
        rw [hslot] at h
        simp at h
      | some slot =>
        rw [hslot] at h
        simpa using h
  · right
    refine ⟨hframe, ?_⟩
    simpa [At, set, List.getElem?_set_ne (Ne.symm hframe)] using h

lemma at_of_find (h : pageCacheFind cache pageId = some (frame, entry)) :
    cache.At frame entry ∧ entry.pageId = pageId := by
  unfold pageCacheFind at h
  obtain ⟨index, hindex, h⟩ := Option.bind_eq_some_iff.mp h
  obtain ⟨found, hfound, hpair⟩ := Option.map_eq_some_iff.mp h
  obtain ⟨rfl, rfl⟩ := Prod.mk.inj hpair
  have hat : cache.At index found := Option.join_eq_some_iff.mp hfound
  refine ⟨hat, ?_⟩
  obtain ⟨hlt, hany, -⟩ := List.findIdx?_eq_some_iff_getElem.mp hindex
  have hslot : cache.entries[index] = some found := by
    have hat' := hat
    rw [At, List.getElem?_eq_getElem hlt] at hat'
    exact Option.some.inj hat'
  rw [hslot] at hany
  simpa using hany

/-- A page that is not found is in no frame. -/
lemma not_at_of_find_none (h : pageCacheFind cache pageId = none) (hat : cache.At frame entry) :
    entry.pageId ≠ pageId := by
  intro hpage
  unfold pageCacheFind at h
  have hmem : some entry ∈ cache.entries := List.mem_of_getElem? hat
  cases hindex : cache.entries.findIdx? fun entry => entry.any (·.pageId = pageId) with
  | none =>
    have hno := List.findIdx?_eq_none_iff.mp hindex (some entry) hmem
    simp [hpage] at hno
  | some index =>
    rw [hindex, Option.bind_some, Option.map_eq_none_iff, Option.join_eq_none_iff] at h
    obtain ⟨hlt, hany, -⟩ := List.findIdx?_eq_some_iff_getElem.mp hindex
    rw [List.getElem?_eq_getElem hlt] at h
    rcases h with h | h
    · cases h
    · rw [Option.some.inj h] at hany
      simp at hany

lemma Keeps.refl (cache : PageCache) : cache.Keeps cache := by
  intro frame entry hat
  exact ⟨entry, hat, rfl, rfl⟩

lemma Keeps.trans {first second third : PageCache} (h : third.Keeps second)
    (h' : second.Keeps first) : third.Keeps first := by
  intro frame entry hat
  obtain ⟨old, hold, hpage, hbytes⟩ := h frame entry hat
  obtain ⟨older, holder, hpage', hbytes'⟩ := h' frame old hold
  exact ⟨older, holder, hpage'.trans hpage, hbytes'.trans hbytes⟩

/-- A frame whose entry changes in its reference bit at most. -/
lemma keeps_set_ref (hat : cache.At frame entry) (ref : Bool) :
    (cache.set frame (some { entry with ref })).Keeps cache := by
  intro other found hfound
  rcases at_set _ hfound with ⟨rfl, hentry⟩ | ⟨-, hold⟩
  · obtain rfl := Option.some.inj hentry
    exact ⟨entry, hat, rfl, rfl⟩
  · exact ⟨found, hold, rfl, rfl⟩

lemma keeps_set_none : (cache.set frame none).Keeps cache := by
  intro other found hfound
  rcases at_set _ hfound with ⟨-, hentry⟩ | ⟨-, hold⟩
  · cases hentry
  · exact ⟨found, hold, rfl, rfl⟩

lemma Keeps.distinct (h : after.Keeps cache) (hdistinct : cache.Distinct) : after.Distinct := by
  intro first second one two hfirst hsecond hpage
  obtain ⟨oldOne, hone, honePage, -⟩ := h first one hfirst
  obtain ⟨oldTwo, htwo, htwoPage, -⟩ := h second two hsecond
  apply hdistinct first second oldOne oldTwo hone htwo
  rw [honePage, htwoPage, hpage]

lemma Keeps.holds (h : after.Keeps cache) (hholds : after.Holds pageId bytes) :
    cache.Holds pageId bytes := by
  obtain ⟨frame, entry, hat, rfl, rfl⟩ := hholds
  obtain ⟨old, hold, hpage, hbytes⟩ := h frame entry hat
  exact ⟨frame, old, hold, hpage, hbytes⟩

/-- The sweep only drops pages. -/
lemma keeps_clockEvict {fuel : Nat} (h : pageCacheClockEvict fuel cache = some (frame, after)) :
    after.Keeps cache := by
  induction fuel generalizing cache with
  | zero => cases h
  | succ fuel ih =>
    simp only [pageCacheClockEvict] at h
    split at h
    · rename_i entry hslot
      have hat : PageCache.At
          { cache with clockHand := (cache.clockHand + 1) % cache.entries.length }
          cache.clockHand entry := hslot
      split at h
      · exact (ih h).trans (keeps_set_ref hat false)
      · obtain ⟨-, rfl⟩ := Prod.mk.inj (Option.some.inj h)
        exact keeps_set_none
    · have hrest := ih h
      exact hrest

lemma keeps_take (h : pageCacheTake cache = some (frame, after)) : after.Keeps cache := by
  unfold pageCacheTake at h
  split at h
  · obtain ⟨-, rfl⟩ := Prod.mk.inj (Option.some.inj h)
    exact Keeps.refl cache
  · exact keeps_clockEvict h

lemma keeps_get (cache : PageCache) (pageId : PageId) :
    (pageCacheGet cache pageId).2.Keeps cache := by
  unfold pageCacheGet
  split
  · exact Keeps.refl cache
  · split
    · exact Keeps.refl cache
    · rename_i frame entry hfind
      exact keeps_set_ref (at_of_find hfind).1 true

lemma holds_of_get (h : (pageCacheGet cache pageId).1 = some bytes) :
    cache.Holds pageId bytes := by
  unfold pageCacheGet at h
  split at h
  · cases h
  · split at h
    · cases h
    · rename_i frame entry hfind
      obtain ⟨hat, hpage⟩ := at_of_find hfind
      exact ⟨frame, entry, hat, hpage, Option.some.inj h⟩

lemma keeps_remove (cache : PageCache) (pageId : PageId) :
    (pageCacheRemove cache pageId).Keeps cache := by
  unfold pageCacheRemove
  split
  · exact Keeps.refl cache
  · exact keeps_set_none

/-- A removed page is in no frame. -/
lemma not_holds_remove (hdistinct : cache.Distinct)
    (h : (pageCacheRemove cache pageId).Holds other bytes) : other ≠ pageId := by
  rintro rfl
  obtain ⟨frame, entry, hat, hpage, -⟩ := h
  unfold pageCacheRemove at hat
  split at hat
  · rename_i hfind
    exact not_at_of_find_none hfind hat hpage
  · rename_i removed found hfind
    obtain ⟨hfound, hfoundPage⟩ := at_of_find hfind
    rcases at_set none hat with ⟨-, hentry⟩ | ⟨hne, hold⟩
    · cases hentry
    · exact hne (hdistinct _ _ entry found hold hfound (hpage.trans hfoundPage.symm))

/-- Putting an entry of a page that is in no other frame. -/
lemma distinct_set (hdistinct : cache.Distinct)
    (hother : ∀ other found, other ≠ frame → cache.At other found → found.pageId ≠ entry.pageId) :
    (cache.set frame (some entry)).Distinct := by
  intro first second one two hone htwo hpage
  rcases at_set _ hone with ⟨hfirst, hentry⟩ | ⟨hne, holdOne⟩
  · obtain rfl := Option.some.inj hentry
    rcases at_set _ htwo with ⟨hsecond, -⟩ | ⟨hne, holdTwo⟩
    · rw [hfirst, hsecond]
    · exact absurd hpage.symm (hother second two hne holdTwo)
  · rcases at_set _ htwo with ⟨-, hentry⟩ | ⟨-, holdTwo⟩
    · obtain rfl := Option.some.inj hentry
      exact absurd hpage (hother first one hne holdOne)
    · exact hdistinct first second one two holdOne holdTwo hpage

/-- A put changes one frame of a cache that lost pages at most, and the page is in
no other frame of it. -/
lemma put_cases (cache : PageCache) (pageId : PageId) (bytes : Bytes) (hid : pageId ≠ 0)
    (hdistinct : cache.Distinct) :
    (∃ (frame : Nat) (entry : CacheEntry) (kept : PageCache), kept.Keeps cache ∧
      entry.pageId = pageId ∧ entry.bytes = bytes ∧
      pageCachePut cache pageId bytes = kept.set frame (some entry) ∧
      ∀ other found, other ≠ frame → kept.At other found → found.pageId ≠ pageId) ∨
    pageCachePut cache pageId bytes = cache ∧
      ∀ frame entry, cache.At frame entry → entry.pageId ≠ pageId := by
  unfold pageCachePut
  split
  · rename_i hempty
    right
    refine ⟨rfl, ?_⟩
    intro frame entry hat
    have hnil : cache.entries = [] := by simpa [hid] using hempty
    rw [At, hnil] at hat
    cases hat
  · split
    · rename_i frame entry hfind
      obtain ⟨hat, hpage⟩ := at_of_find hfind
      left
      refine ⟨frame, { entry with bytes, ref := true }, cache, Keeps.refl cache, hpage, rfl, rfl,
        ?_⟩
      intro other found hne hfound hfoundPage
      exact hne (hdistinct other frame found entry hfound hat (hfoundPage.trans hpage.symm))
    · rename_i hfind
      split
      · rename_i frame kept htake
        have hkeeps := keeps_take htake
        left
        refine ⟨frame, _, kept, hkeeps, rfl, rfl, rfl, ?_⟩
        intro other found hne hfound hfoundPage
        obtain ⟨old, hold, hpage, -⟩ := hkeeps other found hfound
        exact not_at_of_find_none hfind hold (hpage.trans hfoundPage)
      · right
        refine ⟨rfl, ?_⟩
        intro frame entry hat
        exact not_at_of_find_none hfind hat

lemma distinct_put {new : Bytes} (hid : pageId ≠ 0) (hdistinct : cache.Distinct) :
    (pageCachePut cache pageId new).Distinct := by
  rcases put_cases cache pageId new hid hdistinct with
    ⟨frame, entry, kept, hkeeps, rfl, -, hput, hother⟩ | ⟨hput, -⟩
  · rw [hput]
    exact distinct_set (hkeeps.distinct hdistinct) hother
  · rw [hput]
    exact hdistinct

/-- After a put the cache has the new copy of that page and old copies of others. -/
lemma holds_put {new : Bytes} (hid : pageId ≠ 0) (hdistinct : cache.Distinct)
    (h : (pageCachePut cache pageId new).Holds other bytes) :
    (other = pageId ∧ bytes = new) ∨ (other ≠ pageId ∧ cache.Holds other bytes) := by
  obtain ⟨index, found, hat, rfl, rfl⟩ := h
  rcases put_cases cache pageId new hid hdistinct with
    ⟨frame, entry, kept, hkeeps, hpage, hbytes, hput, hother⟩ | ⟨hput, hnone⟩
  · rw [hput] at hat
    rcases at_set _ hat with ⟨-, hentry⟩ | ⟨hne, hold⟩
    · obtain rfl := Option.some.inj hentry
      exact .inl ⟨hpage, hbytes⟩
    · exact .inr ⟨hother index found hne hold, hkeeps.holds ⟨index, found, hold, rfl, rfl⟩⟩
  · rw [hput] at hat
    exact .inr ⟨hnone index found hat, index, found, hat, rfl, rfl⟩

lemma distinct_init (capacity : Nat) : (pageCacheInit capacity).Distinct := by
  intro first second one two hone
  have hmem : some one ∈ List.replicate capacity none := List.mem_of_getElem? hone
  cases List.eq_of_mem_replicate hmem

lemma not_holds_init {capacity : Nat} : ¬(pageCacheInit capacity).Holds pageId bytes := by
  rintro ⟨frame, entry, hat, -⟩
  have hmem : some entry ∈ List.replicate capacity none := List.mem_of_getElem? hat
  cases List.eq_of_mem_replicate hmem

end PageCache

end ShibaDb
