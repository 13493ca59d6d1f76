/-
`page_cache.c` with its hash slots.  The slots that are taken and the frames that are valid
are in bijection, so a search of the slots finds the frame of a page, and the cache with
slots does what the cache that searches its frames does.
-/
import ShibaDb.Pager.CachePool

namespace ShibaDb

open Probing List Option

/-- `sdb_page_cache_slot`; page id zero marks an empty slot. -/
structure CacheSlot where
  pageId : PageId
  entryIndex : Nat
  deriving DecidableEq, Repr

def emptyCacheSlot : CacheSlot := { pageId := 0, entryIndex := 0 }

def CacheSlot.key (slot : CacheSlot) : Option PageId := slotId slot.pageId

def CacheSlot.erase (slot : CacheSlot) : CacheSlot := { slot with pageId := 0 }

/-- `sdb_page_cache`: the frames, and the slots that find them. -/
structure CacheTable where
  cache : PageCache
  slots : List CacheSlot
  deriving DecidableEq, Repr

namespace CacheTable

/-- `sdb_page_cache_find_slot`. -/
def findSlot (slots : List CacheSlot) (pageId : PageId) : Option Nat :=
  (probe (nextSlot slots.length)
    (fun index => (slots.getD index emptyCacheSlot).pageId = 0
      || (slots.getD index emptyCacheSlot).pageId = pageId)
    slots.length (homeSlot slots.length pageId)).bind fun index =>
      if (slots.getD index emptyCacheSlot).pageId = 0 then none else some index

/-- `sdb_page_cache_slot_insert`; nothing when the loop does not end. -/
def slotInsert (slots : List CacheSlot) (pageId : PageId) (frame : Nat) :
    Option (List CacheSlot) :=
  (probe (nextSlot slots.length) (fun index => (slots.getD index emptyCacheSlot).pageId = 0)
    slots.length (homeSlot slots.length pageId)).map fun index =>
      slots.set index { pageId, entryIndex := frame }

/-- The test with which a slot behind the hole stays in place. -/
def keepsPlace (hole index home : Nat) : Bool :=
  if hole ≤ index then home > hole && home ≤ index else home > hole || home ≤ index

/-- `sdb_page_cache_slot_delete_at`; nothing when the loop does not end. -/
def slotDeleteAt (slots : List CacheSlot) (index : Nat) : Option (List CacheSlot) :=
  shiftBack CacheSlot.key (homeSlot slots.length) (nextSlot slots.length) keepsPlace CacheSlot.erase
    slots.length index index (slots.set index (CacheSlot.erase (slots.getD index emptyCacheSlot)))

/-- The loop of `sdb_page_cache_init` that sizes the slots; sixty-five rounds are more than
it can take. -/
def slotCapacity (required : Nat) : (rounds capacity : Nat) → Option Nat
  | 0, _ => none
  | rounds + 1, capacity =>
    if capacity < required then slotCapacity required rounds (capacity * 2) else some capacity

/-- `sdb_page_cache_init`; `memory` says whether the allocations succeed.  A frame takes 24
bytes, a slot 16, an index 8. -/
def init (memory : Bool) (capacity pageSize : Nat) : Option (Except SdbError CacheTable) :=
  if capacity = 0 || pageSize = 0 then some (.error .invalidArgument)
  else if capacity > uint64Max / pageSize || capacity > uint64Max / 24
      || capacity > uint64Max / 8 then
    some (.error .overflow)
  else if capacity > uint64Max / 4 then some (.error .overflow)
  else
    (slotCapacity (capacity * 2) 65 1).map fun slots =>
      if slots > uint64Max / 16 then .error .overflow
      else if !memory then .error .outOfMemory
      else .ok { cache := pageCacheInit capacity, slots := List.replicate slots emptyCacheSlot }

variable (table : CacheTable)

/-- The frame that a slot names, with what it holds.  The code does not ask whether the
frame is valid. -/
def frameOf (slot : Nat) : Option (Nat × CacheEntry) :=
  let frame := (table.slots.getD slot emptyCacheSlot).entryIndex
  table.cache.entries[frame]?.join.map fun entry => (frame, entry)

/-- `sdb_page_cache_get`; nothing when the slot names a frame that is not valid. -/
def get (pageId : PageId) : Option (Option Bytes × CacheTable) :=
  if pageId = 0 then some (none, table)
  else
    match findSlot table.slots pageId with
    | none => some (none, table)
    | some slot => do
        let (frame, entry) ← table.frameOf slot
        let cache := table.cache.set frame (some { entry with ref := true })
        some (some entry.bytes, { table with cache })

/-- `sdb_page_cache_clock_evict`; nothing when a loop does not end. -/
def clockEvict : (fuel : Nat) → CacheTable → Option (Nat × CacheTable)
  | 0, _ => none
  | fuel + 1, table =>
    let frame := table.cache.clockHand
    let swept := { table.cache with
      clockHand := (table.cache.clockHand + 1) % table.cache.entries.length }
    match table.cache.entries[frame]? with
    | some (some entry) =>
      if entry.ref then
        clockEvict fuel
          { table with cache := swept.set frame (some { entry with ref := false }) }
      else do
        let slots ←
          match findSlot table.slots entry.pageId with
          | none => some table.slots
          | some slot => slotDeleteAt table.slots slot
        some (frame, { cache := swept.set frame none, slots })
    | _ => clockEvict fuel { table with cache := swept }

/-- A frame for a page that has none. -/
def take : Option (Nat × CacheTable) :=
  match table.cache.freeList with
  | frame :: rest => some (frame, { table with cache := { table.cache with freeList := rest } })
  | [] => clockEvict (2 * table.cache.entries.length + 1) table

/-- `sdb_page_cache_put`. -/
def put (pageId : PageId) (bytes : Bytes) : Option CacheTable :=
  if pageId = 0 || table.cache.entries.length = 0 then some table
  else
    match findSlot table.slots pageId with
    | some slot => do
        let (frame, entry) ← table.frameOf slot
        some { table with cache := table.cache.set frame (some { entry with bytes, ref := true }) }
    | none => do
        let (frame, table) ← table.take
        let slots ← slotInsert table.slots pageId frame
        some { cache := table.cache.set frame (some { pageId, bytes, ref := false }), slots }

/-- `sdb_page_cache_remove`. -/
def remove (pageId : PageId) : Option CacheTable :=
  if pageId = 0 then some table
  else
    match findSlot table.slots pageId with
    | none => some table
    | some slot => do
        let (frame, _) ← table.frameOf slot
        let slots ← slotDeleteAt table.slots slot
        some { cache := table.cache.released frame, slots }

/-- The slots that are taken name the valid frames, and those only. -/
structure Indexed (slots : List CacheSlot) (content : List (Option (PageId × Bytes))) : Prop where
  hashed : Hashed CacheSlot.key (homeSlot slots.length) slots
  power : ∃ power, slots.length = 2 ^ power
  room : content.length < slots.length
  mem : ∀ pageId frame, pageId ≠ 0 →
    ({ pageId, entryIndex := frame } ∈ slots ↔
      ∃ bytes, content[frame]? = some (some (pageId, bytes)))

section Slots

variable {slots : List CacheSlot} {content : List (Option (PageId × Bytes))} {pageId : PageId}
  {frame : Nat} {bytes : Bytes} {index : Nat}

lemma key_eq_some (hpage : pageId ≠ 0) {slot : CacheSlot} :
    slot.key = some pageId ↔ slot.pageId = pageId := slotId_eq_some hpage

lemma keyAt_of_slot (hpage : pageId ≠ 0)
    (hslot : slots[index]? = some { pageId, entryIndex := frame }) :
    keyAt CacheSlot.key slots index = some pageId := by
  rw [keyAt, hslot, bind_some, key_eq_some hpage]

lemma keepsPlace_iff (n hole index home : Nat) (hhole : hole < n) (hhome : home < n) :
    keepsPlace hole index home = true ↔ gap n home index < gap n hole index := by
  unfold keepsPlace gap
  split_ifs <;> simp only [Bool.and_eq_true, Bool.or_eq_true, decide_eq_true_eq] <;> omega

/-- No two slots name one frame, so they are no more than the frames. -/
lemma Indexed.load_le (hindexed : Indexed slots content) :
    load CacheSlot.key slots ≤ content.length := by
  have htaken : ∀ slot ∈ slots, slot.key.isSome = true →
      slot.pageId ≠ 0 ∧ ∃ bytes, content[slot.entryIndex]? = some (some (slot.pageId, bytes)) := by
    intro slot hslot hkey
    have hpage : slot.pageId ≠ 0 := fun hzero => by
      rw [CacheSlot.key, slotId_eq_none.mpr hzero] at hkey
      cases hkey
    exact ⟨hpage, (hindexed.mem slot.pageId slot.entryIndex hpage).mp hslot⟩
  have hnodup : ((slots.filter fun slot => slot.key.isSome).map CacheSlot.entryIndex).Nodup := by
    rw [List.Nodup, pairwise_map, pairwise_filter, pairwise_iff_getElem]
    intro first last hfirst hlast hlt hone htwo hsame
    obtain ⟨hpage, _, hcopy⟩ := htaken _ (getElem_mem hfirst) hone
    obtain ⟨_, _, hother⟩ := htaken _ (getElem_mem hlast) htwo
    rw [hsame, hother, Option.some.injEq, Option.some.injEq] at hcopy
    have hid : slots[last].pageId = slots[first].pageId := congrArg Prod.fst hcopy
    apply Nat.ne_of_lt hlt
    apply hindexed.hashed.once first last slots[first].pageId
    · rw [keyAt, List.getElem?_eq_getElem hfirst, bind_some, key_eq_some hpage]
    · rw [keyAt, List.getElem?_eq_getElem hlast, bind_some, key_eq_some hpage, hid]
  have hrange : (slots.filter fun slot => slot.key.isSome).map CacheSlot.entryIndex ⊆
      List.range content.length := by
    intro frame hframe
    obtain ⟨slot, hslot, rfl⟩ := List.mem_map.mp hframe
    obtain ⟨hmem, hkey⟩ := List.mem_filter.mp hslot
    obtain ⟨_, _, hcopy⟩ := htaken slot hmem hkey
    exact List.mem_range.mpr (List.getElem?_eq_some_iff.mp hcopy).1
  have hle := (subperm_of_subset hnodup hrange).length_le
  rw [length_map, length_range] at hle
  rwa [load, countP_eq_length_filter]

lemma Indexed.exists_empty (hindexed : Indexed slots content) :
    ∃ index < slots.length, keyAt CacheSlot.key slots index = none :=
  Probing.exists_empty (hindexed.load_le.trans_lt hindexed.room)

lemma Indexed.absent (hindexed : Indexed slots content) (hpage : pageId ≠ 0)
    (habsent : ∀ (frame : Nat) bytes, content[frame]? ≠ some (some (pageId, bytes))) (index : Nat) :
    keyAt CacheSlot.key slots index ≠ some pageId := by
  intro hkey
  obtain ⟨slot, hslot, hid⟩ := Option.bind_eq_some_iff.mp hkey
  rw [key_eq_some hpage] at hid
  obtain ⟨bytes, hcopy⟩ := (hindexed.mem pageId slot.entryIndex hpage).mp
    (hid ▸ mem_of_getElem? hslot)
  exact habsent slot.entryIndex bytes hcopy

lemma getD_of_keyAt_none (hempty : keyAt CacheSlot.key slots index = none) :
    (slots.getD index emptyCacheSlot).pageId = 0 := by
  rw [getD_eq_getElem?_getD]
  cases hslot : slots[index]? with
  | none => rfl
  | some slot =>
    rw [keyAt, hslot, bind_some] at hempty
    exact slotId_eq_none.mp hempty

section

variable (hindexed : Indexed slots content) (hpage : pageId ≠ 0)

include hindexed hpage

/-- A search ends at the slot that names the frame of the page. -/
lemma Indexed.findSlot_some
    (hheld : content[frame]? = some (some (pageId, bytes))) :
    ∃ index, findSlot slots pageId = some index ∧
      slots[index]? = some { pageId, entryIndex := frame } := by
  obtain ⟨power, hpower⟩ := hindexed.power
  obtain ⟨index, hslot⟩ :=
    mem_iff_getElem?.mp ((hindexed.mem pageId frame hpage).mpr ⟨bytes, hheld⟩)
  refine ⟨index, ?_, hslot⟩
  have hprobe := hindexed.hashed.probe_present (nextSlot_eq hpower) (keyAt_of_slot hpage hslot)
  have htaken : ¬(slots.getD index emptyCacheSlot).pageId = 0 := by
    rw [getD_eq_getElem?_getD, hslot]
    exact hpage
  rw [findSlot, stop_eq_stopsAt (f := CacheSlot.pageId) rfl hpage]
  exact (congrArg (Option.bind · _) hprobe).trans (if_neg htaken)

lemma Indexed.findSlot_none
    (habsent : ∀ (frame : Nat) bytes, content[frame]? ≠ some (some (pageId, bytes))) :
    findSlot slots pageId = none := by
  obtain ⟨power, hpower⟩ := hindexed.power
  obtain ⟨index, hprobe, hlanding⟩ := hindexed.hashed.probe_absent (nextSlot_eq hpower)
    (hindexed.absent hpage habsent) hindexed.exists_empty
  rw [findSlot, stop_eq_stopsAt (f := CacheSlot.pageId) rfl hpage]
  exact (congrArg (Option.bind · _) hprobe).trans (if_pos (getD_of_keyAt_none hlanding.empty))

/-- A new page gets a slot that names its frame. -/
lemma Indexed.slotInsert
    (habsent : ∀ (frame : Nat) bytes, content[frame]? ≠ some (some (pageId, bytes)))
    (hempty : content[frame]? = some none) (bytes : Bytes) :
    ∃ after, slotInsert slots pageId frame = some after ∧
      Indexed after (content.set frame (some (pageId, bytes))) := by
  obtain ⟨power, hpower⟩ := hindexed.power
  have hmissing := hindexed.absent hpage habsent
  obtain ⟨index, hprobe, hlanding⟩ := hindexed.hashed.probe_absent (nextSlot_eq hpower)
    hmissing hindexed.exists_empty
  -- with the page missing, the search for an empty slot is the search for the page
  have hstop : (fun index => decide ((slots.getD index emptyCacheSlot).pageId = 0)) =
      stopsAt CacheSlot.key slots pageId := by
    funext other
    have hother : ¬(slots.getD other emptyCacheSlot).pageId = pageId := by
      intro hid
      cases hslot : slots[other]? with
      | none =>
        rw [getD_eq_getElem?_getD, hslot] at hid
        exact hpage hid.symm
      | some slot =>
        rw [getD_eq_getElem?_getD, hslot] at hid
        apply hmissing other
        rw [keyAt, hslot, bind_some, key_eq_some hpage]
        exact hid
    have hstops : (decide ((slots.getD other emptyCacheSlot).pageId = 0) ||
        decide ((slots.getD other emptyCacheSlot).pageId = pageId)) =
          stopsAt CacheSlot.key slots pageId other :=
      congrFun (stop_eq_stopsAt (f := CacheSlot.pageId) rfl hpage) other
    rw [decide_eq_false hother, Bool.or_false] at hstops
    exact hstops
  have hkey : CacheSlot.key { pageId, entryIndex := frame } = some pageId :=
    (key_eq_some hpage).mpr rfl
  refine ⟨slots.set index { pageId, entryIndex := frame }, ?_, ?_, ?_, ?_, ?_⟩
  · rw [CacheTable.slotInsert, hstop, hprobe]
    rfl
  · rw [length_set]
    exact hindexed.hashed.insert hlanding hkey
  · exact ⟨power, by rw [length_set, hpower]⟩
  · rw [length_set, length_set]
    exact hindexed.room
  · intro page other hne
    have htaken : CacheSlot.key { pageId := page, entryIndex := other } ≠ none := by
      rw [(key_eq_some hne).mpr rfl]
      exact some_ne_none page
    rw [mem_set_of_empty hlanding.index_lt hlanding.empty htaken, hindexed.mem page other hne,
      CacheSlot.mk.injEq]
    by_cases hsame : frame = other
    · subst hsame
      rw [List.getElem?_set_self (List.getElem?_eq_some_iff.mp hempty).1, hempty]
      simp [eq_comm]
    · rw [List.getElem?_set_ne hsame]
      simp [Ne.symm hsame]

/-- The slot of a page is deleted when its frame is given up. -/
lemma Indexed.slotDeleteAt
    (hheld : content[frame]? = some (some (pageId, bytes)))
    (honce : ∀ (other : Nat) copy, content[other]? = some (some (pageId, copy)) → other = frame)
    (hslot : slots[index]? = some { pageId, entryIndex := frame }) :
    ∃ after, slotDeleteAt slots index = some after ∧ Indexed after (content.set frame none) := by
  obtain ⟨power, hpower⟩ := hindexed.power
  have hstored : slots.getD index emptyCacheSlot = { pageId, entryIndex := frame } := by
    rw [getD_eq_getElem?_getD, hslot]
    rfl
  have herase : ∀ slot, CacheSlot.key (CacheSlot.erase slot) = none := fun _ => rfl
  obtain ⟨after, hafter, hhashed, hlength, hmem⟩ := hindexed.hashed.delete herase
    (nextSlot_eq hpower)
    (fun hole index home hhole _ hhome => keepsPlace_iff slots.length hole index home hhole hhome)
    hslot ((key_eq_some hpage).mpr rfl) hindexed.exists_empty
  refine ⟨after, ?_, ?_, ⟨power, hlength.trans hpower⟩, ?_, ?_⟩
  · rw [CacheTable.slotDeleteAt, hstored]
    exact hafter
  · rw [hlength]
    exact hhashed
  · rw [length_set, hlength]
    exact hindexed.room
  · intro page other hne
    have htaken : CacheSlot.key { pageId := page, entryIndex := other } ≠ none := by
      rw [(key_eq_some hne).mpr rfl]
      exact some_ne_none page
    rw [hmem _ htaken, hindexed.mem page other hne, Ne, key_eq_some hpage]
    by_cases hsame : frame = other
    · subst hsame
      rw [List.getElem?_set_self (List.getElem?_eq_some_iff.mp hheld).1, hheld]
      simp [eq_comm]
    · rw [List.getElem?_set_ne hsame]
      refine ⟨And.left, fun hcopy => ⟨hcopy, ?_⟩⟩
      rintro rfl
      obtain ⟨copy, hcopy⟩ := hcopy
      exact hsame (honce other copy hcopy).symm

end

/-- The copy in a frame does not concern the slots. -/
lemma Indexed.rewrite (hindexed : Indexed slots content) {old : Bytes}
    (hheld : content[frame]? = some (some (pageId, old))) (bytes : Bytes) :
    Indexed slots (content.set frame (some (pageId, bytes))) := by
  refine ⟨hindexed.hashed, hindexed.power, ?_, fun page other hne => ?_⟩
  · rw [length_set]
    exact hindexed.room
  · rw [hindexed.mem page other hne]
    by_cases hsame : frame = other
    · subst hsame
      rw [List.getElem?_set_self (List.getElem?_eq_some_iff.mp hheld).1, hheld]
      simp
    · rw [List.getElem?_set_ne hsame]

end Slots

section Calls

variable {table : CacheTable} {map : PageId → Option Bytes} {pageId : PageId} {frame : Nat}
  {entry : CacheEntry}

/-- The frames hold the map, and the slots find them. -/
structure Tabled (table : CacheTable) (map : PageId → Option Bytes) : Prop where
  pooled : table.cache.Pooled map
  indexed : Indexed table.slots table.cache.content

lemma frameOf_eq (hat : table.cache.At frame entry) {index : Nat} {pageId : PageId}
    (hslot : table.slots[index]? = some { pageId, entryIndex := frame }) :
    table.frameOf index = some (frame, entry) := by
  have hstored : (table.slots.getD index emptyCacheSlot).entryIndex = frame := by
    rw [getD_eq_getElem?_getD, hslot]
    rfl
  rw [frameOf, hstored, show table.cache.entries[frame]? = _ from hat]
  rfl

section

variable (htabled : table.Tabled map)

include htabled

/-- The slots find what a search of the frames finds. -/
lemma Tabled.find (hpage : pageId ≠ 0) :
    (map pageId = none ∧ findSlot table.slots pageId = none ∧
        pageCacheFind table.cache pageId = none) ∨
      ∃ index frame entry, findSlot table.slots pageId = some index ∧
        table.slots[index]? = some { pageId, entryIndex := frame } ∧
        table.cache.At frame entry ∧ entry.pageId = pageId ∧
        pageCacheFind table.cache pageId = some (frame, entry) := by
  cases hmap : map pageId with
  | none =>
    exact .inl ⟨rfl, htabled.indexed.findSlot_none hpage (htabled.pooled.not_held hmap),
      htabled.pooled.find_none hmap⟩
  | some bytes =>
    obtain ⟨frame, entry, hfind, hat, rfl, _⟩ := htabled.pooled.find_some hmap
    obtain ⟨index, hindex, hslot⟩ :=
      htabled.indexed.findSlot_some hpage (PageCache.content_of_at hat)
    exact .inr ⟨index, frame, entry, hindex, hslot, hat, rfl, hfind⟩

lemma Tabled.get (pageId : PageId) :
    ∃ after, table.get pageId = some (map pageId, after) ∧
      after.cache = (pageCacheGet table.cache pageId).2 ∧ after.Tabled map := by
  obtain ⟨hreply, hpooled⟩ := htabled.pooled.get pageId
  rw [← hreply]
  by_cases hpage : pageId = 0
  · exact ⟨table, by rw [CacheTable.get, pageCacheGet, if_pos hpage, if_pos hpage],
      by rw [pageCacheGet, if_pos hpage], htabled⟩
  · rcases htabled.find hpage with ⟨_, hslots, hframes⟩ |
      ⟨index, frame, entry, hslots, hslot, hat, _, hframes⟩
    · refine ⟨table, ?_, ?_, htabled⟩
      · rw [CacheTable.get, pageCacheGet, if_neg hpage, if_neg hpage, hslots, hframes]
      · rw [pageCacheGet, if_neg hpage, hframes]
    · have hget : pageCacheGet table.cache pageId =
          (some entry.bytes, table.cache.set frame (some { entry with ref := true })) := by
        rw [pageCacheGet, if_neg hpage, hframes]
      rw [hget] at hpooled ⊢
      refine ⟨{ table with cache := table.cache.set frame (some { entry with ref := true }) }, ?_,
        rfl, hpooled, ?_⟩
      · rw [CacheTable.get, if_neg hpage, hslots]
        simp only [frameOf_eq hat hslot, bind_eq_bind, bind_some]
      · change Indexed table.slots _
        rw [PageCache.content_set_ref hat true]
        exact htabled.indexed

lemma Tabled.remove (pageId : PageId) :
    ∃ after, table.remove pageId = some after ∧ after.cache = pageCacheRemove table.cache pageId ∧
      after.Tabled (Function.update map pageId none) := by
  have hpooled := htabled.pooled.remove pageId
  by_cases hpage : pageId = 0
  · subst hpage
    have hsame : pageCacheRemove table.cache 0 = table.cache := by
      rw [pageCacheRemove, htabled.pooled.find_none htabled.pooled.zero]
    rw [hsame] at hpooled ⊢
    exact ⟨table, by rw [CacheTable.remove, if_pos rfl], rfl, hpooled, htabled.indexed⟩
  · rw [CacheTable.remove, if_neg hpage]
    rcases htabled.find hpage with ⟨_, hslots, hframes⟩ |
      ⟨index, frame, entry, hslots, hslot, hat, rfl, hframes⟩
    · have hsame : pageCacheRemove table.cache pageId = table.cache := by
        rw [pageCacheRemove, hframes]
      rw [hsame] at hpooled ⊢
      rw [hslots]
      exact ⟨table, rfl, rfl, hpooled, htabled.indexed⟩
    · have hremove : pageCacheRemove table.cache entry.pageId = table.cache.released frame := by
        rw [pageCacheRemove, hframes]
        rfl
      have hheld := PageCache.content_of_at hat
      obtain ⟨slots, hdelete, hindexed⟩ := htabled.indexed.slotDeleteAt hpage hheld
        (fun other copy hcopy => htabled.pooled.once other frame _ _ _ hcopy hheld) hslot
      rw [hremove] at hpooled ⊢
      refine ⟨{ cache := table.cache.released frame, slots }, ?_, rfl, hpooled, ?_⟩
      · rw [hslots]
        simp only [frameOf_eq hat hslot, hdelete, bind_eq_bind, bind_some]
      · change Indexed slots _
        rw [PageCache.content_released]
        exact hindexed

/-- The sweep of the table does what the sweep of the frames does, and deletes the slot of
the victim. -/
lemma Tabled.clockEvict {fuel : Nat} {cache : PageCache}
    (h : pageCacheClockEvict fuel table.cache = some (frame, cache)) :
    ∃ slots, CacheTable.clockEvict fuel table = some (frame, { cache, slots }) ∧
      Indexed slots cache.content := by
  induction fuel generalizing table with
  | zero => cases h
  | succ fuel ih =>
    have hhand := PageCache.turned_lt htabled.pooled.hand
    by_cases hvalid : ∃ entry, table.cache.At table.cache.clockHand entry
    · obtain ⟨entry, hat⟩ := hvalid
      have hentry : table.cache.entries[table.cache.clockHand]? = some (some entry) := hat
      cases href : entry.ref with
      | true =>
        rw [PageCache.clockEvict_cleared hat href] at h
        have hsame := PageCache.content_cleared hat
        have hcleared : Tabled { table with cache := table.cache.cleared entry } map := by
          refine ⟨htabled.pooled.congr hsame rfl hhand, ?_⟩
          change Indexed table.slots _
          rw [hsame]
          exact htabled.indexed
        obtain ⟨slots, hevict, hindexed⟩ := ih hcleared h
        refine ⟨slots, ?_, hindexed⟩
        rw [CacheTable.clockEvict, hentry]
        simp only [href, if_true]
        exact hevict
      | false =>
        rw [PageCache.clockEvict_victim hat href] at h
        obtain ⟨rfl, rfl⟩ := Prod.mk.inj (Option.some.inj h)
        have hheld := PageCache.content_of_at hat
        have hpage := htabled.pooled.page_ne_zero hheld
        obtain ⟨index, hindex, hslot⟩ := htabled.indexed.findSlot_some hpage hheld
        obtain ⟨slots, hdelete, hindexed⟩ := htabled.indexed.slotDeleteAt hpage hheld
          (fun other copy hcopy => htabled.pooled.once other _ _ _ _ hcopy hheld) hslot
        refine ⟨slots, ?_, ?_⟩
        · rw [CacheTable.clockEvict, hentry]
          simp only [href, Bool.false_eq_true, if_false, hindex, hdelete, bind_eq_bind,
            bind_some]
          rfl
        · rw [PageCache.content_set]
          exact hindexed
    · rw [PageCache.clockEvict_invalid (not_exists.mp hvalid)] at h
      have hturned : Tabled { table with cache := table.cache.turned } map :=
        ⟨htabled.pooled.congr rfl rfl hhand, htabled.indexed⟩
      obtain ⟨slots, hevict, hindexed⟩ := ih hturned h
      refine ⟨slots, ?_, hindexed⟩
      rw [CacheTable.clockEvict]
      split
      · rename_i entry hentry
        exact absurd ⟨entry, hentry⟩ hvalid
      · exact hevict

lemma Tabled.take {cache : PageCache}
    (h : pageCacheTake table.cache = some (frame, cache)) :
    ∃ slots, table.take = some (frame, { cache, slots }) ∧ Indexed slots cache.content := by
  rw [pageCacheTake] at h
  rw [CacheTable.take]
  cases hfree : table.cache.freeList with
  | cons top rest =>
    rw [hfree] at h
    obtain ⟨rfl, rfl⟩ := Prod.mk.inj (Option.some.inj h)
    exact ⟨table.slots, rfl, htabled.indexed⟩
  | nil =>
    rw [hfree] at h
    exact htabled.clockEvict h

lemma Tabled.put (pageId : PageId) (bytes : Bytes) :
    ∃ after, table.put pageId bytes = some after ∧
      after.cache = pageCachePut table.cache pageId bytes ∧
      Indexed after.slots after.cache.content := by
  rw [CacheTable.put, pageCachePut]
  split
  · exact ⟨table, rfl, rfl, htabled.indexed⟩
  · rename_i hguard
    have hpage : pageId ≠ 0 := fun hzero => hguard (by simp [hzero])
    rcases htabled.find hpage with ⟨hmap, hslots, hframes⟩ |
      ⟨index, frame, entry, hslots, hslot, hat, rfl, hframes⟩
    · obtain ⟨frame, cache, left, htake, hleft, habsent, _⟩ := htabled.pooled.take
      obtain ⟨slots, htaken, hindexed⟩ := htabled.take htake
      have hempty : cache.content[frame]? = some none :=
        (hleft.free frame).mp mem_cons_self
      obtain ⟨after, hinsert, hafter⟩ := hindexed.slotInsert hpage
        (hleft.not_held (habsent pageId hmap)) hempty bytes
      rw [hslots, hframes, htake]
      refine ⟨{ cache := cache.set frame (some { pageId, bytes, ref := false }), slots := after },
        ?_, rfl, ?_⟩
      · simp only [htaken, hinsert, bind_eq_bind, bind_some]
      · change Indexed after _
        rw [PageCache.content_set]
        exact hafter
    · rw [hslots, hframes]
      refine ⟨{ table with
          cache := table.cache.set frame (some { entry with bytes, ref := true }) }, ?_, rfl, ?_⟩
      · simp only [frameOf_eq hat hslot, bind_eq_bind, bind_some]
      · change Indexed table.slots _
        rw [PageCache.content_set]
        exact htabled.indexed.rewrite (PageCache.content_of_at hat) bytes

end

end Calls

section Creation

variable {memory : Bool} {capacity pageSize : Nat} {table : CacheTable}

lemma slotCapacity_eq_some {required rounds start power : Nat} (hstart : start = 2 ^ power)
    (hrounds : required ≤ start * 2 ^ rounds) :
    ∃ result, slotCapacity required (rounds + 1) start = some result ∧ required ≤ result ∧
      ∃ power, result = 2 ^ power := by
  induction rounds generalizing start power with
  | zero =>
    rw [Nat.pow_zero, Nat.mul_one] at hrounds
    exact ⟨start, by rw [slotCapacity, if_neg (not_lt.mpr hrounds)], hrounds, power, hstart⟩
  | succ rounds ih =>
    rw [slotCapacity]
    split
    · have hdouble : start * 2 = 2 ^ (power + 1) := by rw [hstart, Nat.pow_succ]
      refine ih hdouble ?_
      rwa [Nat.mul_assoc, Nat.mul_comm 2, ← Nat.pow_succ]
    · rename_i hlarge
      exact ⟨start, rfl, not_lt.mp hlarge, power, hstart⟩

/-- The cache is created empty, or refused; the loop over the number of slots ends. -/
lemma init_cases (memory : Bool) (capacity pageSize : Nat) :
    (∃ error, init memory capacity pageSize = some (.error error)) ∨
      ∃ table, init memory capacity pageSize = some (.ok table) ∧ table.Tabled (fun _ => none) ∧
        table.cache = pageCacheInit capacity := by
  rw [init]
  split
  · exact .inl ⟨_, rfl⟩
  rename_i hzero
  split
  · exact .inl ⟨_, rfl⟩
  split
  · exact .inl ⟨_, rfl⟩
  rename_i hlarge
  have hsmall : capacity * 2 ≤ 1 * 2 ^ 64 := by
    rw [uint64Max] at hlarge
    omega
  obtain ⟨slots, hslots, hrequired, power, hpower⟩ :=
    slotCapacity_eq_some (show 1 = 2 ^ 0 from rfl) hsmall
  rw [hslots, map_some]
  split
  · exact .inl ⟨_, rfl⟩
  split
  · exact .inl ⟨_, rfl⟩
  have hpositive : 0 < capacity := by
    rw [Bool.or_eq_true, decide_eq_true_iff, decide_eq_true_iff] at hzero
    omega
  refine .inr ⟨_, rfl, ⟨PageCache.pooled_init hpositive, ?_, ⟨power, ?_⟩, ?_, ?_⟩, rfl⟩
  · rw [length_replicate]
    exact Hashed.replicate rfl (homeSlot_lt hpower)
  · rw [length_replicate, hpower]
  · rw [length_replicate, PageCache.length_content, pageCacheInit, length_replicate]
    omega
  · intro pageId frame hpage
    have hnone : (fun _ => none : PageId → Option Bytes) pageId = none := rfl
    constructor
    · intro hmem
      exact absurd (congrArg CacheSlot.pageId (List.mem_replicate.mp hmem).2) hpage
    · rintro ⟨bytes, hheld⟩
      exact absurd hheld ((PageCache.pooled_init hpositive).not_held hnone frame bytes)

end Creation

section Runs

/-- The calls of the cache. -/
inductive Op where
  | put (pageId : PageId) (bytes : Bytes)
  | get (pageId : PageId)
  | remove (pageId : PageId)

/-- What a call reports: only a lookup does, a hit with the copy. -/
def step (table : CacheTable) : Op → Option (Option Bytes × CacheTable)
  | .put pageId bytes => (table.put pageId bytes).map fun table => (none, table)
  | .get pageId => table.get pageId
  | .remove pageId => (table.remove pageId).map fun table => (none, table)

def run : List Op → CacheTable → Option (List (Option Bytes) × CacheTable)
  | [], table => some ([], table)
  | op :: rest, table => do
      let (reply, table) ← table.step op
      let (replies, table) ← run rest table
      some (reply :: replies, table)

/-- A call on a map of copies of at most `capacity` pages. -/
inductive MapStep (capacity : Nat) :
    (PageId → Option Bytes) → Op → Option Bytes → (PageId → Option Bytes) → Prop where
  | get {map pageId} : MapStep capacity map (.get pageId) (map pageId) map
  | remove {map pageId} :
      MapStep capacity map (.remove pageId) none (Function.update map pageId none)
  | ignored {map bytes} : MapStep capacity map (.put 0 bytes) none map
  | put {map pageId bytes} (hpage : pageId ≠ 0)
      (hroom : map pageId ≠ none ∨ ∃ count < capacity, Pages map count) :
      MapStep capacity map (.put pageId bytes) none (Function.update map pageId (some bytes))
  | evict {map pageId bytes victim} (hpage : pageId ≠ 0) (hnew : map pageId = none)
      (hfull : Pages map capacity) (hvictim : map victim ≠ none) :
      MapStep capacity map (.put pageId bytes) none
        (Function.update (Function.update map victim none) pageId (some bytes))

inductive MapRun (capacity : Nat) : (PageId → Option Bytes) → List Op → List (Option Bytes) →
    (PageId → Option Bytes) → Prop where
  | nil {map} : MapRun capacity map [] [] map
  | cons {map next last op reply ops replies} (hstep : MapStep capacity map op reply next)
      (hrest : MapRun capacity next ops replies last) :
      MapRun capacity map (op :: ops) (reply :: replies) last

variable {table : CacheTable} {map : PageId → Option Bytes} {capacity : Nat}

/-- One call: it ends, answers from the map, and leaves a table of the map it leads to. -/
lemma Tabled.step (htabled : table.Tabled map) (hcapacity : table.cache.entries.length = capacity)
    (op : Op) : ∃ reply after next, table.step op = some (reply, after) ∧
      MapStep capacity map op reply next ∧ after.Tabled next ∧
      after.cache.entries.length = capacity := by
  cases op with
  | get pageId =>
    obtain ⟨after, hget, hcache, hafter⟩ := htabled.get pageId
    refine ⟨map pageId, after, map, hget, .get, hafter, ?_⟩
    rw [hcache, PageCache.length_get, hcapacity]
  | remove pageId =>
    obtain ⟨after, hremove, hcache, hafter⟩ := htabled.remove pageId
    refine ⟨none, after, _, ?_, .remove, hafter, ?_⟩
    · rw [CacheTable.step, hremove, map_some]
    · rw [hcache, PageCache.length_remove, hcapacity]
  | put pageId bytes =>
    obtain ⟨after, hput, hcache, hindexed⟩ := htabled.put pageId bytes
    have hstep : table.step (.put pageId bytes) = some (none, after) := by
      rw [CacheTable.step, hput, map_some]
    have hlength : after.cache.entries.length = capacity := by
      rw [hcache, htabled.pooled.length_put, hcapacity]
    by_cases hpage : pageId = 0
    · subst hpage
      refine ⟨none, after, map, hstep, .ignored, ⟨?_, hindexed⟩, hlength⟩
      rw [hcache, pageCachePut, if_pos (by simp)]
      exact htabled.pooled
    · obtain ⟨left, hpooled, hcases⟩ := htabled.pooled.put hpage bytes
      rw [← hcache] at hpooled
      refine ⟨none, after, _, hstep, ?_, ⟨hpooled, hindexed⟩, hlength⟩
      obtain ⟨count, hpages, hcount⟩ := htabled.pooled.pages
      rcases hcases with ⟨rfl, hroom⟩ | ⟨hnew, hfull, victim, hvictim, rfl⟩
      · refine .put hpage (hroom.imp_right fun hfree => ⟨count, ?_, hpages⟩)
        have hpositive := List.length_pos_iff.mpr hfree
        omega
      · rw [hfull, length_nil, Nat.add_zero, hcapacity] at hcount
        exact .evict hpage hnew (hcount ▸ hpages) hvictim

/-- Call after call. -/
lemma Tabled.run (htabled : table.Tabled map) (hcapacity : table.cache.entries.length = capacity)
    (ops : List Op) : ∃ replies after last, CacheTable.run ops table = some (replies, after) ∧
      MapRun capacity map ops replies last ∧ after.Tabled last ∧
      after.cache.entries.length = capacity := by
  induction ops generalizing table map with
  | nil => exact ⟨[], table, map, rfl, .nil, htabled, hcapacity⟩
  | cons op rest ih =>
    obtain ⟨reply, after, next, hstep, hmap, hafter, hlength⟩ := htabled.step hcapacity op
    obtain ⟨replies, final, last, hrun, hmaps, hfinal, hend⟩ := ih hafter hlength
    refine ⟨reply :: replies, final, last, ?_, .cons hmap hmaps, hfinal, hend⟩
    simp only [CacheTable.run, hstep, hrun, bind_eq_bind, bind_some]

/-- A cache is created or refused.  Whatever is put, looked up and removed after that, every
call ends and answers from the map of the copies put last, from which a removal takes its
page and a put of a new page into a full cache takes one other page.  The slots that are
taken and the valid frames name each other, a search from the home of a page crosses no
empty slot, and the frames are valid or free. -/
theorem pageCache_refines_map (memory : Bool) (capacity pageSize : Nat) :
    (∃ result, init memory capacity pageSize = some result) ∧
      ∀ table, init memory capacity pageSize = some (.ok table) → ∀ ops,
        ∃ replies after map, CacheTable.run ops table = some (replies, after) ∧
          MapRun capacity (fun _ => none) ops replies map ∧
          Indexed after.slots after.cache.content ∧ after.cache.Pooled map ∧
          after.cache.entries.length = capacity ∧ ∃ count ≤ capacity, Pages map count := by
  rcases init_cases memory capacity pageSize with ⟨error, herror⟩ | ⟨table, hinit, htabled, hcache⟩
  · refine ⟨⟨_, herror⟩, fun table hinit => ?_⟩
    rw [herror] at hinit
    cases hinit
  · refine ⟨⟨_, hinit⟩, fun other hother ops => ?_⟩
    rw [hinit] at hother
    obtain rfl := Except.ok.inj (Option.some.inj hother)
    have hcapacity : table.cache.entries.length = capacity := by
      rw [hcache]
      exact List.length_replicate ..
    obtain ⟨replies, after, map, hrun, hmaps, hafter, hlength⟩ := htabled.run hcapacity ops
    obtain ⟨count, hpages, hcount⟩ := hafter.pooled.pages
    exact ⟨replies, after, map, hrun, hmaps, hafter.indexed, hafter.pooled, hlength, count,
      by omega, hpages⟩

/-- One frame: the second page takes it from the first. -/
theorem pageCache_refines_map_single :
    ∃ table replies after map, init true 1 4096 = some (.ok table) ∧
      CacheTable.run [.put 3 [1], .put 5 [2], .get 3, .get 5, .remove 5, .get 5] table =
        some (replies, after) ∧
      MapRun 1 (fun _ => none) [.put 3 [1], .put 5 [2], .get 3, .get 5, .remove 5, .get 5]
        replies map ∧ replies = [none, none, none, some [2], none, none] := by
  have hinit : init true 1 4096 = some (.ok
      { cache := pageCacheInit 1, slots := List.replicate 2 emptyCacheSlot }) := by decide +kernel
  obtain ⟨replies, after, map, hrun, hmaps, _⟩ := (pageCache_refines_map true 1 4096).2 _ hinit
    [.put 3 [1], .put 5 [2], .get 3, .get 5, .remove 5, .get 5]
  refine ⟨_, replies, after, map, hinit, hrun, hmaps, ?_⟩
  have hreplies := congrArg (Option.map Prod.fst) hrun
  exact (Option.some.inj (hreplies.symm.trans (by decide +kernel)))

end Runs

end CacheTable

end ShibaDb
