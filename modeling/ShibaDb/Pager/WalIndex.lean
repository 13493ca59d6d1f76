/-
`wal_index.c`: where in the log the newest frame of a page lies, as a hash table that
doubles before it is half full.  Whatever is put, looked up and cleared, the table is the
map of the offsets put last.
-/
import ShibaDb.Pager.Coherence
import ShibaDb.Wal.IdSet

namespace ShibaDb

open Probing List Option Function

/-- `sdb_wal_index_slot`; page id zero marks an empty slot. -/
structure WalIndexSlot where
  pageId : PageId
  walOffset : UInt64
  deriving DecidableEq, Repr

def emptyIndexSlot : WalIndexSlot := { pageId := 0, walOffset := 0 }

def WalIndexSlot.key (slot : WalIndexSlot) : Option PageId := slotId slot.pageId

/-- `sdb_wal_index`; its capacity is the number of slots. -/
structure WalIndex where
  slots : List WalIndexSlot
  size : Nat
  deriving DecidableEq, Repr

namespace WalIndex

def initialCapacity : Nat := 16

/-- `sdb_wal_index_slot_for`: the slot of the page or the empty one where its search ends;
nothing when the loop does not end. -/
def slotFor (slots : List WalIndexSlot) (pageId : PageId) : Option Nat :=
  probe (nextSlot slots.length)
    (fun index => (slots.getD index emptyIndexSlot).pageId = 0
      || (slots.getD index emptyIndexSlot).pageId = pageId)
    slots.length (homeSlot slots.length pageId)

/-- The loop of `sdb_wal_index_grow` over the old slots. -/
def rehash : (old new : List WalIndexSlot) → Option (List WalIndexSlot)
  | [], new => some new
  | slot :: rest, new =>
    if slot.pageId = 0 then rehash rest new
    else do
      let target ← slotFor new slot.pageId
      rehash rest (new.set target slot)

/-- `sdb_wal_index_grow`; `memory` says whether the allocation succeeds. -/
def grow (memory : Bool) (ix : WalIndex) : Option (Except SdbError WalIndex) :=
  if ix.slots.length > uint64Max / 2 then some (.error .outOfMemory)
  else if ix.slots.length * 2 > uint64Max / 16 then some (.error .outOfMemory)
  else if !memory then some (.error .outOfMemory)
  else
    (rehash ix.slots (List.replicate (ix.slots.length * 2) emptyIndexSlot)).map fun slots =>
      .ok { ix with slots }

def init (memory : Bool) : Except SdbError WalIndex :=
  if memory then .ok { slots := List.replicate initialCapacity emptyIndexSlot, size := 0 }
  else .error .outOfMemory

/-- The page enters the slot that was found for it. -/
def enter (ix : WalIndex) (index : Nat) (pageId : PageId) (walOffset : UInt64) : WalIndex :=
  { slots := ix.slots.set index { pageId, walOffset }, size := ix.size + 1 }

def put (memory : Bool) (ix : WalIndex) (pageId : PageId) (walOffset : UInt64) :
    Option (Except SdbError Unit × WalIndex) :=
  if pageId = 0 then some (.error .invalidArgument, ix)
  else do
    let index ← slotFor ix.slots pageId
    if (ix.slots.getD index emptyIndexSlot).pageId = pageId then
      some (.ok (), { ix with slots := ix.slots.set index { pageId, walOffset } })
    else if ix.size * 2 ≥ ix.slots.length then do
      match ← grow memory ix with
      | .error error => some (.error error, ix)
      | .ok ix =>
        let index ← slotFor ix.slots pageId
        some (.ok (), ix.enter index pageId walOffset)
    else some (.ok (), ix.enter index pageId walOffset)

/-- `sdb_wal_index_get`; its loop counts the slots it looked at. -/
def get (ix : WalIndex) (pageId : PageId) : Option UInt64 :=
  if pageId = 0 then none
  else
    (slotFor ix.slots pageId).bind fun index =>
      let slot := ix.slots.getD index emptyIndexSlot
      if slot.pageId = pageId then some slot.walOffset else none

def clear (ix : WalIndex) : WalIndex :=
  { slots := List.replicate ix.slots.length emptyIndexSlot, size := 0 }

/-- The table holds the map, and has at least as many empty slots as taken ones. -/
structure Maps (ix : WalIndex) (map : PageId → Option UInt64) : Prop where
  hashed : Hashed WalIndexSlot.key (homeSlot ix.slots.length) ix.slots
  power : ∃ power, ix.slots.length = 2 ^ (power + 1)
  size : ix.size = load WalIndexSlot.key ix.slots
  room : ix.size * 2 ≤ ix.slots.length
  mem : ∀ pageId walOffset, pageId ≠ 0 →
    ({ pageId, walOffset } ∈ ix.slots ↔ map pageId = some walOffset)
  zero : map 0 = none

section Slots

variable {slots : List WalIndexSlot} {pageId : PageId} {walOffset : UInt64}

lemma key_eq_some (hpage : pageId ≠ 0) {slot : WalIndexSlot} :
    slot.key = some pageId ↔ slot.pageId = pageId := slotId_eq_some hpage

lemma key_mk (hpage : pageId ≠ 0) :
    WalIndexSlot.key { pageId, walOffset } = some pageId := (key_eq_some hpage).mpr rfl

lemma slotFor_eq (hpage : pageId ≠ 0) :
    slotFor slots pageId = probe (nextSlot slots.length) (stopsAt WalIndexSlot.key slots pageId)
      slots.length (homeSlot slots.length pageId) := by
  rw [slotFor, stop_eq_stopsAt (f := WalIndexSlot.pageId) rfl hpage]
  rfl

lemma keyAt_of_mem (hpage : pageId ≠ 0) (hmem : { pageId, walOffset } ∈ slots) :
    ∃ index, slots[index]? = some { pageId, walOffset } ∧
      keyAt WalIndexSlot.key slots index = some pageId := by
  obtain ⟨index, hindex⟩ := mem_iff_getElem?.mp hmem
  exact ⟨index, hindex, by rw [keyAt, hindex, bind_some, key_mk hpage]⟩

lemma keyAt_eq_some (hpage : pageId ≠ 0) {index : Nat}
    (hindex : keyAt WalIndexSlot.key slots index = some pageId) :
    ∃ walOffset, slots[index]? = some { pageId, walOffset } := by
  rw [keyAt, bind_eq_some_iff] at hindex
  obtain ⟨slot, hslot, hkey⟩ := hindex
  refine ⟨slot.walOffset, ?_⟩
  rw [hslot, ← (key_eq_some hpage).mp hkey]

end Slots

section Lookup

variable {ix : WalIndex} {map : PageId → Option UInt64} {pageId : PageId} {walOffset : UInt64}

lemma Maps.exists_empty (hmaps : ix.Maps map) :
    ∃ index < ix.slots.length, keyAt WalIndexSlot.key ix.slots index = none := by
  obtain ⟨power, hpower⟩ := hmaps.power
  have hpos := Nat.two_pow_pos (power + 1)
  have hroom := hmaps.room
  have hsize := hmaps.size
  exact Probing.exists_empty (by omega)

/-- The search for a page of the map ends at its slot. -/
lemma Maps.slotFor_some (hmaps : ix.Maps map) (hpage : pageId ≠ 0)
    (hmap : map pageId = some walOffset) : ∃ index, slotFor ix.slots pageId = some index ∧
      ix.slots[index]? = some { pageId, walOffset } ∧
      keyAt WalIndexSlot.key ix.slots index = some pageId := by
  obtain ⟨power, hpower⟩ := hmaps.power
  obtain ⟨index, hslot, hkey⟩ := keyAt_of_mem hpage ((hmaps.mem pageId walOffset hpage).mpr hmap)
  refine ⟨index, ?_, hslot, hkey⟩
  rw [slotFor_eq hpage]
  exact hmaps.hashed.probe_present (nextSlot_eq hpower) hkey

/-- The search for any other page ends at an empty slot. -/
lemma Maps.slotFor_none (hmaps : ix.Maps map) (hpage : pageId ≠ 0) (hmap : map pageId = none) :
    ∃ index, slotFor ix.slots pageId = some index ∧
      Landing WalIndexSlot.key (homeSlot ix.slots.length) ix.slots pageId index := by
  obtain ⟨power, hpower⟩ := hmaps.power
  rw [slotFor_eq hpage]
  refine hmaps.hashed.probe_absent (nextSlot_eq hpower) ?_ hmaps.exists_empty
  intro index hindex
  obtain ⟨walOffset, hslot⟩ := keyAt_eq_some hpage hindex
  have hsome := (hmaps.mem pageId walOffset hpage).mp (mem_of_getElem? hslot)
  rw [hmap] at hsome
  cases hsome

lemma getD_of_landing {slots : List WalIndexSlot} {home : PageId → Nat} {index : Nat}
    (hlanding : Landing WalIndexSlot.key home slots pageId index) (hpage : pageId ≠ 0) :
    (slots.getD index emptyIndexSlot).pageId ≠ pageId := by
  intro hsame
  apply hlanding.absent index
  rw [getD_eq_getElem?_getD, List.getElem?_eq_getElem hlanding.index_lt] at hsame
  rw [keyAt, List.getElem?_eq_getElem hlanding.index_lt, bind_some, key_eq_some hpage]
  exact hsame

/-- A lookup answers from the map. -/
lemma Maps.get_eq (hmaps : ix.Maps map) (pageId : PageId) : ix.get pageId = map pageId := by
  by_cases hpage : pageId = 0
  · rw [get, if_pos hpage, hpage, hmaps.zero]
  rw [get, if_neg hpage]
  cases hmap : map pageId with
  | some walOffset =>
    obtain ⟨index, hfor, hslot, _⟩ := hmaps.slotFor_some hpage hmap
    simp [hfor, getD_eq_getElem?_getD, hslot]
  | none =>
    obtain ⟨index, hfor, hlanding⟩ := hmaps.slotFor_none hpage hmap
    rw [hfor, bind_some]
    exact if_neg (getD_of_landing hlanding hpage)

end Lookup

section Update

variable {ix : WalIndex} {map : PageId → Option UInt64} {pageId : PageId}

/-- The offset of a page of the map is replaced. -/
lemma Maps.rewrite (hmaps : ix.Maps map) (hpage : pageId ≠ 0) {index : Nat}
    (hkey : keyAt WalIndexSlot.key ix.slots index = some pageId) (walOffset : UInt64) :
    Maps { ix with slots := ix.slots.set index { pageId, walOffset } }
      (Function.update map pageId (some walOffset)) := by
  constructor
  · rw [length_set]
    exact hmaps.hashed.replace hkey (key_mk hpage)
  · rw [length_set]
    exact hmaps.power
  · rw [load_replace hkey (key_mk hpage)]
    exact hmaps.size
  · rw [length_set]
    exact hmaps.room
  · intro other offset hother
    rw [hmaps.hashed.mem_replace hkey, key_mk hother, WalIndexSlot.mk.injEq]
    by_cases hsame : other = pageId
    · subst hsame
      rw [update_self, Option.some.injEq]
      simp [eq_comm]
    · rw [update_of_ne hsame, hmaps.mem other offset hother]
      simp [hsame]
  · rw [update_of_ne hpage.symm]
    exact hmaps.zero

/-- A page that is new enters the empty slot where its search ended. -/
lemma Maps.enter (hmaps : ix.Maps map) (hpage : pageId ≠ 0) (hmap : map pageId = none)
    {index : Nat}
    (hlanding : Landing WalIndexSlot.key (homeSlot ix.slots.length) ix.slots pageId index)
    (hroom : ix.size * 2 < ix.slots.length) (walOffset : UInt64) :
    Maps (ix.enter index pageId walOffset) (Function.update map pageId (some walOffset)) := by
  obtain ⟨power, hpower⟩ := hmaps.power
  have hkey : WalIndexSlot.key { pageId, walOffset } = some pageId := key_mk hpage
  constructor
  · simp only [WalIndex.enter, length_set]
    exact hmaps.hashed.insert hlanding hkey
  · simp only [WalIndex.enter, length_set]
    exact hmaps.power
  · simp only [WalIndex.enter]
    rw [load_set hlanding.index_lt hlanding.empty hkey, hmaps.size]
  · simp only [WalIndex.enter, length_set]
    rw [hpower, Nat.pow_succ] at hroom ⊢
    omega
  · intro other offset hother
    have hnone : WalIndexSlot.key { pageId := other, walOffset := offset } ≠ none := by
      rw [key_mk hother]
      exact some_ne_none other
    simp only [WalIndex.enter]
    rw [mem_set_of_empty hlanding.index_lt hlanding.empty hnone, WalIndexSlot.mk.injEq,
      hmaps.mem other offset hother]
    by_cases hsame : other = pageId
    · subst hsame
      rw [update_self, Option.some.injEq, hmap]
      simp [eq_comm]
    · rw [update_of_ne hsame]
      simp [hsame]
  · rw [update_of_ne hpage.symm]
    exact hmaps.zero

end Update

section Growth

lemma load_replicate (capacity : Nat) :
    load WalIndexSlot.key (List.replicate capacity emptyIndexSlot) = 0 := by
  rw [load, countP_replicate]
  rfl

/-- Rehashing enters the old slots that are taken, one after the other. -/
lemma rehash_eq_some {old new before : List WalIndexSlot} {capacity power : Nat}
    (hlength : new.length = capacity) (hpower : capacity = 2 ^ power)
    (hnodup : ((before ++ old).filterMap WalIndexSlot.key).Nodup)
    (hroom : load WalIndexSlot.key (before ++ old) < capacity)
    (hnew : Hashed WalIndexSlot.key (homeSlot capacity) new)
    (hload : load WalIndexSlot.key new = load WalIndexSlot.key before)
    (hmem : ∀ slot : WalIndexSlot, slot.key ≠ none → (slot ∈ new ↔ slot ∈ before)) :
    ∃ after, rehash old new = some after ∧ after.length = capacity ∧
      Hashed WalIndexSlot.key (homeSlot capacity) after ∧
      load WalIndexSlot.key after = load WalIndexSlot.key (before ++ old) ∧
      ∀ slot : WalIndexSlot, slot.key ≠ none → (slot ∈ after ↔ slot ∈ before ++ old) := by
  induction old generalizing new before with
  | nil =>
    rw [append_nil]
    exact ⟨new, rfl, hlength, hnew, hload, hmem⟩
  | cons slot old ih =>
    have happend : before ++ slot :: old = (before ++ [slot]) ++ old := by simp
    rw [happend] at hnodup hroom ⊢
    rw [rehash]
    by_cases hpage : slot.pageId = 0
    · have hnone : slot.key = none := slotId_eq_none.mpr hpage
      rw [if_pos hpage]
      refine ih hlength hnodup hroom hnew ?_ fun other hother => ?_
      · rw [hload, load, load, countP_append]
        simp [hnone]
      · rw [hmem other hother, mem_append, mem_singleton]
        refine ⟨.inl, ?_⟩
        rintro (hold | rfl)
        · exact hold
        · exact absurd hnone hother
    · have hkey : slot.key = some slot.pageId := (key_eq_some hpage).mpr rfl
      have habsent : ∀ index, keyAt WalIndexSlot.key new index ≠ some slot.pageId := by
        intro index hindex
        obtain ⟨walOffset, hslot⟩ := keyAt_eq_some hpage hindex
        have hsome : WalIndexSlot.key { pageId := slot.pageId, walOffset } = some slot.pageId :=
          key_mk hpage
        have hold := (hmem _ (by simp [hsome])).mp (mem_of_getElem? hslot)
        rw [append_assoc, filterMap_append, nodup_append] at hnodup
        refine hnodup.2.2 slot.pageId (List.mem_filterMap.mpr ⟨_, hold, hsome⟩) slot.pageId ?_ rfl
        exact List.mem_filterMap.mpr ⟨slot, by simp, hkey⟩
      have hempty : load WalIndexSlot.key new < new.length := by
        rw [hload, hlength]
        refine lt_of_le_of_lt ?_ hroom
        rw [load, load, append_assoc, countP_append]
        exact Nat.le_add_right _ _
      subst hlength
      obtain ⟨target, hprobe, hlanding⟩ :=
        hnew.probe_absent (nextSlot_eq hpower) habsent (Probing.exists_empty hempty)
      rw [if_neg hpage, slotFor_eq hpage, hprobe]
      refine ih (length_set ..) hnodup hroom (hnew.insert hlanding hkey) ?_
        fun other hother => ?_
      · rw [load_set hlanding.index_lt hlanding.empty hkey, hload, load, load, countP_append]
        simp [hkey]
      · rw [mem_set_of_empty hlanding.index_lt hlanding.empty hother, hmem other hother,
          mem_append, mem_singleton, or_comm]

/-- A table that doubles holds the same map; only an allocation that fails or one of 2^62
bytes keeps it from that. -/
lemma Maps.grow {ix : WalIndex} {map : PageId → Option UInt64} (hmaps : ix.Maps map)
    (memory : Bool) :
    (grow memory ix = some (.error .outOfMemory) ∧ (memory = false ∨ 2 ^ 59 ≤ ix.slots.length)) ∨
      ∃ grown, grow memory ix = some (.ok grown) ∧ grown.Maps map ∧ grown.size = ix.size ∧
        grown.slots.length = ix.slots.length * 2 := by
  obtain ⟨power, hpower⟩ := hmaps.power
  by_cases hlarge : 2 ^ 59 ≤ ix.slots.length
  · left
    refine ⟨?_, .inr hlarge⟩
    rw [WalIndex.grow]
    split
    · rfl
    · rw [if_pos (by rw [uint64Max]; omega)]
  cases memory with
  | false =>
    left
    simp [WalIndex.grow]
  | true =>
    right
    have hdouble : ix.slots.length * 2 = 2 ^ (power + 1 + 1) := by rw [hpower, ← Nat.pow_succ]
    have hsize := hmaps.size
    have hroom := hmaps.room
    have hpos := Nat.two_pow_pos (power + 1)
    have hempty : ∀ slot : WalIndexSlot, slot.key ≠ none →
        (slot ∈ List.replicate (ix.slots.length * 2) emptyIndexSlot ↔
          slot ∈ ([] : List WalIndexSlot)) := by
      intro slot hslot
      refine ⟨fun hmem => ?_, fun hmem => (not_mem_nil hmem).elim⟩
      rw [(List.mem_replicate.mp hmem).2] at hslot
      exact absurd rfl hslot
    have hnodup : (([] ++ ix.slots).filterMap WalIndexSlot.key).Nodup := hmaps.hashed.keys_nodup
    have hless : load WalIndexSlot.key ([] ++ ix.slots) < ix.slots.length * 2 := by
      rw [nil_append]
      omega
    obtain ⟨after, hrehash, hlength, hhashed, hload, hmem⟩ := rehash_eq_some
      (length_replicate ..) hdouble hnodup hless (Hashed.replicate rfl (homeSlot_lt hdouble))
      (load_replicate _) hempty
    rw [nil_append] at hload hmem
    refine ⟨{ ix with slots := after }, ?_, ?_, rfl, hlength⟩
    · rw [WalIndex.grow, if_neg (by rw [uint64Max]; omega), if_neg (by rw [uint64Max]; omega),
        hrehash]
      rfl
    · constructor
      · rw [hlength]
        exact hhashed
      · exact ⟨power + 1, hlength.trans hdouble⟩
      · exact hsize.trans hload.symm
      · rw [hlength]
        change ix.size * 2 ≤ _
        omega
      · intro pageId walOffset hpage
        rw [hmem _ (by simp [key_mk hpage])]
        exact hmaps.mem pageId walOffset hpage
      · exact hmaps.zero

end Growth

section Put

variable {ix : WalIndex} {map : PageId → Option UInt64} {pageId : PageId}

/-- A put ends; it enters the offset, or has no memory and changes nothing. -/
lemma Maps.put (hmaps : ix.Maps map) (hpage : pageId ≠ 0) (memory : Bool) (walOffset : UInt64) :
    (put memory ix pageId walOffset = some (.error .outOfMemory, ix) ∧
        (memory = false ∨ 2 ^ 58 ≤ ix.size)) ∨
      ∃ after, put memory ix pageId walOffset = some (.ok (), after) ∧
        after.Maps (Function.update map pageId (some walOffset)) := by
  rw [WalIndex.put, if_neg hpage]
  cases hmap : map pageId with
  | some old =>
    obtain ⟨index, hfor, hslot, hkey⟩ := hmaps.slotFor_some hpage hmap
    have hsame : (ix.slots.getD index emptyIndexSlot).pageId = pageId := by
      rw [getD_eq_getElem?_getD, hslot]
      rfl
    right
    refine ⟨_, ?_, hmaps.rewrite hpage hkey walOffset⟩
    rw [hfor]
    exact if_pos hsame
  | none =>
    obtain ⟨index, hfor, hlanding⟩ := hmaps.slotFor_none hpage hmap
    simp only [hfor, bind_eq_bind, bind_some]
    rw [if_neg (getD_of_landing hlanding hpage)]
    by_cases hfull : ix.size * 2 ≥ ix.slots.length
    · rw [if_pos hfull]
      rcases hmaps.grow memory with ⟨hgrow, hcause⟩ | ⟨grown, hgrow, hgrown, hsize, hlength⟩
      · left
        rw [hgrow]
        refine ⟨rfl, hcause.imp_right fun hlarge => ?_⟩
        omega
      · right
        obtain ⟨target, htarget, hland⟩ := hgrown.slotFor_none hpage hmap
        refine ⟨grown.enter target pageId walOffset, ?_, ?_⟩
        · rw [hgrow]
          simp [htarget]
        · refine hgrown.enter hpage hmap hland ?_ walOffset
          obtain ⟨power, hpower⟩ := hmaps.power
          have hpos := Nat.two_pow_pos (power + 1)
          have hroom := hmaps.room
          omega
    · right
      rw [if_neg hfull]
      exact ⟨_, rfl, hmaps.enter hpage hmap hlanding (not_le.mp hfull) walOffset⟩

lemma maps_replicate {capacity power : Nat} (hpower : capacity = 2 ^ (power + 1)) :
    Maps { slots := List.replicate capacity emptyIndexSlot, size := 0 } fun _ => none := by
  constructor
  · rw [length_replicate]
    exact Hashed.replicate rfl (homeSlot_lt hpower)
  · exact ⟨power, by rw [length_replicate, hpower]⟩
  · exact (load_replicate capacity).symm
  · exact Nat.zero_le _
  · intro pageId walOffset hpage
    refine ⟨fun hmem => ?_, fun hnone => by cases hnone⟩
    exact absurd (congrArg WalIndexSlot.pageId (List.mem_replicate.mp hmem).2) hpage
  · rfl

lemma maps_init {memory : Bool} (hinit : init memory = .ok ix) : ix.Maps fun _ => none := by
  rw [init] at hinit
  split at hinit
  · rw [← Except.ok.inj hinit]
    exact maps_replicate (show initialCapacity = 2 ^ (3 + 1) from rfl)
  · cases hinit

lemma Maps.clear (hmaps : ix.Maps map) : ix.clear.Maps fun _ => none := by
  obtain ⟨power, hpower⟩ := hmaps.power
  exact maps_replicate hpower

end Put

section Runs

/-- The calls of the index. -/
inductive Op where
  | put (memory : Bool) (pageId : PageId) (walOffset : UInt64)
  | get (pageId : PageId)
  | clear

inductive Reply where
  | status (result : Except SdbError Unit)
  | found (walOffset : Option UInt64)
  | cleared

def step (ix : WalIndex) : Op → Option (Reply × WalIndex)
  | .put memory pageId walOffset =>
    (put memory ix pageId walOffset).map fun outcome => (.status outcome.1, outcome.2)
  | .get pageId => some (.found (ix.get pageId), ix)
  | .clear => some (.cleared, ix.clear)

def run : List Op → WalIndex → Option (List Reply × WalIndex)
  | [], ix => some ([], ix)
  | op :: rest, ix => do
      let (reply, ix) ← ix.step op
      let (replies, ix) ← run rest ix
      some (reply :: replies, ix)

/-- The map after a call that was answered so. -/
def Op.mapAfter (map : PageId → Option UInt64) : Op → Reply → PageId → Option UInt64
  | .put _ pageId walOffset, .status (.ok _) => Function.update map pageId (some walOffset)
  | .clear, _ => fun _ => none
  | _, _ => map

/-- What the map prescribes: a lookup answers from it, and a put of a page succeeds unless
there is no memory, which a table for 2^58 pages cannot have. -/
def Op.Answers (map : PageId → Option UInt64) : Op → Reply → Prop
  | .put memory pageId _, reply =>
    if pageId = 0 then reply = .status (.error .invalidArgument)
    else reply = .status (.ok ()) ∨ (reply = .status (.error .outOfMemory) ∧
      (memory = false ∨ ∃ count, Pages map count ∧ 2 ^ 58 ≤ count))
  | .get pageId, reply => reply = .found (map pageId)
  | .clear, reply => reply = .cleared

/-- Every call is answered from the map as the calls before it left it; `last` is the map
at the end. -/
def AnswersAll (last : PageId → Option UInt64) :
    (PageId → Option UInt64) → List Op → List Reply → Prop
  | map, [], [] => last = map
  | map, op :: ops, reply :: replies =>
    op.Answers map reply ∧ AnswersAll last (op.mapAfter map reply) ops replies
  | _, _, _ => False

variable {ix : WalIndex} {map : PageId → Option UInt64}

lemma Maps.pages (hmaps : ix.Maps map) : Pages map ix.size := by
  refine ⟨ix.slots.filterMap WalIndexSlot.key, hmaps.hashed.keys_nodup,
    load_eq_length.symm.trans hmaps.size.symm, fun pageId => ?_⟩
  rw [mem_filterMap]
  by_cases hpage : pageId = 0
  · subst hpage
    simp only [hmaps.zero, ne_eq, not_true_eq_false, iff_false]
    rintro ⟨slot, _, hkey⟩
    unfold WalIndexSlot.key slotId at hkey
    split at hkey
    · cases hkey
    · rename_i hne
      exact hne (Option.some.inj hkey)
  · rw [ne_none_iff_exists']
    constructor
    · rintro ⟨slot, hslot, hkey⟩
      rw [key_eq_some hpage] at hkey
      exact ⟨slot.walOffset, (hmaps.mem pageId _ hpage).mp (hkey ▸ hslot)⟩
    · rintro ⟨walOffset, hmap⟩
      exact ⟨_, (hmaps.mem pageId walOffset hpage).mpr hmap, key_mk hpage⟩

/-- One call. -/
lemma Maps.step (hmaps : ix.Maps map) (op : Op) :
    ∃ reply after, ix.step op = some (reply, after) ∧ op.Answers map reply ∧
      after.Maps (op.mapAfter map reply) := by
  cases op with
  | put memory pageId walOffset =>
    by_cases hpage : pageId = 0
    · refine ⟨.status (.error .invalidArgument), ix, ?_, ?_, hmaps⟩
      · simp [WalIndex.step, WalIndex.put, hpage]
      · simp [Op.Answers, hpage]
    · rcases hmaps.put hpage memory walOffset with ⟨hput, hcause⟩ | ⟨after, hput, hafter⟩
      · refine ⟨.status (.error .outOfMemory), ix, ?_, ?_, hmaps⟩
        · rw [WalIndex.step, hput]
          rfl
        · rw [Op.Answers, if_neg hpage]
          exact .inr ⟨rfl, hcause.imp_right fun hlarge => ⟨ix.size, hmaps.pages, hlarge⟩⟩
      · refine ⟨.status (.ok ()), after, ?_, ?_, hafter⟩
        · rw [WalIndex.step, hput]
          rfl
        · rw [Op.Answers, if_neg hpage]
          exact .inl rfl
  | get pageId => exact ⟨_, ix, rfl, congrArg Reply.found (hmaps.get_eq pageId), hmaps⟩
  | clear => exact ⟨.cleared, ix.clear, rfl, rfl, hmaps.clear⟩

/-- Any sequence of calls. -/
lemma Maps.run (hmaps : ix.Maps map) (ops : List Op) :
    ∃ replies after last, WalIndex.run ops ix = some (replies, after) ∧
      AnswersAll last map ops replies ∧ after.Maps last := by
  induction ops generalizing ix map with
  | nil => exact ⟨[], ix, map, rfl, rfl, hmaps⟩
  | cons op ops ih =>
    obtain ⟨reply, middle, hstep, hanswers, hmiddle⟩ := hmaps.step op
    obtain ⟨replies, after, last, hrun, hall, hafter⟩ := ih hmiddle
    refine ⟨reply :: replies, after, last, ?_, ⟨hanswers, hall⟩, hafter⟩
    simp [WalIndex.run, hstep, hrun]

/-- The index refines a map: whatever is put, looked up and cleared, every probe loop ends,
every call is answered from the map of the last puts, the size is the number of its pages,
an empty slot is left, and growing changes no lookup. -/
theorem walIndex_refines_map {memory : Bool} {ix : WalIndex} (hinit : init memory = .ok ix)
    (ops : List Op) : ∃ replies after map, WalIndex.run ops ix = some (replies, after) ∧
      AnswersAll map (fun _ => none) ops replies ∧
      (∀ pageId, after.get pageId = map pageId) ∧ Pages map after.size ∧
      (∃ slot ∈ after.slots, slot.pageId = 0) ∧
      ∀ memory grown, grow memory after = some (.ok grown) →
        ∀ pageId, grown.get pageId = map pageId := by
  obtain ⟨replies, after, map, hrun, hall, hafter⟩ := (maps_init hinit).run ops
  refine ⟨replies, after, map, hrun, hall, hafter.get_eq, hafter.pages, ?_, ?_⟩
  · obtain ⟨index, hindex, hempty⟩ := hafter.exists_empty
    rw [keyAt, List.getElem?_eq_getElem hindex, Option.bind_some] at hempty
    exact ⟨_, List.getElem_mem hindex, slotId_eq_none.mp hempty⟩
  · intro memory grown hgrow
    rcases hafter.grow memory with ⟨herror, _⟩ | ⟨other, hother, hmaps, _⟩
    · rw [herror] at hgrow
      cases hgrow
    · rw [hother] at hgrow
      rw [← Except.ok.inj (Option.some.inj hgrow)]
      exact hmaps.get_eq

/-- A page put twice, looked up, and gone after a clear. -/
theorem walIndex_refines_map_sample : ∃ ix replies after map, init true = .ok ix ∧
      WalIndex.run [.put true 7 64, .put true 7 128, .get 7, .clear, .get 7] ix =
        some (replies, after) ∧
      AnswersAll map (fun _ => none) [.put true 7 64, .put true 7 128, .get 7, .clear, .get 7]
        replies := by
  have hinit : init true =
      .ok { slots := List.replicate initialCapacity emptyIndexSlot, size := 0 } := rfl
  obtain ⟨replies, after, map, hrun, hall, _⟩ := walIndex_refines_map hinit
    [.put true 7 64, .put true 7 128, .get 7, .clear, .get 7]
  exact ⟨_, replies, after, map, hinit, hrun, hall⟩

end Runs

section Session

/-- The loop of `sdb_txn_commit` that enters the frames of a transaction; `memory` says of
each entry whether there is memory for it. -/
def putFrames (memory : PageId → Bool) (frameSize : Nat) :
    WalIndex → Nat → List PageId → Option (Except SdbError Unit × WalIndex)
  | ix, _, [] => some (.ok (), ix)
  | ix, walOffset, pageId :: rest => do
    match ← put (memory pageId) ix pageId (UInt64.ofNat walOffset) with
    | (.error error, ix) => some (.error error, ix)
    | (.ok _, ix) => putFrames memory frameSize ix (walOffset + frameSize) rest

/-- The table has the entries of the list a session keeps for it. -/
def Lists (ix : WalIndex) (index : List (PageId × Nat)) : Prop :=
  ∃ map, ix.Maps map ∧ ∀ pageId walOffset,
    (pageId, walOffset) ∈ index ↔ (map pageId).map UInt64.toNat = some walOffset

variable {ix after : WalIndex} {index : List (PageId × Nat)} {pageId : PageId}

lemma lists_init {memory : Bool} (hinit : init memory = .ok ix) : ix.Lists [] :=
  ⟨_, maps_init hinit, fun _ _ => by simp⟩

lemma Lists.clear (hlists : ix.Lists index) : ix.clear.Lists [] := by
  obtain ⟨map, hmaps, _⟩ := hlists
  exact ⟨_, hmaps.clear, fun _ _ => by simp⟩

lemma Lists.get_eq (hlists : ix.Lists index) (pageId : PageId) :
    walIndexGet index pageId = (ix.get pageId).map UInt64.toNat := by
  obtain ⟨map, hmaps, hmem⟩ := hlists
  rw [hmaps.get_eq]
  cases hget : walIndexGet index pageId with
  | some walOffset => exact ((hmem pageId walOffset).mp (mem_of_walIndexGet hget)).symm
  | none =>
    refine (eq_none_iff_forall_ne_some.mpr fun walOffset hsome => ?_).symm
    exact not_mem_of_walIndexGet hget walOffset ((hmem pageId walOffset).mpr hsome)

lemma Lists.put (hlists : ix.Lists index) (hpage : pageId ≠ 0) {memory : Bool}
    {walOffset : UInt64} (hput : put memory ix pageId walOffset = some (.ok (), after)) :
    after.Lists (walIndexPut index pageId walOffset.toNat) := by
  obtain ⟨map, hmaps, hmem⟩ := hlists
  rcases hmaps.put hpage memory walOffset with ⟨herror, _⟩ | ⟨result, hresult, hmaps'⟩
  · rw [herror] at hput
    cases hput
  obtain rfl := (Prod.mk.inj (Option.some.inj (hresult.symm.trans hput))).2
  refine ⟨_, hmaps', ?_⟩
  have hforward : ∀ other offset, (other, offset) ∈ walIndexPut index pageId walOffset.toNat →
      (update map pageId (some walOffset) other).map UInt64.toNat = some offset := by
    intro other offset hentry
    rcases mem_walIndexPut hentry with ⟨rfl, rfl⟩ | ⟨hne, hold⟩
    · rw [update_self, Option.map_some]
    · rw [update_of_ne hne, (hmem other offset).mp hold]
  refine fun other offset => ⟨hforward other offset, fun hsome => ?_⟩
  -- the page has an entry, and by the other direction it is this one
  obtain ⟨offset', hentry⟩ : ∃ offset', (other, offset') ∈ walIndexPut index pageId
      walOffset.toNat := by
    apply exists_mem_walIndexPut
    rw [or_iff_not_imp_left]
    intro hne
    rw [update_of_ne hne] at hsome
    exact ⟨offset, (hmem other offset).mpr hsome⟩
  obtain rfl := Option.some.inj ((hforward other offset' hentry).symm.trans hsome)
  exact hentry

/-- The frames of a transaction enter the table as they enter the list. -/
lemma Lists.putFrames (hlists : ix.Lists index) {memory : PageId → Bool} {frameSize start : Nat}
    {pages : List PageId} (hpages : ∀ pageId ∈ pages, pageId ≠ 0)
    (hlog : start + pages.length * frameSize < 2 ^ 64)
    (hput : putFrames memory frameSize ix start pages = some (.ok (), after)) :
    after.Lists (walIndexPutFrames frameSize index start pages) := by
  induction pages generalizing ix index start with
  | nil =>
    obtain rfl := (Prod.mk.inj (Option.some.inj hput)).2
    exact hlists
  | cons pageId pages ih =>
    rw [length_cons, Nat.succ_mul] at hlog
    obtain ⟨⟨status, entered⟩, hfirst, hrest⟩ := Option.bind_eq_some_iff.mp hput
    cases status with
    | error error => cases hrest
    | ok _ =>
      have hentered := hlists.put (hpages pageId mem_cons_self) hfirst
      have hstart : start < UInt64.size := lt_of_le_of_lt (by omega) hlog
      rw [UInt64.toNat_ofNat_of_lt' hstart] at hentered
      exact ih hentered (fun other hother => hpages other (mem_cons_of_mem _ hother))
        (by omega) hrest

end Session

end WalIndex

end ShibaDb
