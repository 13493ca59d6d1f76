/-
The set of page ids with which `wal.c` looks for duplicates: a hash table twice as large
as the number of pages.  The checks of the frames and of the pages to log, run with this
table, are the ones that remember the ids seen before in a list.
-/
import ShibaDb.Lib.Probing
import ShibaDb.Wal.Accept

namespace ShibaDb

open Probing LittleEndian Fallible List

/-- The Fibonacci hash constant of the tables keyed by page ids. -/
def hashMultiplier : UInt64 := 11400714819323198485

/-- The home slot of a page id in a table whose size is a power of two. -/
def homeSlot (capacity : Nat) (pageId : PageId) : Nat :=
  (pageId * hashMultiplier).toNat &&& (capacity - 1)

def nextSlot (capacity index : Nat) : Nat := (index + 1) &&& (capacity - 1)

/-- The id in a slot; zero marks an empty one. -/
def slotId (pageId : PageId) : Option PageId := if pageId = 0 then none else some pageId

section Slots

variable {capacity power : Nat} {pageId : PageId}

lemma homeSlot_lt (hcapacity : capacity = 2 ^ power) (pageId : PageId) :
    homeSlot capacity pageId < capacity := by
  rw [homeSlot, hcapacity, Nat.and_two_pow_sub_one_eq_mod]
  exact Nat.mod_lt _ (Nat.two_pow_pos power)

lemma nextSlot_eq (hcapacity : capacity = 2 ^ power) (index : Nat) (hindex : index < capacity) :
    nextSlot capacity index = ahead capacity index 1 := and_mask_eq_ahead hcapacity hindex

lemma slotId_eq_some {other : PageId} (hpage : pageId ≠ 0) :
    slotId other = some pageId ↔ other = pageId := by
  unfold slotId
  split
  · rename_i hzero
    simp [hzero, hpage.symm]
  · simp

lemma slotId_eq_none : slotId pageId = none ↔ pageId = 0 := by
  unfold slotId
  split <;> simp_all

/-- The test of the loops over a table whose slots hold page ids. -/
lemma stop_eq_stopsAt {σ : Type} {slots : List σ} {f : σ → PageId} {empty : σ}
    (hempty : f empty = 0) (hpage : pageId ≠ 0) :
    (fun index => decide (f (slots.getD index empty) = 0) ||
        decide (f (slots.getD index empty) = pageId)) =
      stopsAt (fun slot => slotId (f slot)) slots pageId := by
  funext index
  rw [stopsAt, keyAt, getD_eq_getElem?_getD]
  cases hslot : slots[index]? with
  | none => simp [hempty]
  | some other => simp [slotId_eq_none, slotId_eq_some hpage]

end Slots

/-- The map has this many pages. -/
def Pages {α : Type} (map : PageId → Option α) (count : Nat) : Prop :=
  ∃ ids : List PageId, ids.Nodup ∧ ids.length = count ∧ ∀ pageId, pageId ∈ ids ↔ map pageId ≠ none

/-- The loop of `sdb_wal_id_set_create`; sixty-five rounds are more than it can take. -/
def walIdSetCapacity (required : Nat) : (rounds capacity : Nat) → Except SdbError Nat
  | 0, _ => .error .internal
  | rounds + 1, capacity =>
    if capacity < required then
      if capacity > uint64Max / 2 then .error .overflow
      else walIdSetCapacity required rounds (capacity * 2)
    else .ok capacity

/-- `sdb_wal_id_set_create`; `memory` says whether the allocation succeeds. -/
def walIdSetCreate (memory : Bool) (pageCount : Nat) : Except SdbError (List PageId) :=
  if pageCount = 0 || pageCount > uint64Max / 2 then .error .invalidArgument
  else do
    let capacity ← walIdSetCapacity (pageCount * 2) 65 1
    if capacity > uint64Max / 8 then .error .overflow
    else if !memory then .error .outOfMemory
    else .ok (List.replicate capacity 0)

/-- `sdb_wal_id_set_insert`: whether the id is new, and the table; nothing when the loop
does not end. -/
def walIdSetInsert (slots : List PageId) (pageId : PageId) : Option (Bool × List PageId) :=
  if pageId = 0 then some (false, slots)
  else
    (probe (nextSlot slots.length)
        (fun index => slots.getD index 0 = 0 || slots.getD index 0 = pageId)
        slots.length (homeSlot slots.length pageId)).map fun index =>
      if slots.getD index 0 = pageId then (false, slots) else (true, slots.set index pageId)

/-- Insertions one after the other. -/
def walIdSetInsertAll : List PageId → List PageId → Option (List Bool)
  | _, [] => some []
  | slots, pageId :: rest => do
      let (fresh, slots) ← walIdSetInsert slots pageId
      let flags ← walIdSetInsertAll slots rest
      pure (fresh :: flags)

/-- Which of the ids are not among those before them. -/
def freshFlags : (seen : List PageId) → List PageId → List Bool
  | _, [] => []
  | seen, pageId :: rest => (!seen.contains pageId) :: freshFlags (pageId :: seen) rest

section Insertion

variable {slots seen : List PageId} {pageId : PageId} {limit : Nat}

/-- The table holds the ids seen, with room for `limit` in all. -/
structure IdSet (slots seen : List PageId) (limit : Nat) : Prop where
  hashed : Hashed slotId (homeSlot slots.length) slots
  power : ∃ power, slots.length = 2 ^ power
  room : limit < slots.length
  load_le : load slotId slots ≤ seen.length
  mem : ∀ pageId, pageId ≠ 0 → (pageId ∈ slots ↔ pageId ∈ seen)

lemma mem_iff_keyAt (hpage : pageId ≠ 0) :
    pageId ∈ slots ↔ ∃ index, keyAt slotId slots index = some pageId := by
  rw [mem_iff_getElem?]
  refine exists_congr fun index => ?_
  rw [keyAt]
  cases slots[index]? with
  | none => simp
  | some other => simp [slotId_eq_some hpage]

/-- An insertion ends and reports exactly whether the id is new. -/
lemma IdSet.insert (hset : IdSet slots seen limit) (hpage : pageId ≠ 0)
    (hroom : seen.length < limit) :
    ∃ after, walIdSetInsert slots pageId = some (!seen.contains pageId, after) ∧
      IdSet after (pageId :: seen) limit := by
  obtain ⟨power, hpower⟩ := hset.power
  have hnext := nextSlot_eq hpower
  rw [walIdSetInsert, if_neg hpage, stop_eq_stopsAt (f := fun slot => slot) rfl hpage]
  by_cases hmem : pageId ∈ slots
  · obtain ⟨index, hindex⟩ := (mem_iff_keyAt hpage).mp hmem
    have hseen := (hset.mem pageId hpage).mp hmem
    have hslot : slots.getD index 0 = pageId := by
      rw [keyAt] at hindex
      rw [getD_eq_getElem?_getD]
      cases hget : slots[index]? with
      | none => simp [hget] at hindex
      | some other =>
        rw [hget, Option.bind_some, slotId_eq_some hpage] at hindex
        simpa using hindex
    refine ⟨slots, ?_, hset.hashed, hset.power, hset.room, ?_, ?_⟩
    · rw [hset.hashed.probe_present hnext hindex, Option.map_some, if_pos hslot]
      simp [hseen]
    · exact hset.load_le.trans (Nat.le_succ _)
    · intro other hother
      rw [hset.mem other hother, mem_cons]
      constructor
      · exact .inr
      · rintro (rfl | hold)
        · exact hseen
        · exact hold
  · have habsent : ∀ index, keyAt slotId slots index ≠ some pageId := fun index hindex =>
      hmem ((mem_iff_keyAt hpage).mpr ⟨index, hindex⟩)
    have hload : load slotId slots < slots.length :=
      hset.load_le.trans_lt (hroom.trans hset.room)
    obtain ⟨index, hprobe, hlanding⟩ :=
      hset.hashed.probe_absent hnext habsent (exists_empty hload)
    have hself : slotId pageId = some pageId := (slotId_eq_some hpage).mpr rfl
    have hslot : slots.getD index 0 ≠ pageId := by
      intro hsame
      apply hlanding.absent index
      rw [getD_eq_getElem?_getD, List.getElem?_eq_getElem hlanding.index_lt] at hsame
      rw [keyAt, List.getElem?_eq_getElem hlanding.index_lt, Option.bind_some, slotId_eq_some hpage]
      exact hsame
    have hunseen : pageId ∉ seen := fun hseen => hmem ((hset.mem pageId hpage).mpr hseen)
    refine ⟨slots.set index pageId, ?_, ?_, ?_, ?_, ?_, ?_⟩
    · rw [hprobe, Option.map_some, if_neg hslot]
      simp [hunseen]
    · rw [length_set]
      exact hset.hashed.insert hlanding hself
    · rw [length_set]
      exact hset.power
    · rw [length_set]
      exact hset.room
    · rw [load_set hlanding.index_lt hlanding.empty hself, length_cons]
      exact Nat.succ_le_succ hset.load_le
    · intro other hother
      have hid : slotId other ≠ none := fun hnone => hother (slotId_eq_none.mp hnone)
      rw [mem_set_of_empty hlanding.index_lt hlanding.empty hid, hset.mem other hother,
        mem_cons]

/-- Insertions one after the other report exactly which ids are new. -/
lemma IdSet.insertAll (hset : IdSet slots seen limit) {ids : List PageId}
    (hids : ∀ pageId ∈ ids, pageId ≠ 0) (hroom : seen.length + ids.length ≤ limit) :
    walIdSetInsertAll slots ids = some (freshFlags seen ids) := by
  induction ids generalizing slots seen with
  | nil => rfl
  | cons pageId ids ih =>
    rw [length_cons] at hroom
    obtain ⟨after, hinsert, hafter⟩ :=
      hset.insert (hids pageId mem_cons_self) (by omega)
    have hrest := ih hafter (fun other hother => hids other (mem_cons_of_mem _ hother))
      (by rw [length_cons]; omega)
    simp [walIdSetInsertAll, hinsert, hrest, freshFlags]

end Insertion

section Creation

variable {memory : Bool} {pageCount : Nat} {slots : List PageId}

lemma walIdSetCapacity_eq_ok {required rounds capacity result power : Nat}
    (hcapacity : capacity = 2 ^ power)
    (h : walIdSetCapacity required rounds capacity = .ok result) :
    required ≤ result ∧ ∃ power, result = 2 ^ power := by
  induction rounds generalizing capacity power with
  | zero => cases h
  | succ rounds ih =>
    rw [walIdSetCapacity] at h
    split at h
    · split at h
      · cases h
      · exact ih (by rw [hcapacity, Nat.pow_succ]) h
    · rename_i hlarge
      obtain rfl := Except.ok.inj h
      exact ⟨not_lt.mp hlarge, power, hcapacity⟩

/-- A set that was created is empty and has room for the pages. -/
lemma walIdSetCreate_eq_ok (h : walIdSetCreate memory pageCount = .ok slots) :
    IdSet slots [] pageCount := by
  rw [walIdSetCreate] at h
  obtain ⟨hcount, h⟩ := guard_eq_ok.mp h
  obtain ⟨capacity, hcapacity, h⟩ := except_bind_eq_ok.mp h
  obtain ⟨_, h⟩ := guard_eq_ok.mp h
  obtain ⟨_, h⟩ := guard_eq_ok.mp h
  obtain rfl := Except.ok.inj h
  obtain ⟨hrequired, power, hpower⟩ := walIdSetCapacity_eq_ok (show 1 = 2 ^ 0 from rfl) hcapacity
  refine ⟨?_, ⟨power, ?_⟩, ?_, ?_, ?_⟩
  · rw [length_replicate]
    exact Hashed.replicate rfl (homeSlot_lt hpower)
  · rw [length_replicate, hpower]
  · rw [length_replicate]
    simp at hcount
    omega
  · simp [load, slotId, countP_replicate]
  · intro pageId hpage
    simp [hpage]

end Creation

section Frames

variable (prim : Primitives) (superblock : Superblock) (dataKey : Option Bytes)
  (format : FrameFormat) (txnId nextPageId count : Nat)

/-- What `sdb_wal_validate_frames` checks of a frame before it asks the set. -/
def walFrameHead (index : Nat) (frame : Bytes) : Bool :=
  let pageId := (framePage format superblock.pageSize frame).pageId
  (format = .legacy || (read (field 8 8 frame) = txnId && read (field 16 4 frame) = index
      && read (field 20 4 frame) = count))
    && (format ≠ .v5 || field 24 16 frame = superblock.fileId)
    && pageId ≠ 0 && pageId.toNat < nextPageId

/-- What it checks of a frame whose page id is new. -/
def walFrameBody (frame : Bytes) : Bool :=
  let page := framePage format superblock.pageSize frame
  match pageDecode prim superblock.pageSize page.pageId page.bytes with
  | .error _ => false
  | .ok view => view.pageLsn = txnId && imageAuthentic prim superblock dataKey page.pageId view

/-- The loop of `sdb_wal_validate_frames` with its set. -/
def walValidateFramesIn : (remaining index : Nat) → (slots : List PageId) → Bytes → Option Bool
  | 0, _, _, _ => some true
  | remaining + 1, index, slots, cursor =>
    if walFrameHead superblock format txnId nextPageId count index cursor then
      match walIdSetInsert slots (framePage format superblock.pageSize cursor).pageId with
      | none => none
      | some (false, _) => some false
      | some (true, slots) =>
        if walFrameBody prim superblock dataKey format txnId cursor then
          walValidateFramesIn remaining (index + 1) slots
            (cursor.drop (format.frameSize superblock.pageSize))
        else some false
    else some false

/-- `sdb_wal_validate_frames`; `memory` says which of its two allocations succeed. -/
def walValidateFramesStatus (memory : Bool × Bool) (bytes : Bytes) :
    Option (Except SdbError Unit) :=
  match walIdSetCreate memory.1 count with
  | .error error => some (.error error)
  | .ok slots =>
    if dataKey.isSome && !memory.2 then some (.error .outOfMemory)
    else
      (walValidateFramesIn prim superblock dataKey format txnId nextPageId count count 0 slots
        bytes).map fun valid => if valid then .ok () else .error .corrupt

/-- What `sdb_wal_encode_txn` checks of a page whose id is new. -/
def walPageBody (target : Superblock) (page : WalPage) : Bool :=
  match pageDecode prim target.pageSize page.pageId page.bytes with
  | .ok view => view.pageLsn = txnId
  | .error _ => false

/-- The loop over the pages in `sdb_wal_encode_txn`, with its set. -/
def walPagesValidIn (target : Superblock) : (slots : List PageId) → List WalPage → Option Bool
  | _, [] => some true
  | slots, page :: rest =>
    if page.pageId ≠ 0 && page.pageId.toNat < target.nextPageId then
      match walIdSetInsert slots page.pageId with
      | none => none
      | some (false, _) => some false
      | some (true, slots) =>
        if walPageBody prim txnId target page then walPagesValidIn target slots rest
        else some false
    else some false

end Frames

section Refinement

variable {prim : Primitives} {superblock target : Superblock} {dataKey : Option Bytes}
  {format : FrameFormat} {txnId nextPageId count index limit : Nat} {slots seen : List PageId}
  {bytes : Bytes} {pages : List WalPage}

lemma walFrameValid_eq :
    walFrameValid prim superblock dataKey format txnId nextPageId count index seen bytes =
      (walFrameHead superblock format txnId nextPageId count index bytes &&
        (!seen.contains (framePage format superblock.pageSize bytes).pageId &&
          walFrameBody prim superblock dataKey format txnId bytes)) := by
  simp only [walFrameValid, walFrameHead, Bool.and_assoc]
  rfl

/-- The loop with the set is the loop with the list of the ids seen. -/
lemma IdSet.validateFrames (hset : IdSet slots seen limit) {remaining : Nat}
    (hroom : seen.length + remaining ≤ limit) :
    walValidateFramesIn prim superblock dataKey format txnId nextPageId count remaining index slots
        bytes =
      some (walValidateFrames prim superblock dataKey format txnId nextPageId count remaining index
        seen bytes) := by
  induction remaining generalizing index slots seen bytes with
  | zero => rfl
  | succ remaining ih =>
    rw [walValidateFramesIn, walValidateFrames, walFrameValid_eq]
    cases hhead : walFrameHead superblock format txnId nextPageId count index bytes with
    | false => simp
    | true =>
      have hpage : (framePage format superblock.pageSize bytes).pageId ≠ 0 := by
        simp only [walFrameHead, Bool.and_eq_true, decide_eq_true_eq] at hhead
        exact hhead.1.2
      obtain ⟨after, hinsert, hafter⟩ := hset.insert hpage (by omega)
      have hlength :
          ((framePage format superblock.pageSize bytes).pageId :: seen).length + remaining ≤
            limit := by
        rw [length_cons]
        omega
      rw [hinsert]
      cases seen.contains (framePage format superblock.pageSize bytes).pageId with
      | true => simp
      | false =>
        cases walFrameBody prim superblock dataKey format txnId bytes with
        | true => simpa using ih hafter hlength
        | false => simp

lemma walPagesValid_cons {page : WalPage} : walPagesValid prim target txnId seen (page :: pages) =
      (page.pageId ≠ 0 && page.pageId.toNat < target.nextPageId && !seen.contains page.pageId
        && walPageBody prim txnId target page
        && walPagesValid prim target txnId (page.pageId :: seen) pages) := rfl

lemma IdSet.pagesValid (hset : IdSet slots seen limit)
    (hroom : seen.length + pages.length ≤ limit) : walPagesValidIn prim txnId target slots pages =
      some (walPagesValid prim target txnId seen pages) := by
  induction pages generalizing slots seen with
  | nil => rfl
  | cons page pages ih =>
    rw [length_cons] at hroom
    rw [walPagesValidIn, walPagesValid_cons]
    by_cases hpage : page.pageId = 0
    · simp [hpage]
    by_cases hbounded : page.pageId.toNat < target.nextPageId
    · obtain ⟨after, hinsert, hafter⟩ := hset.insert hpage (by omega)
      have hlength : (page.pageId :: seen).length + pages.length ≤ limit := by
        rw [length_cons]
        omega
      rw [hinsert]
      cases seen.contains page.pageId with
      | true => simp
      | false =>
        cases walPageBody prim txnId target page with
        | true => simp [hpage, hbounded, ih hafter hlength]
        | false => simp
    · simp [hbounded]

/-- Where the ids are distinct, only the other checks count. -/
lemma walPagesValid_of_nodup (hnodup : (pages.map (·.pageId)).Nodup)
    (hunseen : ∀ page ∈ pages, page.pageId ∉ seen) :
    walPagesValid prim target txnId seen pages = pages.all fun page =>
      page.pageId ≠ 0 && page.pageId.toNat < target.nextPageId &&
        walPageBody prim txnId target page := by
  induction pages generalizing seen with
  | nil => rfl
  | cons page pages ih =>
    rw [map_cons, nodup_cons] at hnodup
    rw [forall_mem_cons] at hunseen
    have hfresh : ∀ other ∈ pages, other.pageId ∉ page.pageId :: seen := by
      intro other hother hmem
      rcases List.mem_cons.mp hmem with hsame | hmem
      · exact hnodup.1 (hsame ▸ mem_map_of_mem hother)
      · exact hunseen.2 other hother hmem
    have hnot : seen.contains page.pageId = false := by simpa using hunseen.1
    rw [walPagesValid_cons, ih hnodup.2 hfresh, all_cons, hnot, Bool.not_false, Bool.and_true]

/-- The set of page ids detects exactly the duplicates: every insertion ends and reports
whether the id is new; frames that are accepted have distinct ids; and pages with distinct
ids are refused for their other checks only. -/
theorem walIdSet_exact : (∀ memory pageCount slots, walIdSetCreate memory pageCount = .ok slots →
      ∀ ids : List PageId, ids.length ≤ pageCount → (∀ pageId ∈ ids, pageId ≠ 0) →
        walIdSetInsertAll slots ids = some (freshFlags [] ids)) ∧
    (∀ prim superblock dataKey format txnId nextPageId count memory bytes,
      ∃ status, walValidateFramesStatus prim superblock dataKey format txnId nextPageId count memory
          bytes = some status ∧ (status = .ok () →
          ((framePages format superblock.pageSize count bytes).map (·.pageId)).Nodup)) ∧
    ∀ prim target txnId memory (pages : List WalPage) slots,
      walIdSetCreate memory pages.length = .ok slots → (pages.map (·.pageId)).Nodup →
        walPagesValidIn prim txnId target slots pages = some (pages.all fun page =>
          page.pageId ≠ 0 && page.pageId.toNat < target.nextPageId &&
            walPageBody prim txnId target page) := by
  refine ⟨?_, ?_, ?_⟩
  · intro memory pageCount slots hcreate ids hlength hids
    exact (walIdSetCreate_eq_ok hcreate).insertAll hids (by simpa using hlength)
  · intro prim superblock dataKey format txnId nextPageId count memory bytes
    rw [walValidateFramesStatus]
    cases hcreate : walIdSetCreate memory.1 count with
    | error error => exact ⟨_, rfl, fun h => by cases h⟩
    | ok slots =>
      simp only
      split
      · exact ⟨_, rfl, fun h => by cases h⟩
      · have hset := walIdSetCreate_eq_ok hcreate
        rw [hset.validateFrames (by simp), Option.map_some]
        refine ⟨_, rfl, fun h => ?_⟩
        split at h
        next hvalid => exact (distinct_of_walValidateFrames hvalid).2
        next => cases h
  · intro prim target txnId memory pages slots hcreate hnodup
    rw [(walIdSetCreate_eq_ok hcreate).pagesValid (by simp),
      walPagesValid_of_nodup hnodup fun _ _ => List.not_mem_nil]

/-- Two insertions of one id. -/
theorem walIdSet_exact_twice : walIdSetCreate true 2 = .ok [0, 0, 0, 0] ∧
      walIdSetInsertAll [0, 0, 0, 0] [3, 3] = some [true, false] := by
  have hcreate : walIdSetCreate true 2 = .ok [0, 0, 0, 0] := by decide +kernel
  have hinsert := walIdSet_exact.1 true 2 _ hcreate [3, 3] (by decide) (by simp)
  exact ⟨hcreate, hinsert.trans (by decide +kernel)⟩

end Refinement

end ShibaDb
