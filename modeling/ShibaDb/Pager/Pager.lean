/-
The pager as its callers see it while every I/O call succeeds: the in-memory
superblock, the newest image of each page, and the direct page operations used
to create a database.  The files below it are modelled separately.
-/
import ShibaDb.Status

namespace ShibaDb

open LittleEndian

inductive PageType where
  | data
  | free
  deriving DecidableEq, Repr

/-- `sdb_page_view`: the decoded content of a page. -/
structure PageView where
  type : PageType
  pageLsn : Nat
  payload : Bytes
  deriving DecidableEq, Repr

structure Superblock where
  pageSize : Nat
  generation : Nat
  checkpointLsn : Nat
  rootPage : PageId
  freelistPage : PageId
  nextPageId : Nat
  fileId : Bytes
  deriving DecidableEq, Repr

def minPageSize : Nat := 4096
def maxPageSize : Nat := 65536
def pageHeaderSize : Nat := 32
def encryptedPayloadHeaderSize : Nat := 52
def fileIdSize : Nat := 16
def int64Max : Nat := 2 ^ 63 - 1

/-- Offset of the first page: two superblock slots of 4096 bytes. -/
def dataOffset : Nat := 4096 * 2

def walHeaderSize : Nat := 64
def walFrameSize (pageSize : Nat) : Nat := 40 + pageSize
def walCommitSize : Nat := 44
def walMaxRecords : Nat := 1048576
def walMaxBytes : Nat := 268435456

def pageSizeValid (pageSize : Nat) : Bool :=
  minPageSize ≤ pageSize && pageSize ≤ maxPageSize && pageSize &&& (pageSize - 1) = 0

def pageGeometryValid (nextPageId pageSize : Nat) : Bool :=
  nextPageId ≠ 0 && pageSize ≠ 0 &&
    nextPageId - 1 ≤ (uint64Max - dataOffset) / pageSize

/-- The fields `sdb_validate_superblock_detailed` checks of a plain superblock. -/
def superblockValid (superblock : Superblock) : Bool :=
  pageSizeValid superblock.pageSize &&
    pageGeometryValid superblock.nextPageId superblock.pageSize &&
    superblock.rootPage.toNat < superblock.nextPageId &&
    superblock.freelistPage.toNat < superblock.nextPageId &&
    superblock.fileId.any (· ≠ 0)

section Valid

variable {pageSize nextPageId : Nat} {superblock : Superblock}

lemma pageSize_bounds (h : pageSizeValid pageSize = true) :
    minPageSize ≤ pageSize ∧ pageSize ≤ maxPageSize := by
  simp only [pageSizeValid, Bool.and_eq_true, decide_eq_true_eq] at h
  exact h.1

lemma pageGeometryValid_iff : pageGeometryValid nextPageId pageSize = true ↔
    (nextPageId ≠ 0 ∧ pageSize ≠ 0) ∧ nextPageId - 1 ≤ (uint64Max - dataOffset) / pageSize := by
  simp only [pageGeometryValid, Bool.and_eq_true, decide_eq_true_eq]

lemma pageGeometryValid_lt (h : pageGeometryValid nextPageId pageSize = true) :
    nextPageId < 2 ^ 64 := by
  have hle := (pageGeometryValid_iff.mp h).2
  have hdiv := Nat.div_le_self (uint64Max - dataOffset) pageSize
  simp only [uint64Max, dataOffset] at hdiv hle
  omega

lemma geometry_of_superblockValid (h : superblockValid superblock = true) :
    pageSizeValid superblock.pageSize = true ∧
      pageGeometryValid superblock.nextPageId superblock.pageSize = true := by
  simp only [superblockValid, Bool.and_eq_true] at h
  exact h.1.1.1

end Valid

structure Pager where
  superblock : Superblock
  /-- The newest image of a page, from the cache, the WAL or the data file; a
  page that was never written is a hole of zero bytes. -/
  pages : PageId → Option PageView
  encryptionEnabled : Bool
  fileSize : Nat
  walTail : Nat
  currentLsn : Nat
  checkpointThreshold : Nat
  needsRecovery : Bool
  transactionActive : Bool
  isOpen : Bool

def pagerPayloadCapacity (pager : Pager) : Nat :=
  if pager.superblock.pageSize < pageHeaderSize then 0
  else
    let capacity := pager.superblock.pageSize - pageHeaderSize
    if pager.encryptionEnabled then capacity - encryptedPayloadHeaderSize else capacity

def generationBump (generation : Nat) : Except SdbError Nat :=
  if generation = uint64Max then .error .overflow else .ok (generation + 1)

def setPage (pages : PageId → Option PageView) (pageId : PageId) (view : PageView) :
    PageId → Option PageView :=
  fun other => if other = pageId then some view else pages other

def pagerRead (pager : Pager) (pageId : PageId) : Except SdbError PageView :=
  if !pager.isOpen || pager.needsRecovery || pageId = 0
      || pageId.toNat ≥ pager.superblock.nextPageId then .error .invalidArgument
  else
    match pager.pages pageId with
    | some view => .ok view
    | none => .error .badMagic

def pagerStoreSuperblock (pager : Pager) (next : Superblock) : Except SdbError Pager :=
  if superblockValid next then .ok { pager with superblock := next }
  else .error .invalidArgument

def pagerWrite (pager : Pager) (pageId : PageId) (view : PageView) :
    Except SdbError Pager :=
  if !pager.isOpen || pager.needsRecovery || pager.transactionActive || pageId = 0
      || pageId.toNat ≥ pager.superblock.nextPageId then .error .invalidArgument
  else if view.payload.length > pagerPayloadCapacity pager then .error .invalidArgument
  else .ok { pager with pages := setPage pager.pages pageId view }

def fileResize (size : Nat) : Except SdbError Nat :=
  if size > int64Max then .error .invalidArgument else .ok size

/-- The page `sdb_pager_allocate` takes, the superblock without it and the size
of the data file: the head of the freelist, or a new page at the end. -/
def pagerTakePage (pager : Pager) : Except SdbError (PageId × Superblock × Nat) :=
  let next := pager.superblock
  if next.freelistPage ≠ 0 then do
    let view ← pagerRead pager next.freelistPage
    if view.type ≠ .free || view.payload.length ≠ 8 then .error .corrupt
    else
      let nextFree : PageId := UInt64.ofNat (read view.payload)
      if nextFree.toNat ≥ next.nextPageId || nextFree = next.freelistPage then
        .error .corrupt
      else .ok (next.freelistPage, { next with freelistPage := nextFree }, pager.fileSize)
  else if next.nextPageId = uint64Max then .error .overflow
  else if !pageGeometryValid (next.nextPageId + 1) next.pageSize then .error .overflow
  else do
    let size ← fileResize (dataOffset + next.nextPageId * next.pageSize)
    .ok (UInt64.ofNat next.nextPageId, { next with nextPageId := next.nextPageId + 1 }, size)

def pagerAllocate (pager : Pager) : Except SdbError (PageId × Pager) :=
  if !pager.isOpen || pager.needsRecovery || pager.transactionActive then
    .error .invalidArgument
  else do
    let (pageId, next, fileSize) ← pagerTakePage pager
    let generation ← generationBump next.generation
    let pager ← pagerStoreSuperblock { pager with fileSize } { next with generation }
    let pager ← pagerWrite pager pageId
      { type := .data, pageLsn := generation, payload := [] }
    .ok (pageId, pager)

/-- `sdb_pager_create` followed by the open it ends with. -/
def pagerCreate (pageSize : Nat) (fileId : Bytes) (encrypted : Bool) :
    Except SdbError Pager :=
  let superblock : Superblock :=
    { pageSize, generation := 1, checkpointLsn := 0, rootPage := 0, freelistPage := 0
      nextPageId := 1, fileId }
  if superblockValid superblock then
    .ok { superblock
          pages := fun _ => none
          encryptionEnabled := encrypted
          fileSize := dataOffset
          walTail := walHeaderSize
          currentLsn := 0
          checkpointThreshold := 1000 * pageSize
          needsRecovery := false
          transactionActive := false
          isOpen := true }
  else .error .invalidArgument

end ShibaDb
