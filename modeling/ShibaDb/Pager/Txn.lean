/-
Page transactions: staging pages, the page allocator with its freelist, and the
commit that publishes a transaction.
-/
import ShibaDb.Pager.Pager

namespace ShibaDb

open LittleEndian Fallible

structure TxnPage where
  pageId : PageId
  type : PageType
  payload : Bytes
  deriving DecidableEq, Repr

structure Txn where
  targetSuperblock : Superblock
  pages : List TxnPage
  allocatedPages : List PageId
  active : Bool
  deriving DecidableEq, Repr

abbrev TxnM := Fallible SdbError Txn

/-- `sdb_txn_begin`: the transaction starts from the pager's superblock. -/
def txnBegin (pager : Pager) : Except SdbError (Txn × Pager) :=
  if !pager.isOpen || pager.needsRecovery || pager.transactionActive then
    .error .invalidArgument
  else
    .ok ({ targetSuperblock := pager.superblock, pages := [], allocatedPages := []
           active := true },
         { pager with transactionActive := true })

/-- A transaction that has just begun. -/
def freshTxn (pager : Pager) : Txn :=
  { targetSuperblock := pager.superblock, pages := [], allocatedPages := [], active := true }

def txnRelease (pager : Pager) : Pager :=
  { pager with transactionActive := false }

/-- The link of a FREE page: the next page of the freelist. -/
def freeLink (payload : Bytes) : PageId := UInt64.ofNat (read payload)

def linkPayload (pageId : PageId) : Bytes := write 8 pageId.toNat

def txnPutCheck (pager : Pager) (txn : Txn) (page : TxnPage) : Bool :=
  txn.active && page.pageId ≠ 0 &&
    page.pageId.toNat < txn.targetSuperblock.nextPageId &&
    (page.type ≠ .free || page.payload.length = 8) &&
    page.payload.length ≤ pagerPayloadCapacity pager &&
    (page.type ≠ .free ||
      ((freeLink page.payload).toNat < txn.targetSuperblock.nextPageId &&
        freeLink page.payload ≠ page.pageId)) &&
    !txn.pages.any (·.pageId = page.pageId)

def txnPut (pager : Pager) (page : TxnPage) : TxnM PUnit := fun txn =>
  if txnPutCheck pager txn page then
    (.ok ⟨⟩, { txn with pages := txn.pages ++ [page] })
  else (.error .invalidArgument, txn)

def findTxnPage (pages : List TxnPage) (pageId : PageId) : Option TxnPage :=
  pages.find? (·.pageId = pageId)

def removeTxnPage (pages : List TxnPage) (pageId : PageId) : List TxnPage :=
  pages.eraseP (·.pageId = pageId)

/-- The link of the freelist head `pageId`, from the FREE record the transaction
staged for it or from the committed FREE page. -/
def txnFreelistLink (pager : Pager) (txn : Txn) (pageId : PageId) :
    Except SdbError PageId :=
  match findTxnPage txn.pages pageId with
  | some staged =>
    if staged.type ≠ .free || staged.payload.length ≠ 8 then .error .internal
    else .ok (freeLink staged.payload)
  | none => do
      let view ← pagerRead pager pageId
      if view.type ≠ .free || view.payload.length ≠ 8 then .error .corrupt
      else if (freeLink view.payload).toNat ≥ txn.targetSuperblock.nextPageId
          || freeLink view.payload = pageId then .error .corrupt
      else .ok (freeLink view.payload)

def txnAllocate (pager : Pager) : TxnM PageId := fun txn =>
  let target := txn.targetSuperblock
  if !txn.active then (.error .invalidArgument, txn)
  else if target.freelistPage ≠ 0 then
    let pageId := target.freelistPage
    match txnFreelistLink pager txn pageId with
    | .error error => (.error error, txn)
    | .ok nextFreelist =>
      (.ok pageId,
        { txn with
          targetSuperblock := { target with freelistPage := nextFreelist }
          pages := removeTxnPage txn.pages pageId
          allocatedPages := txn.allocatedPages ++ [pageId] })
  else if target.nextPageId = uint64Max
      || !pageGeometryValid (target.nextPageId + 1) target.pageSize then
    (.error .overflow, txn)
  else
    let pageId : PageId := UInt64.ofNat target.nextPageId
    (.ok pageId,
      { txn with
        targetSuperblock := { target with nextPageId := target.nextPageId + 1 }
        allocatedPages := txn.allocatedPages ++ [pageId] })

/-- Stage a FREE record in front of the freelist. -/
def txnPushFree (pager : Pager) (pageId : PageId) : TxnM PUnit := do
  let freelistPage ← query fun txn => .ok txn.targetSuperblock.freelistPage
  txnPut pager { pageId, type := .free, payload := linkPayload freelistPage }
  update fun txn =>
    { txn with targetSuperblock := { txn.targetSuperblock with freelistPage := pageId } }

/-- `sdb_txn_free`: an allocation of this transaction is cancelled, a committed
page is checked; both end on the freelist. -/
def txnFree (pager : Pager) (pageId : PageId) : TxnM PUnit := fun txn =>
  if !txn.active || pageId = 0 || pageId.toNat ≥ txn.targetSuperblock.nextPageId then
    (.error .invalidArgument, txn)
  else if txn.allocatedPages.contains pageId then
    txnPushFree pager pageId
      { txn with
        allocatedPages := txn.allocatedPages.erase pageId
        pages := removeTxnPage txn.pages pageId }
  else
    match pagerRead pager pageId with
    | .error error => (.error error, txn)
    | .ok view =>
      if view.type = .free then (.error .invalidArgument, txn)
      else txnPushFree pager pageId txn

/-- The new WAL tail after `sdb_wal_append_txn`, or why the append is refused. -/
def walAppendTail (pager : Pager) (txn : Txn) : Except SdbError Nat :=
  let framesSize := walFrameSize pager.superblock.pageSize * txn.pages.length
  if txn.pages.length > walMaxRecords then .error .invalidArgument
  else if pager.walTail + framesSize + walCommitSize > walMaxBytes then .error .overflow
  else if txn.pages.any fun page => page.pageId = 0
      || page.pageId.toNat ≥ txn.targetSuperblock.nextPageId then .error .invalidArgument
  else .ok (pager.walTail + framesSize + walCommitSize)

/-- The data file is grown to hold every page of the transaction. -/
def commitFileSize (pager : Pager) (txn : Txn) : Except SdbError Nat :=
  if !pageGeometryValid txn.targetSuperblock.nextPageId pager.superblock.pageSize then
    .error .overflow
  else
    let expected := dataOffset +
      (txn.targetSuperblock.nextPageId - 1) * pager.superblock.pageSize
    if pager.fileSize < expected then fileResize expected else .ok pager.fileSize

def publishPages (pages : PageId → Option PageView) (lsn : Nat) :
    List TxnPage → PageId → Option PageView
  | [] => pages
  | page :: rest =>
    publishPages
      (setPage pages page.pageId
        { type := page.type, pageLsn := lsn, payload := page.payload })
      lsn rest

lemma publishPages_of_not_mem {pages : PageId → Option PageView} {lsn : Nat}
    {staged : List TxnPage} {pageId : PageId} (hpage : ∀ page ∈ staged, page.pageId ≠ pageId) :
    publishPages pages lsn staged pageId = pages pageId := by
  induction staged generalizing pages with
  | nil => rfl
  | cons page staged ih =>
    rw [List.forall_mem_cons] at hpage
    rw [publishPages, ih hpage.2, setPage, if_neg hpage.1.symm]

lemma publishPages_of_mem {pages : PageId → Option PageView} {lsn : Nat}
    {staged : List TxnPage} (hnodup : (staged.map TxnPage.pageId).Nodup) {page : TxnPage}
    (hpage : page ∈ staged) : publishPages pages lsn staged page.pageId =
      some { type := page.type, pageLsn := lsn, payload := page.payload } := by
  induction staged generalizing pages with
  | nil => simp at hpage
  | cons first staged ih =>
    rw [List.map_cons, List.nodup_cons] at hnodup
    rcases List.mem_cons.mp hpage with rfl | hpage
    · rw [publishPages, publishPages_of_not_mem, setPage, if_pos rfl]
      exact fun other hother heq => hnodup.1 (heq ▸ List.mem_map_of_mem hother)
    · exact ih hnodup.2 hpage

/-- `sdb_pager_checkpoint` while I/O succeeds: the newest images move to the data
file, the superblock gets a new generation and the WAL is emptied. -/
def pagerCheckpoint (pager : Pager) : Except SdbError Unit × Pager :=
  if !pager.isOpen || pager.needsRecovery || pager.transactionActive then
    (.error .invalidArgument, pager)
  else if pager.walTail = walHeaderSize then (.ok (), pager)
  else
    let advanced := do
      let generation ← generationBump pager.superblock.generation
      pagerStoreSuperblock pager
        { pager.superblock with generation, checkpointLsn := pager.currentLsn }
    match advanced with
    | .error error => (.error error, { pager with needsRecovery := true })
    | .ok pager => (.ok (), { pager with walTail := walHeaderSize })

/-- The durable part of `sdb_txn_commit`: append to the WAL, grow the file, and
make the transaction's superblock and pages the current ones. -/
def txnPublish (pager : Pager) (txn : Txn) : Except SdbError Pager := do
  let walTail ← walAppendTail pager txn
  let fileSize ← commitFileSize pager txn
  let generation ← generationBump pager.superblock.generation
  let lsn := pager.currentLsn + 1
  .ok { pager with
        superblock := { txn.targetSuperblock with generation, checkpointLsn := lsn }
        pages := publishPages pager.pages lsn txn.pages
        fileSize, walTail
        currentLsn := lsn }

def txnCommit (pager : Pager) (txn : Txn) : Except SdbError Unit × Pager :=
  if !txn.active then (.error .invalidArgument, pager)
  else if txn.pages = [] then
    (.error .invalidArgument, if txn.allocatedPages ≠ [] then txnRelease pager else pager)
  else if pager.currentLsn = uint64Max then (.error .overflow, txnRelease pager)
  else if txn.allocatedPages.any fun pageId => !txn.pages.any (·.pageId = pageId) then
    (.error .invalidArgument, txnRelease pager)
  else
    match txnPublish pager txn with
    | .error error => (.error error, txnRelease { pager with needsRecovery := true })
    | .ok pager =>
      let pager := txnRelease pager
      if pager.walTail ≥ pager.checkpointThreshold then
        match pagerCheckpoint pager with
        | (.ok _, pager) => (.ok (), pager)
        | (.error _, pager) => (.ok (), { pager with needsRecovery := true })
      else (.ok (), pager)

lemma pagerPayloadCapacity_of_valid {pager : Pager}
    (hvalid : superblockValid pager.superblock = true) : 8 ≤ pagerPayloadCapacity pager := by
  have hsize := (pageSize_bounds (geometry_of_superblockValid hvalid).1).1
  simp only [minPageSize] at hsize
  have hheader : ¬pager.superblock.pageSize < pageHeaderSize := by
    simp only [pageHeaderSize]
    omega
  rw [pagerPayloadCapacity, if_neg hheader]
  simp only [pageHeaderSize, encryptedPayloadHeaderSize]
  split <;> omega

section Commit

variable {pager pager' : Pager} {txn : Txn} {error : SdbError}

lemma txnBegin_eq_ok {begun : Pager} (hbegin : txnBegin pager = .ok (txn, begun)) :
    pager.isOpen = true ∧ pager.needsRecovery = false ∧ txn = freshTxn pager ∧
      begun = { pager with transactionActive := true } := by
  unfold txnBegin at hbegin
  obtain ⟨hguard, hok⟩ := guard_eq_ok.mp hbegin
  simp only [Bool.or_eq_true, not_or, Bool.not_eq_true, Bool.not_eq_false'] at hguard
  obtain ⟨rfl, rfl⟩ := Prod.mk.inj (Except.ok.inj hok)
  exact ⟨by simpa using hguard.1.1, hguard.1.2, rfl, rfl⟩

lemma pagerRead_eq_ok {pageId : PageId} {view : PageView}
    (hread : pagerRead pager pageId = .ok view) : pager.pages pageId = some view := by
  unfold pagerRead at hread
  split at hread
  · simp at hread
  · cases hpage : pager.pages pageId with
    | none => simp [hpage] at hread
    | some other => simpa [hpage] using hread

/-- A checkpoint changes the counters of the superblock and empties the WAL. -/
lemma pagerCheckpoint_eq_ok (hrun : pagerCheckpoint pager = (.ok (), pager')) :
    ∃ generation checkpointLsn walTail, pager' =
      { pager with
        superblock := { pager.superblock with generation, checkpointLsn }
        walTail } := by
  simp only [pagerCheckpoint] at hrun
  split at hrun
  · simp at hrun
  split at hrun
  · exact ⟨pager.superblock.generation, pager.superblock.checkpointLsn, pager.walTail,
      (Prod.mk.inj hrun).2.symm⟩
  split at hrun
  · simp at hrun
  · rename_i next hadvanced
    simp only [except_bind_eq_ok] at hadvanced
    obtain ⟨generation, _, hstore⟩ := hadvanced
    unfold pagerStoreSuperblock at hstore
    split at hstore
    · obtain rfl := Except.ok.inj hstore
      exact ⟨generation, _, _, (Prod.mk.inj hrun).2.symm⟩
    · simp at hstore

lemma walAppendTail_of_le (hcount : txn.pages.length ≤ walMaxRecords)
    (hroom : pager.walTail + walFrameSize pager.superblock.pageSize * txn.pages.length +
      walCommitSize ≤ walMaxBytes)
    (hpages : ∀ page ∈ txn.pages, page.pageId ≠ 0 ∧
      page.pageId.toNat < txn.targetSuperblock.nextPageId) :
    walAppendTail pager txn = .ok (pager.walTail +
      walFrameSize pager.superblock.pageSize * txn.pages.length + walCommitSize) := by
  have hnone : ¬(txn.pages.any fun page => page.pageId = 0 ||
      page.pageId.toNat ≥ txn.targetSuperblock.nextPageId) = true := by
    rw [List.any_eq_true]
    rintro ⟨page, hpage, hout⟩
    simp only [Bool.or_eq_true, decide_eq_true_eq] at hout
    exact hout.elim (hpages page hpage).1 (Nat.not_le.mpr (hpages page hpage).2)
  simp only [walAppendTail, if_neg (Nat.not_lt.mpr hcount), if_neg (Nat.not_lt.mpr hroom),
    if_neg hnone]

/-- A file no longer than the pages of the transaction need gets that size. -/
lemma commitFileSize_of_le {size : Nat}
    (hgeometry : pageGeometryValid txn.targetSuperblock.nextPageId
      pager.superblock.pageSize = true)
    (heq : size = dataOffset + (txn.targetSuperblock.nextPageId - 1) * pager.superblock.pageSize)
    (hle : pager.fileSize ≤ size) (hsize : size ≤ int64Max) :
    commitFileSize pager txn = .ok size := by
  subst heq
  simp only [commitFileSize, hgeometry, Bool.not_true, Bool.false_eq_true, if_false]
  split
  · exact if_neg (Nat.not_lt.mpr hsize)
  · rename_i hless
    exact congrArg Except.ok (Nat.le_antisymm hle (Nat.not_lt.mp hless))

lemma pagerCheckpoint_advances {generation : Nat}
    (hidle : ¬(!pager.isOpen || pager.needsRecovery || pager.transactionActive) = true)
    (htail : pager.walTail ≠ walHeaderSize)
    (hgeneration : generationBump pager.superblock.generation = .ok generation)
    (hvalid : superblockValid { pager.superblock with
      generation, checkpointLsn := pager.currentLsn } = true) :
    pagerCheckpoint pager = (.ok (), { pager with
      superblock := { pager.superblock with generation, checkpointLsn := pager.currentLsn }
      walTail := walHeaderSize }) := by
  simp only [pagerCheckpoint, if_neg hidle, if_neg htail, hgeneration, bind, Except.bind,
    pagerStoreSuperblock, if_pos hvalid]

/-- The only reason a checkpoint fails while I/O succeeds. -/
lemma pagerCheckpoint_eq_error (hopen : pager.isOpen = true)
    (hservice : pager.needsRecovery = false) (hidle : pager.transactionActive = false)
    (hvalid : ∀ generation checkpointLsn,
      superblockValid { pager.superblock with generation, checkpointLsn } = true)
    (hrun : pagerCheckpoint pager = (.error error, pager')) :
    pager.superblock.generation = uint64Max := by
  unfold pagerCheckpoint at hrun
  rw [if_neg (by simp [hopen, hservice, hidle])] at hrun
  split at hrun
  · simp at hrun
  by_contra hroom
  simp [generationBump, hroom, pagerStoreSuperblock, hvalid, bind, Except.bind] at hrun

/-- A checkpoint that fails changes nothing but the fence. -/
lemma pagerCheckpoint_fenced (hrun : pagerCheckpoint pager = (.error error, pager')) :
    ({ pager' with needsRecovery := true } : Pager) = { pager with needsRecovery := true } := by
  simp only [pagerCheckpoint] at hrun
  split at hrun
  · rw [← (Prod.mk.inj hrun).2]
  split at hrun
  · simp at hrun
  split at hrun
  · rw [← (Prod.mk.inj hrun).2]
  · simp at hrun

/-- The commit of a transaction that passes the checks and is published. -/
lemma txnCommit_of_txnPublish {published : Pager} (hactive : ¬(!txn.active) = true)
    (hpages : txn.pages ≠ []) (hlsn : pager.currentLsn ≠ uint64Max)
    (hstaged : ¬(txn.allocatedPages.any fun pageId =>
      !txn.pages.any (·.pageId = pageId)) = true)
    (hpublish : txnPublish pager txn = .ok published)
    (hafter : if published.walTail ≥ published.checkpointThreshold then
        pagerCheckpoint (txnRelease published) = (.ok (), pager')
      else pager' = txnRelease published) : txnCommit pager txn = (.ok (), pager') := by
  rw [txnCommit, if_neg hactive, if_neg hpages, if_neg hlsn, if_neg hstaged, hpublish]
  split at hafter
  · rename_i hfull
    refine (if_pos hfull).trans ?_
    rw [hafter]
  · rename_i hfull
    rw [hafter]
    exact if_neg hfull

lemma txnCommit_eq_ok {result : Unit} (hrun : txnCommit pager txn = (.ok result, pager')) :
    ∃ published, txnPublish pager txn = .ok published ∧ (pager' = txnRelease published ∨
        pagerCheckpoint (txnRelease published) = (.ok (), pager') ∨
        pager' = { txnRelease published with needsRecovery := true } ∧
          ∃ error fenced, pagerCheckpoint (txnRelease published) = (.error error, fenced)) := by
  unfold txnCommit at hrun
  split at hrun
  · simp at hrun
  split at hrun
  · simp at hrun
  split at hrun
  · simp at hrun
  split at hrun
  · simp at hrun
  cases hpublish : txnPublish pager txn with
  | error error => simp [hpublish] at hrun
  | ok published =>
    refine ⟨published, rfl, ?_⟩
    simp only [hpublish] at hrun
    split at hrun
    · rcases hcheckpoint : pagerCheckpoint (txnRelease published) with ⟨error | _, after⟩
      · simp only [hcheckpoint, Prod.mk.injEq, true_and] at hrun
        rw [pagerCheckpoint_fenced hcheckpoint] at hrun
        exact .inr (.inr ⟨hrun.symm, error, after, rfl⟩)
      · simp only [hcheckpoint, Prod.mk.injEq, true_and] at hrun
        exact .inr (.inl (by rw [hrun]))
    · simp only [Prod.mk.injEq, true_and] at hrun
      exact .inl hrun.symm

lemma fileResize_eq_ok {size size' : Nat} (hrun : fileResize size = .ok size') :
    size' = size := by
  unfold fileResize at hrun
  split at hrun
  · simp at hrun
  · exact (Except.ok.inj hrun).symm

lemma commitFileSize_eq_ok {fileSize : Nat} (hrun : commitFileSize pager txn = .ok fileSize) :
    dataOffset + (txn.targetSuperblock.nextPageId - 1) * pager.superblock.pageSize ≤ fileSize := by
  simp only [commitFileSize] at hrun
  split at hrun
  · simp at hrun
  split at hrun
  · exact ge_of_eq (fileResize_eq_ok hrun)
  · rw [← Except.ok.inj hrun]
    omega

lemma txnPublish_eq_ok (hrun : txnPublish pager txn = .ok pager') : ∃ fileSize walTail,
      dataOffset + (txn.targetSuperblock.nextPageId - 1) * pager.superblock.pageSize ≤ fileSize ∧
      pager' = { pager with
        superblock := { txn.targetSuperblock with
          generation := pager.superblock.generation + 1
          checkpointLsn := pager.currentLsn + 1 }
        pages := publishPages pager.pages (pager.currentLsn + 1) txn.pages
        fileSize, walTail
        currentLsn := pager.currentLsn + 1 } := by
  simp only [txnPublish, except_bind_eq_ok] at hrun
  obtain ⟨walTail, _, fileSize, hsize, generation, hbump, hpager⟩ := hrun
  unfold generationBump at hbump
  split at hbump
  · simp at hbump
  · obtain rfl := Except.ok.inj hbump
    exact ⟨fileSize, walTail, commitFileSize_eq_ok hsize, (Except.ok.inj hpager).symm⟩

/-- A commit that fails leaves the committed state as it was. -/
lemma txnCommit_eq_error (hrun : txnCommit pager txn = (.error error, pager')) :
    ∃ needsRecovery transactionActive,
      pager' = { pager with needsRecovery, transactionActive } := by
  unfold txnCommit at hrun
  split at hrun
  · exact ⟨pager.needsRecovery, pager.transactionActive, (Prod.mk.inj hrun).2.symm⟩
  split at hrun
  · rw [← (Prod.mk.inj hrun).2]
    split
    · exact ⟨pager.needsRecovery, false, rfl⟩
    · exact ⟨pager.needsRecovery, pager.transactionActive, rfl⟩
  split at hrun
  · exact ⟨pager.needsRecovery, false, (Prod.mk.inj hrun).2.symm⟩
  split at hrun
  · exact ⟨pager.needsRecovery, false, (Prod.mk.inj hrun).2.symm⟩
  cases hpublish : txnPublish pager txn with
  | error reason =>
    simp only [hpublish, Prod.mk.injEq] at hrun
    exact ⟨true, false, hrun.2.symm⟩
  | ok published =>
    simp only [hpublish] at hrun
    split at hrun
    · rcases hcheckpoint : pagerCheckpoint (txnRelease published) with ⟨_ | _, _⟩ <;>
        simp [hcheckpoint] at hrun
    · simp at hrun

end Commit

end ShibaDb
