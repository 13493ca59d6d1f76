/-
An open pager on its files: reads through the page cache, the log and the data
file, transaction commits, made durable at once or by a shared sync, and
checkpoints.
-/
import ShibaDb.Pager.Open
import ShibaDb.Pager.PageCache
import ShibaDb.Pager.Txn

namespace ShibaDb

open CallProgram FileSystem LittleEndian

/-- The nonce of one encryption. -/
abbrev Nonce := { bytes : Bytes // bytes.length = 24 }

/-- `sdb_pager`: the handle, the page cache and the state of group commits. -/
structure PagerSession extends PagerHandle where
  cache : PageCache
  deferCommit : Bool
  syncRelaxed : Bool
  /-- The last transaction whose bytes are in the log. -/
  writtenLsn : Nat
  /-- The last transaction reported durable. -/
  durableLsn : Nat
  pendingTxnId : Option Nat
  /-- The error of a shared sync of the log; it stays. -/
  commitError : Option SdbError
  deriving DecidableEq, Repr

/-- `sdb_txn` on an open pager. -/
structure PagerTxn where
  targetSuperblock : SuperblockV1
  pages : List TxnPage
  allocatedPages : List PageId
  active : Bool
  deriving DecidableEq, Repr

/-- The superblock with a new checkpoint and a new generation. -/
def SuperblockV1.advanced (superblock : SuperblockV1) (checkpointLsn generation : Nat) :
    SuperblockV1 :=
  { superblock with checkpointLsn, generation }

/-- `sdb_pager_payload_capacity` by page size and encryption. -/
def payloadCapacity (pageSize : Nat) (dataKey : Option Bytes) : Nat :=
  if pageSize < pageHeaderSize then 0
  else
    let capacity := pageSize - pageHeaderSize
    if dataKey.isSome then capacity - encryptedPayloadHeaderSize else capacity

def pagerOffset (pageSize : Nat) (pageId : PageId) : Except SdbError Nat :=
  if pageId = 0 then .error .invalidArgument
  else if pageId.toNat - 1 > uint64Max / pageSize then .error .overflow
  else if (pageId.toNat - 1) * pageSize > uint64Max - dataOffset then .error .overflow
  else .ok (pageOffset pageSize pageId)

section WalIndex

/-- `sdb_wal_index_get`. -/
def walIndexGet (index : List (PageId × Nat)) (pageId : PageId) : Option Nat :=
  (index.find? (·.1 = pageId)).map (·.2)

/-- `sdb_wal_index_put`: the newest offset of a page wins. -/
def walIndexPut (index : List (PageId × Nat)) (pageId : PageId) (walOffset : Nat) :
    List (PageId × Nat) :=
  if index.any (·.1 = pageId) then
    index.map fun entry => if entry.1 = pageId then (pageId, walOffset) else entry
  else index ++ [(pageId, walOffset)]

/-- Enter the frames of a transaction, the first of them at `walOffset`. -/
def walIndexPutFrames (frameSize : Nat) :
    List (PageId × Nat) → Nat → List PageId → List (PageId × Nat)
  | index, _, [] => index
  | index, walOffset, pageId :: rest =>
    walIndexPutFrames frameSize (walIndexPut index pageId walOffset) (walOffset + frameSize) rest

/-- A frame whose page lies before the end of the log. -/
def frameInLog (walTail pageSize walOffset : Nat) : Bool :=
  walOffset ≤ walTail && FrameFormat.v5.headerSize ≤ walTail - walOffset
    && pageSize ≤ walTail - walOffset - FrameFormat.v5.headerSize

end WalIndex

section Read

/-- The log a read goes through: the one that is open, or the one by name. -/
def pagerReadLog (pager : PagerHandle) : FileM FileInode :=
  match pager.walFile with
  | some wal => pure wal
  | none => fileOpenExisting .wal

/-- The stored bytes of a page: the frame the WAL index names, or its place in the
data file. -/
def pagerFetch (pager : PagerHandle) (pageId : PageId) : FileM Bytes := do
  let pageSize := pager.superblock.pageSize
  match walIndexGet pager.walIndex pageId with
  | some walOffset =>
    if !frameInLog pager.walTail pageSize walOffset then Program.fail .corrupt
    else
      let wal ← pagerReadLog pager
      fileReadFull wal (walOffset + FrameFormat.v5.headerSize) pageSize
  | none =>
    let offset ← fromExcept (pagerOffset pageSize pageId)
    fileReadFull pager.file offset pageSize

/-- The file a read through the log goes to. -/
def ReadsLog (pager : PagerHandle) (disk : FileDisk) (wal : FileInode) : Prop :=
  pager.walFile = some wal ∨ pager.walFile = none ∧ disk.names .wal = some wal

/-- The bytes a read of a page fetches: those of the frame the index names, or those
of its place in the data file. -/
def Fetched (pager : PagerHandle) (disk : FileDisk) (pageId : PageId) (stored : Bytes) : Prop :=
  (∃ walOffset wal, walIndexGet pager.walIndex pageId = some walOffset ∧
    ReadsLog pager disk wal ∧ ByteFile.readAt (disk.bytes wal)
      (walOffset + FrameFormat.v5.headerSize) pager.superblock.pageSize = some stored) ∨
  (walIndexGet pager.walIndex pageId = none ∧ ByteFile.readAt (disk.bytes pager.file)
    (pageOffset pager.superblock.pageSize pageId) pager.superblock.pageSize = some stored)

/-- Decode stored bytes, and decrypt them in an encrypted database: the status with
the view, and what is in the caller's page then.  Plaintext gets there only behind a
successful decryption. -/
def pagerReveal (prim : Primitives) (fileId : Bytes) (dataKey : Option Bytes) (pageSize : Nat)
    (pageId : PageId) (stored : Bytes) : Except SdbError ImageView × Bytes :=
  match pageDecode prim pageSize pageId stored with
  | .error error => (.error error, stored)
  | .ok view =>
    match dataKey with
    | none => if view.type = .encrypted then (.error .corrupt, stored) else (.ok view, stored)
    | some key =>
      let capacity := payloadCapacity pageSize dataKey
      if view.type ≠ .encrypted || capacity = 0 then (.error .corrupt, stored)
      else
        match encryptedPageDecrypt prim fileId key pageId view capacity with
        | .error error => (.error error, stored)
        | .ok (type, plaintext) =>
          match pageEncode prim pageSize (.plain type) pageId view.pageLsn plaintext with
          | .error error => (.error error, stored)
          | .ok page => (pageDecode prim pageSize pageId page, page)

/-- What a read leaves: its status with the view, the caller's buffer and the pager. -/
structure PagerReadResult where
  result : Except SdbError ImageView
  buffer : Bytes
  pager : PagerSession

namespace PagerSession

/-- A page in front of what the caller's buffer has behind it. -/
def fillBuffer (pager : PagerSession) (buffer page : Bytes) : Bytes :=
  page ++ buffer.drop pager.superblock.pageSize

/-- A read the cache serves. -/
def readCached (prim : Primitives) (pager : PagerSession) (cache : PageCache) (pageId : PageId)
    (buffer page : Bytes) : PagerReadResult :=
  let decoded := pageDecode prim pager.superblock.pageSize pageId page
  { result := decoded
    buffer := pager.fillBuffer buffer page
    pager := { pager with
      cache := if decoded.isOk then cache else pageCacheRemove cache pageId } }

/-- A read of stored bytes; what it reveals goes into the cache.  The returns of the
source that skip the removal come behind a cache without the page. -/
def readStored (prim : Primitives) (pager : PagerSession) (cache : PageCache) (pageId : PageId)
    (buffer stored : Bytes) : PagerReadResult :=
  let revealed := pagerReveal prim pager.superblock.fileId pager.dataKey
    pager.superblock.pageSize pageId stored
  { result := revealed.1
    buffer := pager.fillBuffer buffer revealed.2
    pager := { pager with
      cache := if revealed.1.isOk then pageCachePut cache pageId revealed.2
        else pageCacheRemove cache pageId } }

/-- A read that ended before there were bytes; the buffer is as it was. -/
def readFailed (pager : PagerSession) (cache : PageCache) (buffer : Bytes) (error : SdbError) :
    PagerReadResult :=
  { result := .error error, buffer, pager := { pager with cache } }

/-- `sdb_pager_read`. -/
def pagerRead (prim : Primitives) (pager : PagerSession) (pageId : PageId) (buffer : Bytes) :
    FileM PagerReadResult := do
  if !pager.isOpen || pager.needsRecovery || pageId = 0
      || pageId.toNat ≥ pager.superblock.nextPageId then
    pure (pager.readFailed pager.cache buffer .invalidArgument)
  else if buffer.length < pager.superblock.pageSize then
    pure (pager.readFailed pager.cache buffer .bufferTooSmall)
  else
    match pageCacheGet pager.cache pageId with
    | (some page, cache) => pure (pager.readCached prim cache pageId buffer page)
    | (none, cache) =>
      match ← (pagerFetch pager.toPagerHandle pageId).attempt with
      | .error error => pure (pager.readFailed cache buffer error)
      | .ok stored => pure (pager.readStored prim cache pageId buffer stored)

end PagerSession

end Read

section FetchMeets

variable {pager : PagerHandle} {pageId : PageId} {disk : FileDisk}
  {bad : SdbError → FileDisk → Prop}

lemma meets_fromExcept {α : Type} {result : Except SdbError α} {ok : α → FileDisk → Prop}
    (hok : ∀ value, result = .ok value → ok value disk)
    (hbad : ∀ error, result = .error error → bad error disk) :
    (fromExcept result).Meets faulty ok bad disk := by
  cases result with
  | ok value => exact hok value rfl
  | error error => exact hbad error rfl

lemma meets_pagerReadLog {ok : FileInode → FileDisk → Prop}
    (hok : ∀ wal, ReadsLog pager disk wal → ok wal disk) (hbad : ∀ error, bad error disk) :
    (pagerReadLog pager).Meets faulty ok bad disk := by
  unfold pagerReadLog
  split
  · rename_i wal hwal
    exact meets_pure (hok wal (.inl hwal))
  · rename_i hwal
    apply meets_fileOpenExisting
    · intro wal hname
      exact hok wal (.inr ⟨hwal, hname⟩)
    · intro _
      exact hbad _
    · exact hbad _

lemma pagerOffset_eq_ok {pageSize offset : Nat} (h : pagerOffset pageSize pageId = .ok offset) :
    offset = pageOffset pageSize pageId := by
  simp only [pagerOffset, Fallible.guard_eq_ok] at h
  obtain ⟨-, -, -, h⟩ := h
  exact (Except.ok.inj h).symm

lemma meets_pagerFetch {ok : Bytes → FileDisk → Prop}
    (hok : ∀ bytes, Fetched pager disk pageId bytes → ok bytes disk)
    (hbad : ∀ error, bad error disk) : (pagerFetch pager pageId).Meets faulty ok bad disk := by
  unfold pagerFetch
  dsimp only
  split
  · rename_i walOffset hindex
    split
    · exact meets_fail (hbad _)
    · apply meets_bind
      apply meets_pagerReadLog _ hbad
      intro wal hwal
      apply meets_fileReadFull _ hbad
      intro bytes hread
      exact hok bytes (.inl ⟨walOffset, wal, hindex, hwal, hread⟩)
  · rename_i hindex
    apply meets_bind
    apply meets_fromExcept _ (fun error _ => hbad error)
    intro offset hoffset
    rw [pagerOffset_eq_ok hoffset]
    apply meets_fileReadFull _ hbad
    intro bytes hread
    exact hok bytes (.inr ⟨hindex, hread⟩)

/-- The ways a read may end. -/
lemma PagerSession.meets_pagerRead {prim : Primitives} {pager : PagerSession} {buffer : Bytes}
    {ok : PagerReadResult → FileDisk → Prop}
    (hrefused : ∀ error, ok (pager.readFailed pager.cache buffer error) disk)
    (hcached : ∀ page cache, pageCacheGet pager.cache pageId = (some page, cache) →
      pageId ≠ 0 → ok (pager.readCached prim cache pageId buffer page) disk)
    (hfailed : ∀ error cache, pageCacheGet pager.cache pageId = (none, cache) →
      ok (pager.readFailed cache buffer error) disk)
    (hstored : ∀ stored cache, pageCacheGet pager.cache pageId = (none, cache) →
      pageId ≠ 0 → Fetched pager.toPagerHandle disk pageId stored →
      ok (pager.readStored prim cache pageId buffer stored) disk) :
    (pager.pagerRead prim pageId buffer).Meets faulty ok bad disk := by
  unfold PagerSession.pagerRead
  split
  · exact meets_pure (hrefused _)
  rename_i hguard
  have hid : pageId ≠ 0 := by
    rintro rfl
    simp at hguard
  split
  · exact meets_pure (hrefused _)
  split
  · rename_i page cache hget
    exact meets_pure (hcached page cache hget hid)
  rename_i cache hget
  apply meets_bind
  apply meets_attempt
  apply meets_pagerFetch
  · intro stored hfetched
    exact meets_pure (hstored stored cache hget hid hfetched)
  · intro error
    exact meets_pure (hfailed error cache hget)

end FetchMeets

namespace PagerSession

section Checkpoint

/-- The checks of a frame before it is copied: the page it is indexed under, and in
an encrypted database that it decrypts. -/
def checkpointFrameValid (prim : Primitives) (pager : PagerSession) (pageId : PageId)
    (page : Bytes) : Bool :=
  match pageDecode prim pager.superblock.pageSize pageId page with
  | .error _ => false
  | .ok view =>
    match pager.dataKey with
    | none => true
    | some key =>
      (encryptedPageDecrypt prim pager.superblock.fileId key pageId view
        pager.superblock.pageSize).isOk

/-- Copy the indexed frames into the data file. -/
def checkpointApply (prim : Primitives) (pager : PagerSession) (wal : FileInode) :
    List (PageId × Nat) → FileM Unit
  | [] => pure ()
  | (pageId, walOffset) :: rest => do
      let pageSize := pager.superblock.pageSize
      if pageId.toNat ≥ pager.superblock.nextPageId
          || !frameInLog pager.walTail pageSize walOffset then Program.fail .corrupt
      else
        let page ← fileReadFull wal (walOffset + FrameFormat.v5.headerSize) pageSize
        if !checkpointFrameValid prim pager pageId page then Program.fail .corrupt
        else
          fileWriteFull pager.file (pageOffset pageSize pageId) page
          checkpointApply prim pager wal rest

/-- Make the log durable, copy its frames, make the copies durable, and advance the
superblock to the last transaction. -/
def checkpointAdvance (prim : Primitives) (pager : PagerSession) (wal : FileInode) :
    FileM SuperblockV1 := do
  if pager.walFile.isSome then fileSync wal
  checkpointApply prim pager wal pager.walIndex
  fileSync pager.file
  let generation ← fromExcept (generationBump pager.superblock.generation)
  let next := pager.superblock.advanced pager.currentLsn generation
  fileStoreSuperblock prim pager.file next pager.dataKey
  pure next

/-- `sdb_pager_wal_reset`. -/
def pagerWalReset (pager : PagerSession) : FileM Unit :=
  match pager.walFile with
  | none => walClear
  | some wal => do
      fileResizeTo wal 0
      fileSync wal
      fileSyncParentDirectory

/-- The pager behind the advanced superblock: nothing is left in the log. -/
def checkpointed (pager : PagerSession) (next : SuperblockV1) : PagerSession :=
  { pager with superblock := next, walIndex := [], walTail := walHeaderSize }

/-- `sdb_pager_checkpoint`: a failure before the superblock is advanced asks for
recovery, one after it does not. -/
def pagerCheckpoint (prim : Primitives) (pager : PagerSession) :
    FileM (Except SdbError Unit × PagerSession) := do
  if !pager.isOpen || pager.needsRecovery || pager.transactionActive then
    pure (.error .invalidArgument, pager)
  else if pager.walIndex = [] then pure (.ok (), pager)
  else
    match ← (pagerReadLog pager.toPagerHandle).attempt with
    | .error error => pure (.error error, pager)
    | .ok wal =>
      match ← (checkpointAdvance prim pager wal).attempt with
      | .error error => pure (.error error, { pager with needsRecovery := true })
      | .ok next =>
        let status ← (pagerWalReset pager).attempt
        pure (status, pager.checkpointed next)

end Checkpoint

section Commit

def txnBegin (pager : PagerSession) : Except SdbError (PagerTxn × PagerSession) :=
  if !pager.isOpen || pager.needsRecovery || pager.transactionActive then
    .error .invalidArgument
  else
    .ok ({ targetSuperblock := pager.superblock, pages := [], allocatedPages := []
           active := true },
         { pager with transactionActive := true })

def txnRelease (pager : PagerSession) : PagerSession := { pager with transactionActive := false }

/-- The stored image of a page of transaction `txnId`. -/
def txnEncodePage (prim : Primitives) (pager : PagerSession) (fileId : Bytes) (txnId : Nat)
    (nonce : Nonce) (page : TxnPage) : Except SdbError Bytes :=
  match pager.dataKey with
  | some key =>
    encryptedPageEncode prim fileId key nonce.1 pager.superblock.pageSize page.type page.pageId
      txnId page.payload
  | none =>
    pageEncode prim pager.superblock.pageSize (.plain page.type) page.pageId txnId page.payload

/-- The images of the pages, each with its nonce. -/
def txnEncodePages (prim : Primitives) (pager : PagerSession) (fileId : Bytes) (txnId : Nat)
    (nonces : Nat → Nonce) : Nat → List TxnPage → Except SdbError (List WalPage)
  | _, [] => .ok []
  | index, page :: rest => do
      let bytes ← txnEncodePage prim pager fileId txnId (nonces index) page
      let pages ← txnEncodePages prim pager fileId txnId nonces (index + 1) rest
      .ok ({ pageId := page.pageId, bytes } :: pages)

/-- `sdb_pager_ensure_wal_open`. -/
def pagerEnsureWalOpen (pager : PagerSession) : FileM FileInode :=
  match pager.walFile with
  | some wal => pure wal
  | none => do
      match ← (fileOpenExisting .wal).attempt with
      | .ok wal => pure wal
      | .error .notFound => do
          let wal ← fileCreateNew .wal .wal
          fileSyncParentDirectory
          pure wal
      | .error error => Program.fail error

/-- `sdb_wal_append_txn`, or the same without the sync where it is deferred. -/
def txnAppend (prim : Primitives) (pager : PagerSession) (target : SuperblockV1) (txnId : Nat)
    (wal : FileInode) (pages : List WalPage) : FileM Nat := do
  let (buffer, offset, tail) ←
    fromExcept (walEncodeTxn prim target.toSuperblock pager.walTail txnId pages)
  fileWriteFull wal offset buffer
  if !pager.deferCommit then fileSync wal
  pure tail

/-- Grow the data file to the pages of the transaction. -/
def txnGrow (pager : PagerSession) (nextPageId : Nat) : FileM Unit := do
  if nextPageId = 0 || nextPageId - 1 > (uint64Max - dataOffset) / pager.superblock.pageSize then
    Program.fail .overflow
  else
    let expectedSize := canonicalSize nextPageId pager.superblock.pageSize
    let currentSize ← fileSize pager.file
    if currentSize < expectedSize then fileResizeTo pager.file expectedSize

/-- The copy of a committed page the cache gets; `scratch` says whether there was
memory for the plain image of an encrypted page. -/
def txnCachePage (prim : Primitives) (pager : PagerSession) (txnId : Nat) (scratch : Bool)
    (cache : PageCache) (page : TxnPage) (stored : Bytes) : PageCache :=
  if pager.dataKey.isNone then pageCachePut cache page.pageId stored
  else
    match pageEncode prim pager.superblock.pageSize (.plain page.type) page.pageId txnId
        page.payload with
    | .ok plain =>
      if scratch then pageCachePut cache page.pageId plain
      else pageCacheRemove cache page.pageId
    | .error _ => pageCacheRemove cache page.pageId

def txnCachePages (prim : Primitives) (pager : PagerSession) (txnId : Nat) (scratch : Bool) :
    PageCache → List TxnPage → List WalPage → PageCache
  | cache, page :: pages, stored :: rest =>
    txnCachePages prim pager txnId scratch
      (txnCachePage prim pager txnId scratch cache page stored.bytes) pages rest
  | cache, _, _ => cache

/-- What is left to note of a commit whose sync is deferred. -/
def txnNotePending (pager : PagerSession) (txnId : Nat) : Except SdbError PagerSession :=
  if pager.deferCommit then
    match pager.commitError with
    | some error => .error error
    | none => .ok { pager with
        writtenLsn := max pager.writtenLsn txnId, pendingTxnId := some txnId }
  else .ok pager

/-- The pager behind a transaction: its superblock, its frames in the index and its
pages in the cache. -/
def txnPublished (prim : Primitives) (pager : PagerSession) (txn : PagerTxn) (scratch : Bool)
    (pages : List WalPage) (wal : FileInode) (tail generation : Nat) : PagerSession :=
  let txnId := pager.currentLsn + 1
  { pager with
    superblock := txn.targetSuperblock.advanced txnId generation
    walFile := some wal
    walIndex := walIndexPutFrames (FrameFormat.v5.frameSize pager.superblock.pageSize)
      pager.walIndex pager.walTail (pages.map (·.pageId))
    walTail := tail
    currentLsn := txnId
    cache := txnCachePages prim pager txnId scratch pager.cache txn.pages pages }

/-- The part of `sdb_txn_commit` behind its checks: append to the log, index the
frames, grow the file, and make the transaction's superblock and pages current. -/
def txnPublish (prim : Primitives) (pager : PagerSession) (txn : PagerTxn)
    (nonces : Nat → Nonce) (scratch : Bool) : FileM PagerSession := do
  let txnId := pager.currentLsn + 1
  let target := txn.targetSuperblock
  let pages ← fromExcept (txnEncodePages prim pager target.fileId txnId nonces 0 txn.pages)
  let wal ← pagerEnsureWalOpen pager
  let tail ← txnAppend prim pager target txnId wal pages
  txnGrow pager target.nextPageId
  let generation ← fromExcept (generationBump pager.superblock.generation)
  fromExcept (txnNotePending (txnPublished prim pager txn scratch pages wal tail generation) txnId)

/-- `sdb_txn_commit`.  Of a pager a failed commit leaves, only the request for
recovery matters: every operation refuses it from then on. -/
def txnCommit (prim : Primitives) (pager : PagerSession) (txn : PagerTxn)
    (nonces : Nat → Nonce) (scratch : Bool) : FileM (Except SdbError Unit × PagerSession) := do
  if !txn.active then pure (.error .invalidArgument, pager)
  else if txn.pages = [] then
    pure (.error .invalidArgument,
      if txn.allocatedPages ≠ [] then pager.txnRelease else pager)
  else if pager.currentLsn = uint64Max then pure (.error .overflow, pager.txnRelease)
  else if txn.allocatedPages.any fun pageId => !txn.pages.any (·.pageId = pageId) then
    pure (.error .invalidArgument, pager.txnRelease)
  else
    match ← (txnPublish prim pager txn nonces scratch).attempt with
    | .error error => pure (.error error, { pager.txnRelease with needsRecovery := true })
    | .ok published =>
      let pager := published.txnRelease
      if !pager.deferCommit && pager.walTail ≥ pager.checkpointThreshold then
        -- the commit is durable, so a checkpoint that fails does not change its status
        let (status, pager) ← pagerCheckpoint prim pager
        pure (.ok (), if status.isOk then pager else { pager with needsRecovery := true })
      else pure (.ok (), pager)

/-- `sdb_pager_set_defer_commit`. -/
def setDeferCommit (pager : PagerSession) (deferCommit : Bool) : PagerSession :=
  { pager with
    deferCommit
    pendingTxnId := if deferCommit then none else pager.pendingTxnId }

/-- `sdb_pager_fsync_locked`: one sync for every transaction written so far. -/
def pagerFsync (pager : PagerSession) : FileM PagerSession := do
  if pager.durableLsn ≥ pager.writtenLsn then pure pager
  else if pager.syncRelaxed then pure { pager with durableLsn := pager.writtenLsn }
  else
    match pager.walFile with
    | none => pure { pager with commitError := some .invalidArgument }
    | some wal =>
      match ← (fileSync wal).attempt with
      | .ok _ => pure { pager with durableLsn := pager.writtenLsn }
      | .error error => pure { pager with commitError := some error }

/-- `sdb_pager_commit_durable` by one caller: it leads a sync unless there is no need
or an earlier one failed. -/
def pagerCommitDurable (pager : PagerSession) (txnId : Nat) :
    FileM (Except SdbError Unit × PagerSession) := do
  if txnId = 0 || txnId > pager.writtenLsn then pure (.error .invalidArgument, pager)
  else if pager.durableLsn ≥ txnId then pure (.ok (), pager)
  else
    match pager.commitError with
    | some error => pure (.error error, pager)
    | none =>
      let pager ← pagerFsync pager
      if pager.durableLsn ≥ txnId then pure (.ok (), pager)
      else pure (.error (pager.commitError.getD .io), pager)

end Commit

end PagerSession

end ShibaDb
