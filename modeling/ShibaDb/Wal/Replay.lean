/-
Replay of the log into the data file: `sdb_wal_recover_all`, the single-record
reader `sdb_wal_recover` for the first two log versions, and `sdb_wal_clear`.
-/
import ShibaDb.Pager.SuperblockStore
import ShibaDb.Wal.Recovery

namespace ShibaDb

open CallProgram FileSystem LittleEndian

/-- Where a page lies in the data file. -/
def pageOffset (pageSize : Nat) (pageId : PageId) : Nat :=
  dataOffset + (pageId.toNat - 1) * pageSize

/-- The size of a data file with pages below `nextPageId`. -/
def canonicalSize (nextPageId pageSize : Nat) : Nat := dataOffset + (nextPageId - 1) * pageSize

/-- The checks `sdb_wal_apply_frames` repeats before it writes a page. -/
def walApplyValid (prim : Primitives) (pageSize txnId nextPageId : Nat) (page : WalPage) : Bool :=
  page.pageId ≠ 0 && page.pageId.toNat < nextPageId
    && page.pageId.toNat - 1 ≤ uint64Max / pageSize
    && (page.pageId.toNat - 1) * pageSize ≤ uint64Max - dataOffset
    && (match pageDecode prim pageSize page.pageId page.bytes with
        | .ok view => view.pageLsn = txnId
        | .error _ => false)

def walApplyFrames (prim : Primitives) (database : FileInode)
    (pageSize txnId nextPageId : Nat) : List WalPage → FileM Unit
  | [] => pure ()
  | page :: rest =>
    if walApplyValid prim pageSize txnId nextPageId page then do
      fileWriteFull database (pageOffset pageSize page.pageId) page.bytes
      walApplyFrames prim database pageSize txnId nextPageId rest
    else Program.fail .corrupt

/-- Apply the transactions behind the checkpoint, in the order of the log. -/
def walApplyTxns (prim : Primitives) (database : FileInode) (superblock : Superblock) :
    List WalTxn → FileM Unit
  | [] => pure ()
  | txn :: rest => do
      if superblock.checkpointLsn < txn.txnId then
        walApplyFrames prim database superblock.pageSize txn.txnId txn.nextPageId txn.pages
      walApplyTxns prim database superblock rest

/-- What recovery tells the pager. -/
structure WalRecovery where
  lastLsn : Nat
  nextPageId : Nat
  freelistPage : PageId
  replayed : Bool
  deriving DecidableEq, Repr

def WalRecovery.nothing (superblock : Superblock) : WalRecovery :=
  { lastLsn := superblock.checkpointLsn, nextPageId := superblock.nextPageId
    freelistPage := superblock.freelistPage, replayed := false }

/-- The state behind the last of the transactions. -/
def WalRecovery.behind (superblock : Superblock) (txns : List WalTxn) : WalRecovery :=
  match txns.getLast? with
  | none => .nothing superblock
  | some txn =>
    { lastLsn := txn.txnId, nextPageId := txn.nextPageId, freelistPage := txn.freelistPage
      replayed := txns.any fun txn => superblock.checkpointLsn < txn.txnId }

/-- Replay what the log holds.  The scan makes no call, so applying a transaction
before the next one is read leaves the same files as applying them here. -/
def walReplay (prim : Primitives) (database : FileInode) (superblock : Superblock)
    (dataKey : Option Bytes) (buffer : Bytes) : FileM WalRecovery := do
  let (txns, rejected) ← fromExcept (walRecoverTxns prim superblock dataKey buffer)
  walApplyTxns prim database superblock txns
  if rejected then Program.fail .corrupt
  else
    let recovery := WalRecovery.behind superblock txns
    if recovery.replayed then fileSync database
    pure recovery

def walRecoverAll (prim : Primitives) (database : FileInode) (superblock : Superblock)
    (dataKey : Option Bytes) : FileM WalRecovery := do
  if !pageSizeValid superblock.pageSize then Program.fail .invalidArgument
  else if !pageGeometryValid superblock.nextPageId superblock.pageSize then
    Program.fail .corrupt
  else
    match ← (fileOpenExisting .wal).attempt with
    | .error .notFound => pure (.nothing superblock)
    | .error error => Program.fail error
    | .ok wal =>
      let size ← fileSize wal
      if size > walMaxBytes then Program.fail .corrupt
      else if size ≤ walHeaderSize then pure (.nothing superblock)
      else
        let buffer ← fileReadFull wal 0 size
        walReplay prim database superblock dataKey buffer

def walLegacyCommitSize : Nat := 24
def walLegacyCommitChecksumOffset : Nat := 20

def walExpectedSize (pageSize pageCount : Nat) : Nat :=
  walHeaderSize + FrameFormat.legacy.frameSize pageSize * pageCount + walLegacyCommitSize

/-- The header is a sealed one of version 1 or 2. -/
def walLegacyHeaderSealed (prim : Primitives) (header : Bytes) : Bool :=
  (read (field 4 2 header) = 1 || read (field 4 2 header) = 2)
    && read (field 6 2 header) = walHeaderSize && walHeaderCrcOk prim header

def walLegacyHeaderBound (superblock : Superblock) (header : Bytes) : Bool :=
  read (field 16 4 header) = superblock.pageSize && field 24 16 header = superblock.fileId

def walLegacyCountFits (superblock : Superblock) (size : Nat) (header : Bytes) : Bool :=
  let pageCount := read (field 20 4 header)
  pageCount ≠ 0 && pageCount ≤ walMaxRecords
    && walExpectedSize superblock.pageSize pageCount = size

/-- What the header of the log asks `sdb_wal_recover` to do. -/
inductive LegacyHeader where
  | skip
  | discard
  | read
  deriving DecidableEq, Repr

def walLegacyHeader (prim : Primitives) (superblock : Superblock) (size : Nat) (header : Bytes) :
    Except SdbError LegacyHeader :=
  let version := LittleEndian.read (field 4 2 header)
  if field 0 4 header ≠ walMagic then .ok .skip
  else if version = 3 || version = 4 || version = 5 then .ok .skip
  else if !walLegacyHeaderBound superblock header then .ok .discard
  else if !walLegacyHeaderSealed prim header then .error .corrupt
  else if !walLegacyCountFits superblock size header then .ok .skip
  else .ok .read

/-- The page count and freelist a record of version 1 keeps and one of version 2
states. -/
def walLegacyTarget (superblock : Superblock) (buffer : Bytes) :
    Except SdbError (Nat × PageId) :=
  if read (field 4 2 buffer) = 1 then
    if bytesAllZero (field 40 20 buffer) then
      .ok (superblock.nextPageId, superblock.freelistPage)
    else .error .corrupt
  else
    let nextPageId := read (field 40 8 buffer)
    let freelistPage : PageId := UInt64.ofNat (read (field 48 8 buffer))
    if bytesAllZero (field 56 4 buffer) && pageGeometryValid nextPageId superblock.pageSize
        && superblock.nextPageId ≤ nextPageId && freelistPage.toNat < nextPageId then
      .ok (nextPageId, freelistPage)
    else .error .corrupt

def walLegacyCommitValid (prim : Primitives) (txnId : Nat) (buffer : Bytes) : Bool :=
  let dataSize := buffer.length - walLegacyCommitSize
  let commit := buffer.drop dataSize
  field 0 4 commit = walCommitMagic
    && read (field 4 2 commit) = read (field 4 2 buffer)
    && read (field 6 2 commit) = walLegacyCommitSize
    && read (field 8 8 commit) = txnId
    && read (field 16 4 commit) = (prim.crc32 (buffer.take dataSize)).toNat
    && read (field 20 4 commit) =
      crc32ZeroedRange prim commit walLegacyCommitChecksumOffset 4

/-- The record of a version 1 or 2 log, read as a whole; the header is checked
again. -/
def walLegacyRecord (prim : Primitives) (superblock : Superblock) (dataKey : Option Bytes)
    (buffer : Bytes) : Except SdbError (Option WalTxn) :=
  if buffer.length < walHeaderSize + walLegacyCommitSize || field 0 4 buffer ≠ walMagic then
    .ok none
  else if !walLegacyHeaderSealed prim buffer || !walLegacyHeaderBound superblock buffer then
    .error .corrupt
  else do
    let (nextPageId, freelistPage) ← walLegacyTarget superblock buffer
    let pageCount := read (field 20 4 buffer)
    let txnId := read (field 8 8 buffer)
    let frames := buffer.drop walHeaderSize
    if !walLegacyCountFits superblock buffer.length buffer || txnId = 0
        || !walLegacyCommitValid prim txnId buffer then .ok none
    else if walValidateFrames prim superblock dataKey .legacy txnId nextPageId pageCount pageCount
        0 [] frames then
      .ok (some { txnId, pages := framePages .legacy superblock.pageSize pageCount frames
                  nextPageId, freelistPage })
    else .error .corrupt

/-- Drop the log; a failure to do so is ignored. -/
def walDiscard : FileM Unit := do
  let _ ← (fileRemove .wal).attempt
  let _ ← fileSyncParentDirectory.attempt

/-- Replay the record of a version 1 or 2 log. -/
def walLegacyReplay (prim : Primitives) (database : FileInode) (superblock : Superblock)
    (dataKey : Option Bytes) (buffer : Bytes) : FileM WalRecovery := do
  match ← fromExcept (walLegacyRecord prim superblock dataKey buffer) with
  | none => pure (.nothing superblock)
  | some txn =>
    if superblock.checkpointLsn < txn.txnId then
      walApplyFrames prim database superblock.pageSize txn.txnId txn.nextPageId txn.pages
      fileSync database
    pure (.behind superblock [txn])

def walRecover (prim : Primitives) (database : FileInode) (superblock : Superblock)
    (dataKey : Option Bytes) : FileM WalRecovery := do
  match ← (fileOpenExisting .wal).attempt with
  | .error .notFound => pure (.nothing superblock)
  | .error error => Program.fail error
  | .ok wal =>
    let size ← fileSize wal
    if size = 0 then pure (.nothing superblock)
    else if size > walMaxBytes then Program.fail .corrupt
    else if size < walHeaderSize + walLegacyCommitSize then
      walDiscard
      pure (.nothing superblock)
    else
      let header ← fileReadFull wal 0 walHeaderSize
      match ← fromExcept (walLegacyHeader prim superblock size header) with
      | .skip => pure (.nothing superblock)
      | .discard => do
          walDiscard
          pure (.nothing superblock)
      | .read => do
          let buffer ← fileReadFull wal 0 size
          walLegacyReplay prim database superblock dataKey buffer

def walClear : FileM Unit := do
  match ← (fileOpenExisting .wal).attempt with
  | .error .notFound => pure ()
  | .error error => Program.fail error
  | .ok wal => do
      fileResizeTo wal 0
      fileSync wal
      fileSyncParentDirectory

end ShibaDb
