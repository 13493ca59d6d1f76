/-
What recovery reads out of a log: the classification of the header, the scan of
self-describing and of legacy transactions, and the single-record log of the
first two versions.
-/
import ShibaDb.Wal.Format

namespace ShibaDb

open LittleEndian

/-- The page of a frame. -/
def framePage (format : FrameFormat) (pageSize : Nat) (frame : Bytes) : WalPage :=
  { pageId := UInt64.ofNat (read (field 0 8 frame))
    bytes := field format.headerSize pageSize frame }

/-- The pages of `count` consecutive frames. -/
def framePages (format : FrameFormat) (pageSize : Nat) : Nat → Bytes → List WalPage
  | 0, _ => []
  | count + 1, cursor =>
    framePage format pageSize cursor ::
      framePages format pageSize count (cursor.drop (format.frameSize pageSize))

/-- In an encrypted database a page image must be an envelope that opens. -/
def imageAuthentic (prim : Primitives) (superblock : Superblock) (dataKey : Option Bytes)
    (pageId : PageId) (view : ImageView) : Bool :=
  match dataKey with
  | none => true
  | some key =>
    view.type = .encrypted &&
      (encryptedPageDecrypt prim superblock.fileId key pageId view
        superblock.pageSize).toOption.isSome

/-- The checks of one frame in `sdb_wal_validate_frames`. -/
def walFrameValid (prim : Primitives) (superblock : Superblock) (dataKey : Option Bytes)
    (format : FrameFormat) (txnId nextPageId count index : Nat) (seen : List PageId)
    (frame : Bytes) : Bool :=
  let page := framePage format superblock.pageSize frame
  (format = .legacy || (read (field 8 8 frame) = txnId && read (field 16 4 frame) = index
      && read (field 20 4 frame) = count))
    && (format ≠ .v5 || field 24 16 frame = superblock.fileId)
    && page.pageId ≠ 0 && page.pageId.toNat < nextPageId && !seen.contains page.pageId
    && (match pageDecode prim superblock.pageSize page.pageId page.bytes with
        | .error _ => false
        | .ok view => view.pageLsn = txnId
            && imageAuthentic prim superblock dataKey page.pageId view)

/-- `sdb_wal_validate_frames`; every failure is `SDB_E_CORRUPT`. -/
def walValidateFrames (prim : Primitives) (superblock : Superblock) (dataKey : Option Bytes)
    (format : FrameFormat) (txnId nextPageId count : Nat) :
    (remaining index : Nat) → (seen : List PageId) → Bytes → Bool
  | 0, _, _, _ => true
  | remaining + 1, index, seen, cursor =>
    walFrameValid prim superblock dataKey format txnId nextPageId count index seen cursor &&
      walValidateFrames prim superblock dataKey format txnId nextPageId count remaining
        (index + 1) ((framePage format superblock.pageSize cursor).pageId :: seen)
        (cursor.drop (format.frameSize superblock.pageSize))

/-- One round of the scan: nothing more to accept, a transaction whose frames are
not valid, or a transaction and what follows it. -/
inductive ScanStep where
  | stop
  | reject
  | accept (txn : WalTxn) (rest : Bytes)
  deriving DecidableEq, Repr

/-- Accept the transaction with commit record `rec` if its frames are valid. -/
def acceptFrames (prim : Primitives) (superblock : Superblock) (dataKey : Option Bytes)
    (format : FrameFormat) (rec : WalCommitRec) (count : Nat) (bytes rest : Bytes) : ScanStep :=
  if walValidateFrames prim superblock dataKey format rec.txnId rec.nextPageId count count 0 []
      bytes then
    .accept { txnId := rec.txnId
              pages := framePages format superblock.pageSize count bytes
              nextPageId := rec.nextPageId
              freelistPage := rec.freelistPage } rest
  else .reject

/-- The head of the freelist a commit record may name. -/
def freelistHeadValid (rec : WalCommitRec) : Bool :=
  rec.freelistPage = 0 || rec.freelistPage.toNat < rec.nextPageId

/-- One round over self-describing frames: the first frame says where the commit
record is. -/
def walSelfDescribingStep (prim : Primitives) (superblock : Superblock)
    (dataKey : Option Bytes) (format : FrameFormat) (expected targetNext : Nat)
    (bytes : Bytes) : ScanStep :=
  let frameSize := format.frameSize superblock.pageSize
  if bytes.length < frameSize + walCommitSize then .stop
  else
    let count := read (field 20 4 bytes)
    if count = 0 || count > walMaxRecords
        || count > (bytes.length - walCommitSize) / frameSize then .stop
    else
      let commit := bytes.drop (count * frameSize)
      match walDecodeCommitRec prim (commit.take walCommitSize) with
      | .error _ => .stop
      | .ok (rec, runningCrc) =>
        if rec.frameCount ≠ count
            || (prim.crc32 (bytes.take (count * frameSize))).toNat ≠ runningCrc
            || rec.txnId ≠ expected || rec.nextPageId < targetNext
            || !freelistHeadValid rec then .stop
        else acceptFrames prim superblock dataKey format rec count bytes
          (commit.drop walCommitSize)

/-- The probe of the legacy scan: the first `count` from `k` on with a commit
magic behind `count` frames decides. -/
def walLegacyProbe (prim : Primitives) (superblock : Superblock) (dataKey : Option Bytes)
    (expected targetNext : Nat) (bytes : Bytes) : (remaining k : Nat) → ScanStep
  | 0, _ => .stop
  | remaining + 1, k =>
    let size := k * FrameFormat.legacy.frameSize superblock.pageSize
    let commit := bytes.drop size
    if field 0 4 commit ≠ walCommitMagic then
      walLegacyProbe prim superblock dataKey expected targetNext bytes remaining (k + 1)
    else
      match walDecodeCommitRec prim (commit.take walCommitSize) with
      | .error _ => .stop
      | .ok (rec, runningCrc) =>
        if rec.frameCount ≠ k || (prim.crc32 (bytes.take size)).toNat ≠ runningCrc
            || rec.txnId ≠ expected
            || !pageGeometryValid rec.nextPageId superblock.pageSize
            || rec.nextPageId < targetNext || !freelistHeadValid rec then .stop
        else acceptFrames prim superblock dataKey .legacy rec k bytes
          (commit.drop walCommitSize)

def walLegacyStep (prim : Primitives) (superblock : Superblock) (dataKey : Option Bytes)
    (expected targetNext : Nat) (bytes : Bytes) : ScanStep :=
  let frameSize := FrameFormat.legacy.frameSize superblock.pageSize
  if bytes.length < frameSize + walCommitSize then .stop
  else
    walLegacyProbe prim superblock dataKey expected targetNext bytes
      (min ((bytes.length - walCommitSize) / frameSize) walMaxRecords) 1

def walStep (prim : Primitives) (superblock : Superblock) (dataKey : Option Bytes) :
    FrameFormat → (expected targetNext : Nat) → Bytes → ScanStep
  | .legacy => walLegacyStep prim superblock dataKey
  | format => walSelfDescribingStep prim superblock dataKey format

/-- The loop of `sdb_wal_recover_all`: the accepted transactions, and whether the
scan ended at one that is rejected.  Every round consumes bytes, so the length of
the log is enough fuel. -/
def walScan (prim : Primitives) (superblock : Superblock) (dataKey : Option Bytes)
    (format : FrameFormat) :
    (fuel expected targetNext : Nat) → Bytes → List WalTxn × Bool
  | 0, _, _, _ => ([], false)
  | fuel + 1, expected, targetNext, bytes =>
    match walStep prim superblock dataKey format expected targetNext bytes with
    | .stop => ([], false)
    | .reject => ([], true)
    | .accept txn rest =>
      let (txns, rejected) := walScan prim superblock dataKey format fuel
        ((txn.txnId + 1) % 2 ^ 64) txn.nextPageId rest
      (txn :: txns, rejected)

/-- `sdb_wal_first_txn_is_self_describing`. -/
def walFirstTxnIsSelfDescribing (prim : Primitives) (superblock : Superblock)
    (format : FrameFormat) (buffer : Bytes) : Bool :=
  let frameSize := format.frameSize superblock.pageSize
  let bytes := buffer.drop walHeaderSize
  let count := read (field 20 4 bytes)
  let commit := bytes.drop (count * frameSize)
  walHeaderSize < buffer.length && format ≠ .legacy
    && frameSize + walCommitSize ≤ bytes.length
    && read (field 16 4 bytes) = 0
    && (format ≠ .v5 || field 24 16 bytes = superblock.fileId)
    && count ≠ 0 && count ≤ walMaxRecords
    && count ≤ (bytes.length - walCommitSize) / frameSize
    && (match walDecodeCommitRec prim (commit.take walCommitSize) with
        | .error _ => false
        | .ok (rec, runningCrc) => rec.frameCount = count
            && (prim.crc32 (bytes.take (count * frameSize))).toNat = runningCrc)

def walHeaderPresent (buffer : Bytes) : Bool := (buffer.take walHeaderSize).any (· ≠ 0)

def walHeaderCrcOk (prim : Primitives) (buffer : Bytes) : Bool :=
  crc32ZeroedRange prim (buffer.take walHeaderSize) walHeaderChecksumOffset 4 =
    read (field walHeaderChecksumOffset 4 buffer)

/-- The header names a log of this database in a known version. -/
def walHeaderMatches (superblock : Superblock) (buffer : Bytes) : Bool :=
  let version := read (field 4 2 buffer)
  field 0 4 buffer = walMagic
    && (version = 1 || version = 2 || version = 3 || version = 4 || version = 5)
    && read (field 6 2 buffer) = walHeaderSize
    && read (field 16 4 buffer) = superblock.pageSize
    && field 24 16 buffer = superblock.fileId

/-- The identity gate of `sdb_wal_recover_all` and the frame layout it selects. -/
def walClassify (prim : Primitives) (superblock : Superblock) (dataKey : Option Bytes)
    (buffer : Bytes) : Except SdbError FrameFormat :=
  let version := read (field 4 2 buffer)
  if walHeaderPresent buffer then
    if walHeaderCrcOk prim buffer then
      if !walHeaderMatches superblock buffer then .error .corrupt
      else if version = 4 then .ok .v4
      else if version = 5 then .ok .v5
      else .ok .legacy
    else if walFirstTxnIsSelfDescribing prim superblock .v5 buffer then .ok .v5
    else if walFirstTxnIsSelfDescribing prim superblock .v4 buffer then .ok .v4
    else if dataKey.isNone then .error .corrupt
    else .ok .legacy
  else if dataKey.isNone then .error .corrupt
  else .ok .legacy

/-- What `sdb_wal_recover_all` takes from a log of more than a header. -/
def walRecoverTxns (prim : Primitives) (superblock : Superblock) (dataKey : Option Bytes)
    (buffer : Bytes) : Except SdbError (List WalTxn × Bool) := do
  let format ← walClassify prim superblock dataKey buffer
  .ok (walScan prim superblock dataKey format buffer.length
    ((superblock.checkpointLsn + 1) % 2 ^ 64) superblock.nextPageId
    (buffer.drop walHeaderSize))

end ShibaDb
