/-
The bytes of the write-ahead log: identity header, frames and commit records,
and `sdb_wal_encode_txn`, which lays out one transaction.
-/
import ShibaDb.Pager.PageCodec

namespace ShibaDb

open LittleEndian

/-- `sdb_wal_page`: the image of one page in a transaction. -/
structure WalPage where
  pageId : PageId
  bytes : Bytes
  deriving DecidableEq, Repr

/-- `sdb_wal_commit_rec`. -/
structure WalCommitRec where
  txnId : Nat
  frameCount : Nat
  nextPageId : Nat
  freelistPage : PageId
  deriving DecidableEq, Repr

/-- A transaction of the log. -/
structure WalTxn where
  txnId : Nat
  pages : List WalPage
  nextPageId : Nat
  freelistPage : PageId
  deriving DecidableEq, Repr

/-- The commit record of a transaction. -/
@[simps]
def WalTxn.commitRec (txn : WalTxn) : WalCommitRec :=
  { txnId := txn.txnId, frameCount := txn.pages.length, nextPageId := txn.nextPageId
    freelistPage := txn.freelistPage }

/-- The frame layouts: `[page_id][page]`, the self-describing header of version 4
and the one of version 5, which also names the database. -/
inductive FrameFormat where
  | legacy
  | v4
  | v5
  deriving DecidableEq, Repr

def FrameFormat.headerSize : FrameFormat → Nat
  | legacy => 8
  | v4 => 24
  | v5 => 40

def FrameFormat.frameSize (format : FrameFormat) (pageSize : Nat) : Nat :=
  format.headerSize + pageSize

def walMagic : Bytes := [83, 87, 65, 76]
def walCommitMagic : Bytes := [83, 67, 77, 84]
def walHeaderChecksumOffset : Nat := 60
def walCommitChecksumOffset : Nat := 40

@[simp] lemma walMagic_length : walMagic.length = 4 := by decide
@[simp] lemma walCommitMagic_length : walCommitMagic.length = 4 := by decide

/-- The identity header of a version 5 log with the given checksum field. -/
def walHeaderImage (target : Superblock) (txnId pageCount checksum : Nat) : Bytes :=
  walMagic ++ (write 2 5 ++ (write 2 walHeaderSize ++ (write 8 txnId ++
    (write 4 target.pageSize ++ (write 4 pageCount ++ (target.fileId ++
      (write 8 target.nextPageId ++ (write 8 target.freelistPage.toNat ++
        (write 4 0 ++ write 4 checksum)))))))))

def walHeader (prim : Primitives) (target : Superblock) (txnId pageCount : Nat) : Bytes :=
  walHeaderImage target txnId pageCount
    (crc32ZeroedRange prim (walHeaderImage target txnId pageCount 0) walHeaderChecksumOffset 4)

/-- A version 5 frame. -/
def walFrame (fileId : Bytes) (txnId count index : Nat) (page : WalPage) : Bytes :=
  write 8 page.pageId.toNat ++ (write 8 txnId ++ (write 4 index ++ (write 4 count ++
    (fileId ++ page.bytes))))

/-- The frames of a transaction, numbered from `index` on. -/
def walFrames (fileId : Bytes) (txnId count : Nat) : Nat → List WalPage → Bytes
  | _, [] => []
  | index, page :: rest =>
    walFrame fileId txnId count index page ++ walFrames fileId txnId count (index + 1) rest

def walCommitImage (rec : WalCommitRec) (runningCrc checksum : Nat) : Bytes :=
  walCommitMagic ++ (write 2 5 ++ (write 2 walCommitSize ++ (write 8 rec.txnId ++
    (write 4 rec.frameCount ++ (write 8 rec.nextPageId ++ (write 8 rec.freelistPage.toNat ++
      (write 4 runningCrc ++ write 4 checksum)))))))

def walEncodeCommitRec (prim : Primitives) (rec : WalCommitRec) (runningCrc : Nat) : Bytes :=
  walCommitImage rec runningCrc
    (crc32ZeroedRange prim (walCommitImage rec runningCrc 0) walCommitChecksumOffset 4)

/-- `sdb_wal_decode_commit_rec`: the record and the checksum of its frames. -/
def walDecodeCommitRec (prim : Primitives) (bytes : Bytes) :
    Except SdbError (WalCommitRec × Nat) :=
  let version := read (field 4 2 bytes)
  if bytes.length < walCommitSize then .error .invalidArgument
  else if field 0 4 bytes ≠ walCommitMagic
      || (version ≠ 3 && version ≠ 4 && version ≠ 5)
      || read (field 6 2 bytes) ≠ walCommitSize then .error .corrupt
  else if read (field walCommitChecksumOffset 4 bytes)
      ≠ crc32ZeroedRange prim (bytes.take walCommitSize) walCommitChecksumOffset 4 then
    .error .corrupt
  else .ok ({ txnId := read (field 8 8 bytes)
              frameCount := read (field 16 4 bytes)
              nextPageId := read (field 20 8 bytes)
              freelistPage := UInt64.ofNat (read (field 28 8 bytes)) },
            read (field 36 4 bytes))

/-- The checks `sdb_wal_encode_txn` makes of the pages. -/
def walPagesValid (prim : Primitives) (target : Superblock) (txnId : Nat) :
    List PageId → List WalPage → Bool
  | _, [] => true
  | seen, page :: rest =>
    page.pageId ≠ 0 && page.pageId.toNat < target.nextPageId && !seen.contains page.pageId
      && (match pageDecode prim target.pageSize page.pageId page.bytes with
          | .ok view => view.pageLsn = txnId
          | .error _ => false)
      && walPagesValid prim target txnId (page.pageId :: seen) rest

def WalTxn.frames (fileId : Bytes) (txn : WalTxn) : Bytes :=
  walFrames fileId txn.txnId txn.pages.length 0 txn.pages

/-- The frames and the commit record of a transaction. -/
def WalTxn.bytes (prim : Primitives) (fileId : Bytes) (txn : WalTxn) : Bytes :=
  txn.frames fileId ++
    walEncodeCommitRec prim txn.commitRec (prim.crc32 (txn.frames fileId)).toNat

/-- `sdb_wal_encode_txn`: the buffer, where it goes and the tail behind it. -/
def walEncodeTxn (prim : Primitives) (target : Superblock) (appendOffset txnId : Nat)
    (pages : List WalPage) : Except SdbError (Bytes × Nat × Nat) :=
  let framesSize := FrameFormat.v5.frameSize target.pageSize * pages.length
  if txnId = 0 || pages.length = 0 || pages.length > walMaxRecords then .error .invalidArgument
  else if appendOffset + framesSize + walCommitSize > walMaxBytes then .error .overflow
  else if !walPagesValid prim target txnId [] pages then .error .invalidArgument
  else
    let txn : WalTxn := { txnId, pages, nextPageId := target.nextPageId
                          freelistPage := target.freelistPage }
    let body := txn.bytes prim target.fileId
    let tail := appendOffset + framesSize + walCommitSize
    if appendOffset = walHeaderSize then
      .ok (walHeader prim target txnId pages.length ++ body, 0, tail)
    else .ok (body, appendOffset, tail)

section Lengths

variable {prim : Primitives} {target : Superblock} {txnId : Nat}

lemma walHeaderImage_length {pageCount checksum : Nat} (hid : target.fileId.length = 16) :
    (walHeaderImage target txnId pageCount checksum).length = walHeaderSize := by
  simp [walHeaderImage, hid, walHeaderSize]

lemma walHeader_length {pageCount : Nat} (hid : target.fileId.length = 16) :
    (walHeader prim target txnId pageCount).length = walHeaderSize :=
  walHeaderImage_length hid

@[simp] lemma walCommitImage_length (rec : WalCommitRec) (runningCrc checksum : Nat) :
    (walCommitImage rec runningCrc checksum).length = walCommitSize := by
  simp [walCommitImage, walCommitSize]

@[simp] lemma walEncodeCommitRec_length (rec : WalCommitRec) (runningCrc : Nat) :
    (walEncodeCommitRec prim rec runningCrc).length = walCommitSize :=
  walCommitImage_length ..

lemma walFrames_length {fileId : Bytes} {count index pageSize : Nat} {pages : List WalPage}
    (hid : fileId.length = 16) (hpages : ∀ page ∈ pages, page.bytes.length = pageSize) :
    (walFrames fileId txnId count index pages).length =
      FrameFormat.v5.frameSize pageSize * pages.length := by
  induction pages generalizing index with
  | nil => rfl
  | cons page rest ih =>
    have hpage := hpages page List.mem_cons_self
    have hrest : (walFrames fileId txnId count (index + 1) rest).length =
        FrameFormat.v5.frameSize pageSize * rest.length :=
      ih fun other hother => hpages other (List.mem_cons_of_mem _ hother)
    simp only [walFrames, walFrame, List.length_append, write_length, hid, hpage, hrest,
      List.length_cons, FrameFormat.frameSize, FrameFormat.headerSize, Nat.mul_add]
    omega

end Lengths

section CommitRecord

variable {prim : Primitives}

/-- The numbers of a record fit their fields. -/
structure WalCommitRec.Sized (rec : WalCommitRec) : Prop where
  txnId : rec.txnId < 2 ^ 64
  frameCount : rec.frameCount < 2 ^ 32
  nextPageId : rec.nextPageId < 2 ^ 64

lemma zeroRange_walCommitImage (rec : WalCommitRec) (runningCrc checksum : Nat) :
    zeroRange (walCommitImage rec runningCrc checksum) walCommitChecksumOffset 4 =
      walCommitImage rec runningCrc 0 := by
  have hzero : write 4 0 = List.replicate 4 0 := by decide
  simp only [zeroRange, walCommitImage, walCommitChecksumOffset, hzero]
  simp [take_skip, drop_skip]

/-- A commit record decodes to itself, whatever follows it. -/
lemma walDecodeCommitRec_encode {rec : WalCommitRec} {runningCrc : Nat} (hrec : rec.Sized)
    (hcrc : runningCrc < 2 ^ 32) (after : Bytes) :
    walDecodeCommitRec prim (walEncodeCommitRec prim rec runningCrc ++ after) =
      .ok (rec, runningCrc) := by
  unfold walEncodeCommitRec
  generalize hchecksum : crc32ZeroedRange prim (walCommitImage rec runningCrc 0)
    walCommitChecksumOffset 4 = checksum
  have hstored : crc32ZeroedRange prim (walCommitImage rec runningCrc checksum)
      walCommitChecksumOffset 4 = checksum := by
    rw [← hchecksum, crc32ZeroedRange, crc32ZeroedRange, zeroRange_walCommitImage,
      zeroRange_walCommitImage]
  have hchecksumLt : checksum < 256 ^ 4 := by
    rw [← hchecksum]
    exact UInt32.toNat_lt _
  have hlength := walCommitImage_length rec runningCrc checksum
  have htake : (walCommitImage rec runningCrc checksum ++ after).take walCommitSize =
      walCommitImage rec runningCrc checksum := List.take_left' hlength
  have hfields : ∀ bytes, bytes = walCommitImage rec runningCrc checksum ++ after →
      field 0 4 bytes = walCommitMagic ∧ field 4 2 bytes = write 2 5 ∧
      field 6 2 bytes = write 2 walCommitSize ∧ field 8 8 bytes = write 8 rec.txnId ∧
      field 16 4 bytes = write 4 rec.frameCount ∧
      field 20 8 bytes = write 8 rec.nextPageId ∧
      field 28 8 bytes = write 8 rec.freelistPage.toNat ∧
      field 36 4 bytes = write 4 runningCrc ∧ field 40 4 bytes = write 4 checksum := by
    rintro _ rfl
    simp [walCommitImage, field_skip, field_head, List.append_assoc]
  obtain ⟨hmagic, hversion, hsize, htxn, hcount, hnext, hfree, hrunning, hsum⟩ :=
    hfields _ rfl
  have hshort : ¬(walCommitImage rec runningCrc checksum ++ after).length < walCommitSize := by
    rw [List.length_append, hlength]
    omega
  simp only [walCommitChecksumOffset] at hstored
  simp only [walDecodeCommitRec, hshort, hmagic, read_field_write hversion (by decide),
    read_field_write hsize (by decide), htake, walCommitChecksumOffset, hstored,
    read_field_write hsum hchecksumLt, read_field_write htxn hrec.txnId,
    read_field_write hcount hrec.frameCount, read_field_write hnext hrec.nextPageId,
    read_field_write hfree rec.freelistPage.toNat_lt, read_field_write hrunning hcrc]
  simp

end CommitRecord

end ShibaDb
