/-
What someone without the key can do to an encrypted database by writing its log.  A
commit record is protected by a checksum alone.  Where the log starts as the key holder
wrote it and no commit record was put behind that, an open ends behind the transactions
it starts with; whoever writes a commit record chooses which pages of a transaction are
applied, and the head of the freelist.
-/
import ShibaDb.Pager.PageBinding
import ShibaDb.Pager.TornAppend

namespace ShibaDb

open CallProgram FileSystem LittleEndian Fallible List

/-- The log starts with a header of the database and the transactions `front`.  Behind
them stands what the writer of the log likes, but nowhere in it a commit record with the
next number. -/
structure CopiedLog (prim : Primitives) (superblock target : Superblock) (txnId pageCount : Nat)
    (front : List WalTxn) (rest log : Bytes) : Prop where
  bytes : log = walHeader prim target txnId pageCount ++
    (walTxnsBytes prim superblock.fileId front ++ rest)
  pageSize : target.pageSize = superblock.pageSize
  fileId : target.fileId = superblock.fileId
  unrecorded : ∀ place rec runningCrc, place <:+ rest →
    walDecodeCommitRec prim (place.take walCommitSize) = .ok (rec, runningCrc) →
    rec.txnId ≠ (superblock.checkpointLsn + 1 + front.length) % 2 ^ 64

/-- A transaction of the key holder with some of its page images, under a commit record
that says so and names another head of the freelist. -/
def WalTxn.forged (txn : WalTxn) (pages : List WalPage) (head : PageId) : WalTxn :=
  { txn with pages, freelistPage := head }

/-- The log of one transaction; its checksums take no key. -/
def loneLog (prim : Primitives) (superblock : Superblock) (txn : WalTxn) : Bytes :=
  walHeader prim superblock txn.txnId txn.pages.length ++
    (walTxnsBytes prim superblock.fileId [txn] ++ [])

/-- The open has no other reason to refuse the forged transaction. -/
structure Forges (prim : Primitives) (unlocked : Unlocked) (content : Bytes) (txn : WalTxn)
    (pages : List WalPage) (head : PageId) : Prop where
  copied : pages <+ txn.pages
  nonempty : pages ≠ []
  freelist : head = 0 ∨ head.toNat < txn.nextPageId
  short : (loneLog prim unlocked.base (txn.forged pages head)).length ≤ walMaxBytes
  generation : unlocked.base.generation < uint64Max
  geometry : pageGeometryValid txn.nextPageId unlocked.base.pageSize = true
  limit : canonicalSize txn.nextPageId unlocked.base.pageSize ≤ maxOffset
  grown : canonicalSize txn.nextPageId unlocked.base.pageSize ≤
    (writePages unlocked.base.pageSize content pages).length

section Open

variable {prim : Primitives} {file wal : FileInode} {disk : FileDisk} {password : Option Bytes}
  {unlocked : Unlocked} {superblock target : Superblock} {dataKey : Option Bytes}
  {txnId pageCount : Nat} {front committed : List WalTxn} {txn : WalTxn} {pages : List WalPage}
  {head : PageId} {rest log : Bytes}

/-- Recovery reads the transactions and nothing else. -/
lemma CopiedLog.recovers (h : CopiedLog prim superblock target txnId pageCount front rest log)
    (hid : superblock.fileId.length = 16) (hvalid : pageSizeValid superblock.pageSize = true)
    (hcontinues : Continues prim superblock dataKey ((superblock.checkpointLsn + 1) % 2 ^ 64)
      superblock.nextPageId front) :
    walRecoverTxns prim superblock dataKey log = .ok (front, false) := by
  rw [h.bytes]
  apply walRecoverTxns_walHeader (h.fileId ▸ hid) h.pageSize h.fileId hvalid hcontinues
  apply walStep_unrecorded
  rw [scanEnd_txnId hcontinues (Nat.mod_lt _ (by decide)), Nat.mod_add_mod]
  exact h.unrecorded

lemma CopiedLog.long (h : CopiedLog prim superblock target txnId pageCount front rest log)
    (hid : superblock.fileId.length = 16) (hnonempty : front ≠ []) :
    walHeaderSize < log.length := by
  have hcount := length_le_walTxnsBytes prim superblock.fileId front
  have hpositive := length_pos_iff.mpr hnonempty
  rw [h.bytes, length_append, length_append, walHeader_length (h.fileId ▸ hid)]
  omega

/-- Recovery takes the forged transaction for one of the key holder. -/
lemma Forges.fits {content : Bytes} {expected targetNext : Nat}
    (hforges : Forges prim unlocked content txn pages head)
    (hfits : txn.Fits prim unlocked.base dataKey expected targetNext) :
    (txn.forged pages head).Fits prim unlocked.base dataKey expected targetNext :=
  { hfits with
    nonempty := hforges.nonempty
    count := hforges.copied.length_le.trans hfits.count
    freelist := hforges.freelist
    pages := fun page hpage => hfits.pages page (hforges.copied.subset hpage)
    distinct := (hforges.copied.map (·.pageId)).nodup hfits.distinct }

section

variable (h : AtRest prim password disk file wal unlocked)
  (hcurrent : unlocked.legacyUpgradePending = false)
  (hwhole : canonicalSize unlocked.base.nextPageId unlocked.base.pageSize ≤
    (disk.bytes file).length)

include h hcurrent hwhole

/-- The open takes the forged transaction, and what it shows is up to the writer. -/
lemma Forges.opens (hforges : Forges prim unlocked (disk.bytes file) txn pages head)
    (hfits : txn.Fits prim unlocked.base unlocked.dataKey
      ((unlocked.base.checkpointLsn + 1) % 2 ^ 64) unlocked.base.nextPageId)
    (hlog : disk.bytes wal = loneLog prim unlocked.base (txn.forged pages head)) :
    ∃ handle after, (pagerOpen prim password).run exec disk = (.ok handle, after) ∧
      ((fileContents unlocked.base (disk.bytes file)).apply (txn.forged pages head)).Within
        (fileContents handle.superblock.toSuperblock (after.bytes file)) := by
  obtain ⟨_, -, -, hmirrored, -⟩ := run_pagerOpen_mirrored h
  have hid := hmirrored.sized.fileId
  have hcontinues := Continues.cons (hforges.fits hfits) Continues.nil
  have hcopied : CopiedLog prim unlocked.base unlocked.base txn.txnId pages.length
      [txn.forged pages head] [] (disk.bytes wal) :=
    { bytes := hlog
      pageSize := rfl
      fileId := rfl
      unrecorded := by
        intro place rec runningCrc hplace hdecode
        rw [suffix_nil.mp hplace] at hdecode
        cases hdecode }
  obtain ⟨hsucceeds, -⟩ := run_pagerOpen_behind h hcurrent
    (hcopied.long hid (cons_ne_nil _ _)) (hlog ▸ hforges.short)
    (hcopied.recovers hid hmirrored.pageSize hcontinues) hcontinues (cons_ne_nil _ _)
    hforges.geometry hforges.limit (le_trans (Nat.le_add_right _ _) hwhole)
  obtain ⟨after, hrun, hcontents⟩ := hsucceeds ⟨hforges.generation, hforges.grown⟩
  exact ⟨_, after, hrun, hcontents⟩

end

end Open

section Sample

end Sample

end ShibaDb
