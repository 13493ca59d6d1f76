/-
Whose log it is.  What recovery writes into a plaintext database comes from a log
whose header or whose frames name the database, except where a damaged header
leaves frames of version 4, which name none.
-/
import ShibaDb.Pager.HeaderDamage
import ShibaDb.Wal.Accept

namespace ShibaDb

open CallProgram FileSystem LittleEndian Fallible ByteFile List

/-- The calls recovery makes: it writes to one file, under a condition, and removes
nothing but the log. -/
def OnWrites (file : FileInode) (p : Nat → Bytes → Prop) : FileCall → Prop
  | .writeFull inode offset data => inode = file ∧ p offset data
  | .resize _ _ => False
  | .createNew _ _ => False
  | .remove name => name = .wal
  | _ => True

section Writes

variable {prim : Primitives} {file wal : FileInode} {disk : FileDisk} {base : Superblock}
  {dataKey : Option Bytes} {p : Nat → Bytes → Prop} {q : FileCall → Prop}

lemma allCalls_fileCall (request : FileCall) :
    (fileCall request).AllCalls exec q disk ↔ q request := by
  rw [fileCall, allCalls_bind, allCalls_request]
  refine and_iff_left_of_imp ?_
  intro _ reply after _
  cases reply with
  | ok value => exact allCalls_pure
  | error error => exact allCalls_fail

lemma allCalls_fromExcept {α : Type} (result : Except SdbError α) :
    (fromExcept result).AllCalls exec q disk := by
  cases result with
  | ok value => exact allCalls_pure
  | error error => exact allCalls_fail

/-- The page writes of a list of pages. -/
def PagesProven (pageSize : Nat) (p : Nat → Bytes → Prop) (pages : List WalPage) : Prop :=
  ∀ page ∈ pages, p (pageOffset pageSize page.pageId) page.bytes

lemma allCalls_walApplyFrames {pageSize txnId nextPageId : Nat} {pages : List WalPage}
    (h : PagesProven pageSize p pages) :
    (walApplyFrames prim file pageSize txnId nextPageId pages).AllCalls exec (OnWrites file p)
      disk := by
  induction pages generalizing disk with
  | nil => exact allCalls_pure
  | cons page pages ih =>
    rw [walApplyFrames]
    split
    · rw [allCalls_bind, fileWriteFull, allCalls_fileCall]
      refine ⟨⟨rfl, h page mem_cons_self⟩, ?_⟩
      intro _ after _
      exact ih fun other hother => h other (mem_cons_of_mem _ hother)
    · exact allCalls_fail

lemma allCalls_walApplyTxns {txns : List WalTxn}
    (h : ∀ txn ∈ txns, PagesProven base.pageSize p txn.pages) :
    (walApplyTxns prim file base txns).AllCalls exec (OnWrites file p) disk := by
  induction txns generalizing disk with
  | nil => exact allCalls_pure
  | cons txn txns ih =>
    have hrest := fun other hother => h other (mem_cons_of_mem txn hother)
    rw [walApplyTxns]
    split
    · rw [allCalls_bind]
      exact ⟨allCalls_walApplyFrames (h txn mem_cons_self), fun _ _ _ => ih hrest⟩
    · exact ih hrest

/-- No transaction is behind the checkpoint, or the first page of the first one is
not valid: nothing is written. -/
lemma allCalls_walApplyTxns_stuck {txns : List WalTxn}
    (h : (∀ txn ∈ txns, txn.txnId ≤ base.checkpointLsn) ∨
      ∃ txn rest page others, txns = txn :: rest ∧ txn.pages = page :: others ∧
        base.checkpointLsn < txn.txnId ∧
        walApplyValid prim base.pageSize txn.txnId txn.nextPageId page = false) :
    (walApplyTxns prim file base txns).AllCalls exec q disk := by
  rcases h with hold | ⟨txn, rest, page, others, rfl, hpages, hnew, hinvalid⟩
  · induction txns with
    | nil => exact allCalls_pure
    | cons txn txns ih =>
      rw [walApplyTxns, if_neg (Nat.not_lt.mpr (hold txn mem_cons_self))]
      exact ih fun other hother => hold other (mem_cons_of_mem _ hother)
  · rw [walApplyTxns, if_pos hnew, allCalls_bind, hpages, walApplyFrames, hinvalid]
    refine ⟨allCalls_fail, ?_⟩
    intro _ _ hrun
    cases (Prod.mk.inj hrun).1

lemma allCalls_walReplay {buffer : Bytes}
    (h : ∀ txns rejected, walRecoverTxns prim base dataKey buffer = .ok (txns, rejected) →
      (walApplyTxns prim file base txns).AllCalls exec (OnWrites file p) disk) :
    (walReplay prim file base dataKey buffer).AllCalls exec (OnWrites file p) disk := by
  rw [walReplay, allCalls_bind]
  refine ⟨allCalls_fromExcept _, ?_⟩
  intro scanned after hrun
  rw [run_fromExcept] at hrun
  obtain ⟨hscan, rfl⟩ := Prod.mk.inj hrun
  rw [allCalls_bind]
  refine ⟨h _ _ hscan, ?_⟩
  intro _ after _
  split
  · exact allCalls_fail
  · simp only
    split
    · rw [allCalls_bind, fileSync, allCalls_fileCall]
      exact ⟨trivial, fun _ _ _ => allCalls_pure⟩
    · exact allCalls_pure

lemma allCalls_walRecoverAll (hname : disk.names .wal = some wal)
    (h : ∀ txns rejected, (disk.bytes wal).length ≤ walMaxBytes →
      walRecoverTxns prim base dataKey (disk.bytes wal) = .ok (txns, rejected) →
      (walApplyTxns prim file base txns).AllCalls exec (OnWrites file p) disk) :
    (walRecoverAll prim file base dataKey).AllCalls exec (OnWrites file p) disk := by
  rw [walRecoverAll]
  split
  · exact allCalls_fail
  split
  · exact allCalls_fail
  rw [allCalls_bind_ok (by rw [run_attempt, run_fileOpenExisting hname]), allCalls_attempt,
    fileOpenExisting, allCalls_fileCall]
  refine ⟨trivial, ?_⟩
  rw [allCalls_bind_ok run_fileSize, fileSize, allCalls_fileCall]
  refine ⟨trivial, ?_⟩
  split
  · exact allCalls_fail
  rename_i hsize
  split
  · exact allCalls_pure
  rw [allCalls_bind_ok (run_fileReadFull (Nat.zero_le _) (readAt_all _)), fileReadFull,
    allCalls_fileCall]
  exact ⟨trivial, allCalls_walReplay fun txns rejected => h txns rejected (Nat.not_lt.mp hsize)⟩

lemma allCalls_walDiscard : walDiscard.AllCalls exec (OnWrites file p) disk := by
  have hremove : ∀ disk : FileDisk, (fileRemove .wal).AllCalls exec (OnWrites file p) disk := by
    intro disk
    rw [fileRemove, allCalls_bind, allCalls_request]
    refine ⟨rfl, ?_⟩
    intro reply after _
    split
    · exact allCalls_pure
    · exact allCalls_pure
    · exact allCalls_fail
  rw [walDiscard, allCalls_bind, allCalls_attempt]
  refine ⟨hremove disk, ?_⟩
  intro _ after _
  rw [allCalls_bind, allCalls_attempt, fileSyncParentDirectory, allCalls_fileCall]
  exact ⟨trivial, fun _ _ _ => allCalls_pure⟩

lemma allCalls_walLegacyReplay {buffer : Bytes}
    (h : ∀ txn, walLegacyRecord prim base dataKey buffer = .ok (some txn) →
      PagesProven base.pageSize p txn.pages) :
    (walLegacyReplay prim file base dataKey buffer).AllCalls exec (OnWrites file p) disk := by
  rw [walLegacyReplay, allCalls_bind]
  refine ⟨allCalls_fromExcept _, ?_⟩
  intro record after hrun
  rw [run_fromExcept] at hrun
  obtain ⟨hrecord, rfl⟩ := Prod.mk.inj hrun
  cases record with
  | none => exact allCalls_pure
  | some txn =>
    simp only
    split
    · rw [allCalls_bind]
      refine ⟨allCalls_walApplyFrames (h txn hrecord), ?_⟩
      intro _ written _
      rw [allCalls_bind, fileSync, allCalls_fileCall]
      exact ⟨trivial, fun _ _ _ => allCalls_pure⟩
    · exact allCalls_pure

lemma allCalls_walRecover (hname : disk.names .wal = some wal)
    (h : ∀ txn, walLegacyRecord prim base dataKey (disk.bytes wal) = .ok (some txn) →
      PagesProven base.pageSize p txn.pages) :
    (walRecover prim file base dataKey).AllCalls exec (OnWrites file p) disk := by
  rw [walRecover, allCalls_bind_ok (by rw [run_attempt, run_fileOpenExisting hname]),
    allCalls_attempt, fileOpenExisting, allCalls_fileCall]
  refine ⟨trivial, ?_⟩
  rw [allCalls_bind_ok run_fileSize, fileSize, allCalls_fileCall]
  refine ⟨trivial, ?_⟩
  split
  · exact allCalls_pure
  split
  · exact allCalls_fail
  split
  · rw [allCalls_bind]
    exact ⟨allCalls_walDiscard, fun _ _ _ => allCalls_pure⟩
  rw [allCalls_bind, fileReadFull, allCalls_fileCall]
  refine ⟨trivial, ?_⟩
  intro header after hrun
  obtain rfl : after = disk := by
    have hsame := run_fileReadFull_disk wal 0 walHeaderSize disk
    rw [fileReadFull, hrun] at hsame
    exact hsame
  rw [allCalls_bind]
  refine ⟨allCalls_fromExcept _, ?_⟩
  intro action after hrun
  rw [run_fromExcept] at hrun
  obtain ⟨-, rfl⟩ := Prod.mk.inj hrun
  cases action with
  | skip => exact allCalls_pure
  | discard =>
    simp only
    rw [allCalls_bind]
    exact ⟨allCalls_walDiscard, fun _ _ _ => allCalls_pure⟩
  | read =>
    simp only
    rw [allCalls_bind_ok (run_fileReadFull (Nat.zero_le _) (readAt_all _)), fileReadFull,
      allCalls_fileCall]
    exact ⟨trivial, allCalls_walLegacyReplay h⟩

end Writes

section Identity

variable {prim : Primitives} {file wal : FileInode} {disk : FileDisk} {base : Superblock}
  {log : Bytes} {txnId nextPageId count fuel expected targetNext : Nat} {bytes : Bytes}
  {txn : WalTxn} {format : FrameFormat} {recovery : WalRecovery} {after : FileDisk}

/-- The header of the log carries the identity of the database. -/
structure HeaderProves (prim : Primitives) (base : Superblock) (log : Bytes) : Prop where
  crc : walHeaderCrcOk prim log = true
  pageSize : read (field 16 4 log) = base.pageSize
  fileId : field 24 16 log = base.fileId

/-- The page comes from a frame that recovery reads as one of version 5 and that
carries the identity of the database. -/
structure FrameProves (prim : Primitives) (base : Superblock) (log : Bytes) (page : WalPage) :
    Prop where
  format : walClassify prim base none log = .ok .v5
  frame : ∃ cursor, cursor <:+ log ∧ framePage .v5 base.pageSize cursor = page ∧
    field 24 16 cursor = base.fileId

/-- A write of a page that is proven to be of this database. -/
def ProvenWrite (prim : Primitives) (base : Superblock) (log : Bytes) (offset : Nat)
    (data : Bytes) : Prop :=
  ∃ page : WalPage, offset = pageOffset base.pageSize page.pageId ∧ data = page.bytes ∧
    (HeaderProves prim base log ∨ FrameProves prim base log page)

/-- Recovery writes proven pages only. -/
def IdentityBound (prim : Primitives) (file wal : FileInode) (base : Superblock)
    (disk : FileDisk) : Prop :=
  (pagerRecoverWal prim file base none).AllCalls exec
    (OnWrites file (ProvenWrite prim base (disk.bytes wal))) disk

/-- The damaged header of a log that starts with an intact transaction of version 4
behind the checkpoint, whose first page lies in the range of a data file. -/
structure V4Fallback (prim : Primitives) (base : Superblock) (log : Bytes) : Prop where
  size : log.length ≤ walMaxBytes
  present : walHeaderPresent log = true
  damaged : walHeaderCrcOk prim log = false
  notV5 : walFirstTxnIsSelfDescribing prim base .v5 log = false
  txn : ∃ rec, HoldsTxn prim base none .v4 (base.checkpointLsn + 1) base.nextPageId
    (log.drop walHeaderSize) rec
  range : (read (field 0 8 (log.drop walHeaderSize)) - 1) * base.pageSize ≤
    uint64Max - dataOffset

lemma walValidateFrames_v5 {remaining index : Nat} {seen : List PageId} {cursor : Bytes}
    (h : walValidateFrames prim base none .v5 txnId nextPageId count remaining index seen cursor =
      true) : ∀ page ∈ framePages .v5 base.pageSize remaining cursor,
      ∃ frame, frame <:+ cursor ∧ framePage .v5 base.pageSize frame = page ∧
        field 24 16 frame = base.fileId := by
  induction remaining generalizing index seen cursor with
  | zero => simp [framePages]
  | succ remaining ih =>
    rw [walValidateFrames, Bool.and_eq_true] at h
    obtain ⟨hframe, hrest⟩ := h
    intro page hpage
    rw [framePages] at hpage
    rcases List.mem_cons.mp hpage with rfl | hpage
    · refine ⟨cursor, suffix_rfl, rfl, ?_⟩
      simp only [walFrameValid, Bool.and_eq_true] at hframe
      simpa using hframe.1.1.1.1.2
    · obtain ⟨frame, hsuffix, hresult⟩ := ih hrest page hpage
      exact ⟨frame, hsuffix.trans (drop_suffix _ _), hresult⟩

/-- Every page the scan takes from frames of version 5 comes from a frame that
names the database. -/
lemma walScan_v5 (hmem : txn ∈ (walScan prim base none .v5 fuel expected targetNext bytes).1) :
    ∀ page ∈ txn.pages, ∃ frame, frame <:+ bytes ∧ framePage .v5 base.pageSize frame = page ∧
      field 24 16 frame = base.fileId := by
  induction fuel generalizing expected targetNext bytes with
  | zero => cases hmem
  | succ fuel ih =>
    rw [walScan] at hmem
    split at hmem
    · cases hmem
    · cases hmem
    · rename_i first rest hstep
      obtain ⟨rec, hholds, rfl, hsuffix⟩ := holdsTxn_of_step hstep
      rcases List.mem_cons.mp hmem with rfl | hmem
      · exact walValidateFrames_v5 hholds.frames
      · intro page hpage
        obtain ⟨frame, hframe, hresult⟩ := ih hmem page hpage
        exact ⟨frame, hframe.trans hsuffix, hresult⟩

/-- How a plaintext database comes to a frame layout. -/
lemma walClassify_plain (h : walClassify prim base none log = .ok format) :
    HeaderProves prim base log ∨ (walHeaderPresent log = true ∧ walHeaderCrcOk prim log = false ∧
        ((format = .v5 ∧ walFirstTxnIsSelfDescribing prim base .v5 log = true) ∨
        (format = .v4 ∧ walFirstTxnIsSelfDescribing prim base .v5 log = false))) := by
  simp only [walClassify] at h
  split at h
  · rename_i hpresent
    split at h
    · rename_i hcrc
      split at h
      · cases h
      · rename_i hmatches
        left
        simp only [walHeaderMatches, Bool.and_eq_true, decide_eq_true_eq, Bool.not_eq_true',
          Bool.not_eq_false] at hmatches
        exact ⟨hcrc, hmatches.1.2, hmatches.2⟩
    · rename_i hcrc
      refine .inr ⟨hpresent, by simpa using hcrc, ?_⟩
      split at h
      · rename_i hv5
        exact .inl ⟨(Except.ok.inj h).symm, hv5⟩
      · rename_i hv5
        split at h
        · exact .inr ⟨(Except.ok.inj h).symm, by simpa using hv5⟩
        · simp at h
  · simp at h

lemma walFrameValid_first {remaining : Nat} {body : Bytes}
    (h : walValidateFrames prim base none format txnId nextPageId count (remaining + 1) 0 [] body =
      true) : walFrameValid prim base none format txnId nextPageId count 0 [] body = true := by
  rw [walValidateFrames, Bool.and_eq_true] at h
  exact h.1

lemma HoldsTxn.first {rec : WalCommitRec}
    (h : HoldsTxn prim base none .v4 expected targetNext (log.drop walHeaderSize) rec) :
    walFirstTxnIsSelfDescribing prim base .v4 log = true := by
  obtain ⟨count, hcount⟩ := Nat.exists_eq_succ_of_ne_zero h.positive
  have hframes := h.frames
  rw [hcount] at hframes
  have hframe := walFrameValid_first hframes
  simp only [walFrameValid, Bool.and_eq_true, Bool.or_eq_true, decide_eq_true_eq] at hframe
  have hindex : read (field 16 4 (log.drop walHeaderSize)) = 0 := by
    rcases hframe.1.1.1.1.1 with hlegacy | hfields
    · cases hlegacy
    · exact hfields.1.2
  have hroom := h.room
  have hmul := Nat.mul_le_mul_right (FrameFormat.v4.frameSize base.pageSize)
    (Nat.pos_of_ne_zero h.positive)
  rw [Nat.one_mul] at hmul
  have hlong : FrameFormat.v4.frameSize base.pageSize + walCommitSize ≤
      (log.drop walHeaderSize).length := by omega
  have hheader : walHeaderSize < log.length := by
    have hpos := frameSize_pos .v4 base.pageSize
    rw [length_drop] at hlong
    omega
  have hfit : rec.frameCount ≤ ((log.drop walHeaderSize).length - walCommitSize) /
      FrameFormat.v4.frameSize base.pageSize := by
    rw [Nat.le_div_iff_mul_le (frameSize_pos _ _)]
    omega
  rw [length_drop] at hlong hfit
  simp only [walFirstTxnIsSelfDescribing, h.count (by decide), h.commit, hindex]
  simp [hheader, hlong, h.positive, h.limit, hfit]

lemma V4Fallback.classify (h : V4Fallback prim base log) :
    walClassify prim base none log = .ok .v4 := by
  obtain ⟨rec, hholds⟩ := h.txn
  simp [walClassify, h.present, h.damaged, h.notV5, hholds.first]

/-- What a damaged header makes recovery take. -/
lemma V4Fallback.scan (h : V4Fallback prim base log) : ∃ txn page others txns rejected,
      walRecoverTxns prim base none log = .ok (txn :: txns, rejected) ∧
      txn.pages = page :: others ∧ base.checkpointLsn < txn.txnId ∧
      walApplyValid prim base.pageSize txn.txnId txn.nextPageId page = true := by
  obtain ⟨rec, hholds⟩ := h.txn
  obtain ⟨count, hcount⟩ := Nat.exists_eq_succ_of_ne_zero hholds.positive
  have hframes := hholds.frames
  rw [hcount] at hframes
  have hframe := walFrameValid_first hframes
  have hid := (walDecodeCommitRec_sized hholds.commit).txnId
  have hexpected : (base.checkpointLsn + 1) % 2 ^ 64 = base.checkpointLsn + 1 := by
    rw [← hholds.txnId]
    exact Nat.mod_eq_of_lt hid
  have hsome : log.length ≠ 0 := by
    intro hzero
    have hroom := hholds.room
    rw [length_drop, hzero] at hroom
    simp [walCommitSize] at hroom
  obtain ⟨fuel, hfuel⟩ := Nat.exists_eq_succ_of_ne_zero hsome
  have hstep : walStep prim base none .v4 (base.checkpointLsn + 1) base.nextPageId
      (log.drop walHeaderSize) = _ := hholds.step
  have hscan : walRecoverTxns prim base none log =
      .ok (walScan prim base none .v4 (fuel + 1) (base.checkpointLsn + 1) base.nextPageId
        (log.drop walHeaderSize)) := by
    rw [walRecoverTxns, h.classify, hfuel, hexpected]
    rfl
  rw [walScan_accept hstep] at hscan
  have hpages : (txnOf base .v4 (log.drop walHeaderSize) rec).pages =
      framePage .v4 base.pageSize (log.drop walHeaderSize) :: framePages .v4 base.pageSize count
        ((log.drop walHeaderSize).drop (FrameFormat.v4.frameSize base.pageSize)) := by
    rw [txnOf, hcount, framePages]
  have hnew : base.checkpointLsn < (txnOf base .v4 (log.drop walHeaderSize) rec).txnId := by
    change base.checkpointLsn < rec.txnId
    rw [hholds.txnId]
    exact Nat.lt_succ_self _
  refine ⟨_, _, _, _, _, hscan, hpages, hnew, ?_⟩
  have hrange := h.range
  have hpage : (framePage .v4 base.pageSize (log.drop walHeaderSize)).pageId.toNat =
      read (field 0 8 (log.drop walHeaderSize)) :=
    UInt64.toNat_ofNat_of_lt' (read_field_lt 0 8 _)
  rw [← hpage] at hrange
  have hvalid := hholds.valid _ (hpages ▸ List.mem_cons_self)
  exact (walApplyValid_iff hvalid).mpr hrange

/-- Recovery reads the log before it writes anything. -/
lemma allCalls_pagerRecoverWal_replay {q : FileCall → Prop}
    (hpageSize : pageSizeValid base.pageSize = true)
    (hgeometry : pageGeometryValid base.nextPageId base.pageSize = true)
    (hname : disk.names .wal = some wal) (hlow : walHeaderSize < (disk.bytes wal).length)
    (hhigh : (disk.bytes wal).length ≤ walMaxBytes)
    (h : (pagerRecoverWal prim file base none).AllCalls exec q disk) :
    (walReplay prim file base none (disk.bytes wal)).AllCalls exec q disk := by
  have hall := (allCalls_bind.mp h).1
  rw [walRecoverAll, hpageSize, hgeometry] at hall
  simp only [Bool.not_true, Bool.false_eq_true, if_false] at hall
  rw [allCalls_bind_ok (by rw [run_attempt, run_fileOpenExisting hname])] at hall
  have hsize := hall.2
  simp only at hsize
  rw [allCalls_bind_ok run_fileSize, if_neg (Nat.not_lt.mpr hhigh), if_neg (Nat.not_le.mpr hlow),
    allCalls_bind_ok (run_fileReadFull (Nat.zero_le _) (readAt_all _))] at hsize
  exact hsize.2.2

lemma V4Fallback.not_bound (h : V4Fallback prim base (disk.bytes wal))
    (hpageSize : pageSizeValid base.pageSize = true)
    (hgeometry : pageGeometryValid base.nextPageId base.pageSize = true)
    (hname : disk.names .wal = some wal) : ¬IdentityBound prim file wal base disk := by
  intro hbound
  obtain ⟨txn, page, others, txns, rejected, hscan, hpages, hnew, hvalid⟩ := h.scan
  have hlow : walHeaderSize < (disk.bytes wal).length := by
    obtain ⟨rec, hholds⟩ := h.txn
    have hroom := hholds.room
    rw [length_drop, walCommitSize] at hroom
    omega
  have hreplay := allCalls_pagerRecoverWal_replay hpageSize hgeometry hname hlow h.size hbound
  rw [walReplay, allCalls_bind_ok (by rw [run_fromExcept, hscan])] at hreplay
  have happly := (allCalls_bind.mp hreplay.2).1
  rw [walApplyTxns, if_pos hnew] at happly
  have hframes := (allCalls_bind.mp happly).1
  rw [hpages, walApplyFrames, if_pos hvalid] at hframes
  have hwrite := (allCalls_bind.mp hframes).1
  rw [fileWriteFull, allCalls_fileCall] at hwrite
  obtain ⟨-, proven, -, -, hheader | hframe⟩ := hwrite
  · have hcrc := hheader.crc
    rw [h.damaged] at hcrc
    cases hcrc
  · have hformat := hframe.format
    rw [h.classify] at hformat
    cases Except.ok.inj hformat

lemma walScan_v4_txnId_lt
    (hmem : txn ∈ (walScan prim base none .v4 fuel expected targetNext bytes).1) :
    txn.txnId < 2 ^ 64 := by
  induction fuel generalizing expected targetNext bytes with
  | zero => cases hmem
  | succ fuel ih =>
    rw [walScan] at hmem
    split at hmem
    · cases hmem
    · cases hmem
    · rename_i first rest hstep
      obtain ⟨rec, hholds, rfl, -⟩ := holdsTxn_of_step hstep
      rcases List.mem_cons.mp hmem with rfl | hmem
      · exact (walDecodeCommitRec_sized hholds.commit).txnId
      · exact ih hmem

/-- A record of the first log versions is behind a header that names the database. -/
lemma headerProves_of_legacyRecord (h : walLegacyRecord prim base none log = .ok (some txn)) :
    HeaderProves prim base log := by
  unfold walLegacyRecord at h
  split at h
  · cases h
  rw [guard_eq_ok] at h
  have hheader := h.1
  simp only [walLegacyHeaderSealed, walLegacyHeaderBound, Bool.or_eq_true, Bool.not_eq_true',
    not_or, Bool.not_eq_false, Bool.and_eq_true, decide_eq_true_eq] at hheader
  exact ⟨hheader.1.2, hheader.2.1, hheader.2.2⟩

/-- A version 4 log under a damaged header from which nothing is written. -/
lemma walScan_v4_stuck (hsize : log.length ≤ walMaxBytes)
    (hpresent : walHeaderPresent log = true) (hdamaged : walHeaderCrcOk prim log = false)
    (hnotV5 : walFirstTxnIsSelfDescribing prim base .v5 log = false)
    (hlsn : base.checkpointLsn < 2 ^ 64) (h : ¬V4Fallback prim base log) (fuel : Nat)
    {txns : List WalTxn} {rejected : Bool}
    (hscan : walScan prim base none .v4 fuel ((base.checkpointLsn + 1) % 2 ^ 64) base.nextPageId
      (log.drop walHeaderSize) = (txns, rejected)) :
    (∀ txn ∈ txns, txn.txnId ≤ base.checkpointLsn) ∨
      ∃ txn rest page others, txns = txn :: rest ∧ txn.pages = page :: others ∧
        base.checkpointLsn < txn.txnId ∧
        walApplyValid prim base.pageSize txn.txnId txn.nextPageId page = false := by
  rcases Nat.lt_or_ge (base.checkpointLsn + 1) (2 ^ 64) with hsmall | hbig
  · rw [Nat.mod_eq_of_lt hsmall] at hscan
    cases fuel with
    | zero =>
      obtain ⟨rfl, -⟩ := Prod.mk.inj hscan
      exact .inl (by simp)
    | succ fuel =>
      cases hstep : walStep prim base none .v4 (base.checkpointLsn + 1) base.nextPageId
          (log.drop walHeaderSize) with
      | stop =>
        rw [walScan, hstep] at hscan
        obtain ⟨rfl, -⟩ := Prod.mk.inj hscan
        exact .inl (by simp)
      | reject =>
        rw [walScan, hstep] at hscan
        obtain ⟨rfl, -⟩ := Prod.mk.inj hscan
        exact .inl (by simp)
      | accept txn rest =>
        rw [walScan_accept hstep] at hscan
        obtain ⟨rfl, -⟩ := Prod.mk.inj hscan
        obtain ⟨rec, hholds, rfl, -⟩ := holdsTxn_of_step hstep
        obtain ⟨count, hcount⟩ := Nat.exists_eq_succ_of_ne_zero hholds.positive
        have hpages : (txnOf base .v4 (log.drop walHeaderSize) rec).pages =
            framePage .v4 base.pageSize (log.drop walHeaderSize) ::
              framePages .v4 base.pageSize count ((log.drop walHeaderSize).drop
                (FrameFormat.v4.frameSize base.pageSize)) := by
          rw [txnOf, hcount, framePages]
        have hnew : base.checkpointLsn < (txnOf base .v4 (log.drop walHeaderSize) rec).txnId := by
          change base.checkpointLsn < rec.txnId
          rw [hholds.txnId]
          exact Nat.lt_succ_self _
        refine .inr ⟨_, _, _, _, rfl, hpages, hnew, ?_⟩
        -- only the range of the first page is missing
        by_contra hvalid
        refine h ⟨hsize, hpresent, hdamaged, hnotV5, ⟨rec, hholds⟩, ?_⟩
        have hpage : (framePage .v4 base.pageSize (log.drop walHeaderSize)).pageId.toNat =
            read (field 0 8 (log.drop walHeaderSize)) :=
          UInt64.toNat_ofNat_of_lt' (read_field_lt 0 8 _)
        simp only [walApplyValid, Bool.not_eq_false, Bool.and_eq_true, decide_eq_true_eq] at hvalid
        rw [← hpage]
        exact hvalid.1.2
  · left
    intro txn htxn
    rw [show txns = _ from (congrArg Prod.fst hscan).symm] at htxn
    have hid := walScan_v4_txnId_lt htxn
    omega

/-- Recovery writes what is proven to be of this database, unless it falls back to
frames of version 4. -/
lemma identityBound_of_not_v4Fallback (h : ¬V4Fallback prim base (disk.bytes wal))
    (hlsn : base.checkpointLsn < 2 ^ 64) (hname : disk.names .wal = some wal)
    (hdistinct : wal ≠ file) : IdentityBound prim file wal base disk := by
  rw [IdentityBound, pagerRecoverWal, allCalls_bind]
  constructor
  · apply allCalls_walRecoverAll hname
    intro txns rejected hsize hscan
    rw [walRecoverTxns, except_bind_eq_ok] at hscan
    obtain ⟨format, hclassify, hscan⟩ := hscan
    have hscan' := Except.ok.inj hscan
    rcases walClassify_plain hclassify with hheader | ⟨hpresent, hdamaged, hcase⟩
    · apply allCalls_walApplyTxns
      intro txn _ page _
      exact ⟨page, rfl, rfl, .inl hheader⟩
    · rcases hcase with ⟨rfl, -⟩ | ⟨rfl, hnotV5⟩
      · apply allCalls_walApplyTxns
        intro txn htxn page hpage
        rw [show txns = _ from (congrArg Prod.fst hscan').symm] at htxn
        obtain ⟨frame, hsuffix, hframe⟩ := walScan_v5 htxn page hpage
        exact ⟨page, rfl, rfl, .inr ⟨hclassify, frame, hsuffix.trans (drop_suffix _ _),
          hframe⟩⟩
      · exact allCalls_walApplyTxns_stuck
          (walScan_v4_stuck hsize hpresent hdamaged hnotV5 hlsn h _ hscan')
  · intro recovery after hrun
    split
    · exact allCalls_pure
    · have honly := (touchesOnly_walRecoverAll base).of_run hrun
      rw [allCalls_bind]
      refine ⟨?_, fun _ _ _ => allCalls_pure⟩
      have hnow : after.names .wal = some wal := by
        rw [honly.names]
        exact hname
      apply allCalls_walRecover hnow
      · intro txn hrecord page hpage
        rw [honly.bytes hdistinct] at hrecord
        exact ⟨page, rfl, rfl, .inl (headerProves_of_legacyRecord hrecord)⟩

/-- A log that carries the identity of another database: not in an intact header,
and not in its first frame. -/
structure ForeignLog (prim : Primitives) (base : Superblock) (log : Bytes) : Prop where
  header : walHeaderCrcOk prim log = true → field 24 16 log ≠ base.fileId
  frame : field 24 16 (log.drop walHeaderSize) ≠ base.fileId

lemma ForeignLog.not_headerProves (h : ForeignLog prim base log) : ¬HeaderProves prim base log :=
  fun hproves => h.header hproves.crc hproves.fileId

/-- Of a foreign log only frames of version 4 are read. -/
lemma ForeignLog.classify (h : ForeignLog prim base log)
    (hclassify : walClassify prim base none log = .ok format) :
    format = .v4 ∧ walHeaderPresent log = true ∧ walHeaderCrcOk prim log = false ∧
      walFirstTxnIsSelfDescribing prim base .v5 log = false := by
  rcases walClassify_plain hclassify with hproves | ⟨hpresent, hcrc, ⟨-, hfirst⟩ | ⟨hformat, hnot⟩⟩
  · exact absurd hproves h.not_headerProves
  · simp only [walFirstTxnIsSelfDescribing, Bool.and_eq_true, Bool.or_eq_true,
      decide_eq_true_eq] at hfirst
    rcases hfirst.1.1.1.1.2 with hother | hid
    · exact absurd rfl hother
    · exact absurd hid h.frame
  · exact ⟨hformat, hpresent, hcrc, hnot⟩

lemma ForeignLog.not_proven (h : ForeignLog prim base log) {offset : Nat} {data : Bytes} :
    ¬ProvenWrite prim base log offset data := by
  rintro ⟨page, -, -, hheader | hframe⟩
  · exact h.not_headerProves hheader
  · cases (h.classify hframe.format).1

/-- The data file and the log as recovery leaves them when it writes nothing. -/
structure Unwritten (file : FileInode) (before after : FileDisk) : Prop where
  file : after.bytes file = before.bytes file
  wal : after.names .wal = before.names .wal ∨ after.names .wal = none

lemma unwritten_exec {before : FileDisk} (request : FileCall) (disk : FileDisk)
    (hcall : OnWrites file (fun _ _ => False) request) (h : Unwritten file before disk) :
    Unwritten file before (exec request disk).2 := by
  cases request with
  | openExisting name =>
    simp only [exec]
    split <;> exact h
  | createNew name kind => exact hcall.elim
  | size inode => exact h
  | readFull inode offset size =>
    simp only [exec]
    split
    · exact h
    · split <;> exact h
  | writeFull inode offset data => exact hcall.2.elim
  | resize inode size => exact hcall.elim
  | sync inode => exact ⟨by rw [← h.file]; exact syncFile_bytes file, h.wal⟩
  | remove name =>
    obtain rfl : name = .wal := hcall
    simp only [exec]
    split
    · refine ⟨h.file, .inr ?_⟩
      simp [Disk.names, Disk.editDirectory, DirectoryEdit.apply]
    · exact h
  | syncDirectory =>
    refine ⟨h.file, ?_⟩
    rw [show (exec .syncDirectory disk).2 = disk.syncDirectory from rfl, syncDirectory_names]
    exact h.wal

lemma unwritten_of_foreign (h : ForeignLog prim base (disk.bytes wal))
    (hbound : IdentityBound prim file wal base disk) :
    Unwritten file disk ((pagerRecoverWal prim file base none).run exec disk).2 := by
  have hnone : (pagerRecoverWal prim file base none).AllCalls exec
      (OnWrites file fun _ _ => False) disk := by
    apply hbound.mono
    intro request hrequest
    cases request with
    | writeFull inode offset data => exact absurd hrequest.2 h.not_proven
    | _ => exact hrequest
  exact hnone.invariant ⟨rfl, .inl rfl⟩ unwritten_exec

lemma walReplay_lastLsn_le {buffer : Bytes} (h : ForeignLog prim base buffer)
    (hv4 : ¬V4Fallback prim base buffer) (hlsn : base.checkpointLsn < 2 ^ 64)
    (hsize : buffer.length ≤ walMaxBytes)
    (hrun : (walReplay prim file base none buffer).run exec disk = (.ok recovery, after)) :
    recovery.lastLsn ≤ base.checkpointLsn := by
  obtain ⟨scanned, _, hscanRun, hrun⟩ := run_bind_ok hrun
  rw [run_fromExcept] at hscanRun
  obtain ⟨hscan, rfl⟩ := Prod.mk.inj hscanRun
  rw [walRecoverTxns, except_bind_eq_ok] at hscan
  obtain ⟨format, hclassify, hscan⟩ := hscan
  obtain ⟨rfl, hpresent, hcrc, hnotV5⟩ := h.classify hclassify
  obtain ⟨_, applied, happly, hrun⟩ := run_bind_ok hrun
  rcases walScan_v4_stuck hsize hpresent hcrc hnotV5 hlsn hv4 _ (Except.ok.inj hscan) with
    hold | ⟨txn, rest, page, others, htxns, hpages, hnew, hinvalid⟩
  · split at hrun
    · cases (Prod.mk.inj hrun).1
    · have hresult : recovery = .behind base scanned.1 := by
        simp only at hrun
        split at hrun
        · obtain ⟨_, _, -, hrun⟩ := run_bind_ok hrun
          exact (Except.ok.inj (Prod.mk.inj hrun).1).symm
        · exact (Except.ok.inj (Prod.mk.inj hrun).1).symm
      rw [hresult, WalRecovery.behind]
      split
      · exact le_rfl
      · rename_i last hlast
        exact hold last (mem_of_getLast? hlast)
  · -- the first page is refused
    rw [htxns, walApplyTxns, if_pos hnew, hpages, run_bind, walApplyFrames, hinvalid] at happly
    cases (Prod.mk.inj happly).1

lemma walRecoverAll_lastLsn_le (h : ForeignLog prim base (disk.bytes wal))
    (hv4 : ¬V4Fallback prim base (disk.bytes wal)) (hlsn : base.checkpointLsn < 2 ^ 64)
    (hname : disk.names .wal = some wal)
    (hrun : (walRecoverAll prim file base none).run exec disk = (.ok recovery, after)) :
    recovery.lastLsn ≤ base.checkpointLsn := by
  rcases run_walRecoverAll_eq_ok hname hrun with ⟨rfl, -⟩ | ⟨hsize, hreplay⟩
  · exact le_rfl
  · exact walReplay_lastLsn_le h hv4 hlsn hsize hreplay

/-- The reader of the first log versions finds nothing where there is no record. -/
lemma walRecover_nothing (hname : disk.names .wal = some wal)
    (hnone : ∀ txn, walLegacyRecord prim base none (disk.bytes wal) ≠ .ok (some txn))
    (hrun : (walRecover prim file base none).run exec disk = (.ok recovery, after)) :
    recovery = .nothing base := by
  rcases run_walRecover_cases prim file base none hname with
    ⟨result, hresult, -⟩ | ⟨error, hresult⟩ | hresult
  · rw [hresult] at hrun
    exact (Except.ok.inj (Prod.mk.inj hrun).1).symm
  · rw [hresult] at hrun
    cases (Prod.mk.inj hrun).1
  · rw [hresult] at hrun
    obtain ⟨record, _, hrecordRun, hrun⟩ := run_bind_ok hrun
    rw [run_fromExcept] at hrecordRun
    obtain ⟨hrecord, rfl⟩ := Prod.mk.inj hrecordRun
    cases record with
    | none => exact (Except.ok.inj (Prod.mk.inj hrun).1).symm
    | some txn => exact absurd hrecord (hnone txn)

/-- Recovery that succeeds on a foreign log stays at the checkpoint. -/
lemma lastLsn_le_of_foreign (h : ForeignLog prim base (disk.bytes wal))
    (hv4 : ¬V4Fallback prim base (disk.bytes wal)) (hlsn : base.checkpointLsn < 2 ^ 64)
    (hname : disk.names .wal = some wal) (hdistinct : wal ≠ file)
    (hrun : (pagerRecoverWal prim file base none).run exec disk = (.ok recovery, after)) :
    recovery.lastLsn ≤ base.checkpointLsn := by
  obtain ⟨first, middle, hall, hrest⟩ := run_bind_ok hrun
  have hfirst := walRecoverAll_lastLsn_le h hv4 hlsn hname hall
  split at hrest
  · obtain ⟨heq, -⟩ := Prod.mk.inj hrest
    rw [← Except.ok.inj heq]
    exact hfirst
  · have honly := (touchesOnly_walRecoverAll base).of_run hall
    obtain ⟨legacy, last, hlegacy, hresult⟩ := run_bind_ok hrest
    have hsecond : legacy = .nothing base := by
      apply walRecover_nothing (by rw [honly.names]; exact hname) _ hlegacy
      rw [honly.bytes hdistinct]
      exact fun txn hrecord => h.not_headerProves (headerProves_of_legacyRecord hrecord)
    obtain ⟨heq, -⟩ := Prod.mk.inj hresult
    rw [hsecond, WalRecovery.nothing, if_neg (by simp)] at heq
    rw [← Except.ok.inj heq]
    exact hfirst

lemma AtRest.plain {unlocked : Unlocked} (h : AtRest prim none disk file wal unlocked) :
    unlocked.legacyUpgradePending = false := by
  obtain ⟨result, -, hunlock⟩ := h.superblock
  unfold unlock at hunlock
  split at hunlock
  · cases hunlock
  · obtain rfl := Except.ok.inj hunlock
    rfl

/-- The pages of a plaintext database survive an open with a foreign log. -/
lemma pagerOpen_foreign_pages {unlocked : Unlocked}
    (hrest : AtRest prim none disk file wal unlocked)
    (h : ForeignLog prim unlocked.base (disk.bytes wal))
    (hv4 : ¬V4Fallback prim unlocked.base (disk.bytes wal)) :
    (fileContents unlocked.base (disk.bytes file)).Within
      (fileContents unlocked.base
        (((pagerOpen prim none).run exec disk).2.bytes file)) := by
  obtain ⟨healed, hopen, htouches, hmirrored, hkeeps, -⟩ := run_pagerOpen_mirrored hrest
  have hplain : unlocked.dataKey = none := by simpa using hrest.dataKey_isSome
  have hname : healed.names .wal = some wal := by rw [htouches.names, hrest.log]
  have hlsn := hmirrored.sized.checkpointLsn
  rw [← htouches.bytes hrest.distinct] at h hv4
  have hbound := identityBound_of_not_v4Fallback hv4 hlsn hname hrest.distinct
  have hunwritten := unwritten_of_foreign h hbound
  refine (fileContents_within_keepsPages _ hkeeps).trans ?_
  rw [hopen, pagerOpenRecover, hplain, run_bind]
  rcases hrecover : (pagerRecoverWal prim file unlocked.base none).run
    exec healed with ⟨error | recovery, scanned⟩
  · rw [hrecover] at hunwritten
    rw [resume_error, hunwritten.file]
    exact Contents.Within.refl _
  · have hold := lastLsn_le_of_foreign h hv4 hlsn hname hrest.distinct hrecover
    rw [hrecover] at hunwritten
    have hfile := hunwritten.file
    have hlimit : (healed.bytes file).length ≤ maxOffset := by
      rw [hkeeps.length]
      exact max_le hrest.size (by decide)
    have hmirroredScanned : Mirrored prim (scanned.bytes file) unlocked.result.superblock := by
      rw [hfile]
      exact hmirrored
    have hadvance : pagerAdvance prim file unlocked.result.superblock none recovery =
        pure unlocked.result.superblock := by
      rw [pagerAdvance, if_neg (Nat.not_lt.mpr hold)]
    rw [resume_ok, run_bind, hadvance, run_pure, resume_ok, run_bind, ← hfile]
    rw [hrest.plain]
    rcases Nat.lt_or_ge (scanned.bytes file).length (canonicalSize
        unlocked.result.superblock.nextPageId unlocked.result.superblock.pageSize) with
      hshort | hsize
    · rw [run_pagerCanonicalizeFileSize_short hmirroredScanned false hshort, resume_error]
      exact Contents.Within.refl _
    · obtain ⟨sized, hcanonical, -, hcontents⟩ :=
        run_pagerCanonicalizeFileSize hmirroredScanned
          (by rw [← hfile] at hlimit; exact hsize.trans hlimit) hsize
      have honly := (touchesOnly_pagerCanonicalizeFileSize false).of_run hcanonical
      have hupgrade : pagerUpgrade prim file unlocked.result.superblock none unlocked =
          pure unlocked.result.superblock := by
        simp [pagerUpgrade]
      obtain ⟨after, hclear, -, hothers⟩ := run_walClear sized
      have hnotLog : sized.names .wal ≠ some file := by
        rw [honly.names]
        rcases hunwritten.wal with hsame | hnone
        · rw [hsame, hname]
          exact fun heq => hrest.distinct (Option.some.inj heq)
        · simp [hnone]
      rw [hcanonical, resume_ok, run_bind, hupgrade, run_pure, resume_ok, run_bind, hclear,
        resume_ok, run_pure, hothers file hnotLog, hcontents]
      exact Contents.Within.refl _

/-- Recovery of a plaintext database writes only pages that are proven to be of this
database, except where a damaged header leaves a log of version 4; and then an open
with a log of another database changes no page. -/
theorem recovery_identity {unlocked : Unlocked} (h : AtRest prim none disk file wal unlocked) :
    (IdentityBound prim file wal unlocked.result.superblock.toSuperblock disk ↔
      ¬V4Fallback prim unlocked.result.superblock.toSuperblock (disk.bytes wal)) ∧
    (IdentityBound prim file wal unlocked.result.superblock.toSuperblock disk →
      ForeignLog prim unlocked.result.superblock.toSuperblock (disk.bytes wal) →
      (fileContents unlocked.result.superblock.toSuperblock (disk.bytes file)).Within
        (fileContents unlocked.result.superblock.toSuperblock
          (((pagerOpen prim none).run exec disk).2.bytes file))) := by
  obtain ⟨_, _, _, hmirrored, _⟩ := run_pagerOpen_mirrored h
  have hbound : IdentityBound prim file wal unlocked.result.superblock.toSuperblock disk ↔
      ¬V4Fallback prim unlocked.result.superblock.toSuperblock (disk.bytes wal) := by
    constructor
    · intro hbound hv4
      exact hv4.not_bound hmirrored.pageSize hmirrored.geometry h.log hbound
    · intro hv4
      exact identityBound_of_not_v4Fallback hv4 hmirrored.sized.checkpointLsn h.log h.distinct
  exact ⟨hbound, fun hproven hforeign => pagerOpen_foreign_pages h hforeign (hbound.mp hproven)⟩

end Identity

section Sample

def plainSlot : Bytes := (encodeSlot .sample plainSuperblock none).toOption.getD []

def plainPage (lsn : Nat) (payload : Bytes) : Bytes :=
  (pageEncode .sample 4096 (.plain .data) 1 lsn payload).toOption.getD []

def plainContent : Bytes := plainSlot ++ (plainSlot ++ plainPage 0 [7])

def plainUnlocked : Unlocked :=
  { result := { superblock := plainSuperblock, selectedSlot := .first, validMirrorCount := 2 }
    dataKey := none, legacyUpgradePending := false }

lemma plain_atRest (log : Bytes) :
    AtRest .sample none (restDisk plainContent log) databaseInode walInode plainUnlocked := by
  have hsized : plainSuperblock.Sized := by constructor <;> decide
  have hslot : encodeSlot .sample plainSuperblock none = .ok plainSlot :=
    eq_ok_getD [] (by decide +kernel)
  exact atRest_restDisk log (mirrored_encodeSlot _ hsized hslot).read rfl (by decide +kernel)

/-- A frame of version 4 and its commit record, as a release before version 5 wrote
them; neither names a database. -/
def foreignFrame : Bytes :=
  write 8 1 ++ (write 8 1 ++ (write 4 0 ++ (write 4 1 ++ plainPage 1 [9])))

def foreignCommitImage (checksum : Nat) : Bytes :=
  walCommitMagic ++ (write 2 4 ++ (write 2 walCommitSize ++ (write 8 1 ++ (write 4 1 ++
    (write 8 2 ++ (write 8 0 ++ (write 4 (Primitives.sample.crc32 foreignFrame).toNat ++
      write 4 checksum)))))))

def foreignCommit : Bytes :=
  foreignCommitImage
    (crc32ZeroedRange .sample (foreignCommitImage 0) walCommitChecksumOffset 4)

/-- The log of another database under a header sector that was damaged. -/
def foreignLog : Bytes := (1 :: List.replicate 63 0) ++ (foreignFrame ++ foreignCommit)

/-- Recovery takes the page of the other database for its own. -/
theorem foreignLog_replayed : ForeignLog .sample plainSuperblock.toSuperblock foreignLog ∧
      AtRest .sample none (restDisk plainContent foreignLog) databaseInode walInode plainUnlocked ∧
      ¬IdentityBound .sample databaseInode walInode plainSuperblock.toSuperblock
        (restDisk plainContent foreignLog) := by
  have hv4 : V4Fallback .sample plainSuperblock.toSuperblock foreignLog :=
    { size := by decide +kernel
      present := by decide +kernel
      damaged := by decide +kernel
      notV5 := by decide +kernel
      txn := ⟨⟨1, 1, 2, 0⟩, by constructor <;> decide +kernel⟩
      range := by decide +kernel }
  refine ⟨⟨?_, ?_⟩, plain_atRest foreignLog, ?_⟩
  · intro hcrc
    rw [hv4.damaged] at hcrc
    cases hcrc
  · decide +kernel
  · exact hv4.not_bound (by decide) (by decide) rfl

/-- The same log under a header of zeros is refused. -/
theorem recovery_identity_zero_header :
    IdentityBound .sample databaseInode walInode plainSuperblock.toSuperblock
      (restDisk plainContent (List.replicate 64 0 ++ (foreignFrame ++ foreignCommit))) := by
  refine (recovery_identity (plain_atRest _)).1.mpr ?_
  intro hv4
  have habsent : walHeaderPresent (List.replicate 64 0 ++ (foreignFrame ++ foreignCommit)) =
      false := by decide +kernel
  have hpresent := hv4.present
  rw [restDisk_wal, habsent] at hpresent
  cases hpresent

end Sample

end ShibaDb
