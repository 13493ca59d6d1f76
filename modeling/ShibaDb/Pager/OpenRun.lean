/-
An open on a medium that works, stage by stage: which files a stage touches and
what it leaves in the data file.
-/
import ShibaDb.Pager.Contents
import ShibaDb.Pager.Open

namespace ShibaDb

open CallProgram FileSystem

/-- Whatever the outcome, only the file was touched. -/
def TouchesOnly {α : Type} (file : FileInode) (program : FileM α) : Prop :=
  ∀ disk, OnlyTouches file disk (program.run exec disk).2

section Touches

variable {α β : Type} {file other : FileInode} {name : FileName} {program : FileM α}

lemma TouchesOnly.of_run {disk after : FileDisk} {result : Except SdbError α}
    (h : TouchesOnly file program) (hrun : program.run exec disk = (result, after)) :
    OnlyTouches file disk after := by
  have htouches := h disk
  rwa [hrun] at htouches

lemma touchesOnly_pure (value : α) : TouchesOnly file (pure value : FileM α) :=
  fun disk => OnlyTouches.refl file disk

lemma touchesOnly_fail (error : SdbError) : TouchesOnly file (Program.fail error : FileM α) :=
  fun disk => OnlyTouches.refl file disk

lemma touchesOnly_fromExcept (result : Except SdbError α) :
    TouchesOnly file (fromExcept result) := by
  intro disk
  rw [run_fromExcept]
  exact OnlyTouches.refl file disk

lemma TouchesOnly.bind {next : α → FileM β} (hprogram : TouchesOnly file program)
    (hnext : ∀ value, TouchesOnly file (next value)) : TouchesOnly file (program >>= next) := by
  intro disk
  have hfirst := hprogram disk
  rw [run_bind]
  rcases hrun : program.run exec disk with ⟨_ | value, middle⟩
  · rw [hrun] at hfirst
    exact hfirst
  · rw [hrun] at hfirst
    exact hfirst.trans (hnext value middle)

lemma TouchesOnly.attempt (hprogram : TouchesOnly file program) :
    TouchesOnly file program.attempt := by
  intro disk
  rw [run_attempt]
  exact hprogram disk

lemma TouchesOnly.ite {p : Prop} [Decidable p] {program' : FileM α} (h : TouchesOnly file program)
    (h' : TouchesOnly file program') : TouchesOnly file (if p then program else program') := by
  split
  · exact h
  · exact h'

lemma touchesOnly_fileOpenExisting : TouchesOnly file (fileOpenExisting name) := by
  intro disk
  cases hname : disk.names name with
  | none =>
    rw [run_fileOpenExisting_missing hname]
    exact OnlyTouches.refl file disk
  | some inode =>
    rw [run_fileOpenExisting hname]
    exact OnlyTouches.refl file disk

lemma touchesOnly_fileSize : TouchesOnly file (fileSize other) := by
  intro disk
  rw [run_fileSize]
  exact OnlyTouches.refl file disk

lemma touchesOnly_fileReadFull (offset size : Nat) :
    TouchesOnly file (fileReadFull other offset size) := by
  intro disk
  rw [run_fileReadFull_disk]
  exact OnlyTouches.refl file disk

lemma touchesOnly_fileWriteFull (offset : Nat) (data : Bytes) :
    TouchesOnly file (fileWriteFull file offset data) := by
  intro disk
  rcases Nat.lt_or_ge maxOffset offset with hfar | hoffset
  · rw [run_fileWriteFull_far hfar]
    exact OnlyTouches.refl file disk
  · rw [run_fileWriteFull hoffset]
    exact onlyTouches_editFile _

lemma touchesOnly_fileResizeTo (size : Nat) : TouchesOnly file (fileResizeTo file size) := by
  intro disk
  rcases Nat.lt_or_ge maxOffset size with hfar | hsize
  · rw [run_fileResizeTo_far hfar]
    exact OnlyTouches.refl file disk
  · rw [run_fileResizeTo hsize]
    exact onlyTouches_editFile _

lemma touchesOnly_fileSync : TouchesOnly file (fileSync file) := by
  intro disk
  rw [run_fileSync]
  exact onlyTouches_syncFile

end Touches

section Stages

variable {prim : Primitives} {file : FileInode} {superblock : SuperblockV1} {dataKey : Option Bytes}

lemma touchesOnly_superblockStoreUpdateFile (next : SuperblockV1) :
    TouchesOnly file (superblockStoreUpdateFile prim file next dataKey) := by
  apply TouchesOnly.bind (touchesOnly_fromExcept _)
  intro encoded
  apply TouchesOnly.bind
  · intro disk
    rw [run_superblockStoreReadFile]
    exact OnlyTouches.refl file disk
  intro current
  apply TouchesOnly.ite (touchesOnly_fail _)
  apply TouchesOnly.bind (touchesOnly_fileWriteFull _ _)
  intro _
  apply TouchesOnly.bind touchesOnly_fileSync
  intro _
  apply TouchesOnly.bind (touchesOnly_fileWriteFull _ _)
  intro _
  exact touchesOnly_fileSync

lemma touchesOnly_pagerAdvance (recovery : WalRecovery) :
    TouchesOnly file (pagerAdvance prim file superblock dataKey recovery) := by
  apply TouchesOnly.ite
  · apply TouchesOnly.ite (touchesOnly_fail _)
    apply TouchesOnly.bind (touchesOnly_fromExcept _)
    intro generation
    apply TouchesOnly.bind (touchesOnly_superblockStoreUpdateFile _)
    intro _
    exact touchesOnly_pure _
  · exact touchesOnly_pure _

lemma touchesOnly_pagerCheckTrailing (pageSize finish fuel offset : Nat) :
    TouchesOnly file (pagerCheckTrailing file pageSize finish fuel offset) := by
  induction fuel generalizing offset with
  | zero => exact touchesOnly_pure _
  | succ fuel ih =>
    apply TouchesOnly.ite _ (touchesOnly_pure _)
    apply TouchesOnly.bind (touchesOnly_fileReadFull _ _)
    intro bytes
    apply TouchesOnly.ite (touchesOnly_fail _) (ih _)

lemma touchesOnly_pagerCanonicalizeFileSize (pending : Bool) :
    TouchesOnly file (pagerCanonicalizeFileSize file superblock pending) := by
  apply TouchesOnly.ite (touchesOnly_fail _)
  apply TouchesOnly.ite (touchesOnly_fail _)
  apply TouchesOnly.bind touchesOnly_fileSize
  intro actualSize
  apply TouchesOnly.ite (touchesOnly_fail _)
  apply TouchesOnly.ite (touchesOnly_pure _)
  have hresize : TouchesOnly file (fileResizeTo file
      (canonicalSize superblock.nextPageId superblock.pageSize) >>= fun _ => fileSync file) :=
    TouchesOnly.bind (touchesOnly_fileResizeTo _) fun _ => touchesOnly_fileSync
  cases pending with
  | false => exact hresize
  | true => exact TouchesOnly.bind (touchesOnly_pagerCheckTrailing _ _ _ _) fun _ => hresize

lemma touchesOnly_pagerUpgrade (password : Option Bytes) (unlocked : Unlocked) :
    TouchesOnly file (pagerUpgrade prim file superblock password unlocked) := by
  unfold pagerUpgrade
  split
  · apply TouchesOnly.ite (touchesOnly_fail _)
    apply TouchesOnly.bind (touchesOnly_fromExcept _)
    intro upgraded
    apply TouchesOnly.bind (touchesOnly_superblockStoreUpdateFile _)
    intro _
    exact touchesOnly_pure _
  · exact touchesOnly_pure _

lemma touchesOnly_walApplyFrames (pageSize txnId nextPageId : Nat) (pages : List WalPage) :
    TouchesOnly file (walApplyFrames prim file pageSize txnId nextPageId pages) := by
  induction pages with
  | nil => exact touchesOnly_pure _
  | cons page pages ih =>
    apply TouchesOnly.ite _ (touchesOnly_fail _)
    exact TouchesOnly.bind (touchesOnly_fileWriteFull _ _) fun _ => ih

lemma touchesOnly_walApplyTxns (base : Superblock) (txns : List WalTxn) :
    TouchesOnly file (walApplyTxns prim file base txns) := by
  induction txns with
  | nil => exact touchesOnly_pure _
  | cons txn txns ih =>
    unfold walApplyTxns
    split
    · exact TouchesOnly.bind (touchesOnly_walApplyFrames _ _ _ _) fun _ => ih
    · exact ih

lemma touchesOnly_walReplay (base : Superblock) (buffer : Bytes) :
    TouchesOnly file (walReplay prim file base dataKey buffer) := by
  apply TouchesOnly.bind (touchesOnly_fromExcept _)
  intro scanned
  apply TouchesOnly.bind (touchesOnly_walApplyTxns _ _)
  intro _
  apply TouchesOnly.ite (touchesOnly_fail _)
  apply TouchesOnly.ite _ (touchesOnly_pure _)
  exact TouchesOnly.bind touchesOnly_fileSync fun _ => touchesOnly_pure _

lemma touchesOnly_walRecoverAll (base : Superblock) :
    TouchesOnly file (walRecoverAll prim file base dataKey) := by
  apply TouchesOnly.ite (touchesOnly_fail _)
  apply TouchesOnly.ite (touchesOnly_fail _)
  apply TouchesOnly.bind touchesOnly_fileOpenExisting.attempt
  intro opened
  split
  · exact touchesOnly_pure _
  · exact touchesOnly_fail _
  · apply TouchesOnly.bind touchesOnly_fileSize
    intro size
    apply TouchesOnly.ite (touchesOnly_fail _)
    apply TouchesOnly.ite (touchesOnly_pure _)
    exact TouchesOnly.bind (touchesOnly_fileReadFull _ _) fun _ => touchesOnly_walReplay _ _

end Stages

section Replay

variable {prim : Primitives} {file : FileInode} {disk : FileDisk} {base : Superblock}
  {txns : List WalTxn} {txn : WalTxn} {page : WalPage}

/-- The disk after pages were written into the data file, one after the other. -/
def applyPages (database : FileInode) (pageSize : Nat) (disk : FileDisk) (pages : List WalPage) :
    FileDisk :=
  pages.foldl (fun disk page =>
    disk.editFile database (.write (pageOffset pageSize page.pageId) page.bytes)) disk

lemma applyPages_append (pageSize : Nat) (disk : FileDisk) (pages others : List WalPage) :
    applyPages file pageSize disk (pages ++ others) =
      applyPages file pageSize (applyPages file pageSize disk pages) others :=
  List.foldl_append

lemma applyPages_bytes (pageSize : Nat) (disk : FileDisk) (pages : List WalPage) :
    (applyPages file pageSize disk pages).bytes file =
      writePages pageSize (disk.bytes file) pages := by
  induction pages generalizing disk with
  | nil => rfl
  | cons page pages ih =>
    rw [applyPages, List.foldl_cons, ← applyPages, ih, writePages_cons, editFile_bytes]
    rfl

/-- The page passes the checks of `sdb_wal_apply_frames` and the file takes a write at
its offset. -/
def WalTxn.writable (prim : Primitives) (pageSize : Nat) (txn : WalTxn) (page : WalPage) : Bool :=
  walApplyValid prim pageSize txn.txnId txn.nextPageId page
    && pageOffset pageSize page.pageId ≤ maxOffset

/-- What applying a page returns that is not writable. -/
def WalTxn.refusal (prim : Primitives) (pageSize : Nat) (txn : WalTxn) (page : WalPage) :
    SdbError :=
  if walApplyValid prim pageSize txn.txnId txn.nextPageId page then .invalidArgument else .corrupt

/-- How applying pages of the transaction ends. -/
def WalTxn.applyStatus (prim : Primitives) (pageSize : Nat) (txn : WalTxn) (pages : List WalPage) :
    Except SdbError Unit :=
  match pages.find? fun page => !txn.writable prim pageSize page with
  | none => .ok ()
  | some page => .error (txn.refusal prim pageSize page)

/-- Applying frames writes them up to the first that is not writable. -/
lemma run_walApplyFrames (pageSize : Nat) (txn : WalTxn) (disk : FileDisk)
    (pages : List WalPage) :
    (walApplyFrames prim file pageSize txn.txnId txn.nextPageId pages).run exec disk =
      (txn.applyStatus prim pageSize pages,
        applyPages file pageSize disk (pages.takeWhile (txn.writable prim pageSize))) := by
  induction pages generalizing disk with
  | nil => rfl
  | cons page pages ih =>
    rw [walApplyFrames, List.takeWhile_cons, WalTxn.applyStatus, List.find?_cons]
    by_cases hvalid : walApplyValid prim pageSize txn.txnId txn.nextPageId page = true
    · rw [if_pos hvalid, run_bind]
      rcases Nat.lt_or_ge maxOffset (pageOffset pageSize page.pageId) with hfar | hoffset
      · have hrefused : txn.writable prim pageSize page = false := by
          simp [WalTxn.writable, Nat.not_le.mpr hfar]
        rw [run_fileWriteFull_far hfar, hrefused]
        simp [WalTxn.refusal, hvalid, applyPages]
      · have hwritable : txn.writable prim pageSize page = true := by
          simp [WalTxn.writable, hvalid, hoffset]
        rw [run_fileWriteFull hoffset, resume_ok, ih, hwritable]
        rfl
    · have hrefused : txn.writable prim pageSize page = false := by
        simp [WalTxn.writable, hvalid]
      rw [if_neg hvalid, hrefused]
      simp [WalTxn.refusal, hvalid, applyPages]

lemma WalTxn.applyStatus_eq_ok {pageSize : Nat} {pages : List WalPage} :
    txn.applyStatus prim pageSize pages = .ok () ↔
      ∀ page ∈ pages, txn.writable prim pageSize page = true := by
  rw [WalTxn.applyStatus]
  cases hfind : pages.find? fun page => !txn.writable prim pageSize page with
  | none => simpa using List.find?_eq_none.mp hfind
  | some page =>
    have hrefused : txn.writable prim pageSize page = false := by
      simpa using List.find?_some hfind
    simp only [reduceCtorEq, false_iff]
    intro hall
    rw [hall page (List.mem_of_find?_eq_some hfind)] at hrefused
    cases hrefused

/-- Applying pages ends in an error at the first that is not writable. -/
lemma WalTxn.applyStatus_eq_error {pageSize : Nat} {pages : List WalPage} {error : SdbError} :
    txn.applyStatus prim pageSize pages = .error error ↔
      ∃ front page rest, pages = front ++ page :: rest ∧
        (∀ other ∈ front, txn.writable prim pageSize other = true) ∧
        txn.writable prim pageSize page = false ∧ txn.refusal prim pageSize page = error := by
  rw [WalTxn.applyStatus]
  constructor
  · intro h
    split at h
    · cases h
    · rename_i page hfind
      obtain ⟨hrefused, front, rest, rfl, hfront⟩ := List.find?_eq_some_iff_append.mp hfind
      exact ⟨front, page, rest, rfl, by simpa using hfront, by simpa using hrefused,
        Except.error.inj h⟩
  · rintro ⟨front, page, rest, rfl, hfront, hrefused, rfl⟩
    have hfind : (front ++ page :: rest).find? (fun page => !txn.writable prim pageSize page) =
        some page :=
      List.find?_eq_some_iff_append.mpr ⟨by simpa using hrefused, front, rest, rfl, by
        simpa using hfront⟩
    rw [hfind]

/-- The pages recovery writes for transactions of the log. -/
def newPages (base : Superblock) (txns : List WalTxn) : List WalPage :=
  (txns.filter fun txn => base.checkpointLsn < txn.txnId).flatMap (·.pages)

lemma newPages_cons (txn : WalTxn) (txns : List WalTxn) : newPages base (txn :: txns) =
      (if base.checkpointLsn < txn.txnId then txn.pages else []) ++ newPages base txns := by
  by_cases hfresh : base.checkpointLsn < txn.txnId
  · simp [newPages, hfresh]
  · simp [newPages, hfresh]

/-- Applying the transactions stops at this one. -/
structure StopsAt (prim : Primitives) (base : Superblock) (txns before : List WalTxn)
    (txn : WalTxn) (error : SdbError) : Prop where
  split : before ++ [txn] <+: txns
  before : ∀ other ∈ before, base.checkpointLsn < other.txnId →
    other.applyStatus prim base.pageSize other.pages = .ok ()
  fresh : base.checkpointLsn < txn.txnId
  status : txn.applyStatus prim base.pageSize txn.pages = .error error

lemma StopsAt.cons {before : List WalTxn} {head : WalTxn} {error : SdbError}
    (h : StopsAt prim base txns before txn error) (hhead : base.checkpointLsn < head.txnId →
      head.applyStatus prim base.pageSize head.pages = .ok ()) :
    StopsAt prim base (head :: txns) (head :: before) txn error where
  split := List.cons_prefix_cons.mpr ⟨rfl, h.split⟩
  before := List.forall_mem_cons.mpr ⟨hhead, h.before⟩
  fresh := h.fresh
  status := h.status

/-- Applying transactions writes the pages of those behind the checkpoint, or of whole
ones and the pages in front of one it refuses. -/
lemma run_walApplyTxns (prim : Primitives) (file : FileInode) (base : Superblock)
    (disk : FileDisk) (txns : List WalTxn) :
    ((∀ txn ∈ txns, base.checkpointLsn < txn.txnId →
        txn.applyStatus prim base.pageSize txn.pages = .ok ()) ∧
      (walApplyTxns prim file base txns).run exec disk =
        (.ok (), applyPages file base.pageSize disk (newPages base txns))) ∨
    ∃ before txn error, StopsAt prim base txns before txn error ∧
      (walApplyTxns prim file base txns).run exec disk =
        (.error error, applyPages file base.pageSize disk (newPages base before ++
          txn.pages.takeWhile (txn.writable prim base.pageSize))) := by
  induction txns generalizing disk with
  | nil => exact .inl ⟨by simp, rfl⟩
  | cons head txns ih =>
    by_cases hfresh : base.checkpointLsn < head.txnId
    · have hstep : walApplyTxns prim file base (head :: txns) =
          (walApplyFrames prim file base.pageSize head.txnId head.nextPageId head.pages >>=
            fun _ => walApplyTxns prim file base txns) := by
        rw [walApplyTxns, if_pos hfresh]
      rw [hstep, run_bind, run_walApplyFrames]
      cases hstatus : head.applyStatus prim base.pageSize head.pages with
      | ok _ =>
        rw [resume_ok, List.takeWhile_eq_self_iff.mpr (WalTxn.applyStatus_eq_ok.mp hstatus)]
        rcases ih (applyPages file base.pageSize disk head.pages) with
          ⟨hall, hrun⟩ | ⟨before, txn, error, hstops, hrun⟩
        · refine .inl ⟨List.forall_mem_cons.mpr ⟨fun _ => hstatus, hall⟩, ?_⟩
          rw [hrun, newPages_cons, if_pos hfresh, applyPages_append]
        · refine .inr ⟨head :: before, txn, error, hstops.cons fun _ => hstatus, ?_⟩
          rw [hrun, newPages_cons, if_pos hfresh, List.append_assoc,
            applyPages_append _ disk head.pages]
      | error error =>
        exact .inr ⟨[], head, error, ⟨⟨txns, rfl⟩, by simp, hfresh, hstatus⟩, rfl⟩
    · -- a transaction the checkpoint covers is passed over
      have hstep : walApplyTxns prim file base (head :: txns) =
          walApplyTxns prim file base txns := by
        rw [walApplyTxns, if_neg hfresh]
      rw [hstep, newPages_cons, if_neg hfresh, List.nil_append]
      rcases ih disk with ⟨hall, hrun⟩ | ⟨before, txn, error, hstops, hrun⟩
      · exact .inl ⟨List.forall_mem_cons.mpr ⟨fun hnew => absurd hnew hfresh, hall⟩, hrun⟩
      · refine .inr ⟨head :: before, txn, error, hstops.cons fun hnew => absurd hnew hfresh, ?_⟩
        rw [hrun, newPages_cons, if_neg hfresh, List.nil_append]

/-- Every page of the transactions can be written. -/
def TxnsWritable (prim : Primitives) (pageSize : Nat) (txns : List WalTxn) : Prop :=
  ∀ txn ∈ txns, ∀ page ∈ txn.pages, txn.writable prim pageSize page = true

lemma behind_replayed (hnew : ∀ txn ∈ txns, base.checkpointLsn < txn.txnId)
    (hnonempty : txns ≠ []) : (WalRecovery.behind base txns).replayed = true := by
  rcases List.eq_nil_or_concat txns with rfl | ⟨init, last, rfl⟩
  · exact absurd rfl hnonempty
  · rw [List.concat_eq_append] at hnew ⊢
    rw [WalRecovery.behind, List.getLast?_concat]
    exact List.any_eq_true.mpr ⟨last, by simp, by simpa using hnew last (by simp)⟩

/-- What recovery leaves behind when it wrote the frames of `txns`. -/
def replayed (database : FileInode) (pageSize : Nat) (disk : FileDisk) (txns : List WalTxn) :
    FileDisk :=
  if txns = [] then disk
  else (applyPages database pageSize disk (txns.flatMap (·.pages))).syncFile database

lemma replayed_bytes (file : FileInode) (pageSize : Nat) (disk : FileDisk) (txns : List WalTxn) :
    (replayed file pageSize disk txns).bytes file = writeTxns pageSize (disk.bytes file) txns := by
  have hwritten : ∀ content, writePages pageSize content (txns.flatMap (·.pages)) =
      writeTxns pageSize content txns := by
    intro content
    rw [writePages, List.foldl_flatMap]
    rfl
  rw [replayed]
  split
  · rename_i hnil
    rw [hnil]
    rfl
  · rw [syncFile_bytes, applyPages_bytes, hwritten]

/-- Replay of a log that was scanned to its end. -/
lemma run_walReplay (file : FileInode) (disk : FileDisk) {dataKey : Option Bytes}
    {buffer : Bytes} (hscan : walRecoverTxns prim base dataKey buffer = .ok (txns, false))
    (hnew : ∀ txn ∈ txns, base.checkpointLsn < txn.txnId) :
    (TxnsWritable prim base.pageSize txns ∧
      (walReplay prim file base dataKey buffer).run exec disk =
        (.ok (.behind base txns), replayed file base.pageSize disk txns)) ∨
    (¬TxnsWritable prim base.pageSize txns ∧
      ∃ before txn error after, StopsAt prim base txns before txn error ∧
        (walReplay prim file base dataKey buffer).run exec disk = (.error error, after)) := by
  rw [walReplay, run_bind, run_fromExcept, hscan, resume_ok, run_bind]
  rcases run_walApplyTxns prim file base disk txns with
    ⟨hall, hrun⟩ | ⟨before, txn, error, hstops, hrun⟩
  · refine .inl ⟨fun txn hmem => WalTxn.applyStatus_eq_ok.mp (hall txn hmem (hnew txn hmem)), ?_⟩
    have hpages : newPages base txns = txns.flatMap (·.pages) := by
      rw [newPages, List.filter_eq_self.mpr fun txn hmem => decide_eq_true (hnew txn hmem)]
    rw [hrun, resume_ok, hpages, replayed]
    by_cases hnil : txns = []
    · subst hnil
      rfl
    · simp [behind_replayed hnew hnil, hnil]
  · rw [hrun]
    refine .inr ⟨?_, before, txn, error, _, hstops, rfl⟩
    intro hall
    have hstatus := hstops.status
    rw [WalTxn.applyStatus_eq_ok.mpr (hall txn (hstops.split.subset (by simp)))] at hstatus
    cases hstatus

end Replay

end ShibaDb
