/-
Whether recovery that ends in an error has written frames of the transaction it
refuses.  Validation lets page ids pass that the data file cannot hold; applying
frames meets them one by one.
-/
import ShibaDb.Pager.LogRoundTrip

namespace ShibaDb

open CallProgram FileSystem LittleEndian Fallible List

/-- The transactions the scan of a log accepts. -/
def scannedTxns (prim : Primitives) (base : Superblock) (dataKey : Option Bytes) (log : Bytes) :
    List WalTxn :=
  match walRecoverTxns prim base dataKey log with
  | .ok (txns, _) => txns
  | .error _ => []

/-- What was written are the frames of whole transactions, in the order of the log:
of any further transaction no frame was written. -/
def WroteWhole (prim : Primitives) (file : FileInode) (base : Superblock) (dataKey : Option Bytes)
    (log : Bytes) (disk after : FileDisk) : Prop :=
  ∃ done, done <+: scannedTxns prim base dataKey log ∧
    after = applyPages file base.pageSize disk (newPages base done)

/-- What the write of a page without a place returns: `sdb_wal_apply_frames` refuses an
offset that has no 64 bits, the file one beyond `INT64_MAX`. -/
def pageRefusal (pageSize : Nat) (page : WalPage) : SdbError :=
  if (page.pageId.toNat - 1) * pageSize ≤ uint64Max - dataOffset then .invalidArgument
  else .corrupt

/-- Behind at least one page with a place in the data file there is one without, and
writing it returns `error`. -/
def SplitsWith (pageSize : Nat) (error : SdbError) (pages : List WalPage) : Prop :=
  ∃ front page rest, pages = front ++ page :: rest ∧ front ≠ [] ∧
    (∀ other ∈ front, PageReachable pageSize other) ∧ ¬PageReachable pageSize page ∧
    pageRefusal pageSize page = error

section Apply

variable {prim : Primitives} {file : FileInode} {base : Superblock} {dataKey : Option Bytes}
  {txns before : List WalTxn} {txn : WalTxn} {error : SdbError}

/-- The edits that wait for a sync count the pages that were written. -/
lemma applyPages_pending (pageSize : Nat) (disk : FileDisk) (pages : List WalPage) :
    ((applyPages file pageSize disk pages).files file).pending.length =
      (disk.files file).pending.length + pages.length := by
  induction pages generalizing disk with
  | nil => rfl
  | cons page pages ih =>
    have hedit : ((disk.editFile file (.write (pageOffset pageSize page.pageId)
        page.bytes)).files file).pending.length = (disk.files file).pending.length + 1 := by
      simp [Disk.editFile, Disk.setFile, Durable.Buffered.edit]
    rw [applyPages, foldl_cons, ← applyPages, ih, hedit, length_cons]
    omega

lemma StopsAt.not_before {other : List WalTxn} {last : WalTxn} {lastError : SdbError}
    (h : StopsAt prim base txns before txn error)
    (hother : StopsAt prim base txns other last lastError) : ¬before ++ [txn] <+: other := by
  intro hlead
  have hstatus := hother.before txn (hlead.subset (by simp)) h.fresh
  rw [h.status] at hstatus
  cases hstatus

lemma StopsAt.unique {other : List WalTxn} {last : WalTxn} {lastError : SdbError}
    (h : StopsAt prim base txns before txn error)
    (hother : StopsAt prim base txns other last lastError) :
    before = other ∧ txn = last ∧ error = lastError := by
  have hsame : before ++ [txn] = other ++ [last] := by
    rcases prefix_or_prefix_of_prefix h.split hother.split with hle | hle
    · rcases List.prefix_concat_iff.mp hle with heq | hle
      · exact heq
      · exact absurd hle (h.not_before hother)
    · rcases List.prefix_concat_iff.mp hle with heq | hle
      · exact heq.symm
      · exact absurd hle (hother.not_before h)
  obtain ⟨hbefore, hlast⟩ := append_inj' hsame rfl
  obtain rfl := List.singleton_inj.mp hlast
  exact ⟨hbefore, rfl, Except.error.inj (h.status.symm.trans hother.status)⟩

/-- Of pages that were validated, those can be written that have a place. -/
lemma WalTxn.writable_iff {page : WalPage}
    (h : page.Valid prim base dataKey txn.txnId txn.nextPageId) :
    txn.writable prim base.pageSize page = true ↔ PageReachable base.pageSize page := by
  rw [WalTxn.writable, Bool.and_eq_true, walApplyValid_iff h, decide_eq_true_eq, PageReachable,
    and_iff_right_iff_imp, pageOffset]
  simp only [maxOffset, uint64Max]
  omega

lemma WalTxn.refusal_eq {page : WalPage}
    (h : page.Valid prim base dataKey txn.txnId txn.nextPageId) :
    txn.refusal prim base.pageSize page = pageRefusal base.pageSize page := by
  simp only [WalTxn.refusal, pageRefusal, walApplyValid_iff h]

section

variable (hvalid : ∀ page ∈ txn.pages, page.Valid prim base dataKey txn.txnId txn.nextPageId)

include hvalid

lemma WalTxn.applyStatus_ok_iff : txn.applyStatus prim base.pageSize txn.pages = .ok () ↔
    ∀ page ∈ txn.pages, PageReachable base.pageSize page := by
  rw [WalTxn.applyStatus_eq_ok]
  exact forall₂_congr fun page hpage => WalTxn.writable_iff (hvalid page hpage)

/-- Applying validated pages fails behind a page it has written where they split. -/
lemma WalTxn.applyStatus_splits :
    txn.applyStatus prim base.pageSize txn.pages = .error error ∧
        txn.pages.takeWhile (txn.writable prim base.pageSize) ≠ [] ↔
      SplitsWith base.pageSize error txn.pages := by
  rw [WalTxn.applyStatus_eq_error]
  constructor
  · rintro ⟨⟨front, page, rest, hpages, hfront, hrefused, herror⟩, hwritten⟩
    have hpage := hvalid page (by simp [hpages])
    have htake : txn.pages.takeWhile (txn.writable prim base.pageSize) = front := by
      rw [hpages, takeWhile_append_of_pos hfront]
      simp [hrefused]
    refine ⟨front, page, rest, hpages, htake ▸ hwritten, ?_, ?_, ?_⟩
    · exact fun other hother => (WalTxn.writable_iff (hvalid other (by simp [hpages, hother]))).mp
        (hfront other hother)
    · rw [← WalTxn.writable_iff hpage, hrefused]
      exact Bool.false_ne_true
    · exact (WalTxn.refusal_eq hpage).symm.trans herror
  · rintro ⟨front, page, rest, hpages, hnonempty, hfront, hfar, herror⟩
    have hpage := hvalid page (by simp [hpages])
    have hwritable : ∀ other ∈ front, txn.writable prim base.pageSize other = true :=
      fun other hother => (WalTxn.writable_iff (hvalid other (by simp [hpages, hother]))).mpr
        (hfront other hother)
    have hrefused : txn.writable prim base.pageSize page = false := by
      rw [Bool.eq_false_iff, ne_eq, WalTxn.writable_iff hpage]
      exact hfar
    refine ⟨⟨front, page, rest, hpages, hwritable, hrefused,
      (WalTxn.refusal_eq hpage).trans herror⟩, ?_⟩
    rw [hpages, takeWhile_append_of_pos hwritable]
    exact append_ne_nil_of_left_ne_nil hnonempty _

end

end Apply

section Scanned

variable {prim : Primitives} {base : Superblock} {dataKey : Option Bytes} {format : FrameFormat}
  {txn : WalTxn} {txns : List WalTxn} {bytes rest : Bytes} {expected targetNext fuel : Nat}

/-- The bytes hold intact transactions one after the other. -/
inductive HoldsTxns (prim : Primitives) (base : Superblock) (dataKey : Option Bytes)
    (format : FrameFormat) : (expected targetNext : Nat) → Bytes → List WalTxn → Prop
  | nil {expected targetNext : Nat} {body : Bytes} :
      HoldsTxns prim base dataKey format expected targetNext body []
  | cons {expected targetNext : Nat} {body : Bytes} {rec : WalCommitRec} {txns : List WalTxn}
      (holds : HoldsTxn prim base dataKey format expected targetNext body rec)
      (rest : HoldsTxns prim base dataKey format ((rec.txnId + 1) % 2 ^ 64) rec.nextPageId
        ((body.drop (rec.frameCount * format.frameSize base.pageSize)).drop walCommitSize) txns) :
      HoldsTxns prim base dataKey format expected targetNext body
        (txnOf base format body rec :: txns)

lemma HoldsTxn.single {rec : WalCommitRec}
    (h : HoldsTxn prim base dataKey format expected targetNext bytes rec)
    (htxn : txn = txnOf base format bytes rec) :
    HoldsTxns prim base dataKey format expected targetNext bytes [txn] := by
  subst htxn
  exact HoldsTxns.cons h HoldsTxns.nil

lemma HoldsTxns.length_le (h : HoldsTxns prim base dataKey format expected targetNext bytes txns) :
    txns.length ≤ bytes.length := by
  induction h with
  | nil => exact Nat.zero_le _
  | cons holds _ ih =>
    have hroom := holds.room
    simp only [length_drop, walCommitSize] at ih hroom
    rw [length_cons]
    omega

/-- The pages of the transactions are ones recovery takes. -/
lemma HoldsTxns.valid (h : HoldsTxns prim base dataKey format expected targetNext bytes txns) :
    ∀ txn ∈ txns, ∀ page ∈ txn.pages,
      page.Valid prim base dataKey txn.txnId txn.nextPageId := by
  induction h with
  | nil => exact fun txn hmem => absurd hmem not_mem_nil
  | cons holds _ ih => exact forall_mem_cons.mpr ⟨holds.valid, ih⟩

/-- The scan accepts what the bytes hold. -/
lemma HoldsTxns.isPrefix_walScan
    (h : HoldsTxns prim base dataKey format expected targetNext bytes txns)
    (hfuel : txns.length ≤ fuel) :
    txns <+: (walScan prim base dataKey format fuel expected targetNext bytes).1 := by
  induction h generalizing fuel with
  | nil => exact nil_prefix
  | cons holds _ ih =>
    cases fuel with
    | zero => simp at hfuel
    | succ fuel =>
      rw [walScan_accept holds.step]
      exact List.cons_prefix_cons.mpr ⟨rfl, ih (by simpa using hfuel)⟩

/-- The bytes hold what the scan accepts. -/
lemma holdsTxns_of_walScan
    (h : txns <+: (walScan prim base dataKey format fuel expected targetNext bytes).1) :
    HoldsTxns prim base dataKey format expected targetNext bytes txns := by
  induction fuel generalizing expected targetNext bytes txns with
  | zero =>
    obtain rfl := List.prefix_nil.mp h
    exact HoldsTxns.nil
  | succ fuel ih =>
    cases txns with
    | nil => exact HoldsTxns.nil
    | cons txn txns =>
      cases hstep : walStep prim base dataKey format expected targetNext bytes with
      | stop =>
        rw [walScan, hstep] at h
        exact absurd h.length_le (by simp)
      | reject =>
        rw [walScan, hstep] at h
        exact absurd h.length_le (by simp)
      | accept first rest =>
        rw [walScan_accept hstep] at h
        obtain ⟨rfl, hrest⟩ := List.cons_prefix_cons.mp h
        obtain ⟨rec, hholds, rfl, -⟩ := holdsTxn_of_step hstep
        obtain ⟨-, rfl⟩ := ScanStep.accept.inj (hholds.step.symm.trans hstep)
        exact HoldsTxns.cons hholds (ih hrest)

end Scanned

section Reject

variable {prim : Primitives} {file wal : FileInode} {base : Superblock} {dataKey : Option Bytes}
  {log : Bytes} {disk after : FileDisk} {format : FrameFormat} {txn : WalTxn} {before : List WalTxn}
  {error : SdbError}

/-- The log holds an intact transaction behind the checkpoint that splits, and every
transaction before it can be written. -/
structure BreaksAt (prim : Primitives) (base : Superblock) (dataKey : Option Bytes) (log : Bytes)
    (error : SdbError) (format : FrameFormat) (before : List WalTxn) (txn : WalTxn) : Prop where
  size : log.length ≤ walMaxBytes
  layout : walClassify prim base dataKey log = .ok format
  holds : HoldsTxns prim base dataKey format ((base.checkpointLsn + 1) % 2 ^ 64) base.nextPageId
    (log.drop walHeaderSize) (before ++ [txn])
  before : ∀ other ∈ before, base.checkpointLsn < other.txnId →
    ∀ page ∈ other.pages, PageReachable base.pageSize page
  fresh : base.checkpointLsn < txn.txnId
  splits : SplitsWith base.pageSize error txn.pages

def Breaks (prim : Primitives) (base : Superblock) (dataKey : Option Bytes) (log : Bytes)
    (error : SdbError) : Prop :=
  ∃ format before txn, BreaksAt prim base dataKey log error format before txn

lemma scannedTxns_eq (h : walClassify prim base dataKey log = .ok format) :
    scannedTxns prim base dataKey log = (walScan prim base dataKey format log.length
      ((base.checkpointLsn + 1) % 2 ^ 64) base.nextPageId (log.drop walHeaderSize)).1 := by
  rw [scannedTxns, walRecoverTxns, h]
  rfl

/-- Where applying the accepted transactions stops behind a frame it has written. -/
lemma StopsAt.breaks (hsize : log.length ≤ walMaxBytes)
    (hlayout : walClassify prim base dataKey log = .ok format)
    (h : StopsAt prim base (scannedTxns prim base dataKey log) before txn error)
    (hwritten : txn.pages.takeWhile (txn.writable prim base.pageSize) ≠ []) :
    BreaksAt prim base dataKey log error format before txn := by
  have hholds : HoldsTxns prim base dataKey format ((base.checkpointLsn + 1) % 2 ^ 64)
      base.nextPageId (log.drop walHeaderSize) (before ++ [txn]) := by
    apply holdsTxns_of_walScan
    rw [← scannedTxns_eq hlayout]
    exact h.split
  refine ⟨hsize, hlayout, hholds, ?_, h.fresh, ?_⟩
  · intro other hother hfresh
    exact (WalTxn.applyStatus_ok_iff (hholds.valid other (by simp [hother]))).mp
      (h.before other hother hfresh)
  · exact (WalTxn.applyStatus_splits (hholds.valid txn (by simp))).mp ⟨h.status, hwritten⟩

/-- Such a log stops the application in the middle of a transaction. -/
lemma BreaksAt.stopsAt (h : BreaksAt prim base dataKey log error format before txn) :
    StopsAt prim base (scannedTxns prim base dataKey log) before txn error ∧
      txn.pages.takeWhile (txn.writable prim base.pageSize) ≠ [] := by
  obtain ⟨hstatus, hwritten⟩ :=
    (WalTxn.applyStatus_splits (h.holds.valid txn (by simp))).mpr h.splits
  refine ⟨⟨?_, ?_, h.fresh, hstatus⟩, hwritten⟩
  · rw [scannedTxns_eq h.layout]
    apply h.holds.isPrefix_walScan
    refine le_trans h.holds.length_le ?_
    rw [length_drop]
    exact Nat.sub_le _ _
  · intro other hother hfresh
    exact (WalTxn.applyStatus_ok_iff (h.holds.valid other (by simp [hother]))).mpr
      (h.before other hother hfresh)

lemma newPages_prefix_length {txns others : List WalTxn} (h : txns <+: others) :
    (newPages base txns).length ≤ (newPages base others).length := by
  obtain ⟨rest, rfl⟩ := h
  simp [newPages]

/-- Some but not all frames of a transaction are not the frames of whole
transactions. -/
lemma StopsAt.not_wroteWhole
    (h : StopsAt prim base (scannedTxns prim base dataKey log) before txn error)
    (hwritten : txn.pages.takeWhile (txn.writable prim base.pageSize) ≠ []) :
    ¬WroteWhole prim file base dataKey log disk
      (applyPages file base.pageSize disk (newPages base before ++
        txn.pages.takeWhile (txn.writable prim base.pageSize))) := by
  rintro ⟨done, hdone, heq⟩
  have hcount : (newPages base before).length +
      (txn.pages.takeWhile (txn.writable prim base.pageSize)).length =
        (newPages base done).length := by
    have hpending := congrArg (fun disk : FileDisk => (disk.files file).pending.length) heq
    simp only [applyPages_pending, length_append] at hpending
    omega
  have hsome := List.length_pos_iff.mpr hwritten
  have hfew : (txn.pages.takeWhile (txn.writable prim base.pageSize)).length <
      txn.pages.length := by
    refine lt_of_le_of_ne ( takeWhile_prefix _).length_le ?_
    intro hlength
    have hall := ( takeWhile_prefix _).eq_of_length hlength
    have hstatus := h.status
    rw [WalTxn.applyStatus_eq_ok.mpr (List.takeWhile_eq_self_iff.mp hall)] at hstatus
    cases hstatus
  have hnext : (newPages base (before ++ [txn])).length =
      (newPages base before).length + txn.pages.length := by
    simp [newPages, h.fresh]
  -- whole transactions end before `txn` or behind it
  rcases prefix_or_prefix_of_prefix hdone h.split with hshort | hlong
  · rcases List.prefix_concat_iff.mp hshort with rfl | hshort
    · omega
    · have hle : (newPages base done).length ≤ (newPages base before).length :=
        newPages_prefix_length hshort
      omega
  · have hle : (newPages base (before ++ [txn])).length ≤ (newPages base done).length :=
      newPages_prefix_length hlong
    omega

lemma walRecoverTxns_scannedTxns (h : walClassify prim base dataKey log = .ok format) :
    ∃ rejected, walRecoverTxns prim base dataKey log =
      .ok (scannedTxns prim base dataKey log, rejected) := by
  rw [scannedTxns, walRecoverTxns, h]
  exact ⟨_, rfl⟩

/-- The replay of a log that breaks writes part of a transaction. -/
lemma BreaksAt.run_walReplay (h : BreaksAt prim base dataKey log error format before txn)
    (file : FileInode) (disk : FileDisk) :
    ∃ after, (walReplay prim file base dataKey log).run exec disk = (.error error, after) ∧
      ¬WroteWhole prim file base dataKey log disk after := by
  obtain ⟨hstops, hwritten⟩ := h.stopsAt
  obtain ⟨rejected, hrecover⟩ := walRecoverTxns_scannedTxns h.layout
  rw [walReplay, run_bind, run_fromExcept, hrecover, resume_ok, run_bind]
  rcases run_walApplyTxns prim file base disk (scannedTxns prim base dataKey log) with
    ⟨hall, -⟩ | ⟨other, last, lastError, hother, hrun⟩
  · have hstatus := hall txn (hstops.split.subset (by simp)) hstops.fresh
    rw [hstops.status] at hstatus
    cases hstatus
  · obtain ⟨rfl, rfl, rfl⟩ := hstops.unique hother
    exact ⟨_, by rw [hrun, resume_error], hstops.not_wroteWhole hwritten⟩

/-- A replay that fails has written whole transactions, or the log breaks. -/
lemma wroteWhole_or_breaks (hsize : log.length ≤ walMaxBytes)
    (hrun : (walReplay prim file base dataKey log).run exec disk = (.error error, after)) :
    WroteWhole prim file base dataKey log disk after ∨ Breaks prim base dataKey log error := by
  rw [walReplay, run_bind, run_fromExcept] at hrun
  cases hclassify : walClassify prim base dataKey log with
  | error refused =>
    have hrecover : walRecoverTxns prim base dataKey log = .error refused := by
      rw [walRecoverTxns, hclassify]
      rfl
    rw [hrecover] at hrun
    exact .inl ⟨[], nil_prefix, (Prod.mk.inj hrun).2.symm⟩
  | ok format =>
    obtain ⟨rejected, hrecover⟩ := walRecoverTxns_scannedTxns hclassify
    rw [hrecover, resume_ok, run_bind] at hrun
    rcases run_walApplyTxns prim file base disk (scannedTxns prim base dataKey log) with
      ⟨-, happly⟩ | ⟨before, txn, refused, hstops, happly⟩
    · rw [happly, resume_ok] at hrun
      refine .inl ⟨_, prefix_refl _, ?_⟩
      cases rejected with
      | true => exact (Prod.mk.inj hrun).2.symm
      | false =>
        rw [if_neg Bool.false_ne_true] at hrun
        dsimp only at hrun
        split at hrun
        · rw [run_bind, run_fileSync, resume_ok, run_pure] at hrun
          cases (Prod.mk.inj hrun).1
        · cases (Prod.mk.inj hrun).1
    · rw [happly, resume_error] at hrun
      obtain ⟨herror, rfl⟩ := Prod.mk.inj hrun
      obtain rfl := Except.error.inj herror
      by_cases hwritten : txn.pages.takeWhile (txn.writable prim base.pageSize) = []
      · rw [hwritten, append_nil]
        exact .inl ⟨before, (prefix_append before [txn]).trans hstops.split, rfl⟩
      · exact .inr ⟨_, _, _, hstops.breaks hsize hclassify hwritten⟩

/-- The pages of a log of the first two versions are checked for an offset of 64 bits. -/
lemma walLegacyRecord_pages (hvalid : superblockValid base = true)
    (h : walLegacyRecord prim base dataKey log = .ok (some txn)) :
    ∀ page ∈ txn.pages, page.Valid prim base dataKey txn.txnId txn.nextPageId ∧
      pageRefusal base.pageSize page = .invalidArgument := by
  simp only [superblockValid, Bool.and_eq_true, decide_eq_true_eq] at hvalid
  obtain ⟨⟨⟨⟨-, hgeometry⟩, -⟩, hfreelist⟩, -⟩ := hvalid
  have hfits := fits_of_walLegacyRecord (pageGeometryValid_lt hgeometry) (.inr hfreelist) h
  obtain ⟨target, -, htarget, -, -, -, rfl⟩ := walLegacyRecord_eq_some h
  have hnext : pageGeometryValid target.1 base.pageSize = true := by
    rcases walLegacyTarget_eq_ok htarget with ⟨hsame, -⟩ | ⟨-, -, hnext, -⟩
    · rw [hsame]
      exact hgeometry
    · exact hnext
  intro page hpage
  have hpageValid := hfits.pages page hpage
  refine ⟨hpageValid, if_pos ?_⟩
  exact (walApplyValid_iff hpageValid).mp (walApplyValid_of_valid hpageValid le_rfl hnext)

/-- `sdb_wal_recover` fails before it writes, unless its one transaction splits. -/
lemma run_walLegacyReplay_error (hvalid : superblockValid base = true)
    (hrun : (walLegacyReplay prim file base dataKey log).run exec disk = (.error error, after)) :
    after = disk ∨ error = .invalidArgument ∧
      ∃ txn, walLegacyRecord prim base dataKey log = .ok (some txn) ∧
        SplitsWith base.pageSize error txn.pages := by
  rw [walLegacyReplay, run_bind, run_fromExcept] at hrun
  cases hrecord : walLegacyRecord prim base dataKey log with
  | error refused =>
    rw [hrecord] at hrun
    exact .inl (Prod.mk.inj hrun).2.symm
  | ok record =>
    rw [hrecord, resume_ok] at hrun
    cases record with
    | none => cases hrun
    | some txn =>
      simp only at hrun
      split at hrun
      swap
      · cases hrun
      rw [run_bind, run_walApplyFrames] at hrun
      cases hstatus : txn.applyStatus prim base.pageSize txn.pages with
      | ok _ =>
        rw [hstatus, resume_ok, run_bind, run_fileSync, resume_ok] at hrun
        cases hrun
      | error refused =>
        rw [hstatus, resume_error] at hrun
        obtain ⟨herror, rfl⟩ := Prod.mk.inj hrun
        obtain rfl := Except.error.inj herror
        by_cases hwritten : txn.pages.takeWhile (txn.writable prim base.pageSize) = []
        · rw [hwritten]
          exact .inl rfl
        · have hpages := walLegacyRecord_pages hvalid hrecord
          have hsplits := (WalTxn.applyStatus_splits fun page hpage => (hpages page hpage).1).mp
            ⟨hstatus, hwritten⟩
          refine .inr ⟨?_, txn, rfl, hsplits⟩
          obtain ⟨front, page, rest, hsplit, -, -, -, rfl⟩ := hsplits
          exact (hpages page (by simp [hsplit])).2

/-- Recovery that fails has written whole transactions only, unless the log holds a
transaction of which some page has a place in the data file and a later one has not;
the reader of the first two versions has then written nothing at all. -/
theorem recovery_rejects_whole (hvalid : superblockValid base = true)
    (hname : disk.names .wal = some wal) :
    (∀ error, (∀ after, (walRecoverAll prim file base dataKey).run exec disk =
        (.error error, after) → WroteWhole prim file base dataKey (disk.bytes wal) disk after) ↔
      ¬Breaks prim base dataKey (disk.bytes wal) error) ∧
    ∀ error after, (walRecover prim file base dataKey).run exec disk = (.error error, after) →
      after = disk ∨ error = .invalidArgument ∧
        ∃ txn, walLegacyRecord prim base dataKey (disk.bytes wal) = .ok (some txn) ∧
          SplitsWith base.pageSize error txn.pages := by
  have hfields := hvalid
  simp only [superblockValid, Bool.and_eq_true] at hfields
  obtain ⟨⟨⟨⟨hpageSize, hgeometry⟩, -⟩, -⟩, -⟩ := hfields
  constructor
  · intro error
    by_cases hlarge : walMaxBytes < (disk.bytes wal).length
    · rw [run_walRecoverAll_large base hpageSize hgeometry hname hlarge]
      constructor
      · rintro - ⟨format, before, txn, hbreaks⟩
        exact absurd hbreaks.size (Nat.not_le.mpr hlarge)
      · intro _ after hrun
        exact ⟨[], List.nil_prefix, (Prod.mk.inj hrun).2.symm⟩
    · have hsize := Nat.not_lt.mp hlarge
      by_cases hshort : (disk.bytes wal).length ≤ walHeaderSize
      · rw [run_walRecoverAll_short base hpageSize hgeometry hname hshort]
        constructor
        · rintro - ⟨format, before, txn, hbreaks⟩
          have hlength := hbreaks.holds.length_le
          rw [List.length_drop, List.length_append, List.length_singleton] at hlength
          omega
        · intro _ after hrun
          cases hrun
      · rw [run_walRecoverAll_log base hpageSize hgeometry hname (Nat.not_le.mp hshort) hsize]
        constructor
        · rintro hall ⟨format, before, txn, hbreaks⟩
          obtain ⟨after, hrun, hpart⟩ := hbreaks.run_walReplay file disk
          exact hpart (hall after hrun)
        · intro hnone after hrun
          exact (wroteWhole_or_breaks hsize hrun).resolve_right hnone
  · intro error after hrun
    rcases run_walRecover_cases prim file base dataKey hname with
      ⟨result, hresult, -⟩ | ⟨refused, hresult⟩ | hresult
    · rw [hresult] at hrun
      cases (Prod.mk.inj hrun).1
    · rw [hresult] at hrun
      exact .inl (Prod.mk.inj hrun).2.symm
    · rw [hresult] at hrun
      exact run_walLegacyReplay_error hvalid hrun

lemma run_walRecoverAll_restDisk {content : Bytes}
    (hpageSize : pageSizeValid base.pageSize = true)
    (hgeometry : pageGeometryValid base.nextPageId base.pageSize = true)
    (hlow : walHeaderSize < log.length) (hhigh : log.length ≤ walMaxBytes) :
    (walRecoverAll prim databaseInode base dataKey).run exec (restDisk content log) =
      (walReplay prim databaseInode base dataKey log).run exec (restDisk content log) :=
  run_walRecoverAll_log base hpageSize hgeometry
    (show (restDisk content log).names .wal = some walInode from rfl) hlow hhigh

/-- A log of zeros is refused as a whole. -/
theorem recovery_rejects_whole_zeros :
    ((walRecoverAll .sample databaseInode plainSuperblock.toSuperblock none).run exec
      (restDisk plainContent (List.replicate 65 0))).1 = .error .corrupt ∧
    ∀ after, (walRecoverAll .sample databaseInode plainSuperblock.toSuperblock none).run exec
        (restDisk plainContent (List.replicate 65 0)) = (.error .corrupt, after) →
      WroteWhole .sample databaseInode plainSuperblock.toSuperblock none (List.replicate 65 0)
        (restDisk plainContent (List.replicate 65 0)) after := by
  have hclassify : walClassify .sample plainSuperblock.toSuperblock none (List.replicate 65 0) =
      .error .corrupt := walClassify_zero (by decide)
  constructor
  · rw [run_walRecoverAll_restDisk (by decide) (by decide) (by decide) (by decide), walReplay,
      run_bind, run_fromExcept, walRecoverTxns, hclassify]
    rfl
  · have hnone : ¬Breaks .sample plainSuperblock.toSuperblock none (List.replicate 65 0)
        .corrupt := by
      rintro ⟨format, before, txn, hbreaks⟩
      have hlayout := hbreaks.layout
      rw [hclassify] at hlayout
      cases hlayout
    exact (recovery_rejects_whole (by decide)
      (show (restDisk plainContent (List.replicate 65 0)).names .wal = some walInode from rfl)).1
        .corrupt |>.mpr hnone

end Reject

section Sample

/-- A transaction of two pages, of which only the first has a place in the data
file. -/
def splitTxn : WalTxn :=
  { txnId := 1
    pages := [⟨1, plainPage 1 [9]⟩, ⟨UInt64.ofNat (2 ^ 60), farPage (UInt64.ofNat (2 ^ 60))⟩]
    nextPageId := 2 ^ 61, freelistPage := 0 }

def splitLog : Bytes :=
  walHeader .sample plainSuperblock.toSuperblock 1 2 ++
    (splitTxn.bytes .sample plainSuperblock.fileId ++ [])

lemma splitTxn_fits : splitTxn.Fits .sample plainSuperblock.toSuperblock none 1 2 where
  txnId := rfl
  positive := by decide
  txnId_lt := by decide
  nonempty := by decide
  count := by decide
  nextPageId := by decide
  nextPageId_lt := by decide
  freelist := .inl rfl
  pages := by
    have hfirst : pageEncode .sample 4096 (.plain .data) 1 1 [9] = .ok (plainPage 1 [9]) :=
      eq_ok_getD [] (by decide +kernel)
    have hsecond : pageEncode .sample 4096 (.plain .data) (UInt64.ofNat (2 ^ 60)) 1 [9] =
        .ok (farPage (UInt64.ofNat (2 ^ 60))) := eq_ok_getD [] (by decide +kernel)
    intro page hpage
    rcases List.mem_cons.mp hpage with rfl | hpage
    · exact WalPage.valid_of_pageEncode (by decide) (by decide) hfirst
    · obtain rfl := List.mem_singleton.mp hpage
      exact WalPage.valid_of_pageEncode (by decide) (by decide) hsecond
  distinct := by decide

lemma splitLog_breaks : BreaksAt .sample plainSuperblock.toSuperblock none splitLog .corrupt .v5 []
    splitTxn where
  size := by decide +kernel
  layout := walClassify_walHeader (by decide) rfl (by decide) rfl _
  holds := by
    have hbody : splitLog.drop walHeaderSize =
        splitTxn.bytes .sample plainSuperblock.fileId ++ [] := drop_walHeader (by decide) _
    have hstep := walStep_txn (by decide) splitTxn_fits []
    obtain ⟨rec, hholds, htxn, -⟩ := holdsTxn_of_step hstep
    rw [hbody]
    exact hholds.single htxn
  before := by simp
  fresh := by decide
  splits := ⟨[⟨1, plainPage 1 [9]⟩], _, [], rfl, by decide, by decide, by decide, by decide⟩

/-- The first page of the transaction is in the data file when recovery refuses the
second. -/
theorem splitLog_partially_applied : superblockValid plainSuperblock.toSuperblock = true ∧
    ∃ after, (walRecoverAll .sample databaseInode plainSuperblock.toSuperblock none).run exec
        (restDisk plainContent splitLog) = (.error .corrupt, after) ∧
      ¬WroteWhole .sample databaseInode plainSuperblock.toSuperblock none splitLog
        (restDisk plainContent splitLog) after := by
  refine ⟨by decide, ?_⟩
  rw [run_walRecoverAll_restDisk (by decide) (by decide) (by decide +kernel) splitLog_breaks.size]
  exact splitLog_breaks.run_walReplay _ _

end Sample

end ShibaDb
