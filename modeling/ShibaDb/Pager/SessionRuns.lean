/-
Whole runs of a session: reads, commits made durable at once or later, checkpoints,
evictions, on a medium where any call may fail.  Every read returns the last
committed image of its page, and the callers see the moves of one pager.
-/
import ShibaDb.Pager.CommitCoherence

namespace ShibaDb

open CallProgram FileSystem LittleEndian

section Runs

variable {disk : FileDisk} {pager : PagerSession}

/-- A pager on its files, and the last committed image of each page. -/
structure PagerState where
  pager : PagerSession
  disk : FileDisk
  committed : Images

/-- The operations of a session on a medium where any call may fail. -/
inductive PagerStep (prim : Primitives) : PagerState → PagerState → Prop
  | read {state : PagerState} {pageId : PageId} {buffer : Bytes} {outcome : PagerReadResult}
      {after : FileDisk}
      (run : (state.pager.pagerRead prim pageId buffer).Finishes faulty state.disk
        (.ok outcome) after) :
      PagerStep prim state { state with pager := outcome.pager, disk := after }
  | txnBegin {state : PagerState} {txn : PagerTxn} {pager : PagerSession}
      (run : state.pager.txnBegin = .ok (txn, pager)) :
      PagerStep prim state { state with pager }
  | txnAbort {state : PagerState} :
      PagerStep prim state { state with pager := state.pager.txnRelease }
  | txnCommit {state : PagerState} {txn : PagerTxn} {nonces : Nat → Nonce} {scratch : Bool}
      {status : Except SdbError Unit} {pager : PagerSession} {after : FileDisk}
      (follows : txn.Follows state.pager)
      (run : (state.pager.txnCommit prim txn nonces scratch).Finishes faulty state.disk
        (.ok (status, pager)) after) :
      PagerStep prim state
        ⟨pager, after, imagesBehind state.committed state.pager txn status⟩
  | commitDurable {state : PagerState} {txnId : Nat} {status : Except SdbError Unit}
      {pager : PagerSession} {after : FileDisk}
      (run : (state.pager.pagerCommitDurable txnId).Finishes faulty state.disk
        (.ok (status, pager)) after) :
      PagerStep prim state { state with pager, disk := after }
  | checkpoint {state : PagerState} {status : Except SdbError Unit} {pager : PagerSession}
      {after : FileDisk}
      (run : (state.pager.pagerCheckpoint prim).Finishes faulty state.disk
        (.ok (status, pager)) after) :
      PagerStep prim state { state with pager, disk := after }
  | evict {state : PagerState} (pageId : PageId) :
      PagerStep prim state { state with
        pager := state.pager.withCache (pageCacheRemove state.pager.cache pageId) }
  | setDeferCommit {state : PagerState} (deferCommit : Bool) :
      PagerStep prim state { state with pager := state.pager.setDeferCommit deferCommit }
  | setSyncRelaxed {state : PagerState} (syncRelaxed : Bool) :
      PagerStep prim state { state with pager := { state.pager with syncRelaxed } }

variable {prim : Primitives} {state next : PagerState}

lemma meets_of_forall {α : Type} {program : FileM α} {ok : α → FileDisk → Prop}
    {bad : SdbError → FileDisk → Prop} (hok : ∀ value after, ok value after)
    (hbad : ∀ error after, bad error after) : program.Meets faulty ok bad disk := by
  induction program generalizing disk with
  | done result =>
    cases result with
    | ok value => exact hok value disk
    | error error => exact hbad error disk
  | call request continuation ih =>
    intro reply after _
    exact ih reply

section

variable (hfenced : pager.needsRecovery = true)

include hfenced

lemma meets_txnPublish_fenced {txn : PagerTxn} {nonces : Nat → Nonce} {scratch : Bool} :
    (pager.txnPublish prim txn nonces scratch).Meets faulty
      (fun published _ => published.needsRecovery = true) (fun _ _ => True) disk := by
  unfold PagerSession.txnPublish
  apply meets_bind
  apply meets_of_forall _ (fun _ _ => trivial)
  intro pages _
  apply meets_bind
  apply meets_of_forall _ (fun _ _ => trivial)
  intro wal _
  apply meets_bind
  apply meets_of_forall _ (fun _ _ => trivial)
  intro tail _
  apply meets_bind
  apply meets_of_forall _ (fun _ _ => trivial)
  rintro ⟨⟩ _
  apply meets_bind
  apply meets_of_forall _ (fun _ _ => trivial)
  intro generation _
  apply meets_fromExcept _ (fun _ _ => trivial)
  intro noted hnoted
  unfold PagerSession.txnNotePending at hnoted
  split at hnoted
  · split at hnoted
    · cases hnoted
    · obtain rfl := Except.ok.inj hnoted
      exact hfenced
  · obtain rfl := Except.ok.inj hnoted
    exact hfenced

lemma meets_pagerCheckpoint_fenced :
    (pager.pagerCheckpoint prim).Meets faulty
      (fun result _ => result.2.needsRecovery = true) (fun _ _ => False) disk := by
  unfold PagerSession.pagerCheckpoint
  rw [if_pos (by rw [hfenced]; simp)]
  exact meets_pure hfenced

lemma meets_txnCommit_fenced {txn : PagerTxn} {nonces : Nat → Nonce} {scratch : Bool} :
    (pager.txnCommit prim txn nonces scratch).Meets faulty
      (fun result _ => result.2.needsRecovery = true) (fun _ _ => False) disk := by
  unfold PagerSession.txnCommit
  split
  · exact meets_pure hfenced
  split
  · split
    · exact meets_pure hfenced
    · exact meets_pure hfenced
  split
  · exact meets_pure hfenced
  split
  · exact meets_pure hfenced
  apply meets_bind
  apply meets_attempt
  apply (meets_txnPublish_fenced hfenced).mono
  · intro published after hpublished
    dsimp only
    split
    · apply meets_bind
      apply (meets_pagerCheckpoint_fenced (show published.txnRelease.needsRecovery = true from
        hpublished)).mono _ (fun _ _ hfalse => hfalse)
      rintro ⟨status, checkpointed⟩ final hfinal
      apply meets_pure
      dsimp only at hfinal ⊢
      split
      · exact hfinal
      · rfl
    · exact meets_pure hpublished
  · intro error after _
    exact meets_pure rfl

lemma meets_pagerCommitDurable_fenced {txnId : Nat} :
    (pager.pagerCommitDurable txnId).Meets faulty
      (fun result _ => result.2.needsRecovery = true) (fun _ _ => True) disk := by
  have hfsync : pager.pagerFsync.Meets faulty (fun synced _ => synced.needsRecovery = true)
      (fun _ _ => True) disk := by
    unfold PagerSession.pagerFsync
    split
    · exact meets_pure hfenced
    split
    · exact meets_pure hfenced
    split
    · exact meets_pure hfenced
    apply meets_bind
    apply meets_of_forall _ (fun _ _ => trivial)
    intro result _
    cases result with
    | ok _ => exact meets_pure hfenced
    | error _ => exact meets_pure hfenced
  unfold PagerSession.pagerCommitDurable
  split
  · exact meets_pure hfenced
  split
  · exact meets_pure hfenced
  split
  · exact meets_pure hfenced
  apply meets_bind
  apply hfsync.mono _ (fun _ _ _ => trivial)
  intro synced after hsynced
  split
  · exact meets_pure hsynced
  · exact meets_pure hsynced

end

/-- A pager that asks for recovery goes on asking. -/
lemma PagerStep.fenced (h : PagerStep prim state next)
    (hfenced : state.pager.needsRecovery = true) : next.pager.needsRecovery = true := by
  cases h with
  | @read pageId buffer outcome after run =>
    have hmeets : (state.pager.pagerRead prim pageId buffer).Meets faulty
        (fun outcome _ => outcome.pager.needsRecovery = true) (fun _ _ => True) state.disk := by
      apply PagerSession.meets_pagerRead
      · intro error
        exact hfenced
      · intro page cache _ _
        exact hfenced
      · intro error cache _
        exact hfenced
      · intro stored cache _ _ _
        exact hfenced
    exact (hmeets.finishes run).1 outcome rfl
  | txnBegin run =>
    unfold PagerSession.txnBegin at run
    rw [if_pos (by rw [hfenced]; simp)] at run
    cases run
  | txnAbort => exact hfenced
  | txnCommit follows run => exact ((meets_txnCommit_fenced hfenced).finishes run).1 _ rfl
  | commitDurable run => exact ((meets_pagerCommitDurable_fenced hfenced).finishes run).1 _ rfl
  | checkpoint run => exact ((meets_pagerCheckpoint_fenced hfenced).finishes run).1 _ rfl
  | evict pageId => exact hfenced
  | setDeferCommit deferCommit => exact hfenced
  | setSyncRelaxed syncRelaxed => exact hfenced

/-- Every operation keeps the invariant or asks for recovery. -/
lemma PagerStep.coherent (h : PagerStep prim state next)
    (hstate : Coherent prim state.committed state.pager state.disk) :
    next.pager.needsRecovery = true ∨ Coherent prim next.committed next.pager next.disk := by
  cases h with
  | read run => exact .inr ((hstate.meets_pagerRead.finishes run).1 _ rfl).1
  | txnBegin run =>
    unfold PagerSession.txnBegin at run
    split at run
    · cases run
    · obtain ⟨-, rfl⟩ := Prod.mk.inj (Except.ok.inj run)
      exact .inr { hstate with }
  | txnAbort => exact .inr { hstate with }
  | txnCommit follows run =>
    exact (((hstate.meets_txnCommit follows).finishes run).1 _ rfl).imp_right And.left
  | commitDurable run => exact .inr ((hstate.meets_pagerCommitDurable.finishes run).1 _ rfl).1
  | checkpoint run =>
    exact ((hstate.meets_pagerCheckpoint.finishes run).1 _ rfl).imp_right And.left
  | evict pageId => exact .inr (hstate.of_keeps (PageCache.keeps_remove _ _))
  | setDeferCommit deferCommit => exact .inr { hstate with }
  | setSyncRelaxed syncRelaxed => exact .inr { hstate with }

/-- The pager of a state as its callers see it. -/
def PagerState.seen (state : PagerState) : Pager := state.pager.seen state.committed

/-- A move of the pager its callers see. -/
inductive PagerMove : Pager → Pager → Prop
  | stay (pager : Pager) : PagerMove pager pager
  | txnBegin {pager next : Pager} {txn : Txn} (run : txnBegin pager = .ok (txn, next)) :
      PagerMove pager next
  | txnAbort (pager : Pager) : PagerMove pager (txnRelease pager)
  | txnCommit {pager next : Pager} {txn : Txn} {status : Except SdbError Unit}
      (run : txnCommit pager txn = (status, next)) : PagerMove pager next
  | checkpoint {pager next : Pager} (run : pagerCheckpoint pager = (.ok (), next)) :
      PagerMove pager next

lemma PagerMove.of_eq {pager next : Pager} (h : next = pager) : PagerMove pager next :=
  h ▸ .stay next

/-- Every operation that leaves the pager in service is one of the pager its callers see,
or they see no change; commits are those that sync. -/
lemma PagerStep.moves (h : PagerStep prim state next)
    (hstate : Coherent prim state.committed state.pager state.disk)
    (hservice : next.pager.needsRecovery = false) (hsync : state.pager.deferCommit = false)
    (hfile : (state.disk.bytes state.pager.file).length ≤ maxOffset) :
    PagerMove state.seen next.seen := by
  cases h with
  | read run => exact .of_eq ((hstate.meets_pagerRead.finishes run).1 _ rfl).2.1
  | txnBegin run =>
    unfold PagerSession.txnBegin at run
    split at run
    · cases run
    · rename_i hidle
      obtain ⟨-, rfl⟩ := Prod.mk.inj (Except.ok.inj run)
      exact .txnBegin (if_neg hidle)
  | txnAbort => exact .txnAbort _
  | txnCommit follows run =>
    rcases ((hstate.meets_txnCommit follows).finishes run).1 _ rfl with hfenced | ⟨-, hseen⟩
    · rw [hservice] at hfenced
      cases hfenced
    · exact .txnCommit (hseen hfile hsync)
  | commitDurable run => exact .of_eq ((hstate.meets_pagerCommitDurable.finishes run).1 _ rfl).2
  | checkpoint run =>
    rcases (hstate.meets_pagerCheckpoint.finishes run).1 _ rfl with hfenced | ⟨-, hkept | hseen⟩
    · rw [hservice] at hfenced
      cases hfenced
    · exact .of_eq (congrArg (PagerSession.seen · state.committed) hkept.1)
    · exact .checkpoint hseen
  | evict pageId => exact .stay _
  | setDeferCommit deferCommit => exact .stay _
  | setSyncRelaxed syncRelaxed => exact .stay _

/-- A whole run keeps the invariant until the pager asks for recovery. -/
lemma coherent_of_run (hrun : Relation.ReflTransGen (PagerStep prim) state next)
    (hstate : Coherent prim state.committed state.pager state.disk) :
    next.pager.needsRecovery = true ∨ Coherent prim next.committed next.pager next.disk := by
  induction hrun with
  | refl => exact .inr hstate
  | tail _ hstep ih =>
    rcases ih with hfenced | hcoherent
    · exact .inl (hstep.fenced hfenced)
    · exact hstep.coherent hcoherent

/-- An operation of a session that syncs in each commit, on a data file of a size the
calls accept. -/
def SyncedStep (prim : Primitives) (state next : PagerState) : Prop :=
  PagerStep prim state next ∧ state.pager.deferCommit = false ∧
    (state.disk.bytes state.pager.file).length ≤ maxOffset

lemma steps_of_synced (hrun : Relation.ReflTransGen (SyncedStep prim) state next) :
    Relation.ReflTransGen (PagerStep prim) state next :=
  hrun.lift id fun _ _ hstep => hstep.1

/-- The run of a session is a run of the pager its callers see. -/
lemma moves_of_run (hrun : Relation.ReflTransGen (SyncedStep prim) state next)
    (hstate : Coherent prim state.committed state.pager state.disk)
    (hservice : next.pager.needsRecovery = false) :
    Relation.ReflTransGen PagerMove state.seen next.seen := by
  induction hrun with
  | refl => exact .refl
  | @tail middle last hbefore hstep ih =>
    have hmiddle : middle.pager.needsRecovery = false := by
      by_contra hfenced
      have hlast := hstep.1.fenced (Bool.not_eq_false _ ▸ hfenced)
      rw [hservice] at hlast
      cases hlast
    rcases coherent_of_run (steps_of_synced hbefore) hstate with hfenced | hcoherent
    · rw [hmiddle] at hfenced
      cases hfenced
    · exact (ih hmiddle).tail (hstep.1.moves hcoherent hservice hstep.2.1 hstep.2.2)

end Runs

section Opened

variable {prim : Primitives} {committed : Images} {pager : PagerSession} {disk : FileDisk}
  {pageId : PageId} {view : PageView} {buffer : Bytes}

/-- The view of a plain page. -/
def ImageView.plainView (view : ImageView) : Option PageView :=
  match view.type with
  | .plain type => some { type, pageLsn := view.pageLsn, payload := view.payload }
  | .encrypted => none

/-- The images a data file holds. -/
def storedImages (prim : Primitives) (pager : PagerSession) (disk : FileDisk) : Images :=
  fun pageId =>
    if pageId ≠ 0 ∧ pageId.toNat < pager.superblock.nextPageId then
      (pageAt pager.superblock.pageSize (disk.bytes pager.file) pageId).bind fun stored =>
        (pagerReveal prim pager.superblock.fileId pager.dataKey pager.superblock.pageSize pageId
          stored).1.toOption.bind ImageView.plainView
    else none

/-- A session that has just been opened: an empty cache, an empty index, and the images
of the data file. -/
structure Opened (prim : Primitives) (state : PagerState) : Prop where
  isOpen : state.pager.isOpen = true
  recovered : state.pager.needsRecovery = false
  database : state.pager.file.kind = .database
  log : state.pager.walFile = none
  named : ∀ wal, state.disk.names .wal = some wal → wal.kind = .wal
  pageSize : pageSizeValid state.pager.superblock.pageSize = true
  sized : state.pager.superblock.Sized
  geometry : pageGeometryValid state.pager.superblock.nextPageId
    state.pager.superblock.pageSize = true
  lsn : state.pager.currentLsn = state.pager.superblock.checkpointLsn
  index : state.pager.walIndex = []
  cache : ∃ capacity, state.pager.cache = pageCacheInit capacity
  committed : state.committed = storedImages prim state.pager state.disk

lemma ImageView.image_of_plainView {image : ImageView} (h : image.plainView = some view) :
    image = view.image := by
  obtain ⟨type, lsn, payload⟩ := image
  cases type with
  | plain type =>
    obtain rfl := Option.some.inj h
    rfl
  | encrypted => cases h

lemma storedImages_eq_some (h : storedImages prim pager disk pageId = some view) :
    pageId ≠ 0 ∧ pageId.toNat < pager.superblock.nextPageId ∧
      ∃ bytes, pageAt pager.superblock.pageSize (disk.bytes pager.file) pageId = some bytes ∧
        Reveals prim pager pageId bytes view := by
  unfold storedImages at h
  split at h
  · rename_i hrange
    obtain ⟨bytes, hbytes, h⟩ := Option.bind_eq_some_iff.mp h
    obtain ⟨image, himage, hplain⟩ := Option.bind_eq_some_iff.mp h
    refine ⟨hrange.1, hrange.2, bytes, hbytes, ?_⟩
    rw [Reveals, ← ImageView.image_of_plainView hplain]
    cases hrevealed : (pagerReveal prim pager.superblock.fileId pager.dataKey
      pager.superblock.pageSize pageId bytes).1 with
    | error error =>
      rw [hrevealed] at himage
      cases himage
    | ok revealed =>
      rw [hrevealed] at himage
      rw [Option.some.inj himage]
  · cases h

lemma Opened.coherent {state : PagerState} (h : Opened prim state) :
    Coherent prim state.committed state.pager state.disk where
  isOpen := h.isOpen
  database := h.database
  log := by
    intro wal hwal
    rw [h.log] at hwal
    cases hwal
  named := h.named
  pageSize := h.pageSize
  sized := h.sized
  geometry := h.geometry
  lsn := by
    rw [h.lsn]
    exact Nat.le_of_lt_succ h.sized.checkpointLsn
  distinct := by
    obtain ⟨capacity, hcache⟩ := h.cache
    rw [hcache]
    exact PageCache.distinct_init capacity
  inRange := by
    intro pageId view hview
    rw [h.committed] at hview
    obtain ⟨hid, hlt, -⟩ := storedImages_eq_some hview
    exact ⟨hid, hlt⟩
  cached := by
    intro pageId bytes view hholds
    obtain ⟨capacity, hcache⟩ := h.cache
    rw [hcache] at hholds
    exact absurd hholds PageCache.not_holds_init
  indexed := by
    intro pageId walOffset hentry
    rw [h.index] at hentry
    cases hentry
  stored := by
    intro pageId view hview _
    rw [h.committed] at hview
    exact (storedImages_eq_some hview).2.2

/-- The place of a page of the database is one `sdb_pager_offset` computes. -/
lemma pagerOffset_of_geometry {pageSize nextPageId : Nat}
    (hgeometry : pageGeometryValid nextPageId pageSize = true) (hid : pageId ≠ 0)
    (hlt : pageId.toNat < nextPageId) :
    pagerOffset pageSize pageId = .ok (pageOffset pageSize pageId) := by
  rw [pageGeometryValid_iff] at hgeometry
  obtain ⟨⟨-, hsize⟩, hmax⟩ := hgeometry
  have hpages : pageId.toNat - 1 ≤ (uint64Max - dataOffset) / pageSize := by omega
  have hbytes : (pageId.toNat - 1) * pageSize ≤ uint64Max - dataOffset :=
    (Nat.le_div_iff_mul_le (Nat.pos_of_ne_zero hsize)).mp hpages
  have hfirst : pageId.toNat - 1 ≤ uint64Max / pageSize :=
    hpages.trans (Nat.div_le_div_right (Nat.sub_le _ _))
  simp only [pagerOffset, hid, if_false, Nat.not_lt.mpr hfirst, Nat.not_lt.mpr hbytes]

/-- On a medium that works a fetch of a committed page finds its bytes: no file is
larger than a file can be. -/
lemma Coherent.run_pagerFetch (h : Coherent prim committed pager disk)
    (hfiles : ∀ inode ∈ pager.file :: pager.walFile.toList,
      (disk.bytes inode).length ≤ maxOffset) (hview : committed pageId = some view) :
    ∃ bytes, (pagerFetch pager.toPagerHandle pageId).run exec disk = (.ok bytes, disk) ∧
      Fetched pager.toPagerHandle disk pageId bytes := by
  unfold pagerFetch
  dsimp only
  split
  · rename_i walOffset hindex
    obtain ⟨wal, bytes, image, hwal, -, hend, hread, -⟩ :=
      h.indexed pageId walOffset (mem_of_walIndexGet hindex)
    refine ⟨bytes, ?_, .inl ⟨walOffset, wal, hindex, .inl hwal, hread⟩⟩
    have hframe : frameInLog pager.walTail pager.superblock.pageSize walOffset = true := by
      simp only [frameInLog, Bool.and_eq_true, decide_eq_true_eq]
      omega
    simp only [hframe, Bool.not_true, Bool.false_eq_true, if_false, pagerReadLog, hwal, run_bind,
      run_pure, resume_ok]
    have hlength := (ByteFile.readAt_eq_some_iff.mp ⟨bytes, hread⟩).trans
      (hfiles wal (by simp [hwal]))
    exact run_fileReadFull (by omega) hread
  · rename_i hindex
    obtain ⟨hid, hlt⟩ := h.inRange pageId view hview
    obtain ⟨bytes, hread, -⟩ := h.stored pageId view hview (not_mem_of_walIndexGet hindex)
    refine ⟨bytes, ?_, .inr ⟨hindex, hread⟩⟩
    rw [pagerOffset_of_geometry h.geometry hid hlt, run_bind, run_fromExcept, resume_ok]
    have hlength := (ByteFile.readAt_eq_some_iff.mp ⟨bytes, hread⟩).trans
      (hfiles pager.file List.mem_cons_self)
    exact run_fileReadFull (by omega) hread

/-- On a medium that works a read of a committed page returns its image. -/
lemma Coherent.run_pagerRead (h : Coherent prim committed pager disk)
    (hfiles : ∀ inode ∈ pager.file :: pager.walFile.toList,
      (disk.bytes inode).length ≤ maxOffset)
    (hfence : pager.needsRecovery = false) (hview : committed pageId = some view)
    (hbuffer : pager.superblock.pageSize ≤ buffer.length) :
    ∃ outcome, (pager.pagerRead prim pageId buffer).run exec disk = (.ok outcome, disk) ∧
      outcome.result = .ok view.image := by
  obtain ⟨hid, hlt⟩ := h.inRange pageId view hview
  have hguard : ¬(!pager.isOpen || pager.needsRecovery || decide (pageId = 0) ||
      decide (pageId.toNat ≥ pager.superblock.nextPageId)) = true := by
    simp [h.isOpen, hfence, hid, hlt]
  unfold PagerSession.pagerRead
  rw [if_neg hguard, if_neg (Nat.not_lt.mpr hbuffer)]
  split
  · rename_i page cache hget
    exact ⟨_, rfl, (h.readCached buffer hget).2 view hview⟩
  · rename_i cache hget
    obtain ⟨bytes, hrun, hfetched⟩ := h.run_pagerFetch hfiles hview
    refine ⟨pager.readStored prim cache pageId buffer bytes, ?_,
      (h.readStored buffer hget hid hfetched).2 view hview⟩
    rw [run_bind, run_attempt, hrun]
    rfl

/-- After any run of reads, commits, checkpoints and evictions, a read of a committed
page returns its last committed image, whichever store serves it; on a medium that
fails it returns that image or an error. -/
theorem read_last_committed {start state : PagerState} (hopened : Opened prim start)
    (hrun : Relation.ReflTransGen (PagerStep prim) start state)
    (hfiles : ∀ inode ∈ state.pager.file :: state.pager.walFile.toList,
      (state.disk.bytes inode).length ≤ maxOffset)
    (hfence : state.pager.needsRecovery = false) (hview : state.committed pageId = some view)
    (hbuffer : state.pager.superblock.pageSize ≤ buffer.length) :
    (∃ outcome, (state.pager.pagerRead prim pageId buffer).run exec state.disk =
        (.ok outcome, state.disk) ∧ outcome.result = .ok view.image) ∧
      ∀ outcome after read, (state.pager.pagerRead prim pageId buffer).Finishes faulty state.disk
        (.ok outcome) after → outcome.result = .ok read → read = view.image := by
  have hcoherent : Coherent prim state.committed state.pager state.disk := by
    rcases coherent_of_run hrun hopened.coherent with hfenced | hcoherent
    · rw [hfence] at hfenced
      cases hfenced
    · exact hcoherent
  refine ⟨hcoherent.run_pagerRead hfiles hfence hview hbuffer, ?_⟩
  intro outcome after read hfinishes hread
  exact ((hcoherent.meets_pagerRead.finishes hfinishes).1 outcome rfl).2.2 view read hview hread

/-- The session on its files refines the pager its callers see: its runs are runs of that
pager, and what that pager reads the session reads. -/
theorem session_refines_pager {start state : PagerState} (hopened : Opened prim start)
    (hrun : Relation.ReflTransGen (SyncedStep prim) start state)
    (hservice : state.pager.needsRecovery = false) :
    Relation.ReflTransGen PagerMove start.seen state.seen ∧
    ∀ pageId view buffer, pagerRead state.seen pageId = .ok view →
      (∀ inode ∈ state.pager.file :: state.pager.walFile.toList,
        (state.disk.bytes inode).length ≤ maxOffset) →
      state.pager.superblock.pageSize ≤ buffer.length →
      ∃ outcome, (state.pager.pagerRead prim pageId buffer).run exec state.disk =
        (.ok outcome, state.disk) ∧ outcome.result = .ok view.image := by
  refine ⟨moves_of_run hrun hopened.coherent hservice, ?_⟩
  intro pageId view buffer hread hfiles hbuffer
  rcases coherent_of_run (steps_of_synced hrun) hopened.coherent with hfenced | hcoherent
  · rw [hservice] at hfenced
    cases hfenced
  · exact hcoherent.run_pagerRead hfiles hservice (pagerRead_eq_ok hread) hbuffer

def boundSlot : Bytes :=
  (encodeSlot boundCipher boundPager.superblock (some boundKey)).toOption.getD []

/-- The sample session on a data file with its two slots and its page. -/
def boundState : PagerState :=
  let disk := { boundDisk with files := fun _ => ⟨boundSlot ++ (boundSlot ++ boundPage), []⟩ }
  ⟨boundPager, disk, storedImages boundCipher boundPager disk⟩

lemma boundState_opened : Opened boundCipher boundState where
  isOpen := rfl
  recovered := rfl
  database := rfl
  log := rfl
  named := by
    intro wal hname
    cases hname
  pageSize := by decide
  sized := by constructor <;> decide
  geometry := by decide
  lsn := rfl
  index := rfl
  cache := ⟨8, rfl⟩
  committed := rfl

/-- A transaction that puts another payload on the page of the sample. -/
def boundTxn : PagerTxn where
  targetSuperblock := boundPager.superblock
  pages := [{ pageId := 1, type := .data, payload := [9] }]
  allocatedPages := []
  active := true

def boundBegun : PagerSession := { boundPager with transactionActive := true }

def boundNonce : Nonce := ⟨List.replicate 24 4, rfl⟩

/-- In the sample session the page is committed again, checkpointed and evicted: a read
goes to the data file and returns the new payload. -/
theorem read_last_committed_bound : ∃ state,
    Relation.ReflTransGen (PagerStep boundCipher) boundState state ∧
      state.committed 1 = some ⟨.data, 2, [9]⟩ ∧ state.pager.walIndex = [] ∧
      (pageCacheGet state.pager.cache 1).1 = none ∧
      ∃ outcome, (state.pager.pagerRead boundCipher 1 boundBuffer).run exec state.disk =
          (.ok outcome, state.disk) ∧
        outcome.result = .ok (PageView.mk .data 2 [9]).image := by
  obtain ⟨commit, hcommit⟩ : ∃ commit, (boundBegun.txnCommit boundCipher boundTxn
      (fun _ => boundNonce) true).run exec boundState.disk = commit := ⟨_, rfl⟩
  have hrun : (commit.1 >>= fun first =>
      let checkpoint := (first.2.pagerCheckpoint boundCipher).run exec commit.2
      checkpoint.1 >>= fun second =>
        .ok (first.1, second.1, decide (second.2.needsRecovery = false ∧
          second.2.superblock.pageSize = 4096 ∧ second.2.walIndex = [] ∧
          (pageCacheGet (pageCacheRemove second.2.cache 1) 1).1 = none ∧
          ∀ inode ∈ second.2.file :: second.2.walFile.toList,
            (checkpoint.2.bytes inode).length ≤ maxOffset))) = .ok (.ok (), .ok (), true) := by
    rw [← hcommit]
    decide +kernel
  simp only [Fallible.except_bind_eq_ok, Except.ok.injEq, Prod.mk.injEq, decide_eq_true_eq,
    Prod.exists] at hrun
  obtain ⟨_, committed, hfirst, _, checkpointed, hsecond, rfl, rfl, hservice, hsize, hindex,
    hcache, hfiles⟩ := hrun
  have hbegun : boundState.pager.txnBegin = .ok ({ boundTxn with pages := [] }, boundBegun) := by
    decide +kernel
  have hcommitted := finishes_faulty (boundBegun.txnCommit boundCipher boundTxn
    (fun _ => boundNonce) true) boundState.disk
  rw [hcommit, hfirst] at hcommitted
  have hcheckpointed := finishes_faulty (committed.pagerCheckpoint boundCipher) commit.2
  rw [hsecond] at hcheckpointed
  have hsteps := (((Relation.ReflTransGen.single (PagerStep.txnBegin hbegun)).tail
    (.txnCommit ⟨2, 0, le_rfl, rfl⟩ hcommitted)).tail (.checkpoint hcheckpointed)).tail (.evict 1)
  have hview : imagesBehind boundState.committed boundBegun boundTxn (.ok ()) 1 =
      some ⟨.data, 2, [9]⟩ := rfl
  have hbuffer : checkpointed.superblock.pageSize ≤ boundBuffer.length :=
    hsize.trans_le (by decide +kernel)
  exact ⟨_, hsteps, hview, hindex, hcache,
    (read_last_committed boundState_opened hsteps hfiles hservice hview hbuffer).1⟩

end Opened

end ShibaDb
