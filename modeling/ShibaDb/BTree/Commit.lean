/-
Commit and abort of a batch: a committed batch leaves the pager storing the very
tree the batch held, and a batch that is given up leaves the pager as it was.
-/
import ShibaDb.BTree.Invariant

namespace ShibaDb

open SepTree Fallible List

variable {pager : Pager} {batch : BTreeBatch} {others : List PageId} {h : Nat} {tree : PageTree h}

/-- A batch that has just begun. -/
def freshBatch (pager : Pager) : BTreeBatch :=
  { rootPage := pager.superblock.rootPage, items := [], txn := freshTxn pager
    failure := none, active := true }

/-- The data file is long enough for every page. -/
def FileCovers (pager : Pager) : Prop :=
  dataOffset + (pager.superblock.nextPageId - 1) * pager.superblock.pageSize ≤ pager.fileSize

instance (pager : Pager) : Decidable (FileCovers pager) := Nat.decLe _ _

/-- The pager with the recovery fence lifted: its committed state. -/
def Pager.unfenced (pager : Pager) : Pager := { pager with needsRecovery := false }

lemma Pager.unfenced_of_inService (hservice : pager.needsRecovery = false) :
    pager.unfenced = pager := by
  rw [unfenced, ← hservice]

/-- The pager is in service and its committed pages store `tree`. -/
structure StoresTree (pager : Pager) (others : List PageId) {h : Nat} (tree : PageTree h) :
    Prop where
  isOpen : pager.isOpen = true
  inService : pager.needsRecovery = false
  valid : superblockValid pager.superblock = true
  covers : FileCovers pager
  holds : HoldsTree pager (freshBatch pager) others tree

/-- A batch at work on a committed tree: it holds `tree` and has changed nothing
of the superblock but the allocator's fields. -/
structure Working (pager : Pager) (batch : BTreeBatch) (others : List PageId) {h : Nat}
    (tree : PageTree h) : Prop where
  isOpen : pager.isOpen = true
  inService : pager.needsRecovery = false
  valid : superblockValid pager.superblock = true
  holds : HoldsTree pager batch others tree
  rootPage : batch.rootPage = pager.superblock.rootPage
  target : SameTarget pager.superblock batch.txn.targetSuperblock
  active : batch.active = true
  failure : batch.failure = none

/-- Reading does not depend on whether a transaction is open. -/
lemma HoldsTree.withActive (hholds : HoldsTree pager batch others tree) (transactionActive : Bool) :
    HoldsTree { pager with transactionActive } batch others tree := by
  obtain ⟨free, halloc⟩ := hholds.ok.owns
  exact ⟨⟨⟨free, halloc.active, halloc.chain, halloc.nodup, halloc.mem, halloc.staged,
    halloc.stagedNodup, halloc.geometry⟩, hholds.ok.items, hholds.ok.itemsNodup⟩,
    hholds.root, hholds.shown, hholds.ordered, hholds.linked⟩

lemma StoresTree.withActive (hstores : StoresTree pager others tree) (transactionActive : Bool) :
    StoresTree { pager with transactionActive } others tree :=
  ⟨hstores.isOpen, hstores.inService, hstores.valid, hstores.covers, hstores.holds.withActive _⟩

/-- Fencing the pager or opening a transaction leaves the committed state. -/
lemma StoresTree.unfenced (hstores : StoresTree pager others tree)
    (needsRecovery transactionActive : Bool) :
    StoresTree ({ pager with needsRecovery, transactionActive } : Pager).unfenced others tree := by
  rw [Pager.unfenced, ← hstores.inService]
  exact hstores.withActive transactionActive

lemma btreeBatchBegin_eq_ok {pager' : Pager} {root : PageId}
    (hrun : btreeBatchBegin pager root = .ok (batch, pager')) :
    pager.needsRecovery = false ∧ pager' = { pager with transactionActive := true } ∧
      batch = { freshBatch pager with rootPage := root } := by
  simp only [btreeBatchBegin, except_bind_eq_ok] at hrun
  obtain ⟨⟨txn, after⟩, hbegin, hbatch⟩ := hrun
  obtain ⟨_, hservice, rfl, rfl⟩ := txnBegin_eq_ok hbegin
  simp only [Except.ok.injEq, Prod.mk.injEq] at hbatch
  exact ⟨hservice, hbatch.2.symm, hbatch.1.symm⟩

/-- A new batch works on the committed tree. -/
lemma StoresTree.working (hstores : StoresTree pager others tree) :
    Working { pager with transactionActive := true } (freshBatch pager) others tree :=
  ⟨hstores.isOpen, hstores.inService, hstores.valid, hstores.holds.withActive true, rfl,
    SameTarget.refl _, rfl, rfl⟩

section Publish

/-- The page record a staged node becomes. -/
def dataPage (item : BTreeMutation) : TxnPage :=
  { pageId := item.pageId, type := .data, payload := item.payload }

lemma stageAll_eq_ok {pager : Pager} {items : List BTreeMutation} {txn txn' : Txn}
    {result : PUnit} (hrun : stageAll pager items txn = (.ok result, txn')) :
    txn' = { txn with pages := txn.pages ++ items.map dataPage } := by
  induction items generalizing txn with
  | nil =>
    simp only [stageAll, pure_eq_ok] at hrun
    simp [hrun.2]
  | cons item items ih =>
    simp only [stageAll, bind_eq_ok, txnPut_eq_ok] at hrun
    obtain ⟨_, _, ⟨_, rfl⟩, hrun⟩ := hrun
    rw [ih hrun]
    simp [dataPage]

end Publish

/-- The records of a transaction about to be published: FREE records of pages on
the freelist and data records of pages of the tree, no page twice. -/
lemma staged_nodup {own free : List PageId} (hok : BatchOk pager batch own)
    (halloc : Allocation pager batch.txn own free) :
    ((batch.txn.pages ++ batch.items.map dataPage).map TxnPage.pageId).Nodup := by
  rw [map_append, map_map]
  refine List.nodup_append.mpr ⟨halloc.stagedNodup, hok.itemsNodup, ?_⟩
  rintro freePage hfree ownPage hown rfl
  obtain ⟨page, hpage, rfl⟩ := List.mem_map.mp hfree
  obtain ⟨item, hitem, heq⟩ := List.mem_map.mp hown
  have hmem : page.pageId ∈ own := heq ▸ hok.items item hitem
  exact (List.nodup_append.mp halloc.nodup).2.2 _ hmem _ (halloc.staged page hpage).1 rfl

/-- The pager after the records of the batch were published. -/
structure Published (pager : Pager) (batch : BTreeBatch) (pager' : Pager) : Prop where
  pages : ∃ lsn, pager'.pages =
    publishPages pager.pages lsn (batch.txn.pages ++ batch.items.map dataPage)
  nextPageId : pager'.superblock.nextPageId = batch.txn.targetSuperblock.nextPageId
  freelistPage : pager'.superblock.freelistPage = batch.txn.targetSuperblock.freelistPage
  target : SameTarget batch.txn.targetSuperblock pager'.superblock
  encryptionEnabled : pager'.encryptionEnabled = pager.encryptionEnabled
  isOpen : pager'.isOpen = true
  inService : pager'.needsRecovery = false
  idle : pager'.transactionActive = false
  covers : FileCovers pager'

section Published

variable {pager pager' : Pager} {batch : BTreeBatch} {others own free : List PageId} {h : Nat}
  {tree : PageTree h} {pageId : PageId}

section

variable (hpublished : Published pager batch pager')

include hpublished

lemma Published.read (hne : pageId ≠ 0)
    (hlt : pageId.toNat < batch.txn.targetSuperblock.nextPageId) {view : PageView}
    (hpage : pager'.pages pageId = some view) : pagerRead pager' pageId = .ok view := by
  rw [← hpublished.nextPageId] at hlt
  simp [pagerRead, hpublished.isOpen, hpublished.inService, hne, hlt, hpage]

/-- A record of the batch is what the page holds afterwards. -/
lemma Published.page_of_mem
    (hok : BatchOk pager batch own) (halloc : Allocation pager batch.txn own free)
    {page : TxnPage} (hpage : page ∈ batch.txn.pages ++ batch.items.map dataPage) :
    ∃ view, pager'.pages page.pageId = some view ∧ view.type = page.type ∧
      view.payload = page.payload := by
  obtain ⟨lsn, hpages⟩ := hpublished.pages
  exact ⟨_, by rw [hpages, publishPages_of_mem (staged_nodup hok halloc) hpage], rfl, rfl⟩

lemma Published.page_of_not_mem
    (htxn : ∀ page ∈ batch.txn.pages, page.pageId ≠ pageId)
    (hitems : ∀ item ∈ batch.items, item.pageId ≠ pageId) :
    pager'.pages pageId = pager.pages pageId := by
  obtain ⟨lsn, hpages⟩ := hpublished.pages
  rw [hpages]
  apply publishPages_of_not_mem
  intro page hpage
  rcases List.mem_append.mp hpage with hpage | hpage
  · exact htxn page hpage
  · obtain ⟨item, hitem, rfl⟩ := List.mem_map.mp hpage
    exact hitems item hitem

/-- A page of the tree reads after the commit as it did through the batch. -/
lemma Published.readNode
    (hok : BatchOk pager batch own) (halloc : Allocation pager batch.txn own free)
    (hmem : pageId ∈ own) {node : BTreeNode}
    (hread : btreeBatchReadNode pager batch pageId = .ok node) :
    btreeReadNode pager' pageId = .ok node := by
  have hbounds := (halloc.mem pageId).mp (mem_append_left free hmem)
  unfold btreeBatchReadNode at hread
  unfold btreeReadNode
  cases hstaged : btreeFindStaged batch.items pageId with
  | some item =>
    have hitem : item ∈ batch.items := mem_of_find?_eq_some hstaged
    have hid : item.pageId = pageId := by simpa using List.find?_some hstaged
    obtain ⟨view, hview, htype, hpayload⟩ := hpublished.page_of_mem hok halloc
      (mem_append_right _ (mem_map_of_mem (f := dataPage) hitem))
    rw [show (dataPage item).pageId = pageId from hid] at hview
    rw [hpublished.read hbounds.1 hbounds.2 hview]
    simp only [hstaged] at hread
    simpa [bind, Except.bind, htype, hpayload, dataPage] using hread
  | none =>
    simp only [hstaged, btreeReadNode, except_bind_eq_ok] at hread
    obtain ⟨view, hview, hnode⟩ := hread
    have hpage : pager'.pages pageId = some view := by
      rw [hpublished.page_of_not_mem ?_ ?_, pagerRead_eq_ok hview]
      · rintro page hpage rfl
        exact (List.nodup_append.mp halloc.nodup).2.2 _ hmem _ (halloc.staged page hpage).1 rfl
      · simpa [btreeFindStaged] using hstaged
    rw [hpublished.read hbounds.1 hbounds.2 hpage]
    exact hnode

end

/-- The freelist link of a committed FREE page. -/
def pagerFreeLink (pager : Pager) (page : PageId) : Option PageId :=
  match pagerRead pager page with
  | .ok view => freeImageLink view.type view.payload
  | .error _ => none

/-- The freelist after the commit is the one the transaction built. -/
lemma Published.freeLink (hpublished : Published pager batch pager')
    (hok : BatchOk pager batch own) (halloc : Allocation pager batch.txn own free) {next : PageId}
    (hmem : pageId ∈ free) (hlink : txnFreeLink pager batch.txn pageId = some next) :
    txnFreeLink pager' (freshTxn pager') pageId = some next := by
  have hbounds := (halloc.mem pageId).mp (mem_append_right _ hmem)
  change pagerFreeLink pager' pageId = some next
  unfold txnFreeLink at hlink
  unfold pagerFreeLink
  cases hstaged : findTxnPage batch.txn.pages pageId with
  | some page =>
    have hpage : page ∈ batch.txn.pages := mem_of_find?_eq_some hstaged
    have hid : page.pageId = pageId := by simpa using List.find?_some hstaged
    obtain ⟨view, hview, htype, hpayload⟩ :=
      hpublished.page_of_mem hok halloc (mem_append_left _ hpage)
    rw [hid] at hview
    rw [hpublished.read hbounds.1 hbounds.2 hview]
    simpa [hstaged, htype, hpayload] using hlink
  | none =>
    simp only [hstaged] at hlink
    cases hview : pagerRead pager pageId with
    | error error => simp [hview] at hlink
    | ok view =>
      have hpage : pager'.pages pageId = some view := by
        rw [hpublished.page_of_not_mem ?_ ?_, pagerRead_eq_ok hview]
        · simpa [findTxnPage] using hstaged
        · rintro item hitem rfl
          exact (List.nodup_append.mp halloc.nodup).2.2 _ (hok.items item hitem) _ hmem rfl
      rw [hpublished.read hbounds.1 hbounds.2 hpage]
      simpa [hview] using hlink

/-- The superblock of a batch at work passes the checks of a superblock, whatever
its counters. -/
lemma Working.superblockValid (hworking : Working pager batch others tree)
    (generation checkpointLsn : Nat) : ShibaDb.superblockValid
      { batch.txn.targetSuperblock with generation, checkpointLsn } = true := by
  obtain ⟨free, halloc⟩ := hworking.holds.ok.owns
  have hvalid := hworking.valid
  have hroot : batch.txn.targetSuperblock.rootPage ∈ others ++ tree.pages := by
    rw [hworking.target.rootPage, ← hworking.rootPage, ← hworking.holds.root, Tree.pages_eq]
    exact mem_append_right _ mem_cons_self
  have hfree : batch.txn.targetSuperblock.freelistPage.toNat <
      batch.txn.targetSuperblock.nextPageId := by
    by_cases hzero : batch.txn.targetSuperblock.freelistPage = 0
    · have hpos := ((halloc.mem _).mp (mem_append_left free hroot)).2
      rw [hzero]
      exact Nat.lt_of_le_of_lt (Nat.zero_le _) hpos
    · obtain ⟨rest, _, rfl, _, _⟩ := halloc.chain.cons_of_head_ne hzero
      exact ((halloc.mem _).mp (by simp)).2
  simp only [ShibaDb.superblockValid, Bool.and_eq_true, decide_eq_true_eq] at hvalid ⊢
  rw [hworking.target.pageSize, hworking.target.fileId]
  refine ⟨⟨⟨⟨hvalid.1.1.1.1, ?_⟩, ?_⟩, hfree⟩, hvalid.2⟩
  · rw [← hworking.target.pageSize]
    exact halloc.geometry
  · exact ((halloc.mem _).mp (mem_append_left free hroot)).2

lemma Published.counters (hpublished : Published pager batch pager')
    (generation checkpointLsn walTail : Nat) :
    Published pager batch { pager' with
      superblock := { pager'.superblock with generation, checkpointLsn }
      walTail } :=
  ⟨hpublished.pages, hpublished.nextPageId, hpublished.freelistPage,
    ⟨hpublished.target.pageSize, hpublished.target.rootPage, hpublished.target.fileId⟩,
    hpublished.encryptionEnabled, hpublished.isOpen, hpublished.inService, hpublished.idle,
    hpublished.covers⟩

lemma Published.superblockValid (hpublished : Published pager batch pager')
    (hworking : Working pager batch others tree) :
    ShibaDb.superblockValid pager'.superblock = true := by
  have hvalid := hworking.superblockValid 0 0
  simp only [ShibaDb.superblockValid] at hvalid ⊢
  rw [hpublished.target.pageSize, hpublished.nextPageId, hpublished.target.rootPage,
    hpublished.freelistPage, hpublished.target.fileId]
  exact hvalid

/-- After a commit the pager stores the tree the batch held. -/
lemma Published.storesTree (hpublished : Published pager batch pager')
    (hworking : Working pager batch others tree) : StoresTree pager' others tree := by
  have hok := hworking.holds.ok
  obtain ⟨free, halloc⟩ := hok.owns
  have hcapacity : pagerPayloadCapacity pager' = pagerPayloadCapacity pager := by
    simp only [pagerPayloadCapacity, hpublished.target.pageSize, hworking.target.pageSize,
      hpublished.encryptionEnabled]
  have halloc' : Allocation pager' (freshTxn pager') (others ++ tree.pages) free := by
    refine ⟨rfl, ?_, halloc.nodup, ?_, by simp [freshTxn], by simp [freshTxn], ?_⟩
    · simp only [freshTxn]
      rw [hpublished.freelistPage]
      exact halloc.chain.mono fun pageId hmem next hlink =>
        hpublished.freeLink hok halloc hmem hlink
    · simp only [freshTxn]
      rw [hpublished.nextPageId]
      exact halloc.mem
    · simp only [freshTxn]
      rw [hpublished.nextPageId, hpublished.target.pageSize]
      exact halloc.geometry
  refine ⟨hpublished.isOpen, hpublished.inService, hpublished.superblockValid hworking,
    hpublished.covers, ⟨⟨⟨free, halloc'⟩, by simp [freshBatch], by simp [freshBatch]⟩, ?_, ?_,
      hworking.holds.ordered, hworking.holds.linked⟩⟩
  · simp only [freshBatch]
    rw [hworking.holds.root, hpublished.target.rootPage, hworking.target.rootPage,
      hworking.rootPage]
  · intro entry hentry
    obtain ⟨⟨hread, size, hsize, hfits⟩, hbranching⟩ := hworking.holds.shown entry hentry
    refine ⟨⟨?_, size, hsize, hcapacity ▸ hfits⟩, hbranching⟩
    exact hpublished.readNode hok halloc
      (mem_append_right others (mem_map_of_mem hentry)) hread

end Published

section Commit

variable {pager pager' : Pager} {batch : BTreeBatch} {others : List PageId} {h : Nat}
  {tree : PageTree h}

/-- A commit that reports success publishes the records of the batch; it takes the
pager out of service only when the generation counter is exhausted. -/
lemma btreeBatchCommit_published (hworking : Working pager batch others tree)
    (hitems : batch.items ≠ []) (hrun : btreeBatchCommit pager batch = (.ok (), pager')) :
    Published pager batch pager'.unfenced ∧
      (pager'.needsRecovery = true → uint64Max ≤ pager.superblock.generation + 1) := by
  unfold btreeBatchCommit at hrun
  simp only [hworking.active, hworking.failure, hitems, Bool.not_true, Bool.false_eq_true,
    ↓reduceIte] at hrun
  rcases hstage : stageAll pager batch.items batch.txn with ⟨error | _, txn⟩
  · simp [hstage] at hrun
  simp only [hstage] at hrun
  obtain rfl := stageAll_eq_ok hstage
  obtain ⟨published, hpublish, hafter⟩ := txnCommit_eq_ok hrun
  obtain ⟨fileSize, walTail, hcovers, rfl⟩ := txnPublish_eq_ok hpublish
  rw [← hworking.target.pageSize] at hcovers
  generalize hbase : txnRelease _ = base at hafter
  have hpublished : Published pager batch base := by
    rw [← hbase]
    exact ⟨⟨_, rfl⟩, rfl, rfl, ⟨rfl, rfl, rfl⟩, rfl, hworking.isOpen, hworking.inService, rfl,
      hcovers⟩
  have hservice := hpublished.inService
  rcases hafter with rfl | hafter | ⟨rfl, error, fenced, hafter⟩
  · rw [Pager.unfenced_of_inService hservice]
    exact ⟨hpublished, fun hfenced => by simp [hservice] at hfenced⟩
  · obtain ⟨generation, checkpointLsn, walTail', rfl⟩ := pagerCheckpoint_eq_ok hafter
    have hcounters := hpublished.counters generation checkpointLsn walTail'
    rw [Pager.unfenced_of_inService hcounters.inService]
    exact ⟨hcounters, fun hfenced => by simp [hservice] at hfenced⟩
  · have hexhausted := pagerCheckpoint_eq_error hpublished.isOpen hpublished.inService
      hpublished.idle (fun generation checkpointLsn =>
        (hpublished.counters generation checkpointLsn 0).superblockValid hworking) hafter
    refine ⟨?_, fun _ => ?_⟩
    · rw [show ({ base with needsRecovery := true } : Pager).unfenced = base.unfenced from rfl,
        Pager.unfenced_of_inService hservice]
      exact hpublished
    · rw [← hexhausted, ← hbase]
      exact le_refl _

lemma btreeBatchAbort_eq (pager : Pager) (batch : BTreeBatch) :
    ∃ transactionActive, btreeBatchAbort pager batch = { pager with transactionActive } := by
  unfold btreeBatchAbort
  split
  · exact ⟨false, rfl⟩
  · exact ⟨pager.transactionActive, rfl⟩

lemma btreeBatchCommit_failed (pager : Pager) {error : SdbError}
    (hfailure : batch.failure = some error) :
    (∃ error, (btreeBatchCommit pager batch).1 = .error error) ∧
      ∃ transactionActive, (btreeBatchCommit pager batch).2 = { pager with transactionActive } := by
  simp only [btreeBatchCommit, hfailure]
  split
  · exact ⟨⟨_, rfl⟩, pager.transactionActive, rfl⟩
  · exact ⟨⟨error, rfl⟩, btreeBatchAbort_eq pager batch⟩

/-- A commit that fails leaves the committed state as it was. -/
lemma btreeBatchCommit_eq_error {error : SdbError}
    (hrun : btreeBatchCommit pager batch = (.error error, pager')) :
    ∃ needsRecovery transactionActive,
      pager' = { pager with needsRecovery, transactionActive } := by
  unfold btreeBatchCommit at hrun
  split at hrun
  · exact ⟨pager.needsRecovery, pager.transactionActive, (Prod.mk.inj hrun).2.symm⟩
  split at hrun
  · obtain ⟨transactionActive, habort⟩ := btreeBatchAbort_eq pager batch
    exact ⟨pager.needsRecovery, transactionActive, by rw [← (Prod.mk.inj hrun).2, habort]⟩
  split at hrun
  · simp at hrun
  rcases hstage : stageAll pager batch.items batch.txn with ⟨reason | _, txn⟩
  · simp only [hstage, Prod.mk.injEq] at hrun
    exact ⟨pager.needsRecovery, false, hrun.2.symm⟩
  · simp only [hstage] at hrun
    exact txnCommit_eq_error hrun

end Commit

end ShibaDb
