/-
A freshly created database: one empty leaf at page 1 and no free page.
-/
import ShibaDb.BTree.Commit

namespace ShibaDb

open SepTree Fallible

variable {pager pager' : Pager} {pageSize : Nat} {fileId : Bytes} {encrypted : Bool}

/-- The tree of a new database. -/
def emptyTree : PageTree 0 := .leaf 1 [] 0

def emptyLeaf : BTreeNode := { kind := .leaf, rightSibling := 0, firstChild := 0, entries := [] }

lemma pagerStoreSuperblock_eq_ok {next : Superblock}
    (hrun : pagerStoreSuperblock pager next = .ok pager') :
    superblockValid next = true ∧ pager' = { pager with superblock := next } := by
  unfold pagerStoreSuperblock at hrun
  split at hrun
  · exact ⟨by assumption, (Except.ok.inj hrun).symm⟩
  · simp at hrun

lemma pagerWrite_eq_ok {pageId : PageId} {view : PageView}
    (hrun : pagerWrite pager pageId view = .ok pager') :
    pager' = { pager with pages := setPage pager.pages pageId view } ∧
      view.payload.length ≤ pagerPayloadCapacity pager := by
  unfold pagerWrite at hrun
  split at hrun
  · simp at hrun
  split at hrun
  · simp at hrun
  · exact ⟨(Except.ok.inj hrun).symm, by omega⟩

lemma pagerCreate_eq_ok (hrun : pagerCreate pageSize fileId encrypted = .ok pager) :
    pager.superblock = { pageSize, generation := 1, checkpointLsn := 0, rootPage := 0
                         freelistPage := 0, nextPageId := 1, fileId } ∧
      pager.isOpen = true ∧ pager.needsRecovery = false ∧ pager.transactionActive = false := by
  simp only [pagerCreate] at hrun
  split at hrun
  · obtain rfl := Except.ok.inj hrun
    exact ⟨rfl, rfl, rfl, rfl⟩
  · simp at hrun

/-- Without a freelist the next page at the end of the file is allocated. -/
lemma pagerAllocate_eq_ok {pageId : PageId} (hfree : pager.superblock.freelistPage = 0)
    (hrun : pagerAllocate pager = .ok (pageId, pager')) :
    pageId = UInt64.ofNat pager.superblock.nextPageId ∧ ∃ view, pager' =
      { pager with
        superblock := { pager.superblock with
          freelistPage := 0
          nextPageId := pager.superblock.nextPageId + 1
          generation := pager.superblock.generation + 1 }
        pages := setPage pager.pages pageId view
        fileSize := dataOffset + pager.superblock.nextPageId * pager.superblock.pageSize } := by
  simp only [pagerAllocate] at hrun
  split at hrun
  · simp at hrun
  simp only [pagerTakePage, hfree, ne_eq, not_true_eq_false, ↓reduceIte, except_bind_eq_ok] at hrun
  obtain ⟨⟨page, next, fileSize⟩, htake, generation, hbump, middle, hstore, written, hwrite,
    hresult⟩ := hrun
  obtain ⟨rfl, rfl⟩ := Prod.mk.inj (Except.ok.inj hresult)
  split at htake
  · simp at htake
  split at htake
  · simp at htake
  simp only [except_bind_eq_ok, Except.ok.injEq, Prod.mk.injEq] at htake
  obtain ⟨size, hsize, rfl, rfl, rfl⟩ := htake
  obtain rfl := fileResize_eq_ok hsize
  obtain ⟨_, rfl⟩ := pagerStoreSuperblock_eq_ok hstore
  obtain ⟨rfl, _⟩ := pagerWrite_eq_ok hwrite
  obtain rfl : pager.superblock.generation + 1 = generation := by
    simp only [generationBump] at hbump
    split at hbump
    · simp at hbump
    · exact Except.ok.inj hbump
  exact ⟨rfl, _, rfl⟩

/-- What `sdb_btree_create` leaves in a new database. -/
structure Created (pager : Pager) : Prop where
  valid : superblockValid pager.superblock = true
  isOpen : pager.isOpen = true
  inService : pager.needsRecovery = false
  rootPage : pager.superblock.rootPage = 1
  freelistPage : pager.superblock.freelistPage = 0
  nextPageId : pager.superblock.nextPageId = 2
  rootView : ∃ lsn, pager.pages 1 =
    some { type := .data, pageLsn := lsn, payload := nodeImage emptyLeaf }
  capacity : (nodeImage emptyLeaf).length ≤ pagerPayloadCapacity pager
  covers : FileCovers pager

lemma btreeCreate_created {empty : Pager}
    (hcreate : pagerCreate pageSize fileId encrypted = .ok empty)
    (hrun : btreeCreate empty = .ok pager) : Created pager := by
  obtain ⟨hsuper, hopen, hservice, _⟩ := pagerCreate_eq_ok hcreate
  simp only [btreeCreate] at hrun
  split at hrun
  · simp at hrun
  simp only [except_bind_eq_ok] at hrun
  obtain ⟨⟨page, allocated⟩, hallocate, payload, hencode, written, hwrite, generation, _,
    hstore⟩ := hrun
  obtain ⟨rfl, view, rfl⟩ := pagerAllocate_eq_ok (by rw [hsuper]) hallocate
  obtain ⟨rfl, hcapacity⟩ := pagerWrite_eq_ok hwrite
  obtain ⟨hvalid, rfl⟩ := pagerStoreSuperblock_eq_ok hstore
  obtain rfl : nodeImage emptyLeaf = payload := Except.ok.inj hencode
  refine ⟨hvalid, hopen, hservice, ?_, ?_, ?_, ⟨0, ?_⟩, hcapacity, ?_⟩
  · simp [hsuper]
  · simp
  · simp [hsuper]
  · simp [setPage, hsuper]
  · simp [FileCovers, hsuper]

lemma Created.counters (hcreated : Created pager) (generation walTail : Nat) :
    Created { pager with superblock := { pager.superblock with generation }, walTail } :=
  ⟨hcreated.valid, hcreated.isOpen, hcreated.inService, hcreated.rootPage,
    hcreated.freelistPage, hcreated.nextPageId, hcreated.rootView, hcreated.capacity,
    hcreated.covers⟩

/-- A new database with its tree. -/
def freshDatabase (pageSize : Nat) (fileId : Bytes) (encrypted : Bool) :
    Except SdbError Pager := do
  let pager ← pagerCreate pageSize fileId encrypted
  btreeCreate pager

lemma freshDatabase_created (hrun : freshDatabase pageSize fileId encrypted = .ok pager) :
    Created pager := by
  obtain ⟨empty, hcreate, htree⟩ := except_bind_eq_ok.mp hrun
  exact btreeCreate_created hcreate htree

/-- A new database stores the empty tree. -/
lemma Created.storesTree (hcreated : Created pager) : StoresTree pager [] emptyTree := by
  obtain ⟨lsn, hroot⟩ := hcreated.rootView
  have hencoded : btreeNodeEncodedSize emptyLeaf = .ok btreeNodeHeaderSize := rfl
  have hgeometry := (geometry_of_superblockValid hcreated.valid).2
  have hread : btreeBatchReadNode pager (freshBatch pager) 1 = .ok emptyLeaf := by
    change btreeReadNode pager 1 = .ok emptyLeaf
    simp only [btreeReadNode, pagerRead, hcreated.isOpen, hcreated.inService, hroot,
      hcreated.nextPageId]
    exact (btreeNodeEncode_eq_ok hencoded).2.2
  refine ⟨hcreated.isOpen, hcreated.inService, hcreated.valid, hcreated.covers,
    ⟨⟨⟨[], ⟨rfl, hcreated.freelistPage, by simp [emptyTree], ?_, by simp [freshBatch, freshTxn],
      by simp [freshBatch, freshTxn], hgeometry⟩⟩, by simp [freshBatch], by simp [freshBatch]⟩,
      hcreated.rootPage.symm, ?_, ?_, ⟨rfl, trivial⟩⟩⟩
  · intro page
    simp only [emptyTree, Tree.pages_leaf, List.append_nil, List.nil_append, List.mem_singleton,
      freshBatch, freshTxn, hcreated.nextPageId]
    rw [← UInt64.toNat_inj, ne_eq, ← UInt64.toNat_inj]
    simp only [UInt64.toNat_one, UInt64.toNat_zero]
    omega
  · intro entry hentry
    obtain rfl : entry = (1, .leaf [] 0) := by simpa [emptyTree, Tree.cells] using hentry
    exact ⟨⟨hread, btreeNodeHeaderSize, hencoded, hcreated.capacity⟩, trivial⟩
  · refine ⟨fun _ hlow => by simp at hlow, ?_, by simp⟩
    simp [SortedRows]

lemma Created.stores (hcreated : Created pager) : StoresTree pager.unfenced [] emptyTree := by
  rw [Pager.unfenced_of_inService hcreated.inService]
  exact hcreated.storesTree

end ShibaDb
