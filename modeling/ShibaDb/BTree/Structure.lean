/-
The structural invariant of the B+tree in the terms of its nodes: what it says of
a tree read through a batch, that every put and delete keeps it, and that
`sdb_btree_verify` accepts what a commit leaves.
-/
import ShibaDb.BTree.Runs
import ShibaDb.BTree.Verify

namespace ShibaDb

open SepTree Fallible List

/-- Every key of a subtree lies in the half-open interval given by the separators
around it. -/
def Enclosed : {h : Nat} → Option Bytes → Option Bytes → PageTree h → Prop
  | 0, lo, hi, LeafPage.mk _ rows _ => ∀ row ∈ rows, Within lo hi row.1
  | _ + 1, lo, hi, InnerPage.mk _ first rest =>
    (∀ child ∈ rest, Within lo hi child.1) ∧ Between Enclosed lo first rest hi

/-- The right sibling stored in a page. -/
def siblingOf (read : PageId → Except SdbError BTreeNode) (page : PageId) : Option PageId :=
  match read page with
  | .ok node => some node.rightSibling
  | .error _ => none

/-- The invariant of a tree whose nodes are read with `read` from `rootPage` on.
All leaves of a `PageTree h` are at depth `h`. -/
structure TreeInvariant (pager : Pager) (read : PageId → Except SdbError BTreeNode)
    (rootPage : PageId) {h : Nat} (tree : PageTree h) : Prop where
  root : tree.page = rootPage
  stored : ∀ entry ∈ tree.cells, read entry.1 = .ok (cellNode entry.2)
  ascending : ∀ entry ∈ tree.cells, NodeSorted (cellNode entry.2)
  enclosed : Enclosed none none tree
  siblings : Chain.Visits 0 (siblingOf read) (headPage tree.leaves 0)
    (tree.leaves.map LeafPage.page)
  branching : ∀ entry ∈ tree.cells,
    (cellNode entry.2).kind = .internal → (cellNode entry.2).entries ≠ []
  once : tree.pages.Nodup
  fits : ∀ entry ∈ tree.cells, NodeFits pager (cellNode entry.2)

/-- An open pager whose superblock and file size passed the checks of an open. -/
structure InService (pager : Pager) : Prop where
  isOpen : pager.isOpen = true
  inService : pager.needsRecovery = false
  valid : superblockValid pager.superblock = true
  covers : FileCovers pager

instance (pager : Pager) : Decidable (InService pager) :=
  decidable_of_iff (pager.isOpen = true ∧ pager.needsRecovery = false ∧
    superblockValid pager.superblock = true ∧ FileCovers pager)
    ⟨fun ⟨hopen, hservice, hvalid, hcovers⟩ => ⟨hopen, hservice, hvalid, hcovers⟩,
      fun ⟨hopen, hservice, hvalid, hcovers⟩ => ⟨hopen, hservice, hvalid, hcovers⟩⟩

section Order

variable {h : Nat} {lo hi : Option Bytes}

lemma enclosed_of_ordered {tree : PageTree h} (hordered : tree.Ordered lo hi) :
    Enclosed lo hi tree := by
  induction h generalizing lo hi with
  | zero =>
    obtain ⟨page, rows, link, rfl⟩ := tree.exists_leaf
    exact hordered.2.2
  | succ h ih =>
    obtain ⟨page, first, rest, rfl⟩ := tree.exists_inner
    exact ⟨between_within hordered.1 hordered.2,
      between_imp hordered.1 fun _ _ _ _ hchild => ih hchild⟩

/-- Children inside the intervals of sorted separators are ordered. -/
lemma between_ordered {first : PageTree h} {rest : List (Bytes × PageTree h)}
    (hspan : Span lo hi) (hsorted : (rest.map Prod.fst).Pairwise (· < ·))
    (hwithin : ∀ child ∈ rest, Within lo hi child.1) (hbetween : Between Enclosed lo first rest hi)
    (hchild : ∀ {lo hi}, ∀ child ∈ first :: rest.map Prod.snd, Span lo hi →
      Enclosed lo hi child → child.Ordered lo hi) : Between Tree.Ordered lo first rest hi := by
  induction rest generalizing lo first with
  | nil => exact hchild first mem_cons_self hspan hbetween
  | cons head rest ih =>
    rw [forall_mem_cons] at hwithin
    rw [map_cons, pairwise_cons] at hsorted
    obtain ⟨hhead, hrest⟩ := hwithin
    refine ⟨hchild first mem_cons_self ?_ hbetween.1, ih ?_ hsorted.2 ?_ hbetween.2 ?_⟩
    · rintro low hlow _ ⟨⟩
      exact hhead.1 low hlow
    · rintro _ ⟨⟩ high hhigh
      exact le_of_lt (hhead.2 high hhigh)
    · refine fun child hmem => ⟨?_, (hrest child hmem).2⟩
      rintro _ ⟨⟩
      exact le_of_lt (hsorted.1 child.1 (mem_map_of_mem hmem))
    · exact fun {lo hi} child hmem => hchild child (mem_cons_of_mem _ hmem)

lemma ordered_of_enclosed {tree : PageTree h} (hspan : Span lo hi)
    (hsorted : ∀ entry ∈ tree.cells, NodeSorted (cellNode entry.2))
    (henclosed : Enclosed lo hi tree) : tree.Ordered lo hi := by
  induction h generalizing lo hi with
  | zero =>
    obtain ⟨page, rows, link, rfl⟩ := tree.exists_leaf
    exact ⟨hspan, nodeSorted_leaf.mp (hsorted _ mem_cons_self), henclosed⟩
  | succ h ih =>
    obtain ⟨page, first, rest, rfl⟩ := tree.exists_inner
    have hkeys : (rest.map Prod.fst).Pairwise (· < ·) := by
      simpa [map_map, Function.comp_def] using
        nodeSorted_inner.mp (hsorted _ mem_cons_self)
    refine ⟨between_ordered hspan hkeys henclosed.1 henclosed.2 fun {lo hi} child hmem hspan =>
      ih hspan fun entry hentry => hsorted entry ?_, fun key hkey => ?_⟩
    · rw [Tree.cells_inner]
      exact mem_cons_of_mem _ (List.mem_flatMap.mpr ⟨child, hmem, hentry⟩)
    · obtain ⟨child, hchild, rfl⟩ := List.mem_map.mp hkey
      exact (henclosed.1 child hchild).2

end Order

section Siblings

variable {read : PageId → Except SdbError BTreeNode} {leaves : List (LeafPage Bytes Bytes PageId)}

/-- The stored sibling links run through the leaves exactly when the leaves are
linked. -/
lemma visits_iff_linked
    (hread : ∀ leaf ∈ leaves, read leaf.page = .ok (cellNode (.leaf leaf.rows leaf.link)))
    (hne : ∀ leaf ∈ leaves, leaf.page ≠ 0) :
    Chain.Visits 0 (siblingOf read) (headPage leaves 0) (leaves.map LeafPage.page) ↔
      Linked leaves 0 := by
  induction leaves with
  | nil => simp [Chain.Visits, headPage, Linked]
  | cons leaf rest ih =>
    rw [forall_mem_cons] at hread hne
    have hlink : siblingOf read leaf.page = some leaf.link := by
      simp [siblingOf, hread.1, cellNode]
    rw [Linked, ← ih hread.2 hne.2, map_cons, Chain.Visits, hlink]
    constructor
    · rintro ⟨_, _, next, hnext, hvisits⟩
      obtain rfl := Option.some.inj hnext
      -- The link is the head of the rest: both are the first page it visits.
      have hhead : leaf.link = headPage rest 0 := by
        cases rest with
        | nil => exact hvisits
        | cons second rest => exact hvisits.1
      exact ⟨hhead, hhead ▸ hvisits⟩
    · rintro ⟨hhead, hvisits⟩
      exact ⟨rfl, hne.1, leaf.link, rfl, hhead ▸ hvisits⟩

end Siblings

section Committed

variable {pager : Pager} {h : Nat} {tree : PageTree h} {page : PageId}

/-- The page ids below `nextPageId` that are not among `used`. -/
def remainingPages (nextPageId : Nat) (used : List PageId) : List PageId :=
  ((List.range nextPageId).map UInt64.ofNat).filter fun page => page ≠ 0 ∧ page ∉ used

lemma mem_remainingPages {nextPageId : Nat} {used : List PageId} (hnext : nextPageId < 2 ^ 64) :
    page ∈ remainingPages nextPageId used ↔ (page ≠ 0 ∧ page.toNat < nextPageId) ∧ page ∉ used := by
  have hrange : page ∈ (List.range nextPageId).map UInt64.ofNat ↔ page.toNat < nextPageId := by
    rw [mem_map]
    constructor
    · rintro ⟨index, hindex, rfl⟩
      rw [mem_range] at hindex
      rwa [UInt64.toNat_ofNat_of_lt' (lt_trans hindex hnext)]
    · exact fun hlt => ⟨page.toNat, List.mem_range.mpr hlt, UInt64.ofNat_toNat⟩
  rw [remainingPages, mem_filter, hrange, decide_eq_true_eq]
  tauto

lemma nodup_remainingPages {nextPageId : Nat} {used : List PageId}
    (hnext : nextPageId < 2 ^ 64) : (remainingPages nextPageId used).Nodup := by
  refine List.Nodup.filter _ (List.Nodup.map_on ?_ nodup_range)
  intro left hleft right hright heq
  rw [mem_range] at hleft hright
  have htoNat := congrArg UInt64.toNat heq
  rwa [UInt64.toNat_ofNat_of_lt' (lt_trans hleft hnext),
    UInt64.toNat_ofNat_of_lt' (lt_trans hright hnext)] at htoNat

lemma pagerRead_bounds {view : PageView} (hread : pagerRead pager page = .ok view) :
    page ≠ 0 ∧ page.toNat < pager.superblock.nextPageId := by
  unfold pagerRead at hread
  split at hread
  · simp at hread
  · rename_i hguard
    simp only [Bool.or_eq_true, decide_eq_true_eq, not_or, ge_iff_le, not_le] at hguard
    exact ⟨hguard.1.2, hguard.2⟩

lemma btreeReadNode_data {node : BTreeNode} (hread : btreeReadNode pager page = .ok node) :
    ∃ view, pagerRead pager page = .ok view ∧ view.type = .data := by
  obtain ⟨view, hview, hnode⟩ := except_bind_eq_ok.mp hread
  refine ⟨view, hview, ?_⟩
  split at hnode
  · simp at hnode
  · rename_i htype
    simpa using htype

lemma pagerFreeLink_free {next : PageId} (hlink : pagerFreeLink pager page = some next) :
    ∃ view, pagerRead pager page = .ok view ∧ view.type = .free := by
  unfold pagerFreeLink at hlink
  cases hview : pagerRead pager page with
  | error error => simp [hview] at hlink
  | ok view =>
    simp only [hview, freeImageLink, Option.ite_none_right_eq_some] at hlink
    exact ⟨view, rfl, hlink.1.1⟩

lemma TreeInvariant.cell_branching {read : PageId → Except SdbError BTreeNode}
    {rootPage : PageId} (hinvariant : TreeInvariant pager read rootPage tree)
    {entry : PageId × NodeCell} (hentry : entry ∈ tree.cells) : entry.2.Branching := by
  have hbranching := hinvariant.branching entry hentry
  obtain ⟨page, cell⟩ := entry
  cases cell with
  | leaf rows link => trivial
  | inner first rest => simpa [cellNode, Cell.Branching] using hbranching

lemma TreeInvariant.linked (hinvariant : TreeInvariant pager (btreeReadNode pager)
    pager.superblock.rootPage tree) : Linked tree.leaves 0 := by
  have hread : ∀ leaf ∈ tree.leaves,
      btreeReadNode pager leaf.page = .ok (cellNode (.leaf leaf.rows leaf.link)) :=
    fun leaf hleaf => hinvariant.stored _ (Tree.leaf_mem_cells hleaf)
  refine (visits_iff_linked hread fun leaf hleaf => ?_).mp hinvariant.siblings
  obtain ⟨view, hview, _⟩ := btreeReadNode_data (hread leaf hleaf)
  exact (pagerRead_bounds hview).1

/-- A committed tree with the invariant and a freelist that ends is a tree the
batches work on; the other pages are those in neither. -/
lemma TreeInvariant.storesTree (hservice : InService pager) {free : List PageId}
    (hfree : Chain.Visits 0 (pagerFreeLink pager) pager.superblock.freelistPage free)
    (hinvariant : TreeInvariant pager (btreeReadNode pager) pager.superblock.rootPage tree) :
    StoresTree pager (remainingPages pager.superblock.nextPageId (tree.pages ++ free)) tree := by
  have hgeometry := (geometry_of_superblockValid hservice.valid).2
  have hnext := pageGeometryValid_lt hgeometry
  have hdata : ∀ page ∈ tree.pages, ∃ view, pagerRead pager page = .ok view ∧
      view.type = .data := by
    intro page hpage
    obtain ⟨entry, hentry, rfl⟩ := List.mem_map.mp hpage
    exact btreeReadNode_data (hinvariant.stored entry hentry)
  have hfreePages : ∀ page ∈ free, ∃ view, pagerRead pager page = .ok view ∧ view.type = .free := by
    intro page hpage
    obtain ⟨left, right, rfl⟩ := append_of_mem hpage
    obtain ⟨_, _, next, hlink, _⟩ := hfree.of_append
    exact pagerFreeLink_free hlink
  have hdisjoint : ∀ page ∈ tree.pages, page ∉ free := by
    intro page hpage hmem
    obtain ⟨view, hview, htype⟩ := hdata page hpage
    obtain ⟨view', hview', htype'⟩ := hfreePages page hmem
    obtain rfl : view = view' := Except.ok.inj (hview.symm.trans hview')
    simp [htype] at htype'
  have hbounds : ∀ page ∈ tree.pages ++ free,
      page ≠ 0 ∧ page.toNat < pager.superblock.nextPageId := by
    intro page hpage
    rcases List.mem_append.mp hpage with hpage | hpage
    · obtain ⟨view, hview, _⟩ := hdata page hpage
      exact pagerRead_bounds hview
    · obtain ⟨view, hview, _⟩ := hfreePages page hpage
      exact pagerRead_bounds hview
  have halloc : Allocation pager (freshTxn pager)
      (remainingPages pager.superblock.nextPageId (tree.pages ++ free) ++ tree.pages) free := by
    refine ⟨rfl, hfree, ?_, ?_, by simp [freshTxn], by simp [freshTxn], hgeometry⟩
    · rw [append_assoc]
      refine List.nodup_append.mpr ⟨nodup_remainingPages hnext, ?_, ?_⟩
      · refine List.nodup_append.mpr ⟨hinvariant.once, hfree.nodup, ?_⟩
        rintro page hpage _ hmem rfl
        exact hdisjoint page hpage hmem
      · rintro page hpage _ hmem rfl
        exact ((mem_remainingPages hnext).mp hpage).2 hmem
    · intro page
      rw [append_assoc, mem_append, mem_remainingPages hnext]
      have hused := hbounds page
      simp only [freshTxn]
      tauto
  refine ⟨hservice.isOpen, hservice.inService, hservice.valid, hservice.covers,
    ⟨⟨⟨free, halloc⟩, by simp [freshBatch], by simp [freshBatch]⟩, hinvariant.root,
      fun entry hentry => ⟨⟨hinvariant.stored entry hentry, hinvariant.fits entry hentry⟩,
        hinvariant.cell_branching hentry⟩,
      ordered_of_enclosed (fun _ hlow => by simp at hlow) hinvariant.ascending
        hinvariant.enclosed, hinvariant.linked⟩⟩

/-- The tree a batch holds has the invariant. -/
lemma HoldsTree.invariant {batch : BTreeBatch} {others : List PageId}
    (hholds : HoldsTree pager batch others tree) :
    TreeInvariant pager (btreeBatchReadNode pager batch) batch.rootPage tree := by
  refine ⟨hholds.root, fun entry hentry => (hholds.readable entry hentry).1,
    fun entry hentry => (hholds.readable entry hentry).2, enclosed_of_ordered hholds.ordered,
    ?_, fun entry hentry hkind => ?_, hholds.nodup,
    fun entry hentry => (hholds.shown entry hentry).1.2⟩
  · refine (visits_iff_linked (fun leaf hleaf =>
      (hholds.readable _ (Tree.leaf_mem_cells hleaf)).1) fun leaf hleaf => ?_).mpr hholds.linked
    exact hholds.ok.owns.ne_zero (mem_append_right _
      (mem_map_of_mem (f := Prod.fst) (Tree.leaf_mem_cells hleaf)))
  · have hbranching := (hholds.shown entry hentry).2
    obtain ⟨page, cell⟩ := entry
    cases cell with
    | leaf rows link => simp [cellNode] at hkind
    | inner first rest => simpa [cellNode, Cell.Branching] using hbranching

end Committed

section Batches

variable {pager working : Pager} {batch : BTreeBatch} {others : List PageId} {h : Nat}
  {tree : PageTree h}

/-- A mutation that succeeds leaves the batch in service. -/
lemma runOp_ok_sound (hsound : Sound pager others batch) {op : BTreeOp}
    (hok : (runOp pager op batch).1 = .status (.ok ())) :
    ∃ (h' : Nat) (tree' : PageTree h'), Working pager (runOp pager op batch).2 others tree' := by
  rcases runOp_sound hsound op with hpoisoned | hworking
  swap
  · exact hworking
  rcases hsound with hbefore | ⟨h, tree, hworking⟩
  · obtain ⟨error, herror⟩ := Option.ne_none_iff_exists'.mp hbefore
    have hkey : ∀ key, batchKeyValid batch key = false := fun key => by
      simp [batchKeyValid, herror]
    cases op with
    | put key value => simp [runOp, btreeBatchPut, hkey] at hok
    | delete key => simp [runOp, btreeBatchDelete, hkey] at hok
    | get key capacity => simp [runOp] at hok
  · cases op with
    | put key value =>
      rcases hput : btreeBatchPut pager key value batch with ⟨status, after⟩
      simp only [runOp, hput, OpResult.status.injEq] at hok hpoisoned ⊢
      rcases btreeBatchPut_cases hworking hput with
        ⟨_, h', tree', hworking', _⟩ | ⟨rfl, _, _⟩ | ⟨error, rfl, _, _⟩
      · exact ⟨h', tree', hworking'⟩
      · cases hok
      · cases hok
    | delete key =>
      rcases hdelete : btreeBatchDelete pager key batch with ⟨status, after⟩
      simp only [runOp, hdelete, OpResult.status.injEq] at hok hpoisoned ⊢
      rcases btreeBatchDelete_cases hworking hdelete with
        ⟨rfl, _, _⟩ | ⟨rfl, _, _⟩ | ⟨_, ⟨_, h', tree', hworking', _⟩ | ⟨error, rfl, _, _⟩⟩
      · cases hok
      · cases hok
      · exact ⟨h', tree', hworking'⟩
      · cases hok
    | get key capacity => simp [runOp] at hok

/-- Over every batch on a committed tree with the invariant, in a database whose
freelist ends: after each put or delete that succeeds the tree seen through the
batch has the invariant again, and the tree a commit leaves passes
`sdb_btree_verify`. -/
theorem btree_structure_kept (hservice : InService pager)
    (hfreelist : ∃ free, Chain.Visits 0 (pagerFreeLink pager) pager.superblock.freelistPage free)
    (hinvariant : TreeInvariant pager (btreeReadNode pager) pager.superblock.rootPage tree)
    (hbegin : btreeBatchBegin pager pager.superblock.rootPage = .ok (batch, working))
    (ops : List BTreeOp) :
    (∀ op, (runOp working op (runOps working ops batch).2).1 = .status (.ok ()) →
      ∃ (h' : Nat) (tree' : PageTree h'), TreeInvariant working
        (btreeBatchReadNode working (runOp working op (runOps working ops batch).2).2)
        pager.superblock.rootPage tree') ∧
    ∀ committed, btreeBatchCommit working (runOps working ops batch).2 = (.ok (), committed) →
      pager.superblock.generation + 1 < uint64Max →
      ∃ result, btreeVerify committed pager.superblock.rootPage = .ok result := by
  obtain ⟨free, hfree⟩ := hfreelist
  have hstores := hinvariant.storesTree hservice hfree
  obtain ⟨_, rfl, rfl⟩ := btreeBatchBegin_eq_ok hbegin
  have hsound := runOps_sound (Or.inr ⟨h, tree, hstores.working⟩) ops
  refine ⟨fun op hok => ?_, fun committed hcommit hroom => ?_⟩
  · obtain ⟨h', tree', hworking⟩ := runOp_ok_sound hsound hok
    have hinvariant' := hworking.holds.invariant
    rw [hworking.rootPage] at hinvariant'
    exact ⟨h', tree', hinvariant'⟩
  · obtain ⟨⟨h', tree', hstores'⟩, hroot, hfenced⟩ := commit_stores hstores hsound hcommit
    have hservice' : committed.needsRecovery = false :=
      eq_false_of_ne_true fun hfence => absurd hroom (not_lt.mpr (hfenced hfence))
    rw [Pager.unfenced_of_inService hservice'] at hstores'
    rw [← hroot]
    exact hstores'.verify

/-- The empty root leaf of a new database has the invariant. -/
lemma emptyTree_invariant (hread : btreeReadNode pager 1 = .ok emptyLeaf)
    (hcapacity : btreeNodeHeaderSize ≤ pagerPayloadCapacity pager) :
    TreeInvariant pager (btreeReadNode pager) 1 emptyTree := by
  have hcells : ∀ entry ∈ emptyTree.cells, entry = (1, .leaf [] 0) := by
    intro entry hentry
    simpa [emptyTree, Tree.cells] using hentry
  have hsibling : siblingOf (btreeReadNode pager) 1 = some 0 := by
    rw [siblingOf, hread]
    rfl
  refine ⟨rfl, fun entry hentry => ?_, fun entry hentry => ?_, forall_mem_nil _, ?_,
    fun entry hentry hkind => ?_, by simp [emptyTree], fun entry hentry => ?_⟩
  · rw [hcells entry hentry]
    exact hread
  · rw [hcells entry hentry]
    exact List.Pairwise.nil
  · exact ⟨rfl, by decide, 0, hsibling, rfl⟩
  · rw [hcells entry hentry] at hkind
    cases hkind
  · rw [hcells entry hentry]
    exact ⟨btreeNodeHeaderSize, rfl, hcapacity⟩

/-- A stored tree has the invariant, and the freelist beside it ends. -/
lemma StoresTree.invariant (hstores : StoresTree pager others tree) :
    InService pager ∧ (∃ free, Chain.Visits 0 (pagerFreeLink pager)
      pager.superblock.freelistPage free) ∧
      TreeInvariant pager (btreeReadNode pager) pager.superblock.rootPage tree := by
  obtain ⟨free, halloc⟩ := hstores.holds.ok.owns
  exact ⟨⟨hstores.isOpen, hstores.inService, hstores.valid, hstores.covers⟩,
    ⟨free, halloc.chain⟩, hstores.holds.invariant⟩

/-- Rows so large that two fit a leaf. -/
def largePut (key : UInt8) : BTreeOp := .put [key] (List.replicate 1500 0)

/-- After a split and a merge a page is free; the batch then splits over that page and
over a new one, and deletes. -/
theorem btree_structure_kept_one_batch : ∃ created pager batch working committed,
      freshDatabase 4096 [1] false = .ok created ∧
      runBatches [⟨[largePut 1, largePut 2, largePut 3], .commit⟩, ⟨[.delete [1]], .commit⟩]
        created = .ok pager ∧ pager.superblock.freelistPage ≠ 0 ∧
      btreeBatchBegin pager pager.superblock.rootPage = .ok (batch, working) ∧
      btreeBatchCommit working (runOps working [largePut 1, largePut 4, .delete [2]] batch).2 =
        (.ok (), committed) ∧
      ∃ result, btreeVerify committed pager.superblock.rootPage = .ok result := by
  have hrun : (freshDatabase 4096 [1] false >>= fun created =>
      runBatches [⟨[largePut 1, largePut 2, largePut 3], .commit⟩, ⟨[.delete [1]], .commit⟩]
        created >>= fun pager =>
      btreeBatchBegin pager pager.superblock.rootPage >>= fun begun =>
        let commit := btreeBatchCommit begun.2
          (runOps begun.2 [largePut 1, largePut 4, .delete [2]] begun.1).2
        .ok (commit.1, pager.superblock.freelistPage, pager.superblock.generation,
          pager.needsRecovery)) = .ok (.ok (), 2, 5, false) := by
    decide +kernel
  simp only [except_bind_eq_ok, Except.ok.injEq, Prod.mk.injEq, Prod.exists] at hrun
  obtain ⟨created, hcreated, pager, hpager, batch, working, hbegin, hcommit, hfreelist,
    hgeneration, hservice⟩ := hrun
  obtain ⟨h, tree, hstores⟩ :=
    runBatches_stores ⟨0, emptyTree, (freshDatabase_created hcreated).stores⟩ hpager
  rw [Pager.unfenced_of_inService hservice] at hstores
  obtain ⟨hinService, hfree, hinvariant⟩ := hstores.invariant
  refine ⟨created, pager, batch, working, _, hcreated, hpager, by simp [hfreelist], hbegin,
    Prod.ext hcommit rfl, ?_⟩
  refine (btree_structure_kept hinService hfree hinvariant hbegin
    [largePut 1, largePut 4, .delete [2]]).2 _ (Prod.ext hcommit rfl) ?_
  rw [hgeneration]
  decide

lemma pages_sublist (kids : List (PageTree h)) :
    (kids.map Tree.page).Sublist (kids.flatMap Tree.pages) := by
  induction kids with
  | nil => exact List.Sublist.refl _
  | cons child kids ih =>
    rw [map_cons, flatMap_cons, Tree.pages_eq, cons_append]
    exact (ih.trans (sublist_append_right _ _)).cons_cons _

/-- The children of a root node with the invariant are different pages. -/
lemma TreeInvariant.children_nodup {read : PageId → Except SdbError BTreeNode}
    {rootPage : PageId} (hinvariant : TreeInvariant pager read rootPage tree) {node : BTreeNode}
    (hread : read rootPage = .ok node) (hkind : node.kind = .internal) :
    (node.firstChild :: node.entries.map BTreeEntry.rightChild).Nodup := by
  have hroot := hinvariant.stored _ mem_cons_self
  rw [show (tree.page, tree.cell).1 = rootPage from hinvariant.root, hread] at hroot
  obtain rfl : node = cellNode tree.cell := Except.ok.inj hroot
  cases h with
  | zero => cases hkind
  | succ h =>
    obtain ⟨page, first, rest, rfl⟩ := tree.exists_inner
    have honce := hinvariant.once
    rw [Tree.pages_inner] at honce
    have hkids := (List.nodup_cons.mp honce).2.sublist (pages_sublist (first :: rest.map Prod.snd))
    simpa [cellNode, childEntry, Function.comp_def] using hkids

/-- A FREE page image. -/
def freeView (next : PageId) : PageView :=
  { type := .free, pageLsn := 0, payload := linkPayload next }

/-- A database whose two free pages link to each other. -/
def cyclicDatabase : Except SdbError Pager := do
  let created ← freshDatabase 4096 [1] false
  .ok { created with
    superblock := { created.superblock with freelistPage := 2, nextPageId := 4 }
    pages := setPage (setPage created.pages 2 (freeView 3)) 3 (freeView 2)
    fileSize := dataOffset + 3 * 4096 }

/-- On a freelist that runs in a circle the allocator hands out a page twice: the
fourth put succeeds and leaves the root with the same child twice.  And with an
exhausted generation counter the commit takes the pager out of service, so that
the check after it is refused. -/
theorem btree_structure_needs_freelist : (∃ pager batch working, InService pager ∧
      TreeInvariant pager (btreeReadNode pager) pager.superblock.rootPage emptyTree ∧
      btreeBatchBegin pager pager.superblock.rootPage = .ok (batch, working) ∧
      (let before := (runOps working [largePut 1, largePut 2, largePut 3] batch).2
       (runOp working (largePut 4) before).1 = .status (.ok ()) ∧
       ∀ (h : Nat) (tree : PageTree h), ¬TreeInvariant working
        (btreeBatchReadNode working (runOp working (largePut 4) before).2)
        pager.superblock.rootPage tree)) ∧
    ∃ pager batch working committed, InService pager ∧
      pager.superblock.freelistPage = 0 ∧
      TreeInvariant pager (btreeReadNode pager) pager.superblock.rootPage emptyTree ∧
      btreeBatchBegin pager pager.superblock.rootPage = .ok (batch, working) ∧
      btreeBatchCommit working (runOps working [.put [1] [2]] batch).2 = (.ok (), committed) ∧
      btreeVerify committed pager.superblock.rootPage = .error .invalidArgument := by
  constructor
  · have hfacts : (cyclicDatabase >>= fun pager =>
        .ok (btreeReadNode pager 1, pagerPayloadCapacity pager, pager.superblock.rootPage,
          decide (InService pager))) = .ok (.ok emptyLeaf, 4064, 1, true) := by
      decide +kernel
    have hrun : (cyclicDatabase >>= fun pager =>
        btreeBatchBegin pager pager.superblock.rootPage >>= fun begun =>
          let before := (runOps begun.2 [largePut 1, largePut 2, largePut 3] begun.1).2
          let last := btreeBatchPut begun.2 [4] (List.replicate 1500 0) before
          btreeBatchReadNode begun.2 last.2 1 >>= fun root =>
            .ok (last.1, root.kind, root.firstChild :: root.entries.map BTreeEntry.rightChild)) =
        .ok (.ok (), .internal, [3, 2, 2]) := by
      decide +kernel
    simp only [except_bind_eq_ok, Except.ok.injEq, Prod.mk.injEq, Prod.exists] at hfacts hrun
    obtain ⟨pager, hpager, hread, hcapacity, hrootPage, hservice⟩ := hfacts
    obtain ⟨_, hpager', batch, working, hbegin, root, hroot, hput, hkind, hchildren⟩ := hrun
    obtain rfl := Except.ok.inj (hpager.symm.trans hpager')
    refine ⟨pager, batch, working, of_decide_eq_true hservice, ?_, hbegin,
      congrArg OpResult.status hput, fun h tree hinvariant => ?_⟩
    · rw [hrootPage]
      exact emptyTree_invariant hread (hcapacity ▸ by decide)
    · rw [hrootPage] at hinvariant
      have hnodup := hinvariant.children_nodup hroot hkind
      rw [hchildren] at hnodup
      revert hnodup
      decide
  · have hrun : (freshDatabase 4096 [1] false >>= fun created =>
        let pager : Pager := { created with
          superblock := { created.superblock with generation := 2 ^ 64 - 2 }, walTail := 4096000 }
        btreeBatchBegin pager pager.superblock.rootPage >>= fun begun =>
          let commit := btreeBatchCommit begun.2 (runOps begun.2 [.put [1] [2]] begun.1).2
          .ok (commit.1, btreeVerify commit.2 1, btreeReadNode pager 1,
            pagerPayloadCapacity pager)) =
        .ok (.ok (), .error .invalidArgument, .ok emptyLeaf, 4064) := by
      decide +kernel
    simp only [except_bind_eq_ok, Except.ok.injEq, Prod.mk.injEq, Prod.exists] at hrun
    obtain ⟨created, hcreated, batch, working, hbegin, hcommit, hverify, hread, hcapacity⟩ := hrun
    have hfacts := (freshDatabase_created hcreated).counters (2 ^ 64 - 2) 4096000
    refine ⟨_, batch, working, _, ⟨hfacts.isOpen, hfacts.inService, hfacts.valid, hfacts.covers⟩,
      hfacts.freelistPage, ?_, hbegin, Prod.ext hcommit rfl, ?_⟩
    · rw [hfacts.rootPage]
      exact emptyTree_invariant hread (hcapacity ▸ by decide)
    · rw [hfacts.rootPage]
      exact hverify

end Batches

section Conservation

variable {pager : Pager} {h : Nat} {tree : PageTree h}

/-- Every page id below `next_page_id` is exactly one of: a page of the tree read
from the root, there once, or a FREE page, once on a freelist that ends. -/
structure Conserved (pager : Pager) {h : Nat} (tree : PageTree h) (free : List PageId) :
    Prop where
  root : tree.page = pager.superblock.rootPage
  stored : ∀ entry ∈ tree.cells, btreeReadNode pager entry.1 = .ok (cellNode entry.2)
  freelist : Chain.Visits 0 (pagerFreeLink pager) pager.superblock.freelistPage free
  pages : ∀ page, (page ≠ 0 ∧ page.toNat < pager.superblock.nextPageId) ↔
    (tree.pages.count page = 1 ∧ page ∉ free) ∨ (free.count page = 1 ∧ page ∉ tree.pages)

lemma StoresTree.conserved (hstores : StoresTree pager [] tree) :
    ∃ free, Conserved pager tree free := by
  obtain ⟨free, halloc⟩ := hstores.holds.ok.owns
  refine ⟨free, hstores.holds.root, fun entry hentry => (hstores.holds.shown entry hentry).1.1,
    halloc.chain, fun page => ?_⟩
  have hmem := halloc.mem page
  rw [nil_append, mem_append] at hmem
  rw [show (freshBatch pager).txn.targetSuperblock = pager.superblock from rfl] at hmem
  have hnodup := halloc.nodup
  rw [nil_append] at hnodup
  obtain ⟨htree, hfree, hdisjoint⟩ := List.nodup_append.mp hnodup
  have hnever : page ∈ tree.pages → page ∉ free := fun hpage hpage' =>
    hdisjoint page hpage page hpage' rfl
  rw [← hmem, htree.count, hfree.count]
  by_cases hpage : page ∈ tree.pages
  · simp [hpage, hnever hpage]
  · simp [hpage]

/-- Page conservation: over every sequence of batches on a new database. -/
theorem pages_conserved {pageSize : Nat} {fileId : Bytes} {encrypted : Bool} {created : Pager}
    {scripts : List BatchScript} (hcreated : freshDatabase pageSize fileId encrypted = .ok created)
    (hrun : runBatches scripts created = .ok pager) :
    ∃ (h : Nat) (tree : PageTree h) (free : List PageId), Conserved pager.unfenced tree free := by
  obtain ⟨h, tree, hstores⟩ :=
    runBatches_stores ⟨0, emptyTree, (freshDatabase_created hcreated).stores⟩ hrun
  exact ⟨h, tree, hstores.conserved⟩

/-- Two batches, the second of which frees a page. -/
theorem pages_conserved_two_batches : ∃ created pager, freshDatabase 4096 [1] false = .ok created ∧
      runBatches [⟨[largePut 1, largePut 2, largePut 3], .commit⟩, ⟨[.delete [1]], .commit⟩]
        created = .ok pager ∧ pager.superblock.freelistPage ≠ 0 ∧
      ∃ (h : Nat) (tree : PageTree h) (free : List PageId), Conserved pager.unfenced tree free := by
  have hrun : (freshDatabase 4096 [1] false >>= fun created =>
      runBatches [⟨[largePut 1, largePut 2, largePut 3], .commit⟩, ⟨[.delete [1]], .commit⟩]
        created >>= fun pager => .ok pager.superblock.freelistPage) = .ok 2 := by
    decide +kernel
  simp only [except_bind_eq_ok, Except.ok.injEq] at hrun
  obtain ⟨created, hcreated, pager, hrun, hfreelist⟩ := hrun
  exact ⟨created, pager, hcreated, hrun, by simp [hfreelist], pages_conserved hcreated hrun⟩

end Conservation

end ShibaDb
