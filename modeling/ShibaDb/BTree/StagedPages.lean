/-
How many pages a put stages.  It stages every node on the way to its leaf, and new pages
for the halves of nodes it splits; so it stages no page that was not staged before exactly
when the way to the row is staged and its leaf has room.
-/
import ShibaDb.BTree.Put

namespace ShibaDb

open SepTree Fallible List

/-- The pages with a staged image, in the order in which they were staged. -/
def BTreeBatch.stagedPages (batch : BTreeBatch) : List PageId :=
  batch.items.map BTreeMutation.pageId

/-- The nodes from `page` down to the leaf of `key` are staged, and the leaf has room for
the row. -/
def rowAtHand (pager : Pager) (batch : BTreeBatch) (key value : Bytes) : Nat → PageId → Bool
  | 0, _ => false
  | fuel + 1, page =>
    batch.stagedPages.contains page &&
      match btreeBatchReadNode pager batch page with
      | .error _ => false
      | .ok node =>
        match node.kind with
        | .leaf =>
          match btreeNodeEncodedSize (btreeLeafPut node key value) with
          | .error _ => false
          | .ok size => size ≤ pagerPayloadCapacity pager
        | .internal =>
          rowAtHand pager batch key value fuel
            (btreeChildAt node (btreeChildIndex node key))

section Stage

variable {pager : Pager} {batch batch' : BTreeBatch} {page : PageId} {node : BTreeNode}

lemma map_stageItem (page : PageId) (payload : Bytes) (items : List BTreeMutation) :
    (stageItem page payload items).map BTreeMutation.pageId =
      if page ∈ items.map BTreeMutation.pageId then items.map BTreeMutation.pageId
      else items.map BTreeMutation.pageId ++ [page] := by
  induction items with
  | nil => rfl
  | cons item items ih =>
    rw [stageItem]
    by_cases hitem : item.pageId = page
    · simp [hitem]
    · rw [if_neg hitem, map_cons, ih]
      by_cases hmem : page ∈ items.map BTreeMutation.pageId
      · simp [hmem]
      · simp [hmem, Ne.symm hitem]

/-- Staging leaves the page staged, and it is the only new one. -/
lemma btreeStage_pages {result : PUnit}
    (hrun : btreeStage pager page node batch = (.ok result, batch')) : batch'.stagedPages =
      if page ∈ batch.stagedPages then batch.stagedPages else batch.stagedPages ++ [page] := by
  obtain ⟨_, rfl⟩ := btreeStage_eq_ok.mp hrun
  exact map_stageItem page _ batch.items

lemma btreeStage_grows {result : PUnit}
    (hrun : btreeStage pager page node batch = (.ok result, batch')) :
    batch.stagedPages <+: batch'.stagedPages ∧ page ∈ batch'.stagedPages := by
  rw [btreeStage_pages hrun]
  split
  · rename_i hmem
    exact ⟨prefix_refl _, hmem⟩
  · exact ⟨prefix_append _ _, by simp⟩

lemma onTxn_pages {α : Type} {step : TxnM α} {result : α}
    (hrun : onTxn step batch = (.ok result, batch')) : batch'.stagedPages = batch.stagedPages := by
  obtain ⟨_, _, rfl⟩ := onTxn_eq_ok.mp hrun
  rfl

/-- A page from the allocator has no staged image. -/
lemma allocated_not_staged {own : List PageId} (hok : BatchOk pager batch own)
    (hrun : onTxn (txnAllocate pager) batch = (.ok page, batch')) : page ∉ batch.stagedPages := by
  obtain ⟨hok', _⟩ := onTxn_allocate hok hrun
  intro hmem
  obtain ⟨item, hitem, rfl⟩ := List.mem_map.mp hmem
  exact (List.nodup_cons.mp hok'.owns.nodup).1 (hok.items item hitem)

end Stage

section Settle

variable {pager : Pager} {batch batch' : BTreeBatch} {page : PageId} {node : BTreeNode}

/-- A split stages the page of the node and the one it allocated. -/
structure SplitStages (batch batch' : BTreeBatch) (page new : PageId) : Prop where
  grows : batch.stagedPages <+: batch'.stagedPages
  node : page ∈ batch'.stagedPages
  half : new ∈ batch'.stagedPages

lemma splitStages_of_runs {left right : BTreeNode} {new : PageId}
    {allocated first : BTreeBatch} {result result' : PUnit}
    (halloc : onTxn (txnAllocate pager) batch = (.ok new, allocated))
    (hleft : btreeStage pager page left allocated = (.ok result, first))
    (hright : btreeStage pager new right first = (.ok result', batch')) :
    SplitStages batch batch' page new := by
  obtain ⟨hgrows, hpage⟩ := btreeStage_grows hleft
  obtain ⟨hgrows', hnew⟩ := btreeStage_grows hright
  rw [onTxn_pages halloc] at hgrows
  exact ⟨hgrows.trans hgrows', hgrows'.subset hpage, hnew⟩

lemma btreeSplitLeaf_stages {split : BTreeSplit}
    (hrun : btreeSplitLeaf pager page node batch = (.ok split, batch')) :
    ∃ allocated, onTxn (txnAllocate pager) batch = (.ok split.rightPage, allocated) ∧
      SplitStages batch batch' page split.rightPage := by
  unfold btreeSplitLeaf at hrun
  cases hpoint : leafSplitPoint (pagerPayloadCapacity pager) node.entries with
  | none => simp [hpoint] at hrun
  | some middle =>
    simp only [hpoint, bind_eq_ok, pure_eq_ok] at hrun
    obtain ⟨new, allocated, halloc, _, first, hleft, _, _, hright, rfl, rfl⟩ := hrun
    exact ⟨allocated, halloc, splitStages_of_runs halloc hleft hright⟩

lemma btreeSplitInternal_stages {split : BTreeSplit}
    (hrun : btreeSplitInternal pager page node batch = (.ok split, batch')) :
    ∃ allocated, onTxn (txnAllocate pager) batch = (.ok split.rightPage, allocated) ∧
      SplitStages batch batch' page split.rightPage := by
  unfold btreeSplitInternal at hrun
  cases hpoint : internalSplitPoint (pagerPayloadCapacity pager) node.entries with
  | none => simp [hpoint] at hrun
  | some middle =>
    simp only [hpoint, bind_eq_ok, pure_eq_ok] at hrun
    obtain ⟨new, allocated, halloc, _, first, hleft, _, _, hright, rfl, rfl⟩ := hrun
    exact ⟨allocated, halloc, splitStages_of_runs halloc hleft hright⟩

/-- Storing a changed node stages its page; splitting it stages a new page as well. -/
lemma btreeSettle_stages {split : Option BTreeSplit}
    (hrun : btreeSettle pager page node batch = (.ok split, batch')) :
    batch.stagedPages <+: batch'.stagedPages ∧ page ∈ batch'.stagedPages ∧
      ∀ halves, split = some halves → halves.rightPage ∈ batch'.stagedPages ∧
        ∃ allocated, onTxn (txnAllocate pager) batch = (.ok halves.rightPage, allocated) := by
  obtain ⟨_, ⟨rfl, _, hstage⟩ | ⟨halves, rfl, hsplit⟩⟩ := btreeSettle_eq_ok hrun
  · obtain ⟨hgrows, hpage⟩ := btreeStage_grows hstage
    exact ⟨hgrows, hpage, fun _ hnone => by cases hnone⟩
  · obtain ⟨allocated, halloc, hstages⟩ : ∃ allocated,
        onTxn (txnAllocate pager) batch = (.ok halves.rightPage, allocated) ∧
          SplitStages batch batch' page halves.rightPage := by
      rcases hsplit with ⟨_, hsplit⟩ | ⟨_, hsplit⟩
      · exact btreeSplitLeaf_stages hsplit
      · exact btreeSplitInternal_stages hsplit
    refine ⟨hstages.grows, hstages.node, fun _ hsome => ?_⟩
    obtain rfl := Option.some.inj hsome
    exact ⟨hstages.half, allocated, halloc⟩

/-- A node that fits is stored as it is. -/
lemma btreeSettle_of_fits {split : Option BTreeSplit} (hfits : NodeFits pager node)
    (hrun : btreeSettle pager page node batch = (.ok split, batch')) :
    split = none ∧ ∃ result, btreeStage pager page node batch = (.ok result, batch') := by
  obtain ⟨size, hsize, hle⟩ := hfits
  simp only [btreeSettle, bind_eq_ok, query_eq_ok] at hrun
  obtain ⟨_, _, ⟨hsame, rfl⟩, hrun⟩ := hrun
  rw [hsize] at hsame
  obtain rfl := Except.ok.inj hsame
  rw [if_pos hle] at hrun
  simp only [bind_eq_ok, pure_eq_ok] at hrun
  obtain ⟨result, _, hstage, rfl, rfl⟩ := hrun
  exact ⟨rfl, result, hstage⟩

end Settle

section Insertion

variable {pager : Pager} {key value : Bytes} {batch batch' : BTreeBatch}

lemma rowAtHand_leaf (key value : Bytes) (fuel : Nat) {page : PageId} {node : BTreeNode}
    (hread : btreeBatchReadNode pager batch page = .ok node) (hkind : node.kind = .leaf) :
    rowAtHand pager batch key value (fuel + 1) page = true ↔
      page ∈ batch.stagedPages ∧ NodeFits pager (btreeLeafPut node key value) := by
  simp only [rowAtHand, hread, hkind, Bool.and_eq_true, contains_iff_mem]
  refine and_congr_right fun _ => ?_
  rw [NodeFits]
  cases hsize : btreeNodeEncodedSize (btreeLeafPut node key value) with
  | error error => simp
  | ok size => simp

lemma rowAtHand_internal (key value : Bytes) (fuel : Nat) {page : PageId} {node : BTreeNode}
    (hread : btreeBatchReadNode pager batch page = .ok node) (hkind : node.kind = .internal) :
    rowAtHand pager batch key value (fuel + 1) page = true ↔ page ∈ batch.stagedPages ∧
        rowAtHand pager batch key value fuel (btreeChildAt node (btreeChildIndex node key)) =
          true := by
  simp only [rowAtHand, hread, hkind, Bool.and_eq_true, contains_iff_mem]

/-- An insertion below a node only adds staged pages, and adds none exactly when the way to
the row is at hand; the node is not split then. -/
lemma btreeInsertRecursive_stages {h fuel : Nat} {tree : PageTree h} {own : List PageId}
    {split : Option BTreeSplit} (hok : BatchOk pager batch own)
    (hshown : ∀ entry ∈ tree.cells, Shows pager batch entry.1 entry.2 ∧ entry.2.Branching)
    (hrun : btreeInsertRecursive pager key value fuel tree.page batch = (.ok split, batch')) :
    batch.stagedPages <+: batch'.stagedPages ∧ (batch'.stagedPages = batch.stagedPages →
        rowAtHand pager batch key value fuel tree.page = true) ∧
      (rowAtHand pager batch key value fuel tree.page = true →
        batch'.stagedPages = batch.stagedPages ∧ split = none) := by
  induction h generalizing fuel batch' split with
  | zero =>
    obtain ⟨page, rows, link, rfl⟩ := tree.exists_leaf
    cases fuel with
    | zero => simp [btreeInsertRecursive] at hrun
    | succ fuel =>
      have hroot := (hshown _ mem_cons_self).1
      simp only [btreeInsertRecursive, readNodeM, bind_eq_ok, query_eq_ok] at hrun
      obtain ⟨node, _, ⟨hread, rfl⟩, hrun⟩ := hrun
      obtain rfl : cellNode (.leaf rows link) = node := hroot.eq_of_read hread
      rw [show (cellNode (.leaf rows link)).kind = .leaf from rfl] at hrun
      have hhand := rowAtHand_leaf key value fuel hread rfl
      obtain ⟨hgrows, hpage, hhalves⟩ := btreeSettle_stages hrun
      refine ⟨hgrows, fun hsame => hhand.mpr ⟨hsame ▸ hpage, ?_⟩, fun hat => ?_⟩
      · -- no page is new, so the leaf was not split
        obtain ⟨_, ⟨_, _, hstage⟩ | ⟨halves, hsplit, _⟩⟩ := btreeSettle_eq_ok hrun
        · exact (btreeStage_eq_ok.mp hstage).1
        · obtain ⟨hnew, _, halloc⟩ := hhalves halves hsplit
          exact absurd (hsame ▸ hnew) (allocated_not_staged hok halloc)
      · obtain ⟨hstaged, hfits⟩ := hhand.mp hat
        obtain ⟨hnone, _, hstage⟩ := btreeSettle_of_fits hfits hrun
        rw [btreeStage_pages hstage, if_pos hstaged]
        exact ⟨rfl, hnone⟩
  | succ h ih =>
    obtain ⟨page, firstChild, restChildren, rfl⟩ := tree.exists_inner
    cases fuel with
    | zero => simp [btreeInsertRecursive] at hrun
    | succ fuel =>
      have hroot := hshown _ mem_cons_self
      simp only [btreeInsertRecursive, readNodeM, bind_eq_ok, query_eq_ok] at hrun
      obtain ⟨node, _, ⟨hread, rfl⟩, hrun⟩ := hrun
      obtain rfl : cellNode (Tree.inner page firstChild restChildren).cell = node :=
        hroot.1.eq_of_read hread
      obtain ⟨left, child, right, hplug, hindex, _⟩ :=
        exists_route page firstChild restChildren key hroot.1.sorted
      obtain ⟨rfl, rfl⟩ : (plug left child right).1 = firstChild ∧
          (plug left child right).2 = restChildren := by simp [hplug]
      have hhand := rowAtHand_internal key value fuel hread rfl
      rw [show (cellNode (Tree.inner page (plug left child right).1
        (plug left child right).2).cell).kind = .internal from rfl] at hrun
      simp only [bind_eq_ok] at hrun
      obtain ⟨childSplit, batch₁, hchild, hsettle⟩ := hrun
      have hbelow : btreeChildAt (cellNode (Tree.inner page (plug left child right).1
          (plug left child right).2).cell) (btreeChildIndex (cellNode (Tree.inner page
            (plug left child right).1 (plug left child right).2).cell) key) = child.page := by
        rw [← hindex, Context.cell_plug, btreeChildAt_frameCell]
      rw [hbelow] at hhand hchild
      obtain ⟨hgrows, hnew, hkept⟩ := ih (fun entry hentry => hshown entry (by
        rw [Tree.cells_inner, plug_kids]
        refine mem_cons_of_mem _ ?_
        simp only [flatMap_append, flatMap_cons, mem_append]
        exact .inr (.inl hentry))) hchild
      obtain ⟨node, hnode⟩ : ∃ node, btreeSettle pager page node batch₁ = (.ok split, batch') := by
        cases childSplit with
        | none => exact ⟨_, hsettle⟩
        | some halves => exact ⟨_, hsettle⟩
      obtain ⟨hgrows', hpage, _⟩ := btreeSettle_stages hnode
      refine ⟨hgrows.trans hgrows', fun hsame => hhand.mpr ⟨hsame ▸ hpage, hnew ?_⟩, fun hat => ?_⟩
      · exact (hgrows.eq_of_length_le (hsame ▸ hgrows'.length_le)).symm
      · obtain ⟨hstaged, hatChild⟩ := hhand.mp hat
        obtain ⟨hsame, rfl⟩ := hkept hatChild
        obtain ⟨hnone, _, hstage⟩ := btreeSettle_of_fits hroot.1.2 hsettle
        rw [btreeStage_pages hstage, hsame, if_pos hstaged]
        exact ⟨rfl, hnone⟩

lemma btreeGrowRoot_grows {split : BTreeSplit} {result : PUnit}
    (hrun : btreeGrowRoot pager split batch = (.ok result, batch')) :
    batch.stagedPages <+: batch'.stagedPages := by
  obtain ⟨_, _, _, _, _, _, _, halloc, hstage, hstage'⟩ := btreeGrowRoot_eq_ok hrun
  have hgrows := (btreeStage_grows hstage).1
  rw [onTxn_pages halloc] at hgrows
  exact hgrows.trans (btreeStage_grows hstage').1

/-- A put stages a page that was not staged before unless the row is at hand. -/
lemma btreeBatchPut_stages {others : List PageId} {h : Nat} {tree : PageTree h}
    (hholds : HoldsTree pager batch others tree)
    (hrun : btreeBatchPut pager key value batch = (.ok (), batch')) :
    batch'.items.length = batch.items.length ↔
      rowAtHand pager batch key value 64 batch.rootPage = true := by
  have hbody : ∃ result, btreePutBody pager key value batch = (.ok result, batch') := by
    rw [btreeBatchPut] at hrun
    split at hrun
    · cases hrun
    · rw [poisonOnError] at hrun
      split at hrun
      · rename_i result after hbody
        obtain ⟨_, rfl⟩ := Prod.mk.inj hrun
        exact ⟨result, hbody⟩
      · cases hrun
  obtain ⟨result, hbody⟩ := hbody
  simp only [btreePutBody, bind_eq_ok, query_eq_ok, Except.ok.injEq] at hbody
  obtain ⟨root, _, ⟨rfl, rfl⟩, split, batch₁, hinsert, hgrow⟩ := hbody
  rw [← hholds.root] at hinsert ⊢
  obtain ⟨hgrows, hnew, hkept⟩ := btreeInsertRecursive_stages hholds.ok hholds.shown hinsert
  have hlength : ∀ batch : BTreeBatch, batch.stagedPages.length = batch.items.length :=
    fun batch => length_map ..
  have hgrows' : batch₁.stagedPages <+: batch'.stagedPages := by
    cases split with
    | none =>
      obtain ⟨_, rfl⟩ := pure_eq_ok.mp hgrow
      exact prefix_refl _
    | some halves => exact btreeGrowRoot_grows hgrow
  constructor
  · intro hsame
    refine hnew (hgrows.eq_of_length_le ?_).symm
    rw [hlength batch, ← hsame, ← hlength batch']
    exact hgrows'.length_le
  · intro hat
    obtain ⟨hsame, rfl⟩ := hkept hat
    obtain ⟨_, rfl⟩ := pure_eq_ok.mp hgrow
    rw [← hlength, ← hlength, hsame]

end Insertion

end ShibaDb
