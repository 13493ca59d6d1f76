/-
The staged node images of a batch: what a batch reads after staging and
unstaging, and that staged pages stay among the pages in use.
-/
import ShibaDb.BTree.Node
import ShibaDb.Pager.Allocator

namespace ShibaDb

open SepTree Fallible List

variable {pager : Pager} {touched : List PageId} {page : PageId} {cell : NodeCell}
  {batch : BTreeBatch}

/-- The node's encoding fits the payload of a page. -/
def NodeFits (pager : Pager) (node : BTreeNode) : Prop :=
  ∃ size, btreeNodeEncodedSize node = .ok size ∧ size ≤ pagerPayloadCapacity pager

/-- Reading `page` through the batch gives the node of `cell`, and it fits. -/
def Shows (pager : Pager) (batch : BTreeBatch) (page : PageId) (cell : NodeCell) : Prop :=
  btreeBatchReadNode pager batch page = .ok (cellNode cell) ∧ NodeFits pager (cellNode cell)

/-- The batch works on pages in use: `own` are the pages of the tree, and every
staged image belongs to one of them. -/
structure BatchOk (pager : Pager) (batch : BTreeBatch) (own : List PageId) : Prop where
  owns : Owns pager batch.txn own
  items : ∀ item ∈ batch.items, item.pageId ∈ own
  itemsNodup : (batch.items.map BTreeMutation.pageId).Nodup

/-- What no step inside a mutation changes. -/
structure SameBatch (before after : BTreeBatch) : Prop where
  rootPage : after.rootPage = before.rootPage
  failure : after.failure = before.failure
  active : after.active = before.active
  target : SameTarget before.txn.targetSuperblock after.txn.targetSuperblock

/-- The two batches read the same nodes outside `touched`. -/
def SameReads (pager : Pager) (before after : BTreeBatch) (touched : List PageId) : Prop :=
  ∀ page ∉ touched,
    btreeBatchReadNode pager after page = btreeBatchReadNode pager before page

lemma SameBatch.refl (batch : BTreeBatch) : SameBatch batch batch :=
  ⟨rfl, rfl, rfl, SameTarget.refl _⟩

lemma SameBatch.trans {first second third : BTreeBatch} (hfirst : SameBatch first second)
    (hsecond : SameBatch second third) : SameBatch first third :=
  ⟨hsecond.rootPage.trans hfirst.rootPage, hsecond.failure.trans hfirst.failure,
    hsecond.active.trans hfirst.active, hfirst.target.trans hsecond.target⟩

lemma SameReads.trans {first second third : BTreeBatch} {touched' : List PageId}
    (hfirst : SameReads pager first second touched)
    (hsecond : SameReads pager second third touched') :
    SameReads pager first third (touched ++ touched') := fun page hpage => by
  rw [mem_append, not_or] at hpage
  rw [hsecond page hpage.2, hfirst page hpage.1]

lemma SameReads.mono {before after : BTreeBatch} {touched' : List PageId}
    (hreads : SameReads pager before after touched) (hsubset : ∀ page ∈ touched, page ∈ touched') :
    SameReads pager before after touched' := fun page hpage =>
  hreads page fun hmem => hpage (hsubset page hmem)

lemma Shows.congr {before after : BTreeBatch} (hshows : Shows pager before page cell)
    (hreads : SameReads pager before after touched) (hpage : page ∉ touched) :
    Shows pager after page cell :=
  ⟨(hreads page hpage).trans hshows.1, hshows.2⟩

lemma Shows.eq_of_read {node : BTreeNode} (hshows : Shows pager batch page cell)
    (hread : btreeBatchReadNode pager batch page = .ok node) : cellNode cell = node :=
  Except.ok.inj (hshows.1.symm.trans hread)

lemma Shows.sorted (hshows : Shows pager batch page cell) : NodeSorted (cellNode cell) := by
  obtain ⟨_, size, hsize, _⟩ := hshows
  exact (btreeNodeEncodedSize_eq_ok hsize).1.sorted

lemma BatchOk.perm {own own' : List PageId} (hok : BatchOk pager batch own)
    (hperm : own'.Perm own) : BatchOk pager batch own' :=
  ⟨hok.owns.perm hperm, fun item hitem => hperm.mem_iff.mpr (hok.items item hitem), hok.itemsNodup⟩

section Stage

variable {pageId : PageId} {pager : Pager}

lemma findStaged_stageItem (pageId other : PageId) (payload : Bytes)
    (items : List BTreeMutation) : btreeFindStaged (stageItem pageId payload items) other =
      if other = pageId then some { pageId, payload } else btreeFindStaged items other := by
  induction items with
  | nil =>
    by_cases hother : other = pageId
    · simp [btreeFindStaged, stageItem, hother]
    · simp [btreeFindStaged, stageItem, hother, Ne.symm hother]
  | cons item items ih =>
    unfold btreeFindStaged at ih ⊢
    by_cases hitem : item.pageId = pageId
    · by_cases hother : other = pageId
      · simp [stageItem, hitem, hother]
      · simp [stageItem, hitem, hother, Ne.symm hother]
    · by_cases hother : item.pageId = other
      · have hne : other ≠ pageId := hother ▸ hitem
        simp [stageItem, hother, hne]
      · simp [stageItem, hitem, hother, ih]

lemma mem_stageItem {payload : Bytes} {items : List BTreeMutation} {item : BTreeMutation}
    (hitem : item ∈ stageItem pageId payload items) :
    item = { pageId, payload } ∨ item ∈ items := by
  induction items with
  | nil => exact .inl (List.mem_singleton.mp hitem)
  | cons first items ih =>
    rw [stageItem] at hitem
    split at hitem
    · rcases List.mem_cons.mp hitem with rfl | hitem
      · exact .inl rfl
      · exact .inr (mem_cons_of_mem first hitem)
    · rcases List.mem_cons.mp hitem with rfl | hitem
      · exact .inr mem_cons_self
      · exact (ih hitem).imp_right (mem_cons_of_mem first)

lemma stageItem_nodup {payload : Bytes} {items : List BTreeMutation}
    (hnodup : (items.map BTreeMutation.pageId).Nodup) :
    ((stageItem pageId payload items).map BTreeMutation.pageId).Nodup := by
  induction items with
  | nil => simp [stageItem]
  | cons first items ih =>
    rw [map_cons, nodup_cons] at hnodup
    rw [stageItem]
    split
    · rename_i hfirst
      rw [map_cons, nodup_cons]
      exact ⟨hfirst ▸ hnodup.1, hnodup.2⟩
    · rename_i hfirst
      rw [map_cons, nodup_cons]
      refine ⟨fun hmem => ?_, ih hnodup.2⟩
      obtain ⟨item, hitem, heq⟩ := List.mem_map.mp hmem
      rcases mem_stageItem hitem with rfl | hitem
      · exact hfirst heq.symm
      · exact hnodup.1 (List.mem_map.mpr ⟨item, hitem, heq⟩)

lemma btreeStage_eq_ok {node : BTreeNode} {batch batch' : BTreeBatch} {result : PUnit} :
    btreeStage pager pageId node batch = (.ok result, batch') ↔ NodeFits pager node ∧
        batch' = { batch with items := stageItem pageId (nodeImage node) batch.items } := by
  constructor
  · intro hrun
    simp only [btreeStage, bind_eq_ok, query_eq_ok] at hrun
    obtain ⟨size, _, ⟨hsize, rfl⟩, hrun⟩ := hrun
    split at hrun
    · simp at hrun
    · rename_i hfits
      simp only [bind_eq_ok, query_eq_ok, update_eq_ok,
        (btreeNodeEncode_eq_ok hsize).1, Except.ok.injEq] at hrun
      obtain ⟨payload, _, ⟨rfl, rfl⟩, rfl⟩ := hrun
      exact ⟨⟨size, hsize, not_lt.mp hfits⟩, rfl⟩
  · rintro ⟨⟨size, hsize, hfits⟩, rfl⟩
    simp only [btreeStage, bind_eq_ok, query_eq_ok]
    refine ⟨size, batch, ⟨hsize, rfl⟩, ?_⟩
    rw [if_neg (not_lt.mpr hfits)]
    simp only [bind_eq_ok, query_eq_ok, update_eq_ok]
    exact ⟨nodeImage node, batch, ⟨(btreeNodeEncode_eq_ok hsize).1, rfl⟩, rfl⟩

/-- Staging `node` at a page in use. -/
structure Staged (pager : Pager) (before after : BTreeBatch) (own : List PageId)
    (pageId : PageId) (node : BTreeNode) : Prop where
  ok : BatchOk pager after own
  same : SameBatch before after
  fits : NodeFits pager node
  read : btreeBatchReadNode pager after pageId = .ok node
  reads : SameReads pager before after [pageId]

lemma btreeStage_staged {node : BTreeNode} {batch batch' : BTreeBatch} {own : List PageId}
    {result : PUnit} (hok : BatchOk pager batch own) (hpage : pageId ∈ own)
    (hrun : btreeStage pager pageId node batch = (.ok result, batch')) :
    Staged pager batch batch' own pageId node := by
  obtain ⟨hfits, rfl⟩ := btreeStage_eq_ok.mp hrun
  have ⟨size, hsize, _⟩ := hfits
  refine ⟨⟨hok.owns, ?_, stageItem_nodup hok.itemsNodup⟩, ⟨rfl, rfl, rfl, SameTarget.refl _⟩,
    hfits, ?_, ?_⟩
  · intro item hitem
    rcases mem_stageItem hitem with heq | hitem
    · rw [heq]
      exact hpage
    · exact hok.items item hitem
  · simp only [btreeBatchReadNode, findStaged_stageItem, ↓reduceIte]
    exact (btreeNodeEncode_eq_ok hsize).2.2
  · intro other hother
    rw [mem_singleton] at hother
    simp only [btreeBatchReadNode, findStaged_stageItem, if_neg hother]

lemma Staged.shows {before after : BTreeBatch} {own : List PageId} {cell : NodeCell}
    (hstaged : Staged pager before after own pageId (cellNode cell)) :
    Shows pager after pageId cell := ⟨hstaged.read, hstaged.fits⟩

end Stage

section Transaction

variable {batch batch' : BTreeBatch}

lemma onTxn_eq_ok {α : Type} {step : TxnM α} {result : α} :
    onTxn step batch = (.ok result, batch') ↔
      ∃ txn', step batch.txn = (.ok result, txn') ∧ batch' = { batch with txn := txn' } := by
  unfold onTxn
  rcases hstep : step batch.txn with ⟨_ | value, txn'⟩
  · simp
  · simp only [Prod.mk.injEq, Except.ok.injEq]
    constructor
    · rintro ⟨rfl, rfl⟩
      exact ⟨txn', ⟨rfl, rfl⟩, rfl⟩
    · rintro ⟨_, ⟨rfl, rfl⟩, rfl⟩
      exact ⟨rfl, rfl⟩

lemma onTxn_allocate {pager : Pager} {own : List PageId} {pageId : PageId}
    (hok : BatchOk pager batch own)
    (hrun : onTxn (txnAllocate pager) batch = (.ok pageId, batch')) :
    BatchOk pager batch' (pageId :: own) ∧ SameBatch batch batch' ∧
      SameReads pager batch batch' [] := by
  obtain ⟨txn', hstep, rfl⟩ := onTxn_eq_ok.mp hrun
  obtain ⟨howns, htarget⟩ := txnAllocate_owns hok.owns hstep
  exact ⟨⟨howns, fun item hitem => mem_cons_of_mem pageId (hok.items item hitem),
    hok.itemsNodup⟩, ⟨rfl, rfl, rfl, htarget⟩, fun _ _ => rfl⟩

/-- Unstaging and freeing a page takes it out of use. -/
lemma unstage_free {pager : Pager} {own : List PageId} {pageId : PageId} {result : PUnit}
    (hok : BatchOk pager batch (pageId :: own)) (hrun : onTxn (txnFree pager pageId)
      { batch with items := batch.items.eraseP (·.pageId = pageId) } = (.ok result, batch')) :
    BatchOk pager batch' own ∧ SameBatch batch batch' ∧ SameReads pager batch batch' [pageId] := by
  obtain ⟨txn', hstep, rfl⟩ := onTxn_eq_ok.mp hrun
  obtain ⟨howns, htarget⟩ := txnFree_owns hok.owns hstep
  refine ⟨⟨howns, ?_, ListEdit.eraseP_nodup _ _ hok.itemsNodup⟩, ⟨rfl, rfl, rfl, htarget⟩, ?_⟩
  · intro item hitem
    obtain ⟨hmem, hne⟩ := ListEdit.mem_eraseP_of_nodup _ hok.itemsNodup hitem
    exact (List.mem_cons.mp (hok.items item hmem)).resolve_left hne
  · intro other hother
    rw [mem_singleton] at hother
    simp only [btreeBatchReadNode, btreeFindStaged, ListEdit.find?_eraseP_of_ne _ hother]

end Transaction

section Ledger

/-- The pages in use are the `loose` ones, whatever they hold, and the pages of
`cells`, which hold just that. -/
structure Keeps (pager : Pager) (batch : BTreeBatch) (loose : List PageId)
    (cells : List (PageId × NodeCell)) : Prop where
  ok : BatchOk pager batch (loose ++ cells.map Prod.fst)
  shown : ∀ entry ∈ cells, Shows pager batch entry.1 entry.2 ∧ entry.2.Branching

variable {pager : Pager} {batch batch' : BTreeBatch} {loose loose' : List PageId}
  {cells cells' : List (PageId × NodeCell)} {page : PageId} {cell : NodeCell}

lemma Keeps.perm (hkeeps : Keeps pager batch loose cells) (hcells : cells'.Perm cells) :
    Keeps pager batch loose cells' :=
  ⟨hkeeps.ok.perm ((hcells.map Prod.fst).append_left loose), fun entry hentry =>
    hkeeps.shown entry (hcells.mem_iff.mp hentry)⟩

lemma Keeps.perm_loose (hkeeps : Keeps pager batch loose cells)
    (hloose : loose'.Perm loose) : Keeps pager batch loose' cells :=
  ⟨hkeeps.ok.perm (hloose.append_right _), hkeeps.shown⟩

/-- Forget what a page holds. -/
lemma Keeps.forget (hkeeps : Keeps pager batch loose ((page, cell) :: cells)) :
    Keeps pager batch (page :: loose) cells :=
  ⟨hkeeps.ok.perm List.perm_middle.symm, fun entry hentry =>
    hkeeps.shown entry (mem_cons_of_mem _ hentry)⟩

lemma Keeps.read (hkeeps : Keeps pager batch loose cells) (hmem : (page, cell) ∈ cells)
    {node : BTreeNode} (hread : btreeBatchReadNode pager batch page = .ok node) :
    cellNode cell = node :=
  (hkeeps.shown _ hmem).1.eq_of_read hread

section

variable (hkeeps : Keeps pager batch (page :: loose) cells)

include hkeeps

/-- A loose page is none of the pages that show a cell. -/
lemma Keeps.loose_ne :
    ∀ entry ∈ cells, entry.1 ≠ page := by
  rintro entry hentry rfl
  exact (List.nodup_cons.mp hkeeps.ok.owns.nodup).1
    (mem_append_right loose (mem_map_of_mem hentry))

lemma Keeps.shown_congr
    (hreads : SameReads pager batch batch' [page]) :
    ∀ entry ∈ cells, Shows pager batch' entry.1 entry.2 ∧ entry.2.Branching :=
  fun entry hentry => ⟨(hkeeps.shown entry hentry).1.congr hreads
    (by simpa using hkeeps.loose_ne entry hentry), (hkeeps.shown entry hentry).2⟩

lemma Keeps.stage
    (hbranching : cell.Branching) {result : PUnit}
    (hrun : btreeStage pager page (cellNode cell) batch = (.ok result, batch')) :
    Keeps pager batch' loose ((page, cell) :: cells) ∧ SameBatch batch batch' := by
  have hstaged := btreeStage_staged hkeeps.ok (by simp) hrun
  refine ⟨⟨hstaged.ok.perm perm_middle, ?_⟩, hstaged.same⟩
  intro entry hentry
  rcases List.mem_cons.mp hentry with rfl | hentry
  · exact ⟨hstaged.shows, hbranching⟩
  · exact hkeeps.shown_congr hstaged.reads entry hentry

lemma Keeps.free {result : PUnit}
    (hrun : onTxn (txnFree pager page)
      { batch with items := batch.items.eraseP (·.pageId = page) } = (.ok result, batch')) :
    Keeps pager batch' loose cells ∧ SameBatch batch batch' := by
  obtain ⟨hok, hsame, hreads⟩ := unstage_free hkeeps.ok hrun
  exact ⟨⟨hok, hkeeps.shown_congr hreads⟩, hsame⟩

end

end Ledger

end ShibaDb
