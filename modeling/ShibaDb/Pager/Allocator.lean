/-
The page allocator of a transaction: at every moment the pages in use and the
pages of the freelist together are the pages below `next_page_id`, each once.
-/
import ShibaDb.Lib.Chain
import ShibaDb.Lib.ListEdit
import ShibaDb.Pager.Txn

namespace ShibaDb

open LittleEndian Fallible List

variable {pager : Pager} {txn txn' : Txn} {own : List PageId} {pageId : PageId} {result : PUnit}

/-- The link stored in a FREE page image. -/
def freeImageLink (type : PageType) (payload : Bytes) : Option PageId :=
  if type = .free ∧ payload.length = 8 then some (freeLink payload) else none

/-- The freelist link of a page as the transaction sees it. -/
def txnFreeLink (pager : Pager) (txn : Txn) (pageId : PageId) : Option PageId :=
  match findTxnPage txn.pages pageId with
  | some staged => freeImageLink staged.type staged.payload
  | none =>
    match pagerRead pager pageId with
    | .ok view => freeImageLink view.type view.payload
    | .error _ => none

/-- `own` are the pages in use and `free` the freelist in order. -/
structure Allocation (pager : Pager) (txn : Txn) (own free : List PageId) : Prop where
  active : txn.active = true
  chain : Chain.Visits 0 (txnFreeLink pager txn) txn.targetSuperblock.freelistPage free
  nodup : (own ++ free).Nodup
  mem : ∀ page, page ∈ own ++ free ↔
    page ≠ 0 ∧ page.toNat < txn.targetSuperblock.nextPageId
  staged : ∀ page ∈ txn.pages, page.pageId ∈ free ∧ page.type = .free
  stagedNodup : (txn.pages.map TxnPage.pageId).Nodup
  geometry : pageGeometryValid txn.targetSuperblock.nextPageId
    txn.targetSuperblock.pageSize = true

def Owns (pager : Pager) (txn : Txn) (own : List PageId) : Prop :=
  ∃ free, Allocation pager txn own free

/-- Everything of the target superblock but the allocator's own fields. -/
structure SameTarget (before after : Superblock) : Prop where
  pageSize : after.pageSize = before.pageSize
  rootPage : after.rootPage = before.rootPage
  fileId : after.fileId = before.fileId

lemma SameTarget.refl (superblock : Superblock) : SameTarget superblock superblock :=
  ⟨rfl, rfl, rfl⟩

lemma SameTarget.trans {first second third : Superblock}
    (hfirst : SameTarget first second) (hsecond : SameTarget second third) :
    SameTarget first third :=
  ⟨hsecond.pageSize.trans hfirst.pageSize, hsecond.rootPage.trans hfirst.rootPage,
    hsecond.fileId.trans hfirst.fileId⟩

lemma Owns.perm {own' : List PageId} (howns : Owns pager txn own) (hperm : own'.Perm own) :
    Owns pager txn own' := by
  obtain ⟨free, halloc⟩ := howns
  have happend : (own' ++ free).Perm (own ++ free) := hperm.append_right free
  refine ⟨free, { halloc with nodup := ?_, mem := ?_ }⟩
  · exact happend.nodup_iff.mpr halloc.nodup
  · intro page
    rw [happend.mem_iff, halloc.mem]

lemma Owns.nodup (howns : Owns pager txn own) : own.Nodup := by
  obtain ⟨free, halloc⟩ := howns
  exact (List.nodup_append.mp halloc.nodup).1

lemma Owns.ne_zero (howns : Owns pager txn own) {page : PageId} (hpage : page ∈ own) :
    page ≠ 0 := by
  obtain ⟨free, halloc⟩ := howns
  exact ((halloc.mem page).mp (mem_append_left free hpage)).1

lemma freeImageLink_of_not {type : PageType} {payload : Bytes}
    (hform : ¬(type ≠ .free || payload.length ≠ 8) = true) :
    freeImageLink type payload = some (freeLink payload) := by
  simp only [Bool.or_eq_true, decide_eq_true_eq, not_or, not_not, ne_eq] at hform
  exact if_pos hform

lemma txnFreelistLink_eq_ok {link : PageId} (hlink : txnFreelistLink pager txn pageId = .ok link) :
    txnFreeLink pager txn pageId = some link := by
  unfold txnFreelistLink at hlink
  unfold txnFreeLink
  cases hfind : findTxnPage txn.pages pageId with
  | some staged =>
    simp only [hfind] at hlink ⊢
    split at hlink
    · cases hlink
    · rename_i hform
      rw [freeImageLink_of_not hform]
      simpa using hlink
  | none =>
    simp only [hfind] at hlink ⊢
    obtain ⟨view, hread, hview⟩ := except_bind_eq_ok.mp hlink
    split at hview
    · cases hview
    · rename_i hform
      split at hview
      · cases hview
      · simp only [hread, freeImageLink_of_not hform]
        simpa using hview

lemma txnFreeLink_congr (hfind : findTxnPage txn'.pages pageId = findTxnPage txn.pages pageId) :
    txnFreeLink pager txn' pageId = txnFreeLink pager txn pageId := by
  simp only [txnFreeLink, hfind]

/-- An allocated page was not in use before and is now. -/
lemma txnAllocate_owns (howns : Owns pager txn own)
    (hrun : txnAllocate pager txn = (.ok pageId, txn')) :
    Owns pager txn' (pageId :: own) ∧ SameTarget txn.targetSuperblock txn'.targetSuperblock := by
  obtain ⟨free, halloc⟩ := howns
  simp only [txnAllocate, halloc.active, Bool.not_true, Bool.false_eq_true, ↓reduceIte] at hrun
  split at hrun
  · rename_i hhead
    cases hlink : txnFreelistLink pager txn txn.targetSuperblock.freelistPage with
    | error error => simp [hlink] at hrun
    | ok nextFreelist =>
      simp only [hlink, Prod.mk.injEq, Except.ok.injEq] at hrun
      obtain ⟨rfl, rfl⟩ := hrun
      refine ⟨?_, ⟨rfl, rfl, rfl⟩⟩
      obtain ⟨rest, next, rfl, hnext, hrest⟩ := halloc.chain.cons_of_head_ne hhead
      obtain rfl : next = nextFreelist := by
        simpa [hnext] using txnFreelistLink_eq_ok hlink
      have hperm : (txn.targetSuperblock.freelistPage :: own ++ rest).Perm
          (own ++ txn.targetSuperblock.freelistPage :: rest) :=
        List.perm_middle.symm
      have hnodup := hperm.nodup_iff.mpr halloc.nodup
      have hfresh : txn.targetSuperblock.freelistPage ∉ rest := fun hmem =>
        (List.nodup_cons.mp hnodup).1 (mem_append_right own hmem)
      refine ⟨rest, ⟨rfl, ?_, hnodup, ?_, ?_, ?_, halloc.geometry⟩⟩
      · refine hrest.congr fun item hitem => txnFreeLink_congr ?_
        exact ListEdit.find?_eraseP_of_ne _ fun h => hfresh (h ▸ hitem)
      · intro page
        rw [hperm.mem_iff]
        exact halloc.mem page
      · intro page hpage
        obtain ⟨hmem, hne⟩ := ListEdit.mem_eraseP_of_nodup _ halloc.stagedNodup hpage
        obtain ⟨hfree, htype⟩ := halloc.staged page hmem
        exact ⟨(List.mem_cons.mp hfree).resolve_left hne, htype⟩
      · exact ListEdit.eraseP_nodup _ _ halloc.stagedNodup
  · rename_i hhead
    split at hrun
    · simp at hrun
    · rename_i hroom
      simp only [Prod.mk.injEq, Except.ok.injEq] at hrun
      obtain ⟨rfl, rfl⟩ := hrun
      refine ⟨?_, ⟨rfl, rfl, rfl⟩⟩
      have hzero : txn.targetSuperblock.freelistPage = 0 := by simpa using hhead
      have hchain := halloc.chain
      rw [hzero] at hchain
      obtain rfl := hchain.nil_of_head_eq
      simp only [Bool.or_eq_true, decide_eq_true_eq, Bool.not_eq_true', not_or,
        Bool.not_eq_false] at hroom
      have hlt := pageGeometryValid_lt hroom.2
      have hnat : (UInt64.ofNat txn.targetSuperblock.nextPageId).toNat =
          txn.targetSuperblock.nextPageId := by
        rw [UInt64.toNat_ofNat']
        exact Nat.mod_eq_of_lt (by omega)
      have hpos : txn.targetSuperblock.nextPageId ≠ 0 := by
        have := halloc.geometry
        rw [pageGeometryValid_iff] at this
        exact this.1.1
      have hmem := halloc.mem
      simp only [append_nil] at hmem
      refine ⟨[], ⟨rfl, hzero, ?_, ?_, halloc.staged, halloc.stagedNodup, hroom.2⟩⟩
      · simp only [append_nil, nodup_cons]
        refine ⟨fun hown => ?_, by simpa using halloc.nodup⟩
        have := ((hmem _).mp hown).2
        omega
      · intro page
        simp only [append_nil, mem_cons, hmem]
        constructor
        · rintro (rfl | ⟨hne, hbelow⟩)
          · refine ⟨fun h => hpos ?_, by omega⟩
            rw [← hnat, h]
            rfl
          · exact ⟨hne, by omega⟩
        · rintro ⟨hne, hbelow⟩
          by_cases hpage : page.toNat = txn.targetSuperblock.nextPageId
          · exact .inl (UInt64.toNat_inj.mp (hpage.trans hnat.symm))
          · exact .inr ⟨hne, by omega⟩

@[simp]
lemma freeLink_linkPayload (pageId : PageId) : freeLink (linkPayload pageId) = pageId := by
  have hread : read (write 8 pageId.toNat) = pageId.toNat :=
    read_write_of_lt pageId.toNat_lt
  simp [freeLink, linkPayload, hread]

lemma txnPut_eq_ok {page : TxnPage} : txnPut pager page txn = (.ok result, txn') ↔
      txnPutCheck pager txn page = true ∧ txn' = { txn with pages := txn.pages ++ [page] } := by
  unfold txnPut
  split
  · rename_i hcheck
    simp only [Prod.mk.injEq, true_and, hcheck]
    exact eq_comm
  · rename_i hcheck
    simp [hcheck]

lemma txnPutCheck_not_staged {page : TxnPage} (hcheck : txnPutCheck pager txn page = true) :
    ∀ other ∈ txn.pages, other.pageId ≠ page.pageId := by
  simp only [txnPutCheck, Bool.and_eq_true] at hcheck
  simpa using hcheck.2

lemma txnPushFree_eq_ok (hrun : txnPushFree pager pageId txn = (.ok result, txn')) :
    (∀ other ∈ txn.pages, other.pageId ≠ pageId) ∧
      txn' = { txn with
        targetSuperblock := { txn.targetSuperblock with freelistPage := pageId }
        pages := txn.pages ++ [{ pageId, type := .free
                                 payload := linkPayload txn.targetSuperblock.freelistPage }] } := by
  simp only [txnPushFree, bind_eq_ok, query_eq_ok, update_eq_ok,
    txnPut_eq_ok, Except.ok.injEq] at hrun
  obtain ⟨freelistPage, middle, ⟨rfl, rfl⟩, _, txn'', ⟨hcheck, rfl⟩, rfl⟩ := hrun
  exact ⟨txnPutCheck_not_staged hcheck, rfl⟩

lemma txnPushFree_owns (howns : Owns pager txn (pageId :: own))
    (hrun : txnPushFree pager pageId txn = (.ok result, txn')) :
    Owns pager txn' own ∧ SameTarget txn.targetSuperblock txn'.targetSuperblock := by
  obtain ⟨free, halloc⟩ := howns
  obtain ⟨hstaged, rfl⟩ := txnPushFree_eq_ok hrun
  refine ⟨?_, ⟨rfl, rfl, rfl⟩⟩
  have hnone : txn.pages.find? (fun page => page.pageId = pageId) = none := by
    simpa using hstaged
  have hperm : (own ++ pageId :: free).Perm (pageId :: own ++ free) := perm_middle
  have hfree : pageId ∉ free := fun hmem =>
    (List.nodup_cons.mp halloc.nodup).1 (mem_append_right own hmem)
  have hzero : pageId ≠ 0 := ((halloc.mem pageId).mp (by simp)).1
  refine ⟨pageId :: free, ⟨halloc.active, ?_, hperm.nodup_iff.mpr halloc.nodup, ?_, ?_, ?_,
    halloc.geometry⟩⟩
  · refine ⟨rfl, hzero, txn.targetSuperblock.freelistPage, ?_, halloc.chain.congr ?_⟩
    · have hlength : (linkPayload txn.targetSuperblock.freelistPage).length = 8 :=
        write_length 8 _
      simp [txnFreeLink, findTxnPage, hnone, freeImageLink, hlength]
    · intro item hitem
      apply txnFreeLink_congr
      have hne : pageId ≠ item := fun h => hfree (h ▸ hitem)
      simp [findTxnPage, List.find?_append, hne]
  · intro page
    rw [hperm.mem_iff]
    exact halloc.mem page
  · intro page hpage
    rcases List.mem_append.mp hpage with hpage | hpage
    · obtain ⟨hmem, htype⟩ := halloc.staged page hpage
      exact ⟨mem_cons_of_mem pageId hmem, htype⟩
    · rw [mem_singleton] at hpage
      subst hpage
      exact ⟨mem_cons_self, rfl⟩
  · simp only [map_append, map_cons, map_nil]
    refine List.nodup_append.mpr ⟨halloc.stagedNodup, by simp, ?_⟩
    intro a ha b hb
    obtain ⟨page, hpage, rfl⟩ := List.mem_map.mp ha
    rw [mem_singleton] at hb
    rw [hb]
    exact hstaged page hpage

/-- A freed page is out of use and on the freelist. -/
lemma txnFree_owns (howns : Owns pager txn (pageId :: own))
    (hrun : txnFree pager pageId txn = (.ok result, txn')) :
    Owns pager txn' own ∧ SameTarget txn.targetSuperblock txn'.targetSuperblock := by
  unfold txnFree at hrun
  split at hrun
  · simp at hrun
  · split at hrun
    · -- A cancelled allocation: nothing is staged for a page in use.
      obtain ⟨free, halloc⟩ := howns
      have hstaged : removeTxnPage txn.pages pageId = txn.pages := by
        apply eraseP_of_forall_not
        intro page hpage
        have hmem := (halloc.staged page hpage).1
        have hnot : pageId ∉ free := fun hfree =>
          (List.nodup_cons.mp halloc.nodup).1 (mem_append_right own hfree)
        simpa using fun h : page.pageId = pageId => hnot (h ▸ hmem)
      rw [hstaged] at hrun
      have howns' : Owns pager
          { txn with allocatedPages := txn.allocatedPages.erase pageId } (pageId :: own) :=
        ⟨free, ⟨halloc.active, halloc.chain, halloc.nodup, halloc.mem, halloc.staged,
          halloc.stagedNodup, halloc.geometry⟩⟩
      have hpushed := txnPushFree_owns howns' hrun
      exact hpushed
    · split at hrun
      · simp at hrun
      · split at hrun
        · simp at hrun
        · exact txnPushFree_owns howns hrun

end ShibaDb
