/-
What the frames of a committed transaction cover.  Calls of the allocator, of
`sdb_txn_put` and of `sdb_txn_free` come in any order; as long as what is put are data
pages off the freelist, every page the transaction took has its frame when it commits,
and the freelist it leaves is a list of FREE pages.
-/
import ShibaDb.Pager.Allocator

namespace ShibaDb

open LittleEndian Fallible List

inductive TxnOp where
  | allocate
  | put (page : TxnPage)
  | free (pageId : PageId)

/-- A transaction at work, and the pages it was given and has not cancelled. -/
structure TxnRun where
  txn : Txn
  held : List PageId

namespace TxnRun

def step (pager : Pager) (run : TxnRun) : TxnOp → TxnRun
  | .allocate =>
    match txnAllocate pager run.txn with
    | (.ok pageId, txn) => { txn, held := run.held ++ [pageId] }
    | (.error _, txn) => { run with txn }
  | .put page => { run with txn := (txnPut pager page run.txn).2 }
  | .free pageId =>
    match txnFree pager pageId run.txn with
    | (.ok _, txn) => { txn, held := run.held.erase pageId }
    | (.error _, txn) => { run with txn }

def steps (pager : Pager) (run : TxnRun) (ops : List TxnOp) : TxnRun := ops.foldl (step pager) run

end TxnRun

/-- The freelist as the transaction sees it: it ends, and its pages are in range. -/
def Freelist (pager : Pager) (txn : Txn) (free : List PageId) : Prop :=
  Chain.Visits 0 (txnFreeLink pager txn) txn.targetSuperblock.freelistPage free ∧
    ∀ page ∈ free, page.toNat < txn.targetSuperblock.nextPageId

/-- What is put is a data page, and it is not on the freelist. -/
def PutsData (pager : Pager) (txn : Txn) : TxnOp → Prop
  | .put page => txnPutCheck pager txn page = true →
      page.type = .data ∧ ∀ free, Freelist pager txn free → page.pageId ∉ free
  | _ => True

/-- Every put that is accepted is one of a data page off the freelist. -/
def AllPutData (pager : Pager) : TxnRun → List TxnOp → Prop
  | _, [] => True
  | run, op :: ops => PutsData pager run.txn op ∧ AllPutData pager (run.step pager op) ops

/-- The frames of a transaction that started at `base` cover what it took. -/
structure FramesCover (pager : Pager) (base : Nat) (run : TxnRun) : Prop where
  frames : (run.txn.pages.map TxnPage.pageId).Nodup
  extended : ∀ page : PageId, base ≤ page.toNat →
    page.toNat < run.txn.targetSuperblock.nextPageId →
    ∃ frame ∈ run.txn.pages, frame.pageId = page
  held : ∀ page ∈ run.held, ∃ frame ∈ run.txn.pages, frame.pageId = page ∧ frame.type = .data
  freelist : ∃ free, Freelist pager run.txn free ∧ free.Nodup ∧
    ∀ frame ∈ run.txn.pages, frame.type = .data → frame.pageId ∉ free

section Invariant

variable {pager : Pager} {base : Nat} {run : TxnRun} {free : List PageId} {pageId : PageId}
  {txn : Txn}

/-- A transaction at work: FREE frames are those of freelist pages, and the pages it
holds are off the freelist. -/
structure Tidy (pager : Pager) (run : TxnRun) (free : List PageId) : Prop where
  active : run.txn.active = true
  held : run.held = run.txn.allocatedPages
  heldNodup : run.held.Nodup
  heldFresh : ∀ page ∈ run.held, page ∉ free ∧ page ≠ 0 ∧
    page.toNat < run.txn.targetSuperblock.nextPageId
  freelist : Freelist pager run.txn free
  frames : (run.txn.pages.map TxnPage.pageId).Nodup
  staged : ∀ frame ∈ run.txn.pages, frame.pageId ∈ free ↔ frame.type = .free
  geometry : pageGeometryValid run.txn.targetSuperblock.nextPageId
    run.txn.targetSuperblock.pageSize = true
  target : SameTarget pager.superblock run.txn.targetSuperblock
  grown : pager.superblock.nextPageId ≤ run.txn.targetSuperblock.nextPageId

/-- The pages from `base` on are held or have a FREE frame, but for those in `gap`. -/
def Extends (base : Nat) (run : TxnRun) (gap : List PageId) : Prop :=
  ∀ page : PageId, base ≤ page.toNat → page.toNat < run.txn.targetSuperblock.nextPageId →
    page ∈ gap ∨ page ∈ run.held ∨ ∃ frame ∈ run.txn.pages, frame.pageId = page ∧ frame.type = .free

lemma frames_concat {pages : List TxnPage} {page : TxnPage}
    (hnodup : (pages.map TxnPage.pageId).Nodup)
    (hnew : ∀ other ∈ pages, other.pageId ≠ page.pageId) :
    ((pages ++ [page]).map TxnPage.pageId).Nodup := by
  rw [map_append, nodup_append]
  refine ⟨hnodup, nodup_singleton _, ?_⟩
  rintro _ hold _ hlast
  obtain ⟨other, hother, rfl⟩ := List.mem_map.mp hold
  rw [List.mem_singleton.mp hlast]
  exact hnew other hother

lemma txnPushFree_eq (pager : Pager) (pageId : PageId) (txn : Txn) :
    txnPushFree pager pageId txn = if txnPutCheck pager txn
          { pageId, type := .free, payload := linkPayload txn.targetSuperblock.freelistPage } then
        (.ok ⟨⟩, { txn with
          targetSuperblock := { txn.targetSuperblock with freelistPage := pageId }
          pages := txn.pages ++
            [{ pageId, type := .free, payload := linkPayload txn.targetSuperblock.freelistPage }] })
      else (.error .invalidArgument, txn) := by
  have hquery :
      (query fun txn => .ok txn.targetSuperblock.freelistPage : TxnM PageId) txn =
        (.ok txn.targetSuperblock.freelistPage, txn) := rfl
  rw [txnPushFree, bind_run hquery]
  split
  · rename_i hcheck
    have hput : txnPut pager _ txn = (.ok ⟨⟩, _) := txnPut_eq_ok.mpr ⟨hcheck, rfl⟩
    rw [bind_run hput]
    rfl
  · rename_i hcheck
    exact bind_run_error (by rw [txnPut, if_neg hcheck])

lemma txnAllocate_eq_error {txn' : Txn} {error : SdbError}
    (hrun : txnAllocate pager txn = (.error error, txn')) : txn' = txn := by
  simp only [txnAllocate] at hrun
  split at hrun
  · exact (Prod.mk.inj hrun).2.symm
  split at hrun
  · cases hlink : txnFreelistLink pager txn txn.targetSuperblock.freelistPage with
    | error reason =>
      simp only [hlink, Prod.mk.injEq] at hrun
      exact hrun.2.symm
    | ok nextFreelist => simp [hlink] at hrun
  split at hrun
  · exact (Prod.mk.inj hrun).2.symm
  · simp at hrun

/-- The transaction without an allocation it cancels. -/
def TxnRun.cancel (run : TxnRun) (pageId : PageId) : TxnRun :=
  { txn := { run.txn with
      allocatedPages := run.txn.allocatedPages.erase pageId
      pages := removeTxnPage run.txn.pages pageId }
    held := run.held.erase pageId }

variable (htidy : Tidy pager run free) (hextends : Extends base run [])

include htidy

lemma Tidy.next_pos : 0 < run.txn.targetSuperblock.nextPageId := by
  have hgeometry := htidy.geometry
  rw [pageGeometryValid_iff] at hgeometry
  exact Nat.pos_of_ne_zero hgeometry.1.1

lemma Tidy.head_mem :
    run.txn.targetSuperblock.freelistPage = 0 ∨ run.txn.targetSuperblock.freelistPage ∈ free := by
  by_cases hzero : run.txn.targetSuperblock.freelistPage = 0
  · exact .inl hzero
  · obtain ⟨rest, _, rfl, _, _⟩ := htidy.freelist.1.cons_of_head_ne hzero
    exact .inr mem_cons_self

lemma Tidy.head_below :
    run.txn.targetSuperblock.freelistPage.toNat < run.txn.targetSuperblock.nextPageId := by
  rcases htidy.head_mem with hzero | hmem
  · rw [hzero]
    exact htidy.next_pos
  · exact htidy.freelist.2 _ hmem

/-- A page off the freelist becomes its head. -/
lemma Tidy.pushed (hextends : Extends base run [pageId]) (hne : pageId ≠ 0)
    (hbelow : pageId.toNat < run.txn.targetSuperblock.nextPageId)
    (hfree : pageId ∉ free) (hheld : pageId ∉ run.held) {result : PUnit}
    (hrun : txnPushFree pager pageId run.txn = (.ok result, txn)) :
    Tidy pager { run with txn } (pageId :: free) ∧ Extends base { run with txn } [] := by
  obtain ⟨hstaged, rfl⟩ := txnPushFree_eq_ok hrun
  have hnone : run.txn.pages.find? (fun page => page.pageId = pageId) = none := by
    simpa using hstaged
  refine ⟨⟨htidy.active, htidy.held, htidy.heldNodup, ?_, ⟨⟨rfl, hne,
    run.txn.targetSuperblock.freelistPage, ?_, ?_⟩, ?_⟩, ?_, ?_, htidy.geometry,
    ⟨htidy.target.pageSize, htidy.target.rootPage, htidy.target.fileId⟩, htidy.grown⟩, ?_⟩
  · intro page hpage
    obtain ⟨hoff, hrest⟩ := htidy.heldFresh page hpage
    refine ⟨fun hmem => ?_, hrest⟩
    rcases List.mem_cons.mp hmem with rfl | hmem
    · exact hheld hpage
    · exact hoff hmem
  · have hlength : (linkPayload run.txn.targetSuperblock.freelistPage).length = 8 :=
      write_length 8 _
    simp [txnFreeLink, findTxnPage, hnone, freeImageLink, hlength]
  · refine htidy.freelist.1.congr fun item hitem => txnFreeLink_congr ?_
    have hother : pageId ≠ item := fun h => hfree (h ▸ hitem)
    simp [findTxnPage, List.find?_append, hother]
  · intro page hpage
    rcases List.mem_cons.mp hpage with rfl | hpage
    · exact hbelow
    · exact htidy.freelist.2 page hpage
  · exact frames_concat htidy.frames hstaged
  · intro frame hframe
    rcases List.mem_append.mp hframe with hframe | hframe
    · rw [mem_cons, or_iff_right (hstaged frame hframe)]
      exact htidy.staged frame hframe
    · simp [List.mem_singleton.mp hframe]
  · intro page hbase hnext
    rcases hextends page hbase hnext with hgap | hheld | ⟨frame, hframe, hframe'⟩
    · refine .inr (.inr ⟨_, mem_append_right _ (mem_singleton_self _), ?_, rfl⟩)
      exact (List.mem_singleton.mp hgap).symm
    · exact .inr (.inl hheld)
    · exact .inr (.inr ⟨frame, mem_append_left _ hframe, hframe'⟩)

/-- The FREE record of a page in range that is neither on the freelist nor staged is
accepted. -/
lemma Tidy.pushes (hcapacity : 8 ≤ pagerPayloadCapacity pager) (hne : pageId ≠ 0)
    (hbelow : pageId.toNat < run.txn.targetSuperblock.nextPageId)
    (hfree : pageId ∉ free) (hstaged : ∀ frame ∈ run.txn.pages, frame.pageId ≠ pageId) :
    ∃ txn, txnPushFree pager pageId run.txn = (.ok ⟨⟩, txn) := by
  have hlink : run.txn.targetSuperblock.freelistPage ≠ pageId := by
    rcases htidy.head_mem with hzero | hmem
    · exact hzero ▸ hne.symm
    · exact fun h => hfree (h ▸ hmem)
  have hlength : (linkPayload run.txn.targetSuperblock.freelistPage).length = 8 :=
    write_length 8 _
  have hcheck : txnPutCheck pager run.txn
      { pageId, type := .free
        payload := linkPayload run.txn.targetSuperblock.freelistPage } = true := by
    simp only [txnPutCheck, Bool.and_eq_true]
    refine ⟨by simp [htidy.active, hne, hbelow, hlength, hcapacity, hlink, htidy.head_below], ?_⟩
    simpa using hstaged
  exact ⟨_, by rw [txnPushFree_eq, if_pos hcheck]⟩

/-- A page on the freelist is not freed again: it is staged, or committed as FREE. -/
lemma Tidy.not_free_of_data {view : PageView} (hread : pagerRead pager pageId = .ok view)
    (htype : view.type ≠ .free)
    (hstaged : ∀ frame ∈ run.txn.pages, frame.pageId ≠ pageId) : pageId ∉ free := by
  intro hmem
  obtain ⟨next, hnext⟩ := htidy.freelist.1.link_of_mem hmem
  have hnone : findTxnPage run.txn.pages pageId = none := by
    simpa [findTxnPage] using hstaged
  simp [txnFreeLink, hnone, hread, freeImageLink, htype] at hnext

include hextends

/-- The head of the freelist, or the page behind the last one, is taken. -/
lemma Tidy.allocated (hrun : txnAllocate pager run.txn = (.ok pageId, txn)) :
    ∃ free', Tidy pager { txn, held := run.held ++ [pageId] } free' ∧
      Extends base { txn, held := run.held ++ [pageId] } [] := by
  simp only [txnAllocate, htidy.active, Bool.not_true, Bool.false_eq_true, ↓reduceIte] at hrun
  obtain ⟨hchain, hbounds⟩ := htidy.freelist
  split at hrun
  · rename_i hhead
    cases hlink : txnFreelistLink pager run.txn run.txn.targetSuperblock.freelistPage with
    | error error => simp [hlink] at hrun
    | ok nextFreelist =>
      simp only [hlink, Prod.mk.injEq, Except.ok.injEq] at hrun
      obtain ⟨rfl, rfl⟩ := hrun
      have hnodup := hchain.nodup
      obtain ⟨rest, next, rfl, hnext, hrest⟩ := hchain.cons_of_head_ne hhead
      obtain rfl : next = nextFreelist := by
        simpa [hnext] using txnFreelistLink_eq_ok hlink
      obtain ⟨hfresh, _⟩ := List.nodup_cons.mp hnodup
      have hnew : run.txn.targetSuperblock.freelistPage ∉ run.held := fun hmem =>
        (htidy.heldFresh _ hmem).1 mem_cons_self
      refine ⟨rest, ⟨rfl, by rw [htidy.held], ?_, ?_, ⟨?_, ?_⟩, ?_, ?_, htidy.geometry,
        ⟨htidy.target.pageSize, htidy.target.rootPage, htidy.target.fileId⟩, htidy.grown⟩, ?_⟩
      · exact List.nodup_append.mpr ⟨htidy.heldNodup, nodup_singleton _,
          fun a ha b hb hab => hnew (by rw [← List.mem_singleton.mp hb, ← hab]; exact ha)⟩
      · intro page hpage
        rcases List.mem_append.mp hpage with hpage | hpage
        · obtain ⟨hfree, hrest⟩ := htidy.heldFresh page hpage
          exact ⟨fun hmem => hfree (mem_cons_of_mem _ hmem), hrest⟩
        · rw [List.mem_singleton.mp hpage]
          exact ⟨hfresh, hhead, hbounds _ mem_cons_self⟩
      · refine hrest.congr fun item hitem => txnFreeLink_congr ?_
        exact ListEdit.find?_eraseP_of_ne _ fun h => hfresh (h ▸ hitem)
      · exact fun page hpage => hbounds page (mem_cons_of_mem _ hpage)
      · exact ListEdit.eraseP_nodup _ _ htidy.frames
      · intro frame hframe
        obtain ⟨hmem, hne⟩ := ListEdit.mem_eraseP_of_nodup _ htidy.frames hframe
        rw [← htidy.staged frame hmem, mem_cons, or_iff_right hne]
      · intro page hbase hbelow
        by_cases hpage : page = run.txn.targetSuperblock.freelistPage
        · exact .inr (.inl (by simp [hpage]))
        · rcases hextends page hbase hbelow with hgap | hheld | ⟨frame, hframe, heq, htype⟩
          · cases hgap
          · exact .inr (.inl (mem_append_left _ hheld))
          · refine .inr (.inr ⟨frame, ?_, heq, htype⟩)
            exact (mem_eraseP_of_neg (by simp [heq, hpage])).mpr hframe
  · rename_i hhead
    split at hrun
    · simp at hrun
    · rename_i hroom
      simp only [Prod.mk.injEq, Except.ok.injEq] at hrun
      obtain ⟨rfl, rfl⟩ := hrun
      have hzero : run.txn.targetSuperblock.freelistPage = 0 := by simpa using hhead
      rw [hzero] at hchain
      obtain rfl := hchain.nil_of_head_eq
      simp only [Bool.or_eq_true, decide_eq_true_eq, Bool.not_eq_true', not_or,
        Bool.not_eq_false] at hroom
      have hlt := pageGeometryValid_lt hroom.2
      have hnat : (UInt64.ofNat run.txn.targetSuperblock.nextPageId).toNat =
          run.txn.targetSuperblock.nextPageId := by
        rw [UInt64.toNat_ofNat']
        exact Nat.mod_eq_of_lt (by omega)
      have hpos := htidy.next_pos
      refine ⟨[], ⟨rfl, by rw [htidy.held], ?_, ?_, ⟨hzero, by simp⟩, htidy.frames,
        htidy.staged, hroom.2, ⟨htidy.target.pageSize, htidy.target.rootPage, htidy.target.fileId⟩,
        htidy.grown.trans (Nat.le_succ _)⟩, ?_⟩
      · refine List.nodup_append.mpr ⟨htidy.heldNodup, nodup_singleton _, ?_⟩
        rintro page hpage _ hnew rfl
        have hbelow := (htidy.heldFresh page hpage).2.2
        rw [List.mem_singleton.mp hnew, hnat] at hbelow
        omega
      · intro page hpage
        refine ⟨by simp, ?_⟩
        rcases List.mem_append.mp hpage with hpage | hpage
        · obtain ⟨_, hne, hbelow⟩ := htidy.heldFresh page hpage
          exact ⟨hne, by simp only; omega⟩
        · rw [List.mem_singleton.mp hpage]
          refine ⟨fun h => ?_, by simp only; omega⟩
          rw [h] at hnat
          exact absurd hnat.symm (by simpa using hpos.ne')
      · intro page hbase hbelow
        by_cases hpage : page.toNat = run.txn.targetSuperblock.nextPageId
        · obtain rfl := UInt64.toNat_inj.mp (hpage.trans hnat.symm)
          exact .inr (.inl (by simp))
        · simp only at hbelow
          rcases hextends page hbase (by omega) with hgap | hheld | hframe
          · cases hgap
          · exact .inr (.inl (mem_append_left _ hheld))
          · exact .inr (.inr hframe)

/-- A data page off the freelist is staged. -/
lemma Tidy.put {page : TxnPage} (hcheck : txnPutCheck pager run.txn page = true)
    (htype : page.type = .data)
    (hpage : page.pageId ∉ free) :
    Tidy pager { run with txn := { run.txn with pages := run.txn.pages ++ [page] } } free ∧
      Extends base { run with txn := { run.txn with pages := run.txn.pages ++ [page] } } [] := by
  refine ⟨⟨htidy.active, htidy.held, htidy.heldNodup, htidy.heldFresh, ⟨?_, htidy.freelist.2⟩,
    ?_, ?_, htidy.geometry, htidy.target, htidy.grown⟩, ?_⟩
  · refine htidy.freelist.1.congr fun item hitem => txnFreeLink_congr ?_
    have hne : page.pageId ≠ item := fun h => hpage (h ▸ hitem)
    simp [findTxnPage, List.find?_append, hne]
  · exact frames_concat htidy.frames (txnPutCheck_not_staged hcheck)
  · intro frame hframe
    rcases List.mem_append.mp hframe with hframe | hframe
    · exact htidy.staged frame hframe
    · simp [List.mem_singleton.mp hframe, hpage, htype]
  · intro other hbase hbelow
    rcases hextends other hbase hbelow with hgap | hheld | ⟨frame, hframe, hframe'⟩
    · cases hgap
    · exact .inr (.inl hheld)
    · exact .inr (.inr ⟨frame, mem_append_left _ hframe, hframe'⟩)

lemma Tidy.cancelled (hheld : pageId ∈ run.held) :
    Tidy pager (run.cancel pageId) free ∧ Extends base (run.cancel pageId) [pageId] := by
  have hoff := (htidy.heldFresh pageId hheld).1
  refine ⟨⟨htidy.active, by simp [TxnRun.cancel, htidy.held], htidy.heldNodup.erase _, ?_,
    ⟨?_, htidy.freelist.2⟩, ListEdit.eraseP_nodup _ _ htidy.frames, ?_, htidy.geometry,
    htidy.target, htidy.grown⟩, ?_⟩
  · exact fun page hpage => htidy.heldFresh page (mem_of_mem_erase hpage)
  · refine htidy.freelist.1.congr fun item hitem => txnFreeLink_congr ?_
    exact ListEdit.find?_eraseP_of_ne _ fun h => hoff (h ▸ hitem)
  · exact fun frame hframe => htidy.staged frame (mem_of_mem_eraseP hframe)
  · intro page hbase hbelow
    by_cases hpage : page = pageId
    · exact .inl (List.mem_singleton.mpr hpage)
    · rcases hextends page hbase hbelow with hgap | hheld | ⟨frame, hframe, heq, htype⟩
      · cases hgap
      · exact .inr (.inl ((mem_erase_of_ne hpage).mpr hheld))
      · refine .inr (.inr ⟨frame, ?_, heq, htype⟩)
        exact (mem_eraseP_of_neg (by simp [heq, hpage])).mpr hframe

/-- A page the transaction holds, or a committed data page, is freed. -/
lemma Tidy.freed (hcapacity : 8 ≤ pagerPayloadCapacity pager) (pageId : PageId) :
    ∃ free', Tidy pager (run.step pager (.free pageId)) free' ∧
      Extends base (run.step pager (.free pageId)) [] := by
  by_cases hguard : (!run.txn.active || pageId = 0 ||
      pageId.toNat ≥ run.txn.targetSuperblock.nextPageId) = true
  · simp only [TxnRun.step, txnFree, hguard, ↓reduceIte]
    exact ⟨free, htidy, hextends⟩
  simp only [Bool.or_eq_true, decide_eq_true_eq, not_or, not_le] at hguard
  obtain ⟨⟨hactive, hne⟩, hbelow⟩ := hguard
  by_cases hheld : pageId ∈ run.held
  · obtain ⟨hoff, _⟩ := htidy.heldFresh pageId hheld
    obtain ⟨hcancel, hgap⟩ := htidy.cancelled hextends hheld
    have hgone : ∀ frame ∈ (run.cancel pageId).txn.pages, frame.pageId ≠ pageId :=
      fun frame hframe => (ListEdit.mem_eraseP_of_nodup _ htidy.frames hframe).2
    obtain ⟨txn, hpush⟩ := hcancel.pushes hcapacity hne hbelow hoff hgone
    have hfree : txnFree pager pageId run.txn = (.ok ⟨⟩, txn) := by
      rw [txnFree, if_neg (by simp [htidy.active, hne, hbelow]),
        if_pos (by simpa [← htidy.held] using hheld)]
      exact hpush
    simp only [TxnRun.step, hfree]
    exact ⟨_, hcancel.pushed hgap hne hbelow hoff htidy.heldNodup.not_mem_erase hpush⟩
  · -- The page is no allocation of this transaction: it must be committed as data.
    have hunheld : ¬run.txn.allocatedPages.contains pageId = true := by
      simpa [← htidy.held] using hheld
    have hsame : run.held.erase pageId = run.held := erase_of_not_mem hheld
    rcases hread : pagerRead pager pageId with error | view
    · have hfree : txnFree pager pageId run.txn = (.error error, run.txn) := by
        rw [txnFree, if_neg (by simp [htidy.active, hne, hbelow]), if_neg hunheld, hread]
      simp only [TxnRun.step, hfree]
      exact ⟨free, htidy, hextends⟩
    by_cases htype : view.type = .free
    · have hfree : txnFree pager pageId run.txn = (.error .invalidArgument, run.txn) := by
        rw [txnFree, if_neg (by simp [htidy.active, hne, hbelow]), if_neg hunheld, hread]
        exact if_pos htype
      simp only [TxnRun.step, hfree]
      exact ⟨free, htidy, hextends⟩
    have hfree : txnFree pager pageId run.txn = txnPushFree pager pageId run.txn := by
      rw [txnFree, if_neg (by simp [htidy.active, hne, hbelow]), if_neg hunheld, hread]
      exact if_neg htype
    rcases hpush : txnPushFree pager pageId run.txn with ⟨error | _, txn⟩
    · have hkept : txn = run.txn := by
        rw [txnPushFree_eq] at hpush
        split at hpush
        · simp at hpush
        · exact (Prod.mk.inj hpush).2.symm
      simp only [TxnRun.step, hfree, hpush, hkept]
      exact ⟨free, htidy, hextends⟩
    · obtain ⟨hstaged, _⟩ := txnPushFree_eq_ok hpush
      have hoff := htidy.not_free_of_data hread htype hstaged
      have hgap : Extends base run [pageId] := fun page hbase hnext =>
        (hextends page hbase hnext).imp_left (not_mem_nil · |>.elim)
      simp only [TxnRun.step, hfree, hpush, hsame]
      exact ⟨_, htidy.pushed hgap hne hbelow hoff hheld hpush⟩

/-- A call keeps the transaction tidy, refused or not. -/
lemma Tidy.step (hcapacity : 8 ≤ pagerPayloadCapacity pager)
    {op : TxnOp} (hputs : PutsData pager run.txn op) :
    ∃ free', Tidy pager (run.step pager op) free' ∧ Extends base (run.step pager op) [] := by
  cases op with
  | allocate =>
    rcases hrun : txnAllocate pager run.txn with ⟨error | pageId, txn⟩
    · obtain rfl := txnAllocate_eq_error hrun
      simp only [TxnRun.step, hrun]
      exact ⟨free, htidy, hextends⟩
    · simp only [TxnRun.step, hrun]
      exact htidy.allocated hextends hrun
  | put page =>
    simp only [TxnRun.step, txnPut]
    split
    · rename_i hcheck
      obtain ⟨htype, hoff⟩ := hputs hcheck
      exact ⟨free, htidy.put hextends hcheck htype (hoff free htidy.freelist)⟩
    · exact ⟨free, htidy, hextends⟩
  | free pageId => exact htidy.freed hextends hcapacity pageId

lemma Tidy.steps (hcapacity : 8 ≤ pagerPayloadCapacity pager) {ops : List TxnOp}
    (hputs : AllPutData pager run ops) :
    ∃ free', Tidy pager (run.steps pager ops) free' ∧ Extends base (run.steps pager ops) [] := by
  induction ops generalizing run free with
  | nil => exact ⟨free, htidy, hextends⟩
  | cons op ops ih =>
    obtain ⟨hput, hputs⟩ := hputs
    obtain ⟨middle, htidy', hextends'⟩ := htidy.step hextends hcapacity hput
    exact ih htidy' hextends' hputs

/-- Once every allocation is staged, the frames cover what the transaction took. -/
lemma Tidy.covers
    (hstaged : ∀ page ∈ run.txn.allocatedPages, ∃ frame ∈ run.txn.pages, frame.pageId = page) :
    FramesCover pager base run := by
  rw [← htidy.held] at hstaged
  refine ⟨htidy.frames, ?_, ?_, free, htidy.freelist, htidy.freelist.1.nodup, ?_⟩
  · intro page hbase hbelow
    rcases hextends page hbase hbelow with hgap | hheld | ⟨frame, hframe, heq, _⟩
    · cases hgap
    · exact hstaged page hheld
    · exact ⟨frame, hframe, heq⟩
  · intro page hpage
    obtain ⟨frame, hframe, rfl⟩ := hstaged page hpage
    refine ⟨frame, hframe, rfl, ?_⟩
    have hoff := (htidy.heldFresh _ hpage).1
    rw [htidy.staged frame hframe] at hoff
    cases htype : frame.type with
    | free => exact absurd htype hoff
    | data => rfl
  · intro frame hframe htype hmem
    rw [htidy.staged frame hframe, htype] at hmem
    cases hmem

end Invariant

/-- The committed state of a pager: a valid superblock and a freelist that ends. -/
structure Committed (pager : Pager) : Prop where
  valid : superblockValid pager.superblock = true
  freelist : ∃ free, Freelist pager (freshTxn pager) free

/-- A new transaction is tidy: it staged nothing. -/
lemma Committed.begun {pager begun : Pager} {txn : Txn} (hpager : Committed pager)
    (hbegin : txnBegin pager = .ok (txn, begun)) :
    8 ≤ pagerPayloadCapacity begun ∧ ∃ free, Tidy begun { txn, held := [] } free ∧
      Extends pager.superblock.nextPageId { txn, held := [] } [] := by
  obtain ⟨_, _, rfl, rfl⟩ := txnBegin_eq_ok hbegin
  obtain ⟨free, hfree⟩ := hpager.freelist
  refine ⟨pagerPayloadCapacity_of_valid hpager.valid, free,
    ⟨rfl, rfl, nodup_nil, by simp, hfree, nodup_nil, by simp [freshTxn],
      (geometry_of_superblockValid hpager.valid).2, SameTarget.refl _, le_refl _⟩, ?_⟩
  intro page hbase hbelow
  exact absurd hbelow (not_lt.mpr hbase)

section Commit

variable {pager begun pager' : Pager} {txn : Txn} {ops : List TxnOp}

lemma txnCommit_staged (hcommit : txnCommit pager txn = (.ok (), pager')) :
    ∀ page ∈ txn.allocatedPages, ∃ frame ∈ txn.pages, frame.pageId = page := by
  unfold txnCommit at hcommit
  split at hcommit
  · simp at hcommit
  split at hcommit
  · simp at hcommit
  split at hcommit
  · simp at hcommit
  split at hcommit
  · simp at hcommit
  · rename_i hstaged
    simpa using hstaged

/-- A commit publishes the target superblock and the frames, and may move on the counters. -/
lemma txnCommit_publishes (hcommit : txnCommit pager txn = (.ok (), pager'))
    (hservice : pager'.needsRecovery = false) :
    ∃ lsn, pager'.pages = publishPages pager.pages lsn txn.pages ∧ pager'.isOpen = pager.isOpen ∧
      pager'.superblock.nextPageId = txn.targetSuperblock.nextPageId ∧
      pager'.superblock.freelistPage = txn.targetSuperblock.freelistPage ∧
      SameTarget txn.targetSuperblock pager'.superblock := by
  obtain ⟨published, hpublish, hafter⟩ := txnCommit_eq_ok hcommit
  obtain ⟨fileSize, walTail, _, rfl⟩ := txnPublish_eq_ok hpublish
  rcases hafter with rfl | hafter | ⟨rfl, _⟩
  · exact ⟨_, rfl, rfl, rfl, rfl, rfl, rfl, rfl⟩
  · obtain ⟨generation, checkpointLsn, walTail', rfl⟩ := pagerCheckpoint_eq_ok hafter
    exact ⟨_, rfl, rfl, rfl, rfl, rfl, rfl, rfl⟩
  · simp at hservice

variable {run : TxnRun} {free : List PageId}

/-- The link of a freelist page reads after the commit as the transaction saw it. -/
lemma Tidy.link_committed (htidy : Tidy pager run free) (hopen : pager.isOpen = true)
    (hcommit : txnCommit pager run.txn = (.ok (), pager'))
    (hservice : pager'.needsRecovery = false) {page next : PageId} (hpage : page ∈ free)
    (hlink : txnFreeLink pager run.txn page = some next) :
    txnFreeLink pager' (freshTxn pager') page = some next := by
  obtain ⟨lsn, hpages, hopen', hnext, _⟩ := txnCommit_publishes hcommit hservice
  have hread : ∀ view, pager'.pages page = some view → pagerRead pager' page = .ok view := by
    intro view hview
    have hne := htidy.freelist.1.ne_null_of_mem hpage
    have hbelow := htidy.freelist.2 page hpage
    rw [← hnext] at hbelow
    simp [pagerRead, hopen', hopen, hservice, hne, hbelow, hview]
  cases hfind : findTxnPage run.txn.pages page with
  | some frame =>
    have hmem : frame ∈ run.txn.pages := mem_of_find?_eq_some hfind
    obtain rfl : frame.pageId = page := by simpa using List.find?_some hfind
    have hview := (congrFun hpages frame.pageId).trans (publishPages_of_mem htidy.frames hmem)
    simp only [txnFreeLink, hfind] at hlink
    simpa [txnFreeLink, freshTxn, findTxnPage, hread _ hview] using hlink
  | none =>
    simp only [txnFreeLink, hfind] at hlink
    cases hold : pagerRead pager page with
    | error error => simp [hold] at hlink
    | ok view =>
      have hview : pager'.pages page = some view := by
        rw [hpages, publishPages_of_not_mem (by simpa [findTxnPage] using hfind),
          pagerRead_eq_ok hold]
      simpa [txnFreeLink, freshTxn, findTxnPage, hread _ hview, hold] using hlink

/-- The next transaction starts from a freelist that ends. -/
lemma Tidy.committed (htidy : Tidy pager run free) (hopen : pager.isOpen = true)
    (hvalid : superblockValid pager.superblock = true)
    (hcommit : txnCommit pager run.txn = (.ok (), pager'))
    (hservice : pager'.needsRecovery = false) : Committed pager' := by
  obtain ⟨lsn, _, _, hnext, hhead, htarget⟩ := txnCommit_publishes hcommit hservice
  refine ⟨?_, free, ?_, ?_⟩
  · have hlink := htidy.head_below
    have hgeometry := htidy.geometry
    have hgrown := htidy.grown
    simp only [superblockValid, Bool.and_eq_true, decide_eq_true_eq] at hvalid ⊢
    rw [htarget.pageSize, htarget.rootPage, htarget.fileId, hnext, hhead]
    rw [htidy.target.pageSize] at hgeometry ⊢
    rw [htidy.target.rootPage, htidy.target.fileId]
    exact ⟨⟨⟨⟨hvalid.1.1.1.1, hgeometry⟩, by omega⟩, hlink⟩, hvalid.2⟩
  · simp only [freshTxn]
    rw [hhead]
    exact htidy.freelist.1.mono fun page hpage next hlink =>
      htidy.link_committed hopen hcommit hservice hpage hlink
  · simp only [freshTxn]
    rw [hnext]
    exact htidy.freelist.2

/-- A database that transactions of the above kind built. -/
inductive Transacted : Pager → Prop where
  | created {pageSize : Nat} {fileId : Bytes} {encrypted : Bool} {pager : Pager}
      (created : pagerCreate pageSize fileId encrypted = .ok pager) : Transacted pager
  | aborted {pager begun : Pager} {txn : Txn} (before : Transacted pager)
      (begins : txnBegin pager = .ok (txn, begun)) : Transacted (txnRelease begun)
  | committed {pager begun : Pager} {txn : Txn} {ops : List TxnOp} (before : Transacted pager)
      (begins : txnBegin pager = .ok (txn, begun))
      (puts : AllPutData begun { txn, held := [] } ops) :
      Transacted (txnCommit begun (TxnRun.steps begun { txn, held := [] } ops).txn).2

lemma pagerCreate_committed {pageSize : Nat} {fileId : Bytes} {encrypted : Bool}
    (hcreate : pagerCreate pageSize fileId encrypted = .ok pager) : Committed pager := by
  simp only [pagerCreate] at hcreate
  split at hcreate
  · rename_i hvalid
    obtain rfl := Except.ok.inj hcreate
    exact ⟨hvalid, [], rfl, by simp⟩
  · simp at hcreate

/-- Reading the freelist does not depend on whether a transaction is open. -/
lemma Committed.withActive (hpager : Committed pager) (transactionActive : Bool) :
    Committed { pager with transactionActive } :=
  ⟨hpager.valid, hpager.freelist⟩

/-- A database that is not fenced for recovery has a freelist that ends. -/
lemma Transacted.isCommitted (hpager : Transacted pager)
    (hservice : pager.needsRecovery = false) : Committed pager := by
  induction hpager with
  | created hcreate => exact pagerCreate_committed hcreate
  | aborted before hbegin ih =>
    obtain ⟨_, hready, _, rfl⟩ := txnBegin_eq_ok hbegin
    exact (ih hready).withActive false
  | @committed pager begun txn ops before hbegin hputs ih =>
    obtain ⟨hopen, hready, _, hbegun⟩ := txnBegin_eq_ok hbegin
    have hcommitted := ih hready
    obtain ⟨hcapacity, free, htidy, hextends⟩ := hcommitted.begun hbegin
    obtain ⟨free', htidy', _⟩ := htidy.steps hextends hcapacity hputs
    rcases hcommit : txnCommit begun (TxnRun.steps begun { txn, held := [] } ops).txn with
      ⟨error | _, pager'⟩
    · rw [hcommit] at hservice
      obtain ⟨needsRecovery, transactionActive, rfl⟩ := txnCommit_eq_error hcommit
      obtain rfl : needsRecovery = false := hservice
      subst hbegun
      rw [← hready]
      exact hcommitted.withActive transactionActive
    · rw [hcommit] at hservice
      subst hbegun
      exact htidy'.committed hopen hcommitted.valid hcommit hservice

/-- Every committed transaction that puts data pages off the freelist has one frame for
each page, frames for all the pages it added to the file and data frames for all it
holds, and leaves a freelist that ends and meets none of its data frames. -/
theorem txnCommit_covers (hpager : Committed pager) (hbegin : txnBegin pager = .ok (txn, begun))
    (hputs : AllPutData begun { txn, held := [] } ops)
    (hcommit : txnCommit begun (TxnRun.steps begun { txn, held := [] } ops).txn =
      (.ok (), pager')) :
    FramesCover begun pager.superblock.nextPageId (TxnRun.steps begun { txn, held := [] } ops) := by
  obtain ⟨hcapacity, free, htidy, hextends⟩ := hpager.begun hbegin
  obtain ⟨free', htidy', hextends'⟩ := htidy.steps hextends hcapacity hputs
  exact htidy'.covers hextends' (txnCommit_staged hcommit)

/-- An allocation given back and taken again. -/
theorem txnCommit_covers_reallocated :
    ∃ pager begun txn pager', pagerCreate 4096 [1] false = .ok pager ∧
      txnBegin pager = .ok (txn, begun) ∧ txnCommit begun (TxnRun.steps begun { txn, held := [] }
        [.allocate, .free 1, .allocate, .put { pageId := 1, type := .data, payload := [] }]).txn =
          (.ok (), pager') ∧
      FramesCover begun pager.superblock.nextPageId (TxnRun.steps begun { txn, held := [] }
        [.allocate, .free 1, .allocate, .put { pageId := 1, type := .data, payload := [] }]) := by
  have hrun : (pagerCreate 4096 [1] false >>= fun pager => txnBegin pager >>= fun opened =>
      .ok ((TxnRun.steps opened.2 { txn := opened.1, held := [] }
          [.allocate, .free 1, .allocate]).txn.targetSuperblock.freelistPage,
        (txnCommit opened.2 (TxnRun.steps opened.2 { txn := opened.1, held := [] }
          [.allocate, .free 1, .allocate,
            .put { pageId := 1, type := .data, payload := [] }]).txn).1)) =
      .ok (0, .ok ()) := by
    decide +kernel
  simp only [except_bind_eq_ok, Except.ok.injEq, Prod.mk.injEq] at hrun
  obtain ⟨pager, hcreate, ⟨txn, begun⟩, hbegin, hhead, hcommit⟩ := hrun
  dsimp only at hhead hcommit
  refine ⟨pager, begun, txn, _, hcreate, hbegin, Prod.ext hcommit rfl,
    txnCommit_covers (pagerCreate_committed hcreate) hbegin ?_ (Prod.ext hcommit rfl)⟩
  refine ⟨trivial, trivial, trivial, fun _ => ⟨rfl, fun free hfree => ?_⟩, trivial⟩
  have hchain := hfree.1
  change Chain.Visits _ _ (TxnRun.steps begun { txn, held := [] }
    [.allocate, .free 1, .allocate]).txn.targetSuperblock.freelistPage free at hchain
  rw [hhead] at hchain
  simp [hchain.nil_of_head_eq]

/-- An allocation put as a FREE page has no data frame, and a data frame may stand for
the head of the freelist. -/
theorem txnCommit_uncovered :
    (∃ pager begun txn pager', Committed pager ∧ txnBegin pager = .ok (txn, begun) ∧
      txnCommit begun (TxnRun.steps begun { txn, held := [] }
        [.allocate, .put { pageId := 1, type := .free, payload := linkPayload 0 }]).txn =
          (.ok (), pager') ∧
      ¬FramesCover begun pager.superblock.nextPageId (TxnRun.steps begun { txn, held := [] }
        [.allocate, .put { pageId := 1, type := .free, payload := linkPayload 0 }])) ∧
    ∃ pager begun txn pager', Committed pager ∧ txnBegin pager = .ok (txn, begun) ∧
      txnCommit begun (TxnRun.steps begun { txn, held := [] }
        [.put { pageId := 1, type := .data, payload := [] }]).txn = (.ok (), pager') ∧
      ¬FramesCover begun pager.superblock.nextPageId (TxnRun.steps begun { txn, held := [] }
        [.put { pageId := 1, type := .data, payload := [] }]) := by
  constructor
  · have hrun : (pagerCreate 4096 [1] false >>= fun pager => txnBegin pager >>= fun opened =>
        .ok ((TxnRun.steps opened.2 { txn := opened.1, held := [] }
            [.allocate, .put { pageId := 1, type := .free, payload := linkPayload 0 }]).held,
          (TxnRun.steps opened.2 { txn := opened.1, held := [] }
            [.allocate,
              .put { pageId := 1, type := .free, payload := linkPayload 0 }]).txn.pages.map
                TxnPage.type,
          (txnCommit opened.2 (TxnRun.steps opened.2 { txn := opened.1, held := [] }
            [.allocate, .put { pageId := 1, type := .free, payload := linkPayload 0 }]).txn).1)) =
        .ok ([1], [.free], .ok ()) := by
      decide +kernel
    simp only [except_bind_eq_ok, Except.ok.injEq, Prod.mk.injEq] at hrun
    obtain ⟨pager, hcreate, ⟨txn, begun⟩, hbegin, hheld, htypes, hcommit⟩ := hrun
    refine ⟨pager, begun, txn, _, pagerCreate_committed hcreate, hbegin, Prod.ext hcommit rfl,
      fun hcovers => ?_⟩
    have hone : (1 : PageId) ∈ (TxnRun.steps begun { txn, held := [] }
        [.allocate, .put { pageId := 1, type := .free, payload := linkPayload 0 }]).held := by
      rw [hheld]
      exact List.mem_singleton_self 1
    obtain ⟨frame, hframe, _, htype⟩ := hcovers.held 1 hone
    have hmem := List.mem_map_of_mem (f := TxnPage.type) hframe
    rw [htypes, htype] at hmem
    simp at hmem
  · have hrun : (pagerCreate 4096 [1] false >>= fun pager => txnBegin pager >>= fun first =>
        txnBegin (txnCommit first.2 (TxnRun.steps first.2 { txn := first.1, held := [] }
          [.allocate, .free 1]).txn).2 >>= fun opened =>
        .ok ((TxnRun.steps opened.2 { txn := opened.1, held := [] }
            [.put { pageId := 1, type := .data
                    payload := [] }]).txn.targetSuperblock.freelistPage,
          (TxnRun.steps opened.2 { txn := opened.1, held := [] }
            [.put { pageId := 1, type := .data, payload := [] }]).txn.pages,
          (txnCommit opened.2 (TxnRun.steps opened.2 { txn := opened.1, held := [] }
            [.put { pageId := 1, type := .data, payload := [] }]).txn).1)) =
        .ok (1, [{ pageId := 1, type := .data, payload := [] }], .ok ()) := by
      decide +kernel
    simp only [except_bind_eq_ok, Except.ok.injEq, Prod.mk.injEq] at hrun
    obtain ⟨pager, hcreate, ⟨first, begun⟩, hfirst, ⟨txn, begun'⟩, hbegin, hhead, hpages,
      hcommit⟩ := hrun
    have hbuilt : Transacted (txnCommit begun
        (TxnRun.steps begun { txn := first, held := [] } [.allocate, .free 1]).txn).2 :=
      .committed (.created hcreate) hfirst ⟨trivial, trivial, trivial⟩
    obtain ⟨_, hservice, _, _⟩ := txnBegin_eq_ok hbegin
    refine ⟨_, begun', txn, _, hbuilt.isCommitted hservice, hbegin, Prod.ext hcommit rfl,
      fun hcovers => ?_⟩
    obtain ⟨free, ⟨hchain, _⟩, _, hdata⟩ := hcovers.freelist
    dsimp only at hhead hpages
    rw [hhead] at hchain
    obtain ⟨rest, _, rfl, _, _⟩ := hchain.cons_of_head_ne (by decide)
    rw [hpages] at hdata
    exact hdata _ (List.mem_singleton_self _) rfl List.mem_cons_self

end Commit

end ShibaDb
