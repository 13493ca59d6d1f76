/-
What a database holds: the pages below the page counter and the head of the
freelist, and how the transactions of a log change it when they are written into
the data file.
-/
import ShibaDb.Wal.Replay
import ShibaDb.Wal.Scan

namespace ShibaDb

open CallProgram FileSystem ByteFile List

/-- The logical state of the pages. -/
@[ext] structure Contents where
  nextPageId : Nat
  freelistPage : PageId
  pages : PageId → Option Bytes

def pageAt (pageSize : Nat) (content : Bytes) (pageId : PageId) : Option Bytes :=
  readAt content (pageOffset pageSize pageId) pageSize

/-- The state a data file holds under a superblock. -/
def fileContents (superblock : Superblock) (content : Bytes) : Contents where
  nextPageId := superblock.nextPageId
  freelistPage := superblock.freelistPage
  pages pageId :=
    if pageId ≠ 0 ∧ pageId.toNat < superblock.nextPageId then
      pageAt superblock.pageSize content pageId
    else none

/-- The state behind a transaction. -/
def Contents.apply (contents : Contents) (txn : WalTxn) : Contents where
  nextPageId := txn.nextPageId
  freelistPage := txn.freelistPage
  pages pageId :=
    match txn.pages.find? (·.pageId = pageId) with
    | some page => some page.bytes
    | none => contents.pages pageId

/-- The superblock behind a transaction. -/
def Superblock.behind (superblock : Superblock) (txn : WalTxn) : Superblock :=
  { superblock with checkpointLsn := txn.txnId, nextPageId := txn.nextPageId
                    freelistPage := txn.freelistPage }

/-- The page images of a transaction written into a data file. -/
def writePages (pageSize : Nat) (content : Bytes) (pages : List WalPage) : Bytes :=
  pages.foldl (fun content page =>
    writeAt content (pageOffset pageSize page.pageId) page.bytes) content

section Pages

variable {pageSize : Nat} {content : Bytes} {page : WalPage} {pages : List WalPage}
  {pageId : PageId} {bytes : Bytes}

lemma dataOffset_le_pageOffset (pageSize : Nat) (pageId : PageId) :
    dataOffset ≤ pageOffset pageSize pageId := Nat.le_add_right _ _

lemma pageAt_writeAt_same (content : Bytes) (pageId : PageId) (hsize : bytes.length = pageSize) :
    pageAt pageSize (writeAt content (pageOffset pageSize pageId) bytes) pageId = some bytes := by
  rw [pageAt, ← hsize]
  exact readAt_writeAt content _ bytes

lemma pageAt_write_same (hsize : page.bytes.length = pageSize) :
    pageAt pageSize (writeAt content (pageOffset pageSize page.pageId) page.bytes)
      page.pageId = some page.bytes :=
  pageAt_writeAt_same content page.pageId hsize

/-- Different pages do not overlap. -/
lemma pageOffset_disjoint {other : PageId} (hpage : pageId ≠ 0) (hother : other ≠ 0)
    (hne : other ≠ pageId) : pageOffset pageSize other + pageSize ≤ pageOffset pageSize pageId ∨
      pageOffset pageSize pageId + pageSize ≤ pageOffset pageSize other := by
  have hpos : ∀ id : PageId, id ≠ 0 → 0 < id.toNat := by
    intro id hid
    refine Nat.pos_of_ne_zero ?_
    intro hzero
    exact hid (UInt64.toNat_inj.mp hzero)
  have hpagePos := hpos pageId hpage
  have hotherPos := hpos other hother
  have hneNat : other.toNat ≠ pageId.toNat := fun heq => hne (UInt64.toNat_inj.mp heq)
  simp only [pageOffset]
  rcases Nat.lt_or_gt_of_ne hneNat with hlt | hgt
  · left
    have hstep : other.toNat - 1 + 1 ≤ pageId.toNat - 1 := by omega
    have hmul := Nat.mul_le_mul_right pageSize hstep
    rw [Nat.add_mul, Nat.one_mul] at hmul
    omega
  · right
    have hstep : pageId.toNat - 1 + 1 ≤ other.toNat - 1 := by omega
    have hmul := Nat.mul_le_mul_right pageSize hstep
    rw [Nat.add_mul, Nat.one_mul] at hmul
    omega

lemma pageAt_writeAt_other {other : PageId} (hpage : pageId ≠ 0) (hother : other ≠ 0)
    (hne : other ≠ pageId) (hsize : bytes.length = pageSize)
    (hend : pageOffset pageSize other + pageSize ≤ content.length) :
    pageAt pageSize (writeAt content (pageOffset pageSize pageId) bytes) other =
      pageAt pageSize content other := by
  rw [pageAt, pageAt]
  refine readAt_writeAt_disjoint ?_ hend
  rw [hsize]
  exact pageOffset_disjoint hpage hother hne

lemma pageAt_write_other (hpage : page.pageId ≠ 0) (hother : pageId ≠ 0)
    (hne : pageId ≠ page.pageId) (hsize : page.bytes.length = pageSize)
    (hend : pageOffset pageSize pageId + pageSize ≤ content.length) :
    pageAt pageSize (writeAt content (pageOffset pageSize page.pageId) page.bytes)
      pageId = pageAt pageSize content pageId :=
  pageAt_writeAt_other hpage hother hne hsize hend

lemma writePages_cons : writePages pageSize content (page :: pages) =
    writePages pageSize (writeAt content (pageOffset pageSize page.pageId) page.bytes) pages := rfl

/-- Writing pages leaves the slots alone. -/
lemma HoldsSlot.writePages {slot : Slot} (h : HoldsSlot content slot bytes) :
    HoldsSlot (ShibaDb.writePages pageSize content pages) slot bytes := by
  induction pages generalizing content with
  | nil => exact h
  | cons page pages ih =>
    rw [writePages_cons]
    apply ih
    have hend := readAt_eq_some_iff.mp ⟨bytes, h⟩
    rw [HoldsSlot, readAt_writeAt_before _ hend]
    · exact h
    · refine le_trans ?_ (dataOffset_le_pageOffset pageSize page.pageId)
      cases slot <;> simp [Slot.offset, superblockSlotSize, dataOffset]

/-- A page that is not written keeps its image. -/
lemma pageAt_writePages_other (hpages : ∀ page ∈ pages, page.pageId ≠ 0 ∧
      page.bytes.length = pageSize) (hother : pageId ≠ 0)
    (hne : ∀ page ∈ pages, page.pageId ≠ pageId)
    (hend : pageOffset pageSize pageId + pageSize ≤ content.length) :
    pageAt pageSize (writePages pageSize content pages) pageId =
      pageAt pageSize content pageId := by
  induction pages generalizing content with
  | nil => rfl
  | cons page pages ih =>
    have hpage := hpages page mem_cons_self
    rw [writePages_cons, ih, pageAt_write_other hpage.1 hother
      (hne page mem_cons_self).symm hpage.2 hend]
    · exact fun other hmem => hpages other (mem_cons_of_mem _ hmem)
    · exact fun other hmem => hne other (mem_cons_of_mem _ hmem)
    · exact le_trans hend (length_le_writeAt _ _ _)

/-- A page that is written once has the image that was written. -/
lemma pageAt_writePages_mem (hpages : ∀ page ∈ pages, page.pageId ≠ 0 ∧
      page.bytes.length = pageSize) (hdistinct : (pages.map (·.pageId)).Nodup)
    (hmem : page ∈ pages) :
    pageAt pageSize (writePages pageSize content pages) page.pageId = some page.bytes := by
  induction pages generalizing content with
  | nil => cases hmem
  | cons head pages ih =>
    rw [map_cons, nodup_cons] at hdistinct
    have hrest : ∀ other ∈ pages, other.pageId ≠ 0 ∧ other.bytes.length = pageSize :=
      fun other hother => hpages other (mem_cons_of_mem _ hother)
    rw [writePages_cons]
    rcases List.mem_cons.mp hmem with rfl | hmem
    · have hpage := hpages page mem_cons_self
      rw [pageAt_writePages_other hrest hpage.1 _ _, pageAt_write_same hpage.2]
      · intro other hother heq
        exact hdistinct.1 (heq ▸ mem_map_of_mem hother)
      · rw [writeAt_length, hpage.2]
        exact le_max_right _ _
    · exact ih hrest hdistinct.2 hmem

lemma pageId_pos {pageId : PageId} (h : pageId ≠ 0) : 0 < pageId.toNat :=
  Nat.pos_of_ne_zero fun hzero => h (UInt64.toNat_inj.mp hzero)

lemma pageOffset_end_le (pageSize : Nat) {nextPageId : Nat} (hpage : pageId ≠ 0)
    (hlt : pageId.toNat < nextPageId) :
    pageOffset pageSize pageId + pageSize ≤ canonicalSize nextPageId pageSize := by
  have hpos := pageId_pos hpage
  have hstep : pageId.toNat - 1 + 1 ≤ nextPageId - 1 := by omega
  have hmul := Nat.mul_le_mul_right pageSize hstep
  rw [Nat.add_mul, Nat.one_mul] at hmul
  simp only [pageOffset, canonicalSize]
  omega

end Pages

section Transactions

variable {prim : Primitives} {superblock current : Superblock} {dataKey : Option Bytes}
  {expected : Nat} {content : Bytes} {txn : WalTxn} {txns : List WalTxn}

lemma WalTxn.Fits.page_facts {targetNext : Nat}
    (hfits : txn.Fits prim superblock dataKey expected targetNext) :
    ∀ page ∈ txn.pages, page.pageId ≠ 0 ∧ page.bytes.length = superblock.pageSize :=
  fun page hpage => ⟨(hfits.pages page hpage).nonzero, (hfits.pages page hpage).size⟩

def writeTxns (pageSize : Nat) (content : Bytes) (txns : List WalTxn) : Bytes :=
  txns.foldl (fun content txn => writePages pageSize content txn.pages) content

/-- The larger state has every page of the smaller one, with the same counters. -/
structure Contents.Within (small large : Contents) : Prop where
  nextPageId : large.nextPageId = small.nextPageId
  freelistPage : large.freelistPage = small.freelistPage
  pages : ∀ pageId bytes, small.pages pageId = some bytes → large.pages pageId = some bytes

lemma Contents.Within.refl (contents : Contents) : contents.Within contents :=
  ⟨rfl, rfl, fun _ _ h => h⟩

lemma Contents.Within.trans {first second third : Contents} (h : first.Within second)
    (h' : second.Within third) : first.Within third :=
  ⟨h'.nextPageId.trans h.nextPageId, h'.freelistPage.trans h.freelistPage,
    fun pageId bytes hpage => h'.pages pageId bytes (h.pages pageId bytes hpage)⟩

lemma Contents.Within.apply {small large : Contents} (h : small.Within large) (txn : WalTxn) :
    (small.apply txn).Within (large.apply txn) := by
  refine ⟨rfl, rfl, ?_⟩
  intro pageId bytes
  simp only [Contents.apply]
  split
  · exact id
  · exact h.pages pageId bytes

lemma Contents.Within.foldl_apply {small large : Contents} (h : small.Within large)
    (txns : List WalTxn) :
    (txns.foldl Contents.apply small).Within (txns.foldl Contents.apply large) := by
  induction txns generalizing small large with
  | nil => exact h
  | cons txn txns ih => exact ih (h.apply txn)

/-- However long the data file is, writing a transaction leaves its pages and the
pages that were there. -/
lemma apply_within_writePages
    (hfits : txn.Fits prim superblock dataKey expected current.nextPageId)
    (hpageSize : current.pageSize = superblock.pageSize) :
    ((fileContents current content).apply txn).Within
      (fileContents (current.behind txn) (writePages superblock.pageSize content txn.pages)) := by
  refine ⟨rfl, rfl, ?_⟩
  intro pageId bytes
  simp only [fileContents, Superblock.behind, Contents.apply, hpageSize]
  cases hfind : txn.pages.find? (·.pageId = pageId) with
  | some page =>
    have hmem := mem_of_find?_eq_some hfind
    have hid : page.pageId = pageId := by simpa using List.find?_some hfind
    have hpage := hfits.pages page hmem
    intro himage
    rw [← hid, if_pos ⟨hpage.nonzero, hpage.bounded⟩,
      pageAt_writePages_mem hfits.page_facts hfits.distinct hmem]
    exact himage
  | none =>
    have hunwritten : ∀ page ∈ txn.pages, page.pageId ≠ pageId := by
      intro page hmem
      simpa using List.find?_eq_none.mp hfind page hmem
    intro hpage
    rw [Option.ite_none_right_eq_some] at hpage
    obtain ⟨⟨hne, hlt⟩, hpage⟩ := hpage
    rw [if_pos ⟨hne, lt_of_lt_of_le hlt hfits.nextPageId⟩,
      pageAt_writePages_other hfits.page_facts hne hunwritten
        (readAt_eq_some_iff.mp ⟨bytes, hpage⟩)]
    exact hpage

lemma foldl_apply_within_writeTxns
    (hcontinues : Continues prim superblock dataKey expected current.nextPageId txns)
    (hpageSize : current.pageSize = superblock.pageSize) :
    (txns.foldl Contents.apply (fileContents current content)).Within
      (fileContents (txns.foldl Superblock.behind current)
        (writeTxns superblock.pageSize content txns)) := by
  induction txns generalizing expected current content with
  | nil => exact Contents.Within.refl _
  | cons txn txns ih =>
    cases hcontinues with
    | cons fits rest =>
      have hrest : Continues prim superblock dataKey ((txn.txnId + 1) % 2 ^ 64)
        (current.behind txn).nextPageId txns := rest
      exact ((apply_within_writePages fits hpageSize).foldl_apply txns).trans (ih hrest hpageSize)

end Transactions

end ShibaDb
