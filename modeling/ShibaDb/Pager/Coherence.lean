/-
Reads of an open pager return the last committed image of a page, whichever of
the cache, the log and the data file serves it.  One invariant ties the three to
the committed images; each operation keeps it or asks for recovery, on a medium
where any call may fail.
-/
import ShibaDb.Pager.Contents
import ShibaDb.Pager.PageBinding

namespace ShibaDb

open CallProgram FileSystem LittleEndian ByteFile List

/-- The committed images of the pages. -/
abbrev Images := PageId → Option PageView

def PageView.image (view : PageView) : ImageView :=
  { type := .plain view.type, pageLsn := view.pageLsn, payload := view.payload }

/-- What the callers of a pager see of it: the newest images, and a data file as long as
the pages need. -/
def PagerSession.seen (pager : PagerSession) (committed : Images) : Pager where
  superblock := pager.superblock.toSuperblock
  pages := committed
  encryptionEnabled := pager.dataKey.isSome
  fileSize := canonicalSize pager.superblock.nextPageId pager.superblock.pageSize
  walTail := pager.walTail
  currentLsn := pager.currentLsn
  checkpointThreshold := pager.checkpointThreshold
  needsRecovery := pager.needsRecovery
  transactionActive := pager.transactionActive
  isOpen := pager.isOpen

/-- Stored bytes from which a read takes `view`. -/
def Reveals (prim : Primitives) (pager : PagerSession) (pageId : PageId) (stored : Bytes)
    (view : PageView) : Prop :=
  (pagerReveal prim pager.superblock.fileId pager.dataKey pager.superblock.pageSize pageId
    stored).1 = .ok view.image

/-- The data file holds the image of each committed page that has no entry. -/
def Covers (prim : Primitives) (committed : Images) (pager : PagerSession)
    (entries : List (PageId × Nat)) (content : Bytes) : Prop :=
  ∀ pageId view, committed pageId = some view → (∀ walOffset, (pageId, walOffset) ∉ entries) →
    ∃ bytes, pageAt pager.superblock.pageSize content pageId = some bytes ∧
      Reveals prim pager pageId bytes view

/-- The cache, the log and the data file agree with the committed images. -/
structure Coherent (prim : Primitives) (committed : Images) (pager : PagerSession)
    (disk : FileDisk) : Prop where
  isOpen : pager.isOpen = true
  database : pager.file.kind = .database
  log : ∀ wal, pager.walFile = some wal → wal.kind = .wal
  named : ∀ wal, disk.names .wal = some wal → wal.kind = .wal
  pageSize : pageSizeValid pager.superblock.pageSize = true
  sized : pager.superblock.Sized
  geometry : pageGeometryValid pager.superblock.nextPageId pager.superblock.pageSize = true
  lsn : pager.currentLsn ≤ uint64Max
  distinct : pager.cache.Distinct
  inRange : ∀ pageId view, committed pageId = some view →
    pageId ≠ 0 ∧ pageId.toNat < pager.superblock.nextPageId
  /-- A cached copy of a committed page is its image. -/
  cached : ∀ pageId bytes view, pager.cache.Holds pageId bytes → committed pageId = some view →
    pageDecode prim pager.superblock.pageSize pageId bytes = .ok view.image
  /-- An indexed frame holds the image of its page. -/
  indexed : ∀ pageId walOffset, (pageId, walOffset) ∈ pager.walIndex →
    ∃ wal bytes view, pager.walFile = some wal ∧ committed pageId = some view ∧
      walOffset + FrameFormat.v5.headerSize + pager.superblock.pageSize ≤ pager.walTail ∧
      readAt (disk.bytes wal) (walOffset + FrameFormat.v5.headerSize)
        pager.superblock.pageSize = some bytes ∧
      Reveals prim pager pageId bytes view
  /-- The data file holds the image of a page without a frame. -/
  stored : Covers prim committed pager pager.walIndex (disk.bytes pager.file)

section Index

variable {index : List (PageId × Nat)} {pageId other : PageId} {walOffset offset : Nat}

lemma mem_of_walIndexGet (h : walIndexGet index pageId = some walOffset) :
    (pageId, walOffset) ∈ index := by
  obtain ⟨entry, hfind, rfl⟩ := Option.map_eq_some_iff.mp h
  have hmem := mem_of_find?_eq_some hfind
  have hpage : entry.1 = pageId := by simpa using List.find?_some hfind
  rw [← hpage]
  exact hmem

lemma not_mem_of_walIndexGet (h : walIndexGet index pageId = none) (walOffset : Nat) :
    (pageId, walOffset) ∉ index := by
  intro hmem
  have hnone := List.find?_eq_none.mp (Option.map_eq_none_iff.mp h) _ hmem
  simp at hnone

lemma mem_walIndexPut (h : (other, offset) ∈ walIndexPut index pageId walOffset) :
    (other = pageId ∧ offset = walOffset) ∨ (other ≠ pageId ∧ (other, offset) ∈ index) := by
  unfold walIndexPut at h
  split at h
  · obtain ⟨entry, hentry, hmap⟩ := List.mem_map.mp h
    split at hmap
    · obtain ⟨rfl, rfl⟩ := Prod.mk.inj hmap
      exact .inl ⟨rfl, rfl⟩
    · rename_i hne
      subst hmap
      exact .inr ⟨hne, hentry⟩
  · rename_i hnone
    rcases List.mem_append.mp h with hold | hnew
    · refine .inr ⟨?_, hold⟩
      rintro rfl
      exact hnone (List.any_eq_true.mpr ⟨(other, offset), hold, by simp⟩)
    · obtain ⟨rfl, rfl⟩ := Prod.mk.inj (List.mem_singleton.mp hnew)
      exact .inl ⟨rfl, rfl⟩

lemma exists_mem_walIndexPut (h : other = pageId ∨ ∃ offset, (other, offset) ∈ index) :
    ∃ offset, (other, offset) ∈ walIndexPut index pageId walOffset := by
  unfold walIndexPut
  split
  · rename_i hany
    by_cases hpage : other = pageId
    · obtain ⟨entry, hentry, hid⟩ := List.any_eq_true.mp hany
      refine ⟨walOffset, List.mem_map.mpr ⟨entry, hentry, ?_⟩⟩
      rw [if_pos (by simpa using hid), hpage]
    · obtain ⟨offset, hmem⟩ := h.resolve_left hpage
      exact ⟨offset, List.mem_map.mpr ⟨_, hmem, if_neg hpage⟩⟩
  · rcases h with rfl | ⟨offset, hmem⟩
    · exact ⟨walOffset, mem_append_right _ mem_cons_self⟩
    · exact ⟨offset, mem_append_left _ hmem⟩

/-- An entry of the index behind a transaction is a frame of it or an older one. -/
lemma mem_walIndexPutFrames {frameSize start : Nat} {pages : List PageId}
    (h : (other, offset) ∈ walIndexPutFrames frameSize index start pages) :
    (∃ position, pages[position]? = some other ∧ offset = start + position * frameSize) ∨
      (other ∉ pages ∧ (other, offset) ∈ index) := by
  induction pages generalizing index start with
  | nil => exact .inr ⟨not_mem_nil, h⟩
  | cons page pages ih =>
    rcases ih h with ⟨position, hposition, rfl⟩ | ⟨hnot, hput⟩
    · refine .inl ⟨position + 1, by simpa using hposition, ?_⟩
      rw [Nat.add_mul, Nat.one_mul, Nat.add_assoc, Nat.add_comm frameSize]
    · rcases mem_walIndexPut hput with ⟨rfl, rfl⟩ | ⟨hne, hold⟩
      · exact .inl ⟨0, rfl, by simp⟩
      · refine .inr ⟨?_, hold⟩
        intro hmem
        rcases List.mem_cons.mp hmem with rfl | hmem
        · exact hne rfl
        · exact hnot hmem

lemma exists_mem_walIndexPutFrames {frameSize start : Nat} {pages : List PageId}
    (h : other ∈ pages ∨ ∃ offset, (other, offset) ∈ index) :
    ∃ offset, (other, offset) ∈ walIndexPutFrames frameSize index start pages := by
  induction pages generalizing index start with
  | nil => exact h.resolve_left not_mem_nil
  | cons page pages ih =>
    apply ih
    rcases h with hmem | hold
    · rcases List.mem_cons.mp hmem with rfl | hmem
      · exact .inr (exists_mem_walIndexPut (.inl rfl))
      · exact .inl hmem
    · exact .inr (exists_mem_walIndexPut (.inr hold))

end Index

section Reading

variable {prim : Primitives} {committed : Images} {pager : PagerSession} {disk : FileDisk}
  {pageId : PageId} {view : PageView} {buffer : Bytes} {cache : PageCache}

/-- A read keeps of the pager everything but the cache. -/
def PagerSession.withCache (pager : PagerSession) (cache : PageCache) : PagerSession :=
  { pager with cache }

/-- The caller's page behind a successful read decodes to what the read returned. -/
lemma pageDecode_of_pagerReveal {fileId : Bytes} {dataKey : Option Bytes} {pageSize : Nat}
    {stored : Bytes} {revealed : ImageView}
    (h : (pagerReveal prim fileId dataKey pageSize pageId stored).1 = .ok revealed) :
    pageDecode prim pageSize pageId
      (pagerReveal prim fileId dataKey pageSize pageId stored).2 = .ok revealed := by
  revert h
  unfold pagerReveal
  split
  · intro h
    cases h
  rename_i decoded hdecode
  dsimp only
  split
  · split
    · intro h
      cases h
    · intro h
      exact hdecode.trans h
  · split
    · intro h
      cases h
    split
    · intro h
      cases h
    split
    · intro h
      cases h
    · exact id

section

variable (h : Coherent prim committed pager disk)

include h

/-- The images do not change when the cache loses pages. -/
lemma Coherent.of_keeps
    (hkeeps : cache.Keeps pager.cache) : Coherent prim committed (pager.withCache cache) disk :=
  { isOpen := h.isOpen, database := h.database, log := h.log, named := h.named
    pageSize := h.pageSize, sized := h.sized, geometry := h.geometry, lsn := h.lsn
    distinct := hkeeps.distinct h.distinct, inRange := h.inRange
    cached := fun pageId bytes view hholds hview =>
      h.cached pageId bytes view (hkeeps.holds hholds) hview
    indexed := h.indexed, stored := h.stored }

/-- What a read fetches for a committed page shows its image. -/
lemma Coherent.reveals_fetched {bytes : Bytes}
    (hview : committed pageId = some view)
    (hfetched : Fetched pager.toPagerHandle disk pageId bytes) :
    Reveals prim pager pageId bytes view := by
  rcases hfetched with ⟨walOffset, wal, hindex, hwal, hread⟩ | ⟨hindex, hread⟩
  · obtain ⟨log, found, image, hlog, himage, -, hfound, hreveals⟩ :=
      h.indexed pageId walOffset (mem_of_walIndexGet hindex)
    have hsame : wal = log := by
      rcases hwal with hwal | ⟨hwal, -⟩
      · rw [hwal] at hlog
        exact Option.some.inj hlog
      · rw [hwal] at hlog
        cases hlog
    subst hsame
    rw [hread] at hfound
    rw [hview] at himage
    rw [Option.some.inj hfound, Option.some.inj himage]
    exact hreveals
  · obtain ⟨found, hfound, hreveals⟩ :=
      h.stored pageId view hview (not_mem_of_walIndexGet hindex)
    rw [pageAt, hread] at hfound
    rw [Option.some.inj hfound]
    exact hreveals

/-- The image a read puts into the cache. -/
lemma Coherent.of_put {page : Bytes} (hid : pageId ≠ 0)
    (hpage : ∀ view, committed pageId = some view →
      pageDecode prim pager.superblock.pageSize pageId page = .ok view.image) :
    Coherent prim committed (pager.withCache (pageCachePut pager.cache pageId page)) disk :=
  { isOpen := h.isOpen, database := h.database, log := h.log, named := h.named
    pageSize := h.pageSize, sized := h.sized, geometry := h.geometry, lsn := h.lsn
    distinct := PageCache.distinct_put hid h.distinct, inRange := h.inRange
    cached := by
      intro other bytes view hholds hview
      rcases PageCache.holds_put hid h.distinct hholds with ⟨rfl, rfl⟩ | ⟨-, hold⟩
      · exact hpage view hview
      · exact h.cached other bytes view hold hview
    indexed := h.indexed, stored := h.stored }

lemma Coherent.readCached (buffer : Bytes) {page : Bytes}
    (hget : pageCacheGet pager.cache pageId = (some page, cache)) :
    Coherent prim committed (pager.readCached prim cache pageId buffer page).pager disk ∧
      ∀ view, committed pageId = some view →
        (pager.readCached prim cache pageId buffer page).result = .ok view.image := by
  have hkeeps : cache.Keeps pager.cache := by
    have := PageCache.keeps_get pager.cache pageId
    rwa [hget] at this
  constructor
  · unfold PagerSession.readCached
    dsimp only
    split
    · exact h.of_keeps hkeeps
    · exact h.of_keeps ((PageCache.keeps_remove cache pageId).trans hkeeps)
  · intro view hview
    have hholds : pager.cache.Holds pageId page := PageCache.holds_of_get (by rw [hget])
    exact h.cached pageId page view hholds hview

lemma Coherent.readStored (buffer : Bytes)
    {bytes : Bytes} (hget : pageCacheGet pager.cache pageId = (none, cache)) (hid : pageId ≠ 0)
    (hfetched : Fetched pager.toPagerHandle disk pageId bytes) :
    Coherent prim committed (pager.readStored prim cache pageId buffer bytes).pager disk ∧
      ∀ view, committed pageId = some view →
        (pager.readStored prim cache pageId buffer bytes).result = .ok view.image := by
  have hkeeps : cache.Keeps pager.cache := by
    have := PageCache.keeps_get pager.cache pageId
    rwa [hget] at this
  have hreveals : ∀ view, committed pageId = some view → Reveals prim pager pageId bytes view :=
    fun view hview => h.reveals_fetched hview hfetched
  refine ⟨?_, hreveals⟩
  have hkept := h.of_keeps hkeeps
  unfold PagerSession.readStored
  dsimp only
  split
  · apply hkept.of_put hid
    intro view hview
    exact pageDecode_of_pagerReveal (hreveals view hview)
  · exact h.of_keeps ((PageCache.keeps_remove cache pageId).trans hkeeps)

/-- A read keeps the invariant, and where it succeeds on a committed page it returns
the image. -/
lemma Coherent.meets_pagerRead :
    (pager.pagerRead prim pageId buffer).Meets faulty
      (fun outcome after => Coherent prim committed outcome.pager after ∧
        outcome.pager.seen committed = pager.seen committed ∧
        ∀ view read, committed pageId = some view → outcome.result = .ok read → read = view.image)
      (fun _ _ => False) disk := by
  apply PagerSession.meets_pagerRead
  · intro error
    refine ⟨h, rfl, ?_⟩
    intro view read _ hread
    cases hread
  · intro page cache hget _
    obtain ⟨hcoherent, himage⟩ := h.readCached buffer hget
    refine ⟨hcoherent, rfl, ?_⟩
    intro view read hview hread
    rw [himage view hview] at hread
    exact (Except.ok.inj hread).symm
  · intro error cache hget
    refine ⟨h.of_keeps ?_, rfl, ?_⟩
    · have := PageCache.keeps_get pager.cache pageId
      rwa [hget] at this
    · intro view read _ hread
      cases hread
  · intro stored cache hget hid hfetched
    obtain ⟨hcoherent, himage⟩ := h.readStored buffer hget hid hfetched
    refine ⟨hcoherent, rfl, ?_⟩
    intro view read hview hread
    rw [himage view hview] at hread
    exact (Except.ok.inj hread).symm

end

end Reading

/-- Nothing but the content of one file differs. -/
structure SameBut (file : FileInode) (disk after : FileDisk) : Prop where
  names : after.names = disk.names
  bytes : ∀ inode, inode ≠ file → after.bytes inode = disk.bytes inode

namespace SameBut

variable {file : FileInode} {disk middle after : FileDisk}

lemma refl (file : FileInode) (disk : FileDisk) : SameBut file disk disk :=
  ⟨rfl, fun _ _ => rfl⟩

lemma trans (h : SameBut file disk middle) (h' : SameBut file middle after) :
    SameBut file disk after :=
  ⟨h'.names.trans h.names, fun inode hne => (h'.bytes inode hne).trans (h.bytes inode hne)⟩

lemma setFile (disk : FileDisk) (file : FileInode)
    (content : Durable.Buffered Bytes Edit) : SameBut file disk (disk.setFile file content) := by
  refine ⟨rfl, ?_⟩
  intro inode hne
  rw [Disk.bytes, setFile_other content hne, Disk.bytes]

lemma editFile (disk : FileDisk) (file : FileInode) (e : Edit) :
    SameBut file disk (disk.editFile file e) :=
  setFile disk file _

lemma syncFile (disk : FileDisk) (file inode : FileInode) :
    SameBut file disk (disk.syncFile inode) :=
  ⟨rfl, fun other _ => syncFile_bytes other⟩

end SameBut

section Checkpoint

variable {prim : Primitives} {committed : Images} {pager : PagerSession} {disk : FileDisk}
  {entries : List (PageId × Nat)} {content : Bytes} {wal file : FileInode} {generation : Nat}

lemma end_le_of_pageAt {pageSize : Nat} {pageId : PageId} {bytes : Bytes}
    (h : pageAt pageSize content pageId = some bytes) :
    pageOffset pageSize pageId + pageSize ≤ content.length :=
  readAt_eq_some_iff.mp ⟨bytes, h⟩

/-- A frame copied into the data file covers its page. -/
lemma Covers.write {pageId : PageId} {walOffset : Nat} {bytes : Bytes} {image : PageView}
    (h : Covers prim committed pager ((pageId, walOffset) :: entries) content)
    (hrange : ∀ pageId view, committed pageId = some view →
      pageId ≠ 0 ∧ pageId.toNat < pager.superblock.nextPageId)
    (himage : committed pageId = some image) (hsize : bytes.length = pager.superblock.pageSize)
    (hreveals : Reveals prim pager pageId bytes image) : Covers prim committed pager entries
      (writeAt content (pageOffset pager.superblock.pageSize pageId) bytes) := by
  intro other view hview hentries
  by_cases hsame : other = pageId
  · subst hsame
    rw [himage] at hview
    obtain rfl := Option.some.inj hview
    exact ⟨bytes, pageAt_writeAt_same content other hsize, hreveals⟩
  · obtain ⟨found, hfound, hreveals⟩ := h other view hview (by
      intro offset hmem
      rcases List.mem_cons.mp hmem with heq | hmem
      · exact hsame (Prod.mk.inj heq).1
      · exact hentries offset hmem)
    refine ⟨found, ?_, hreveals⟩
    rw [← hfound]
    exact pageAt_writeAt_other (hrange pageId image himage).1 (hrange other view hview).1 hsame
      hsize (end_le_of_pageAt hfound)

/-- The copying of the frames covers every page. -/
lemma Coherent.meets_checkpointApply (h : Coherent prim committed pager disk)
    (hwal : pager.walFile = some wal) (hentries : ∀ entry ∈ entries, entry ∈ pager.walIndex)
    {current : FileDisk} (hsame : SameBut pager.file disk current)
    (hcovers : Covers prim committed pager entries (current.bytes pager.file)) :
    (pager.checkpointApply prim wal entries).Meets faulty
      (fun _ after => SameBut pager.file disk after ∧
        Covers prim committed pager [] (after.bytes pager.file)) (fun _ _ => True) current := by
  induction entries generalizing current with
  | nil => exact meets_pure ⟨hsame, hcovers⟩
  | cons entry entries ih =>
    obtain ⟨pageId, walOffset⟩ := entry
    obtain ⟨log, bytes, view, hlog, hview, -, hread, hreveals⟩ :=
      h.indexed pageId walOffset (hentries _ mem_cons_self)
    obtain rfl : wal = log := Option.some.inj (hwal.symm.trans hlog)
    have hne : wal ≠ pager.file := by
      rintro rfl
      have hkind := h.log _ hwal
      rw [h.database] at hkind
      cases hkind
    unfold PagerSession.checkpointApply
    dsimp only
    split
    · exact meets_fail trivial
    apply meets_bind
    apply meets_fileReadFull _ (fun _ => trivial)
    intro page hpage
    rw [hsame.bytes wal hne, hread] at hpage
    obtain rfl := Option.some.inj hpage
    split
    · exact meets_fail trivial
    apply meets_bind
    apply meets_fileWriteFull _ (fun _ _ => trivial)
    apply ih (fun other hother => hentries other (mem_cons_of_mem _ hother))
    · exact hsame.trans (SameBut.editFile _ _ _)
    · rw [editFile_bytes]
      exact hcovers.write h.inRange hview (readAt_length hread) hreveals

/-- The slots lie in front of the pages. -/
lemma Covers.writeSlot {slot : Slot} {encoded : Bytes}
    (h : Covers prim committed pager entries content)
    (hencoded : encoded.length = superblockSlotSize) :
    Covers prim committed pager entries (writeAt content slot.offset encoded) := by
  intro pageId view hview hentries
  obtain ⟨bytes, hbytes, hreveals⟩ := h pageId view hview hentries
  refine ⟨bytes, ?_, hreveals⟩
  rw [← hbytes, pageAt, pageAt]
  apply readAt_writeAt_after _ (end_le_of_pageAt hbytes)
  have hoffset := dataOffset_le_pageOffset pager.superblock.pageSize pageId
  rw [hencoded]
  cases slot with
  | first =>
    simp only [Slot.offset, superblockSlotSize, dataOffset] at hoffset ⊢
    omega
  | second =>
    simp only [Slot.offset, superblockSlotSize, dataOffset] at hoffset ⊢
    omega

lemma meets_fileReadFull_attempt {offset size : Nat}
    {ok : Except SdbError Bytes → FileDisk → Prop} {bad : SdbError → FileDisk → Prop}
    (hok : ∀ result, ok result disk) :
    (fileReadFull file offset size).attempt.Meets faulty ok bad disk := by
  apply meets_attempt
  apply meets_fileReadFull
  · intro bytes _
    exact hok _
  · intro error
    exact hok _

lemma meets_superblockStoreReadFile {ok : SuperblockReadResult → FileDisk → Prop}
    {bad : SdbError → FileDisk → Prop} (hok : ∀ result, ok result disk)
    (hbad : ∀ error, bad error disk) :
    (superblockStoreReadFile prim file).Meets faulty ok bad disk := by
  apply meets_bind
  apply meets_bind
  apply meets_fileReadFull_attempt
  intro first
  apply meets_bind
  apply meets_fileReadFull_attempt
  intro second
  split
  · exact meets_fail (hbad _)
  · apply meets_pure
    apply meets_fromExcept
    · intro result _
      exact hok result
    · intro error _
      exact hbad error

/-- Storing a superblock writes slots and nothing else. -/
lemma meets_fileStoreSuperblock {next : SuperblockV1} {dataKey : Option Bytes}
    (hsized : next.Sized) (hcovers : Covers prim committed pager entries (disk.bytes file)) :
    (fileStoreSuperblock prim file next dataKey).Meets faulty
      (fun _ after => SameBut file disk after ∧
        Covers prim committed pager entries (after.bytes file) ∧ superblockV1Valid next = true)
      (fun _ _ => True) disk := by
  apply meets_bind
  apply meets_fromExcept _ (fun _ _ => trivial)
  intro encoded hencoded
  have hlength := encodeSlot_length hsized hencoded
  apply meets_bind
  apply meets_superblockStoreReadFile _ (fun _ => trivial)
  intro current
  split
  · exact meets_fail trivial
  apply meets_bind
  apply meets_fileWriteFull _ (fun _ _ => trivial)
  apply meets_bind
  apply meets_fileSync _ (fun _ => trivial)
  apply meets_bind
  apply meets_fileWriteFull _ (fun _ _ => trivial)
  apply meets_fileSync _ (fun _ => trivial)
  refine ⟨?_, ?_, (encodeSlot_eq_ok hsized hencoded).1⟩
  · exact (((SameBut.editFile _ _ _).trans (SameBut.syncFile _ _ _)).trans
      (SameBut.editFile _ _ _)).trans (SameBut.syncFile _ _ _)
  · rw [syncFile_bytes, editFile_bytes, syncFile_bytes, editFile_bytes]
    exact (hcovers.writeSlot hlength).writeSlot hlength

lemma generationBump_lt {next : Nat} (hlt : generation < 2 ^ 64)
    (h : generationBump generation = .ok next) : next < 2 ^ 64 := by
  unfold generationBump at h
  split at h
  · cases h
  · rename_i hmax
    obtain rfl := Except.ok.inj h
    simp only [uint64Max] at hmax
    omega

lemma SuperblockV1.Sized.advanced {superblock : SuperblockV1} (h : superblock.Sized) {lsn : Nat}
    (hlsn : lsn ≤ uint64Max) (hgeneration : generation < 2 ^ 64) :
    (superblock.advanced lsn generation).Sized where
  generation := hgeneration
  checkpointLsn := Nat.lt_of_le_of_lt hlsn (by decide)
  keyWrapId := h.keyWrapId
  kdfIterations := h.kdfIterations
  salt := h.salt
  fileId := h.fileId
  wrappedKey := h.wrappedKey
  keyWrapTag := h.keyWrapTag

/-- The superblock a checkpoint stores. -/
lemma Coherent.meets_checkpointAdvance (h : Coherent prim committed pager disk)
    (hwal : pager.walFile = some wal) : (pager.checkpointAdvance prim wal).Meets faulty
      (fun next after => SameBut pager.file disk after ∧
        Covers prim committed pager [] (after.bytes pager.file) ∧
        superblockV1Valid next = true ∧ ∃ generation,
          generationBump pager.superblock.generation = .ok generation ∧
          next = pager.superblock.advanced pager.currentLsn generation) (fun _ _ => True) disk := by
  unfold PagerSession.checkpointAdvance
  rw [hwal]
  apply meets_bind
  apply meets_fileSync _ (fun _ => trivial)
  apply meets_bind
  apply (h.meets_checkpointApply hwal (fun _ hentry => hentry) (SameBut.syncFile _ _ _) (by
    rw [syncFile_bytes]
    exact h.stored)).mono _ (fun _ _ _ => trivial)
  rintro ⟨⟩ copied ⟨hcopied, hcovers⟩
  apply meets_bind
  apply meets_fileSync _ (fun _ => trivial)
  apply meets_bind
  apply meets_fromExcept _ (fun _ _ => trivial)
  intro generation hgeneration
  have hbound := generationBump_lt h.sized.generation hgeneration
  apply meets_bind
  apply (meets_fileStoreSuperblock (h.sized.advanced h.lsn hbound)
    (show Covers prim committed pager [] ((copied.syncFile pager.file).bytes pager.file) by
      rw [syncFile_bytes]
      exact hcovers)).mono _ (fun _ _ _ => trivial)
  rintro ⟨⟩ after ⟨hafter, hcovered, hvalid⟩
  apply meets_pure
  exact ⟨(hcopied.trans (SameBut.syncFile _ _ _)).trans hafter, hcovered, hvalid, generation,
    hgeneration, rfl⟩

/-- The reset of the log touches the log only, whether it works or not. -/
lemma meets_pagerWalReset (hwal : pager.walFile = some wal) :
    pager.pagerWalReset.Meets faulty (fun _ after => SameBut wal disk after)
      (fun _ after => SameBut wal disk after) disk := by
  unfold PagerSession.pagerWalReset
  rw [hwal]
  apply meets_bind
  apply meets_fileResizeTo
  · intro _
    have hresized : SameBut wal disk (disk.editFile wal (.resize 0)) := SameBut.editFile _ _ _
    apply meets_bind
    apply meets_fileSync _ (fun _ => hresized)
    have hsynced := hresized.trans (SameBut.syncFile _ wal wal)
    apply meets_fileSyncParentDirectory _ (fun _ => hsynced)
    exact ⟨syncDirectory_names.trans hsynced.names, hsynced.bytes⟩
  · intro error content
    exact SameBut.setFile _ _ _

/-- Behind an advanced superblock the data file holds every image. -/
lemma Coherent.checkpointed (h : Coherent prim committed pager disk) {after : FileDisk}
    (hgeneration : generation < 2 ^ 64) (hnames : after.names = disk.names)
    (hcovers : Covers prim committed pager [] (after.bytes pager.file)) : Coherent prim committed
      (pager.checkpointed (pager.superblock.advanced pager.currentLsn generation)) after :=
  { isOpen := h.isOpen, database := h.database, log := h.log
    named := fun wal hname => h.named wal (by rw [← hnames]; exact hname)
    pageSize := h.pageSize
    sized := h.sized.advanced h.lsn hgeneration
    geometry := h.geometry, lsn := h.lsn, distinct := h.distinct, inRange := h.inRange
    cached := h.cached
    indexed := fun pageId walOffset hmem => absurd hmem not_mem_nil
    stored := hcovers }

/-- What a caller sees of an advanced superblock is the checkpoint of what it saw. -/
lemma Coherent.seen_checkpointed (h : Coherent prim committed pager disk)
    (hidle : ¬(!pager.isOpen || pager.needsRecovery || pager.transactionActive) = true)
    (hindex : pager.walIndex ≠ []) (hgeneration : generationBump pager.superblock.generation =
      .ok generation)
    (hvalid : superblockV1Valid (pager.superblock.advanced pager.currentLsn generation) = true) :
    pagerCheckpoint (pager.seen committed) = (.ok (), (pager.checkpointed
      (pager.superblock.advanced pager.currentLsn generation)).seen committed) := by
  obtain ⟨entry, hentry⟩ := exists_mem_of_ne_nil _ hindex
  obtain ⟨-, -, -, -, -, hend, -⟩ := h.indexed entry.1 entry.2 hentry
  have htail : pager.walTail ≠ walHeaderSize := by
    obtain ⟨hmin, -⟩ := pageSize_bounds h.pageSize
    simp only [minPageSize, walHeaderSize] at hmin ⊢
    omega
  simp only [superblockV1Valid, Bool.and_eq_true] at hvalid
  exact pagerCheckpoint_advances hidle htail hgeneration hvalid.1.1.1

/-- A checkpoint keeps the invariant or asks for recovery, at whichever call it fails; the
callers see the checkpoint or no change. -/
lemma Coherent.meets_pagerCheckpoint (h : Coherent prim committed pager disk) :
    (pager.pagerCheckpoint prim).Meets faulty
      (fun result after => result.2.needsRecovery = true ∨
        Coherent prim committed result.2 after ∧
          (result.2 = pager ∧ (result.1 = .ok () → pager.walIndex = []) ∨
            pagerCheckpoint (pager.seen committed) = (.ok (), result.2.seen committed)))
      (fun _ _ => False) disk := by
  unfold PagerSession.pagerCheckpoint
  split
  · exact meets_pure (.inr ⟨h, .inl ⟨rfl, fun hstatus => by cases hstatus⟩⟩)
  rename_i hidle
  split
  · rename_i hindex
    exact meets_pure (.inr ⟨h, .inl ⟨rfl, fun _ => hindex⟩⟩)
  rename_i hindex
  obtain ⟨entry, hentry⟩ := exists_mem_of_ne_nil _ hindex
  obtain ⟨wal, -, -, hwal, -⟩ := h.indexed entry.1 entry.2 hentry
  have hne : pager.file ≠ wal := by
    intro heq
    have hkind := h.log wal hwal
    rw [← heq, h.database] at hkind
    cases hkind
  apply meets_bind
  apply meets_attempt
  apply meets_pagerReadLog
  · intro opened hopened
    obtain rfl : opened = wal := by
      rcases hopened with hopened | ⟨hopened, -⟩
      · exact Option.some.inj (hopened.symm.trans hwal)
      · rw [hwal] at hopened
        cases hopened
    apply meets_bind
    apply meets_attempt
    apply (h.meets_checkpointAdvance hwal).mono
    · rintro next advanced ⟨hsame, hcovers, hvalid, generation, hgeneration, rfl⟩
      have hseen := h.seen_checkpointed hidle hindex hgeneration hvalid
      -- whatever becomes of the log, the data file has every page now
      have hreset : ∀ after, SameBut opened advanced after → Coherent prim committed
          (pager.checkpointed (pager.superblock.advanced pager.currentLsn generation)) after := by
        intro after hafter
        apply h.checkpointed (generationBump_lt h.sized.generation hgeneration)
          (hafter.names.trans hsame.names)
        rw [hafter.bytes pager.file hne]
        exact hcovers
      apply meets_bind
      apply meets_attempt
      apply (meets_pagerWalReset hwal).mono
      · intro _ after hafter
        exact meets_pure (.inr ⟨hreset after hafter, .inr hseen⟩)
      · intro _ after hafter
        exact meets_pure (.inr ⟨hreset after hafter, .inr hseen⟩)
    · intro error after _
      exact meets_pure (.inl rfl)
  · intro error
    exact meets_pure (.inr ⟨h, .inl ⟨rfl, fun hstatus => by cases hstatus⟩⟩)

end Checkpoint

end ShibaDb
