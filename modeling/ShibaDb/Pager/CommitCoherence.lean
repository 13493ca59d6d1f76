/-
Commits keep the stores of a pager coherent: the frames of a transaction are where
the index says, the cache gets its images, and no older page of the log or of the
data file moves.
-/
import ShibaDb.Pager.Coherence

namespace ShibaDb

open CallProgram FileSystem LittleEndian ByteFile List

section Commit

variable {prim : Primitives} {committed : Images} {pager : PagerSession} {disk : FileDisk}
  {pages : List WalPage} {staged : List TxnPage} {txnId : Nat} {fileId bytes buffer : Bytes}
  {pageSize position tail newTail offset nextPageId : Nat} {page : TxnPage} {nonces : Nat → Nonce}
  {target : Superblock} {stored : WalPage} {cache : PageCache} {scratch : Bool} {wal : FileInode}
  {txn : PagerTxn}

/-- The committed image of a staged page. -/
def TxnPage.view (page : TxnPage) (txnId : Nat) : PageView :=
  { type := page.type, pageLsn := txnId, payload := page.payload }

lemma pagerReveal_pageEncode (hlsn : txnId < 2 ^ 64)
    (h : pageEncode prim pageSize (.plain page.type) page.pageId txnId page.payload = .ok bytes) :
    (pagerReveal prim fileId none pageSize page.pageId bytes).1 = .ok (page.view txnId).image := by
  rw [pagerReveal, (pageDecode_of_pageEncode hlsn h).2]
  rfl

lemma pagerReveal_encryptedPageEncode {key : Bytes} {nonce : Nonce} (hlsn : txnId < 2 ^ 64)
    (h : encryptedPageEncode prim fileId key nonce.1 pageSize page.type page.pageId txnId
      page.payload = .ok bytes) :
    (pagerReveal prim fileId (some key) pageSize page.pageId bytes).1 =
      .ok (page.view txnId).image := by
  obtain ⟨hid, hvalid, hfits⟩ := encryptedPageEncode_fits h
  obtain ⟨-, view, hdecode, htype, hview, hopen⟩ := encryptedPageEncode_eq_ok nonce.2 hlsn h
  obtain ⟨hmin, -⟩ := pageSize_bounds hvalid
  simp only [minPageSize] at hmin
  have hcapacity : payloadCapacity pageSize (some key) = pageSize - 84 := by
    simp only [payloadCapacity, pageHeaderSize, encryptedPayloadHeaderSize, Option.isSome_some,
      if_true]
    rw [if_neg (by omega)]
    omega
  have hplain : pageHeaderSize + page.payload.length ≤ pageSize := by
    simp only [pageHeaderSize]
    omega
  obtain ⟨plain, hplain⟩ := exists_pageEncode prim txnId (.plain page.type) hvalid hid hplain
  have hguard : ¬(decide (view.type ≠ .encrypted) ||
      decide (payloadCapacity pageSize (some key) = 0)) = true := by
    rw [hcapacity]
    simp only [htype, ne_eq, not_true_eq_false, decide_false, Bool.false_or, decide_eq_true_eq]
    omega
  rw [pagerReveal, hdecode]
  dsimp only
  rw [if_neg hguard, hopen _ (by rw [hcapacity]; exact hfits)]
  dsimp only
  rw [hview, hplain]
  exact (pageDecode_of_pageEncode hlsn hplain).2

/-- The stored page is the image of the staged one. -/
structure Encodes (prim : Primitives) (pager : PagerSession) (txnId : Nat) (page : TxnPage)
    (stored : WalPage) : Prop where
  pageId : stored.pageId = page.pageId
  nonzero : page.pageId ≠ 0
  size : stored.bytes.length = pager.superblock.pageSize
  reveals : Reveals prim pager page.pageId stored.bytes (page.view txnId)
  /-- Without encryption the stored bytes are the plain page. -/
  plain : pager.dataKey = none →
    pageDecode prim pager.superblock.pageSize page.pageId stored.bytes =
      .ok (page.view txnId).image

lemma encodes_of_txnEncodePage {nonce : Nonce} (hlsn : txnId < 2 ^ 64)
    (h : pager.txnEncodePage prim pager.superblock.fileId txnId nonce page = .ok bytes) :
    Encodes prim pager txnId page ⟨page.pageId, bytes⟩ := by
  unfold PagerSession.txnEncodePage at h
  split at h
  · rename_i key hkey
    refine ⟨rfl, (encryptedPageEncode_fits h).1,
      (encryptedPageEncode_eq_ok nonce.2 hlsn h).1, ?_, ?_⟩
    · rw [Reveals, hkey]
      exact pagerReveal_encryptedPageEncode hlsn h
    · intro hnone
      rw [hkey] at hnone
      cases hnone
  · rename_i hkey
    obtain ⟨hlength, hdecode⟩ := pageDecode_of_pageEncode hlsn h
    refine ⟨rfl, (pageEncode_eq_ok h).1, hlength, ?_, fun _ => hdecode⟩
    rw [Reveals, hkey]
    exact pagerReveal_pageEncode hlsn h

lemma encodes_of_txnEncodePages {index : Nat} (hlsn : txnId < 2 ^ 64)
    (h : pager.txnEncodePages prim pager.superblock.fileId txnId nonces index staged = .ok pages) :
    List.Forall₂ (Encodes prim pager txnId) staged pages := by
  induction staged generalizing index pages with
  | nil =>
    obtain rfl := Except.ok.inj h
    exact List.Forall₂.nil
  | cons page staged ih =>
    simp only [PagerSession.txnEncodePages] at h
    obtain ⟨bytes, hbytes, h⟩ := Fallible.except_bind_eq_ok.mp h
    obtain ⟨rest, hrest, h⟩ := Fallible.except_bind_eq_ok.mp h
    obtain rfl := Except.ok.inj h
    exact List.Forall₂.cons (encodes_of_txnEncodePage hlsn hbytes) (ih hrest)

lemma pageIds_of_encodes (h : List.Forall₂ (Encodes prim pager txnId) staged pages) :
    pages.map (·.pageId) = staged.map (·.pageId) := by
  induction h with
  | nil => rfl
  | cons hpage _ ih => rw [map_cons, map_cons, hpage.pageId, ih]

lemma sizes_of_encodes (h : List.Forall₂ (Encodes prim pager txnId) staged pages) :
    ∀ page ∈ pages, page.bytes.length = pager.superblock.pageSize := by
  induction h with
  | nil =>
    intro page hmem
    cases hmem
  | cons hpage _ ih =>
    intro page hmem
    rcases List.mem_cons.mp hmem with rfl | hmem
    · exact hpage.size
    · exact ih page hmem

/-- The page of a frame lies behind the headers of the frames up to it. -/
lemma field_walFrames {count first : Nat} {page : WalPage} (hfile : fileId.length = 16)
    (hsizes : ∀ page ∈ pages, page.bytes.length = pageSize) (hpage : pages[position]? = some page)
    (after : Bytes) :
    field (position * FrameFormat.v5.frameSize pageSize + FrameFormat.v5.headerSize) pageSize
      (walFrames fileId txnId count first pages ++ after) = page.bytes := by
  induction pages generalizing first position with
  | nil => cases hpage
  | cons head pages ih =>
    have hhead := hsizes head mem_cons_self
    have hlength : (walFrame fileId txnId count first head).length =
        FrameFormat.v5.frameSize pageSize := by
      simp only [walFrame, length_append, write_length, hfile, hhead,
        FrameFormat.frameSize, FrameFormat.headerSize]
      omega
    rw [walFrames, append_assoc]
    cases position with
    | zero =>
      obtain rfl : head = page := Option.some.inj hpage
      simp [walFrame, field_skip, field_head, append_assoc, hfile, hhead,
        FrameFormat.headerSize]
    | succ position =>
      rw [field_skip _ (by rw [hlength, Nat.add_mul]; omega), hlength]
      have hskip : (position + 1) * FrameFormat.v5.frameSize pageSize +
          FrameFormat.v5.headerSize - FrameFormat.v5.frameSize pageSize =
          position * FrameFormat.v5.frameSize pageSize + FrameFormat.v5.headerSize := by
        rw [Nat.add_mul]
        omega
      rw [hskip]
      exact ih (fun other hother => hsizes other (mem_cons_of_mem _ hother))
        (by simpa using hpage)

/-- The buffer of an append: the frames and the commit record, behind the header where
the log is empty. -/
lemma walEncodeTxn_eq_ok
    (h : walEncodeTxn prim target tail txnId pages = .ok (buffer, offset, newTail)) :
    walPagesValid prim target txnId [] pages = true ∧
      (pages.length ≤ walMaxRecords ∧ newTail ≤ walMaxBytes) ∧
      newTail = tail + FrameFormat.v5.frameSize target.pageSize * pages.length + walCommitSize ∧
      (offset = tail ∨ tail = walHeaderSize) ∧
      ∃ lead after, buffer = lead ++ (walFrames target.fileId txnId pages.length 0 pages ++ after) ∧
        (target.fileId.length = 16 → offset + lead.length = tail) ∧
        after.length = walCommitSize := by
  simp only [walEncodeTxn, Fallible.guard_eq_ok, Bool.or_eq_true, decide_eq_true_eq, not_or,
    not_lt, gt_iff_lt] at h
  obtain ⟨⟨-, hcount⟩, hroom, hpages, h⟩ := h
  refine ⟨by simpa using hpages, ?_⟩
  split at h
  · rename_i htail
    obtain ⟨rfl, hrest⟩ := Prod.mk.inj (Except.ok.inj h)
    obtain ⟨rfl, rfl⟩ := Prod.mk.inj hrest
    refine ⟨⟨hcount, hroom⟩, rfl, .inr htail, _, _, rfl, ?_, walEncodeCommitRec_length ..⟩
    intro hfile
    rw [walHeader_length hfile, htail, Nat.zero_add]
  · obtain ⟨rfl, hrest⟩ := Prod.mk.inj (Except.ok.inj h)
    obtain ⟨rfl, rfl⟩ := Prod.mk.inj hrest
    exact ⟨⟨hcount, hroom⟩, rfl, .inl rfl, [], _, rfl, fun _ => rfl,
      walEncodeCommitRec_length ..⟩

/-- The frames of a transaction are where its append put them. -/
lemma readAt_appended {page : WalPage} (content : Bytes)
    (h : walEncodeTxn prim target tail txnId pages = .ok (buffer, offset, newTail))
    (hfile : target.fileId.length = 16)
    (hsizes : ∀ page ∈ pages, page.bytes.length = target.pageSize)
    (hpage : pages[position]? = some page) :
    tail + position * FrameFormat.v5.frameSize target.pageSize + FrameFormat.v5.headerSize +
        target.pageSize ≤ newTail ∧ readAt (writeAt content offset buffer)
        (tail + position * FrameFormat.v5.frameSize target.pageSize + FrameFormat.v5.headerSize)
        target.pageSize = some page.bytes := by
  obtain ⟨-, -, rfl, -, lead, after, rfl, hlead, hafter⟩ := walEncodeTxn_eq_ok h
  have hstart := hlead hfile
  have hframes : (walFrames target.fileId txnId pages.length 0 pages).length =
      FrameFormat.v5.frameSize target.pageSize * pages.length := walFrames_length hfile hsizes
  obtain ⟨hposition, -⟩ := List.getElem?_eq_some_iff.mp hpage
  have hroom : position * FrameFormat.v5.frameSize target.pageSize +
      FrameFormat.v5.frameSize target.pageSize ≤
        FrameFormat.v5.frameSize target.pageSize * pages.length := by
    rw [Nat.mul_comm, ← Nat.mul_succ]
    exact Nat.mul_le_mul_left _ hposition
  have hframe : FrameFormat.v5.frameSize target.pageSize =
      FrameFormat.v5.headerSize + target.pageSize := rfl
  have hbuffer : (lead ++ (walFrames target.fileId txnId pages.length 0 pages ++ after)).length =
      lead.length + (FrameFormat.v5.frameSize target.pageSize * pages.length + after.length) := by
    rw [length_append, length_append, hframes]
  refine ⟨by omega, ?_⟩
  rw [readAt_writeAt_within (by omega) (by rw [hbuffer]; omega)]
  have hplace : tail + position * FrameFormat.v5.frameSize target.pageSize +
      FrameFormat.v5.headerSize - offset = lead.length +
        (position * FrameFormat.v5.frameSize target.pageSize + FrameFormat.v5.headerSize) := by
    omega
  rw [hplace, readAt, if_pos (by rw [hbuffer]; omega), field_skip _ (by omega),
    Nat.add_sub_cancel_left, field_walFrames hfile hsizes hpage]

/-- An append leaves the pages of the log as they are. -/
lemma readAt_before_append {start size : Nat} {content : Bytes}
    (h : walEncodeTxn prim target tail txnId pages = .ok (buffer, offset, newTail))
    (hsize : walHeaderSize < size) (hend : start + size ≤ tail)
    (hread : readAt content start size = some bytes) :
    readAt (writeAt content offset buffer) start size = some bytes := by
  obtain ⟨-, -, -, hoffset, -⟩ := walEncodeTxn_eq_ok h
  obtain rfl : offset = tail := hoffset.resolve_right (by omega)
  rw [← hread]
  exact readAt_writeAt_before hend (readAt_eq_some_iff.mp ⟨bytes, hread⟩)

/-- A commit puts the image of a page into the cache or drops the page. -/
lemma txnCachePage_cases (cache : PageCache) (scratch : Bool) (hlsn : txnId < 2 ^ 64)
    (hencodes : Encodes prim pager txnId page stored) :
    (∃ plain, pager.txnCachePage prim txnId scratch cache page stored.bytes =
        pageCachePut cache page.pageId plain ∧
      pageDecode prim pager.superblock.pageSize page.pageId plain = .ok (page.view txnId).image) ∨
    pager.txnCachePage prim txnId scratch cache page stored.bytes =
      pageCacheRemove cache page.pageId := by
  unfold PagerSession.txnCachePage
  split
  · rename_i hkey
    exact .inl ⟨_, rfl, hencodes.plain (by simpa using hkey)⟩
  · split
    · rename_i plain hplain
      split
      · exact .inl ⟨plain, rfl, (pageDecode_of_pageEncode hlsn hplain).2⟩
      · exact .inr rfl
    · exact .inr rfl

lemma distinct_txnCachePage (scratch : Bool) (hlsn : txnId < 2 ^ 64)
    (hencodes : Encodes prim pager txnId page stored) (hdistinct : cache.Distinct) :
    (pager.txnCachePage prim txnId scratch cache page stored.bytes).Distinct := by
  rcases txnCachePage_cases cache scratch hlsn hencodes with ⟨plain, hput, -⟩ | hremove
  · rw [hput]
    exact PageCache.distinct_put hencodes.nonzero hdistinct
  · rw [hremove]
    exact (PageCache.keeps_remove cache page.pageId).distinct hdistinct

lemma holds_txnCachePage {pageId : PageId} (hlsn : txnId < 2 ^ 64)
    (hencodes : Encodes prim pager txnId page stored) (hdistinct : cache.Distinct)
    (h : (pager.txnCachePage prim txnId scratch cache page stored.bytes).Holds pageId bytes) :
    (pageId = page.pageId ∧ pageDecode prim pager.superblock.pageSize page.pageId bytes =
        .ok (page.view txnId).image) ∨ (pageId ≠ page.pageId ∧ cache.Holds pageId bytes) := by
  rcases txnCachePage_cases cache scratch hlsn hencodes with ⟨plain, hput, hplain⟩ | hremove
  · rw [hput] at h
    rcases PageCache.holds_put hencodes.nonzero hdistinct h with ⟨hsame, rfl⟩ | hold
    · exact .inl ⟨hsame, hplain⟩
    · exact .inr hold
  · rw [hremove] at h
    exact .inr ⟨PageCache.not_holds_remove hdistinct h,
      (PageCache.keeps_remove cache page.pageId).holds h⟩

/-- The cache behind a commit: new images of its pages, old copies of the others. -/
lemma holds_txnCachePages (scratch : Bool) (hlsn : txnId < 2 ^ 64)
    (hencodes : List.Forall₂ (Encodes prim pager txnId) staged pages) (hdistinct : cache.Distinct) :
    (pager.txnCachePages prim txnId scratch cache staged pages).Distinct ∧ ∀ pageId bytes,
        (pager.txnCachePages prim txnId scratch cache staged pages).Holds pageId bytes →
        (∃ page ∈ staged, page.pageId = pageId ∧
          pageDecode prim pager.superblock.pageSize pageId bytes = .ok (page.view txnId).image) ∨
        ((∀ page ∈ staged, page.pageId ≠ pageId) ∧ cache.Holds pageId bytes) := by
  induction hencodes generalizing cache with
  | nil =>
    refine ⟨hdistinct, ?_⟩
    intro pageId bytes hholds
    exact .inr ⟨fun _ hmem => absurd hmem not_mem_nil, hholds⟩
  | @cons page stored staged pages hpage hrest ih =>
    obtain ⟨hdone, hholds⟩ := ih (distinct_txnCachePage scratch hlsn hpage hdistinct)
    refine ⟨hdone, ?_⟩
    intro pageId bytes hafter
    rcases hholds pageId bytes hafter with ⟨other, hother, hid, hdecode⟩ | ⟨hnone, hbefore⟩
    · exact .inl ⟨other, mem_cons_of_mem _ hother, hid, hdecode⟩
    · rcases holds_txnCachePage hlsn hpage hdistinct hbefore with ⟨rfl, hdecode⟩ | ⟨hne, hold⟩
      · exact .inl ⟨page, mem_cons_self, rfl, hdecode⟩
      · refine .inr ⟨?_, hold⟩
        intro other hother
        rcases List.mem_cons.mp hother with rfl | hother
        · exact hne.symm
        · exact hnone other hother

/-- The log a commit appends to, and what opening it leaves alone. -/
structure Opens (pager : PagerSession) (disk : FileDisk) (wal : FileInode) (after : FileDisk) :
    Prop where
  kind : wal.kind = .wal
  named : ∀ wal, after.names .wal = some wal → wal.kind = .wal
  database : after.bytes pager.file = disk.bytes pager.file
  log : ∀ other, pager.walFile = some other → wal = other ∧ after.bytes wal = disk.bytes wal

lemma createdFile_names (disk : FileDisk) (h : disk.names .wal = none) :
    (createdFile disk .wal .wal).names .wal = some ⟨.wal, disk.fresh⟩ := by
  simp only [createdFile, exec, h]
  have hedit := Durable.Buffered.current_edit DirectoryEdit.apply disk.directory
    (.link FileName.wal ⟨.wal, disk.fresh⟩)
  refine (congrFun hedit .wal).trans ?_
  simp [DirectoryEdit.apply]

lemma createdFile_bytes (disk : FileDisk) (h : disk.names .wal = none) {inode : FileInode}
    (hne : inode ≠ ⟨.wal, disk.fresh⟩) :
    (createdFile disk .wal .wal).bytes inode = disk.bytes inode := by
  simp only [createdFile, exec, h]
  exact congrArg (Durable.Buffered.current Edit.apply) (Function.update_of_ne hne ..)

lemma Coherent.meets_pagerEnsureWalOpen (h : Coherent prim committed pager disk) :
    pager.pagerEnsureWalOpen.Meets faulty (fun wal after => Opens pager disk wal after)
      (fun _ _ => True) disk := by
  unfold PagerSession.pagerEnsureWalOpen
  split
  · rename_i wal hwal
    refine meets_pure ⟨h.log wal hwal, h.named, rfl, ?_⟩
    intro other hother
    exact ⟨Option.some.inj (hwal.symm.trans hother), rfl⟩
  · rename_i hwal
    have hlog : ∀ {wal : FileInode} {after : FileDisk} other, pager.walFile = some other →
        wal = other ∧ after.bytes wal = disk.bytes wal := by
      intro _ _ other hother
      rw [hwal] at hother
      cases hother
    apply meets_bind
    apply meets_attempt
    apply meets_fileOpenExisting
    · intro wal hname
      exact meets_pure ⟨h.named wal hname, h.named, rfl, fun other hother => hlog other hother⟩
    · intro hname
      apply meets_bind
      apply meets_fileCreateNew hname _ (fun _ _ => trivial)
      apply meets_bind
      apply meets_fileSyncParentDirectory _ (fun _ => trivial)
      refine meets_pure ⟨rfl, ?_, ?_, fun other hother => hlog other hother⟩
      · intro wal hwalName
        rw [syncDirectory_names, createdFile_names disk hname] at hwalName
        obtain rfl := Option.some.inj hwalName
        rfl
      · rw [syncDirectory_bytes, createdFile_bytes disk hname]
        intro heq
        have hkind := h.database
        rw [heq] at hkind
        cases hkind
    · exact meets_fail trivial

/-- The superblock with the allocations of a transaction. -/
def SuperblockV1.allocating (superblock : SuperblockV1) (nextPageId : Nat)
    (freelistPage : PageId) : SuperblockV1 :=
  { superblock with nextPageId, freelistPage }

/-- The transaction starts from the superblock of the pager and only allocates: what
`sdb_txn_begin`, `sdb_txn_allocate` and `sdb_txn_free` make of it. -/
def PagerTxn.Follows (txn : PagerTxn) (pager : PagerSession) : Prop :=
  ∃ nextPageId freelistPage, pager.superblock.nextPageId ≤ nextPageId ∧
    txn.targetSuperblock = pager.superblock.allocating nextPageId freelistPage

lemma SuperblockV1.Sized.allocating {superblock : SuperblockV1} (h : superblock.Sized)
    (nextPageId : Nat) (freelistPage : PageId) :
    (superblock.allocating nextPageId freelistPage).Sized where
  generation := h.generation
  checkpointLsn := h.checkpointLsn
  keyWrapId := h.keyWrapId
  kdfIterations := h.kdfIterations
  salt := h.salt
  fileId := h.fileId
  wrappedKey := h.wrappedKey
  keyWrapTag := h.keyWrapTag

/-- The log and the data file behind an append. -/
structure Appended (prim : Primitives) (pager : PagerSession) (disk : FileDisk)
    (nextPageId : Nat) (pages : List WalPage) (wal : FileInode) (tail : Nat) (after : FileDisk) :
    Prop where
  kind : wal.kind = .wal
  named : ∀ wal, after.names .wal = some wal → wal.kind = .wal
  database : after.bytes pager.file = disk.bytes pager.file
  nodup : (pages.map (·.pageId)).Nodup
  inRange : ∀ page ∈ pages, page.pageId ≠ 0 ∧ page.pageId.toNat < nextPageId
  count : pages.length ≤ walMaxRecords
  room : tail ≤ walMaxBytes
  tail_eq : tail = pager.walTail + FrameFormat.v5.frameSize pager.superblock.pageSize *
    pages.length + walCommitSize
  frames : ∀ position page, pages[position]? = some page →
    pager.walTail + position * FrameFormat.v5.frameSize pager.superblock.pageSize +
        FrameFormat.v5.headerSize + pager.superblock.pageSize ≤ tail ∧
      readAt (after.bytes wal)
        (pager.walTail + position * FrameFormat.v5.frameSize pager.superblock.pageSize +
          FrameFormat.v5.headerSize) pager.superblock.pageSize = some page.bytes
  older : ∀ other walOffset bytes, pager.walFile = some other →
    walOffset + FrameFormat.v5.headerSize + pager.superblock.pageSize ≤ pager.walTail →
    readAt (disk.bytes other) (walOffset + FrameFormat.v5.headerSize)
      pager.superblock.pageSize = some bytes →
    wal = other ∧ readAt (after.bytes wal) (walOffset + FrameFormat.v5.headerSize)
      pager.superblock.pageSize = some bytes

/-- What an append wrote is there before and after its sync. -/
lemma Appended.of_bytes {middle after : FileDisk}
    (h : Appended prim pager disk nextPageId pages wal tail middle)
    (hnames : after.names = middle.names) (hfile : after.bytes pager.file = middle.bytes pager.file)
    (hwal : after.bytes wal = middle.bytes wal) :
    Appended prim pager disk nextPageId pages wal tail after where
  kind := h.kind
  named := by
    rw [hnames]
    exact h.named
  database := hfile.trans h.database
  nodup := h.nodup
  inRange := h.inRange
  count := h.count
  room := h.room
  tail_eq := h.tail_eq
  frames := by
    rw [hwal]
    exact h.frames
  older := by
    rw [hwal]
    exact h.older

lemma Coherent.meets_txnAppend (h : Coherent prim committed pager disk) {opened : FileDisk}
    (hopens : Opens pager disk wal opened) {freelistPage : PageId}
    (hsizes : ∀ page ∈ pages, page.bytes.length = pager.superblock.pageSize) :
    (pager.txnAppend prim (pager.superblock.allocating nextPageId freelistPage) txnId wal
        pages).Meets faulty
      (fun tail after => Appended prim pager disk nextPageId pages wal tail after)
      (fun _ _ => True) opened := by
  have hfileId : pager.superblock.fileId.length = 16 := h.sized.fileId
  have hne : pager.file ≠ wal := by
    intro heq
    have hkind := hopens.kind
    rw [← heq, h.database] at hkind
    cases hkind
  obtain ⟨hmin, -⟩ := pageSize_bounds h.pageSize
  have hlarge : walHeaderSize < pager.superblock.pageSize := by
    simp only [walHeaderSize, minPageSize] at hmin ⊢
    omega
  unfold PagerSession.txnAppend
  apply meets_bind
  apply meets_fromExcept _ (fun _ _ => trivial)
  rintro ⟨buffer, offset, tail⟩ hencode
  obtain ⟨hvalid, ⟨hcount, hroom⟩, htail, -⟩ := walEncodeTxn_eq_ok hencode
  obtain ⟨hpages, hnodup⟩ := walPagesValid_pages
    (show ((pager.superblock.allocating nextPageId freelistPage).toSuperblock).pageSize =
      pager.superblock.toSuperblock.pageSize from rfl) hsizes hvalid
  have happended : Appended prim pager disk nextPageId pages wal tail
      (opened.editFile wal (.write offset buffer)) := by
    refine ⟨hopens.kind, hopens.named, ?_, hnodup, ?_, hcount, hroom, htail, ?_, ?_⟩
    · rw [editFile_bytes_other _ hne, hopens.database]
    · intro page hpage
      exact ⟨(hpages page hpage).1.nonzero, (hpages page hpage).1.bounded⟩
    · intro position page hpage
      have hframe := readAt_appended (opened.bytes wal) hencode hfileId hsizes hpage
      rw [editFile_bytes]
      exact hframe
    · intro other walOffset bytes hother hend hread
      obtain ⟨rfl, hbytes⟩ := hopens.log other hother
      refine ⟨rfl, ?_⟩
      rw [editFile_bytes]
      apply readAt_before_append hencode hlarge hend
      rw [hbytes]
      exact hread
  apply meets_bind
  apply meets_fileWriteFull _ (fun _ _ => trivial)
  dsimp only
  split
  · apply meets_bind
    apply meets_fileSync _ (fun _ => trivial)
    exact meets_pure (happended.of_bytes rfl (syncFile_bytes _) (syncFile_bytes _))
  · exact meets_pure happended

/-- A file that grows keeps its pages. -/
lemma Covers.resize {entries : List (PageId × Nat)} {content : Bytes} {size : Nat}
    (h : Covers prim committed pager entries content) (hsize : content.length ≤ size) :
    Covers prim committed pager entries (resize content size) := by
  intro pageId view hview hentries
  obtain ⟨bytes, hbytes, hreveals⟩ := h pageId view hview hentries
  refine ⟨bytes, ?_, hreveals⟩
  have hend := end_le_of_pageAt hbytes
  rw [← hbytes, pageAt, pageAt]
  exact readAt_resize (hend.trans hsize) hend

lemma Coherent.meets_txnGrow (h : Coherent prim committed pager disk) {current : FileDisk}
    (hdatabase : current.bytes pager.file = disk.bytes pager.file) :
    (pager.txnGrow nextPageId).Meets faulty (fun _ after => SameBut pager.file current after ∧
        Covers prim committed pager pager.walIndex (after.bytes pager.file) ∧
        pageGeometryValid nextPageId pager.superblock.pageSize = true ∧
        ((disk.bytes pager.file).length ≤ maxOffset →
          canonicalSize nextPageId pager.superblock.pageSize ≤ maxOffset))
      (fun _ _ => True) current := by
  have hstored : Covers prim committed pager pager.walIndex (current.bytes pager.file) := by
    rw [hdatabase]
    exact h.stored
  unfold PagerSession.txnGrow
  split
  · exact meets_fail trivial
  rename_i hguard
  have hgeometry : pageGeometryValid nextPageId pager.superblock.pageSize = true := by
    obtain ⟨hmin, -⟩ := pageSize_bounds h.pageSize
    simp only [Bool.or_eq_true, decide_eq_true_eq, not_or, not_lt, gt_iff_lt] at hguard
    rw [pageGeometryValid_iff]
    refine ⟨⟨hguard.1, ?_⟩, hguard.2⟩
    rintro hzero
    rw [hzero] at hmin
    exact absurd hmin (by decide)
  apply meets_bind
  apply meets_fileSize _ (fun _ => trivial)
  split
  · rename_i hless
    apply meets_fileResizeTo _ (fun _ _ => trivial)
    intro hsize
    refine ⟨SameBut.editFile _ _ _, ?_, hgeometry, fun _ => hsize⟩
    rw [editFile_bytes]
    exact hstored.resize hless.le
  · rename_i hless
    refine meets_pure ⟨SameBut.refl _ _, hstored, hgeometry, fun hsize => ?_⟩
    exact (Nat.not_lt.mp hless).trans (hdatabase ▸ hsize)

lemma encodes_at (h : List.Forall₂ (Encodes prim pager txnId) staged pages)
    (hstored : pages[position]? = some stored) :
    ∃ page ∈ staged, Encodes prim pager txnId page stored := by
  induction h generalizing position with
  | nil => cases hstored
  | cons hpage _ ih =>
    cases position with
    | zero =>
      obtain rfl := Option.some.inj hstored
      exact ⟨_, mem_cons_self, hpage⟩
    | succ position =>
      obtain ⟨page, hmem, hencodes⟩ := ih (by simpa using hstored)
      exact ⟨page, mem_cons_of_mem _ hmem, hencodes⟩

/-- A published transaction is the new image of its pages. -/
lemma Coherent.txnPublished (h : Coherent prim committed pager disk) {generation : Nat}
    {freelistPage : PageId} {appended after : FileDisk} (hlsn : pager.currentLsn + 1 ≤ uint64Max)
    (hnext : pager.superblock.nextPageId ≤ nextPageId)
    (htarget : txn.targetSuperblock = pager.superblock.allocating nextPageId freelistPage)
    (hencodes : List.Forall₂ (Encodes prim pager (pager.currentLsn + 1)) txn.pages pages)
    (happended : Appended prim pager disk nextPageId pages wal tail appended)
    (hsame : SameBut pager.file appended after)
    (hcovers : Covers prim committed pager pager.walIndex (after.bytes pager.file))
    (hgeometry : pageGeometryValid nextPageId pager.superblock.pageSize = true)
    (hgeneration : generation < 2 ^ 64) :
    Coherent prim (publishPages committed (pager.currentLsn + 1) txn.pages)
      (pager.txnPublished prim txn scratch pages wal tail generation) after := by
  have hlsnLt : pager.currentLsn + 1 < 2 ^ 64 := Nat.lt_of_le_of_lt hlsn (by decide)
  have hids := pageIds_of_encodes hencodes
  have hnodup : (txn.pages.map (·.pageId)).Nodup := hids ▸ happended.nodup
  have hmem : ∀ page ∈ txn.pages, publishPages committed (pager.currentLsn + 1) txn.pages
      page.pageId = some (page.view (pager.currentLsn + 1)) :=
    fun page hpage => publishPages_of_mem hnodup hpage
  have hold : ∀ pageId, (∀ page ∈ txn.pages, page.pageId ≠ pageId) →
      publishPages committed (pager.currentLsn + 1) txn.pages pageId = committed pageId :=
    fun pageId hpage => publishPages_of_not_mem hpage
  have hwalNe : wal ≠ pager.file := by
    rintro rfl
    have hkind := happended.kind
    rw [h.database] at hkind
    cases hkind
  have hgrows : pager.walTail ≤ tail := by
    rw [happended.tail_eq, Nat.add_assoc]
    exact Nat.le_add_right _ _
  obtain ⟨hdistinct, hholds⟩ := holds_txnCachePages scratch hlsnLt hencodes h.distinct
  -- the page size, the database and the key are those of the pager, so stored bytes show the same
  obtain ⟨target, staged, allocated, active⟩ := txn
  dsimp only at htarget
  subst htarget
  constructor
  case isOpen => exact h.isOpen
  case database => exact h.database
  case log =>
    intro other hother
    obtain rfl := Option.some.inj hother
    exact happended.kind
  case named =>
    intro other hother
    exact happended.named other (by rw [← hsame.names]; exact hother)
  case pageSize => exact h.pageSize
  case sized => exact (h.sized.allocating nextPageId freelistPage).advanced hlsn hgeneration
  case geometry => exact hgeometry
  case lsn => exact hlsn
  case distinct => exact hdistinct
  case inRange =>
    intro pageId view hview
    by_cases hstaged : ∃ page ∈ staged, page.pageId = pageId
    · obtain ⟨page, hpage, rfl⟩ := hstaged
      have hid : page.pageId ∈ pages.map (·.pageId) := hids ▸ mem_map_of_mem hpage
      obtain ⟨stored, hstored, hsameId⟩ := List.mem_map.mp hid
      rw [← hsameId]
      exact happended.inRange stored hstored
    · rw [hold pageId (fun page hpage heq => hstaged ⟨page, hpage, heq⟩)] at hview
      obtain ⟨hid, hlt⟩ := h.inRange pageId view hview
      exact ⟨hid, hlt.trans_le hnext⟩
  case cached =>
    intro pageId bytes view hcached hview
    rcases hholds pageId bytes hcached with ⟨page, hpage, rfl, hdecode⟩ | ⟨hnone, hcopy⟩
    · rw [hmem page hpage] at hview
      rw [← Option.some.inj hview]
      exact hdecode
    · rw [hold pageId hnone] at hview
      exact h.cached pageId bytes view hcopy hview
  case indexed =>
    intro pageId walOffset hentry
    rcases mem_walIndexPutFrames hentry with ⟨position, hposition, rfl⟩ | ⟨hnot, holdEntry⟩
    · rw [List.getElem?_map, Option.map_eq_some_iff] at hposition
      obtain ⟨stored, hstored, rfl⟩ := hposition
      obtain ⟨page, hpage, hencode⟩ := encodes_at hencodes hstored
      obtain ⟨hend, hread⟩ := happended.frames position stored hstored
      rw [hencode.pageId]
      refine ⟨wal, stored.bytes, _, rfl, hmem page hpage, hend, ?_, hencode.reveals⟩
      rw [hsame.bytes wal hwalNe]
      exact hread
    · obtain ⟨other, bytes, view, hother, hview, hend, hread, hreveals⟩ :=
        h.indexed pageId walOffset holdEntry
      obtain ⟨rfl, hkept⟩ := happended.older other walOffset bytes hother hend hread
      refine ⟨wal, bytes, view, rfl, ?_, hend.trans hgrows, ?_, hreveals⟩
      · rw [hold pageId]
        · exact hview
        · intro page hpage heq
          exact hnot (hids ▸ heq ▸ mem_map_of_mem hpage)
      · rw [hsame.bytes wal hwalNe]
        exact hkept
  case stored =>
    intro pageId view hview hentries
    have hnot : pageId ∉ pages.map (·.pageId) := by
      intro hpage
      obtain ⟨offset, hentry⟩ := exists_mem_walIndexPutFrames (.inl hpage)
      exact hentries offset hentry
    apply hcovers pageId view
    · rw [hold pageId] at hview
      · exact hview
      · intro page hpage heq
        exact hnot (hids ▸ heq ▸ mem_map_of_mem hpage)
    · intro walOffset hmemOld
      obtain ⟨offset, hentry⟩ := exists_mem_walIndexPutFrames (.inr ⟨walOffset, hmemOld⟩)
      exact hentries offset hentry

/-- A transaction as the callers of the pager see it. -/
def PagerTxn.seen (txn : PagerTxn) : Txn where
  targetSuperblock := txn.targetSuperblock.toSuperblock
  pages := txn.pages
  allocatedPages := txn.allocatedPages
  active := txn.active

/-- What the callers see of a published transaction. -/
lemma Appended.txnPublish_seen {generation : Nat} {freelistPage : PageId} {appended : FileDisk}
    (h : Appended prim pager disk nextPageId pages wal tail appended)
    (hnext : pager.superblock.nextPageId ≤ nextPageId)
    (htarget : txn.targetSuperblock = pager.superblock.allocating nextPageId freelistPage)
    (hids : pages.map (·.pageId) = txn.pages.map (·.pageId))
    (hgeometry : pageGeometryValid nextPageId pager.superblock.pageSize = true)
    (hsize : canonicalSize nextPageId pager.superblock.pageSize ≤ maxOffset)
    (hgeneration : generationBump pager.superblock.generation = .ok generation) :
    txnPublish (pager.seen committed) txn.seen =
      .ok ((pager.txnPublished prim txn scratch pages wal tail generation).seen
        (publishPages committed (pager.currentLsn + 1) txn.pages)) := by
  have hcount : pages.length = txn.pages.length := by simpa using congrArg List.length hids
  obtain ⟨target, staged, allocated, active⟩ := txn
  dsimp only at htarget hids hcount
  subst htarget
  have htail := h.tail_eq
  rw [hcount] at htail
  have hpages : ∀ page ∈ staged, page.pageId ≠ 0 ∧ page.pageId.toNat < nextPageId := by
    intro page hpage
    have hid : page.pageId ∈ pages.map (·.pageId) := hids ▸ mem_map_of_mem hpage
    obtain ⟨stored, hstored, hsame⟩ := List.mem_map.mp hid
    rw [← hsame]
    exact h.inRange stored hstored
  have hle : canonicalSize pager.superblock.nextPageId pager.superblock.pageSize ≤
      canonicalSize nextPageId pager.superblock.pageSize :=
    Nat.add_le_add_left (Nat.mul_le_mul_right _ (Nat.sub_le_sub_right hnext 1)) _
  have happend : walAppendTail (pager.seen committed) (PagerTxn.seen
      ⟨pager.superblock.allocating nextPageId freelistPage, staged, allocated, active⟩) =
      .ok tail :=
    (walAppendTail_of_le (hcount ▸ h.count) (htail ▸ h.room) hpages).trans
      (congrArg Except.ok htail.symm)
  have hgrow : commitFileSize (pager.seen committed) (PagerTxn.seen
      ⟨pager.superblock.allocating nextPageId freelistPage, staged, allocated, active⟩) =
      .ok (canonicalSize nextPageId pager.superblock.pageSize) :=
    commitFileSize_of_le hgeometry rfl hle hsize
  have hbump : generationBump (pager.seen committed).superblock.generation = .ok generation :=
    hgeneration
  rw [txnPublish, happend]
  simp only [bind, Except.bind, hgrow, hbump]
  rfl

/-- What is noted of a deferred commit is no part of the invariant, and not seen. -/
lemma Coherent.txnNotePending (h : Coherent prim committed pager disk) {txnId : Nat}
    {noted : PagerSession} (hnoted : pager.txnNotePending txnId = .ok noted) :
    Coherent prim committed noted disk ∧ noted.seen committed = pager.seen committed ∧
      noted.walIndex = pager.walIndex ∧ noted.deferCommit = pager.deferCommit := by
  unfold PagerSession.txnNotePending at hnoted
  split at hnoted
  · split at hnoted
    · cases hnoted
    · obtain rfl := Except.ok.inj hnoted
      exact ⟨{ h with }, rfl, rfl, rfl⟩
  · obtain rfl := Except.ok.inj hnoted
    exact ⟨h, rfl, rfl, rfl⟩

lemma Coherent.meets_txnPublish (h : Coherent prim committed pager disk)
    (hfollows : txn.Follows pager) (hstaged : txn.pages ≠ [])
    (hlsn : pager.currentLsn ≠ uint64Max) :
    (pager.txnPublish prim txn nonces scratch).Meets faulty (fun published after => Coherent prim
        (publishPages committed (pager.currentLsn + 1) txn.pages) published after ∧
        published.walIndex ≠ [] ∧ published.deferCommit = pager.deferCommit ∧
        ((disk.bytes pager.file).length ≤ maxOffset →
          txnPublish (pager.seen committed) txn.seen = .ok (published.seen
            (publishPages committed (pager.currentLsn + 1) txn.pages))))
      (fun _ _ => True) disk := by
  obtain ⟨nextPageId, freelistPage, hnext, htarget⟩ := hfollows
  have hlsn' : pager.currentLsn + 1 ≤ uint64Max := Nat.lt_of_le_of_ne h.lsn hlsn
  have hlsnLt : pager.currentLsn + 1 < 2 ^ 64 := Nat.lt_of_le_of_lt hlsn' (by decide)
  have hfileId : txn.targetSuperblock.fileId = pager.superblock.fileId := by
    rw [htarget]
    rfl
  have hcounter : txn.targetSuperblock.nextPageId = nextPageId := by
    rw [htarget]
    rfl
  unfold PagerSession.txnPublish
  dsimp only
  rw [hfileId, hcounter]
  apply meets_bind
  apply meets_fromExcept _ (fun _ _ => trivial)
  intro pages hpages
  have hencodes := encodes_of_txnEncodePages hlsnLt hpages
  apply meets_bind
  apply h.meets_pagerEnsureWalOpen.mono _ (fun _ _ _ => trivial)
  intro wal opened hopens
  rw [htarget]
  apply meets_bind
  apply (h.meets_txnAppend hopens (sizes_of_encodes hencodes)).mono _ (fun _ _ _ => trivial)
  intro tail appended happended
  apply meets_bind
  apply (h.meets_txnGrow happended.database).mono _ (fun _ _ _ => trivial)
  rintro ⟨⟩ grown ⟨hsame, hcovers, hgeometry, hsize⟩
  apply meets_bind
  apply meets_fromExcept _ (fun _ _ => trivial)
  intro generation hgeneration
  apply meets_fromExcept _ (fun _ _ => trivial)
  intro noted hnoted
  obtain ⟨hcoherent, hseen, hindex, hdefer⟩ := (h.txnPublished hlsn' hnext htarget hencodes
    happended hsame hcovers hgeometry
    (generationBump_lt h.sized.generation hgeneration)).txnNotePending hnoted
  refine ⟨hcoherent, ?_, hdefer, fun hfile => ?_⟩
  · rw [hindex]
    obtain ⟨page, hpage⟩ := exists_mem_of_ne_nil _ hstaged
    have hid : page.pageId ∈ pages.map (·.pageId) :=
      pageIds_of_encodes hencodes ▸ mem_map_of_mem hpage
    obtain ⟨offset, hentry⟩ := exists_mem_walIndexPutFrames (.inl hid)
    exact ne_nil_of_mem hentry
  rw [hseen]
  exact happended.txnPublish_seen hnext htarget (pageIds_of_encodes hencodes) hgeometry
    (hsize hfile) hgeneration

/-- The images behind a commit with the given status. -/
def imagesBehind (committed : Images) (pager : PagerSession) (txn : PagerTxn)
    (status : Except SdbError Unit) : Images :=
  if status.isOk then publishPages committed (pager.currentLsn + 1) txn.pages else committed

/-- A commit that returns success has made its pages the current images; one that
fails asks for recovery or has changed nothing.  With the sync in the commit, the callers
see the commit of what they saw. -/
lemma Coherent.meets_txnCommit (h : Coherent prim committed pager disk)
    (hfollows : txn.Follows pager) : (pager.txnCommit prim txn nonces scratch).Meets faulty
      (fun result after => result.2.needsRecovery = true ∨
        Coherent prim (imagesBehind committed pager txn result.1) result.2 after ∧
          ((disk.bytes pager.file).length ≤ maxOffset → pager.deferCommit = false →
            txnCommit (pager.seen committed) txn.seen =
              (result.1, result.2.seen (imagesBehind committed pager txn result.1))))
      (fun _ _ => False) disk := by
  have hrelease : Coherent prim committed pager.txnRelease disk := { h with }
  unfold PagerSession.txnCommit
  split
  · rename_i hactive
    exact meets_pure (.inr ⟨h, fun _ _ => if_pos hactive⟩)
  rename_i hactive
  split
  · rename_i hpages
    have hseen : txnCommit (pager.seen committed) txn.seen = (.error .invalidArgument,
        (if txn.allocatedPages ≠ [] then pager.txnRelease else pager).seen committed) := by
      refine (if_neg hactive).trans ((if_pos hpages).trans ?_)
      exact congrArg (Prod.mk _) (apply_ite (fun pager : PagerSession => pager.seen committed)
        (txn.allocatedPages ≠ []) pager.txnRelease pager).symm
    refine meets_pure (.inr ⟨?_, fun _ _ => hseen⟩)
    split
    · exact hrelease
    · exact h
  rename_i hpages
  split
  · rename_i hlsn
    exact meets_pure (.inr ⟨hrelease, fun _ _ =>
      (if_neg hactive).trans ((if_neg hpages).trans (if_pos hlsn))⟩)
  rename_i hlsn
  split
  · rename_i hstaged
    exact meets_pure (.inr ⟨hrelease, fun _ _ =>
      (if_neg hactive).trans ((if_neg hpages).trans ((if_neg hlsn).trans (if_pos hstaged)))⟩)
  rename_i hstaged
  apply meets_bind
  apply meets_attempt
  apply (h.meets_txnPublish hfollows hpages hlsn).mono
  · rintro published after ⟨hpublished, hindex, hdefer, hpublish⟩
    have hreleased : Coherent prim (publishPages committed (pager.currentLsn + 1) txn.pages)
        published.txnRelease after := { hpublished with }
    dsimp only
    split
    · rename_i hfull
      apply meets_bind
      apply hreleased.meets_pagerCheckpoint.mono _ (fun _ _ hfalse => hfalse)
      rintro ⟨status, checkpointed⟩ final hfinal
      apply meets_pure
      dsimp only at hfinal ⊢
      split
      · rename_i hstatus
        rcases hfinal with hfenced | ⟨hcoherent, hkept | hseen⟩
        · exact .inl hfenced
        · cases status with
          | error error => cases hstatus
          | ok _ => exact absurd (hkept.2 rfl) hindex
        · simp only [Bool.and_eq_true, decide_eq_true_eq] at hfull
          exact .inr ⟨hcoherent, fun hfile _ => txnCommit_of_txnPublish hactive hpages hlsn hstaged
            (hpublish hfile) ((if_pos hfull.2).mpr hseen)⟩
      · exact .inl rfl
    · rename_i hfull
      refine meets_pure (.inr ⟨hreleased, fun hfile hsync => ?_⟩)
      have hsmall : ¬published.walTail ≥ published.checkpointThreshold := by
        simpa [PagerSession.txnRelease, hdefer.trans hsync] using hfull
      exact txnCommit_of_txnPublish hactive hpages hlsn hstaged (hpublish hfile)
        ((if_neg hsmall).mpr rfl)
  · intro error after _
    exact meets_pure (.inl rfl)

lemma Coherent.meets_pagerCommitDurable (h : Coherent prim committed pager disk) {txnId : Nat} :
    (pager.pagerCommitDurable txnId).Meets faulty (fun result after =>
      Coherent prim committed result.2 after ∧ result.2.seen committed = pager.seen committed)
      (fun _ _ => False) disk := by
  unfold PagerSession.pagerCommitDurable
  split
  · exact meets_pure ⟨h, rfl⟩
  split
  · exact meets_pure ⟨h, rfl⟩
  split
  · exact meets_pure ⟨h, rfl⟩
  apply meets_bind
  have hend : ∀ (synced : PagerSession) after, Coherent prim committed synced after →
      synced.seen committed = pager.seen committed → Program.Meets faulty
        (if synced.durableLsn ≥ txnId then pure (.ok (), synced)
          else pure (.error (synced.commitError.getD .io), synced) :
          FileM (Except SdbError Unit × PagerSession))
        (fun result after => Coherent prim committed result.2 after ∧
          result.2.seen committed = pager.seen committed) (fun _ _ => False) after := by
    intro synced after hsynced hseen
    split
    · exact meets_pure ⟨hsynced, hseen⟩
    · exact meets_pure ⟨hsynced, hseen⟩
  unfold PagerSession.pagerFsync
  split
  · exact meets_pure (hend _ _ h rfl)
  split
  · exact meets_pure (hend _ _ { h with } rfl)
  split
  · exact meets_pure (hend _ _ { h with } rfl)
  rename_i wal hwal
  apply meets_bind
  apply meets_attempt
  apply meets_fileSync
  · have hsame : Coherent prim committed pager (disk.syncFile wal) :=
      { h with
        indexed := by
          intro pageId walOffset hentry
          simp only [syncFile_bytes]
          exact h.indexed pageId walOffset hentry
        stored := by
          rw [syncFile_bytes]
          exact h.stored }
    exact meets_pure (hend _ _ { hsame with } rfl)
  · intro error
    exact meets_pure (hend _ _ { h with } rfl)

end Commit

end ShibaDb
