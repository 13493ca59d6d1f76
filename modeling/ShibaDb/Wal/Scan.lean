/-
What the scan finds in a log the current writer wrote: each complete
transaction is accepted in turn, and what follows it is scanned next.
-/
import ShibaDb.Wal.Recovery

namespace ShibaDb

open LittleEndian List

variable {prim : Primitives} {superblock : Superblock} {dataKey : Option Bytes} {txnId : Nat}

/-- A page image recovery takes for transaction `txnId`. -/
structure WalPage.Valid (prim : Primitives) (superblock : Superblock) (dataKey : Option Bytes)
    (txnId nextPageId : Nat) (page : WalPage) : Prop where
  nonzero : page.pageId ≠ 0
  bounded : page.pageId.toNat < nextPageId
  size : page.bytes.length = superblock.pageSize
  decodes : ∃ view, pageDecode prim superblock.pageSize page.pageId page.bytes = .ok view ∧
    view.pageLsn = txnId ∧ imageAuthentic prim superblock dataKey page.pageId view = true

/-- A page the writer encodes for a plaintext database is one recovery takes. -/
lemma WalPage.valid_of_pageEncode {type : ImageType} {pageId : PageId} {nextPageId : Nat}
    {payload bytes : Bytes} (hlsn : txnId < 2 ^ 64) (hbound : pageId.toNat < nextPageId)
    (h : pageEncode prim superblock.pageSize type pageId txnId payload = .ok bytes) :
    WalPage.Valid prim superblock none txnId nextPageId ⟨pageId, bytes⟩ := by
  obtain ⟨hlength, hdecode⟩ := pageDecode_of_pageEncode hlsn h
  exact ⟨(pageEncode_eq_ok h).1, hbound, hlength, _, hdecode, rfl, rfl⟩

/-- An envelope the writer encodes for an encrypted database is one recovery takes. -/
lemma WalPage.valid_of_encryptedPageEncode {key nonce : Bytes} {type : PageType} {pageId : PageId}
    {nextPageId : Nat} {plaintext bytes : Bytes} (hnonce : nonce.length = 24)
    (hlsn : txnId < 2 ^ 64) (hbound : pageId.toNat < nextPageId)
    (hsize : plaintext.length ≤ superblock.pageSize)
    (h : encryptedPageEncode prim superblock.fileId key nonce superblock.pageSize type pageId txnId
      plaintext = .ok bytes) :
    WalPage.Valid prim superblock (some key) txnId nextPageId ⟨pageId, bytes⟩ := by
  obtain ⟨hlength, view, hdecode, htype, hview, hopen⟩ := encryptedPageEncode_eq_ok hnonce hlsn h
  have hnonzero : pageId ≠ 0 := by
    rintro rfl
    simp [encryptedPageEncode] at h
  refine ⟨hnonzero, hbound, hlength, view, hdecode, hview, ?_⟩
  simp [imageAuthentic, htype, hopen _ hsize, Except.toOption]

/-- A transaction recovery accepts when it expects `expected` and has pages below
`targetNext`. -/
structure WalTxn.Fits (prim : Primitives) (superblock : Superblock) (dataKey : Option Bytes)
    (expected targetNext : Nat) (txn : WalTxn) : Prop where
  txnId : txn.txnId = expected
  positive : 0 < txn.txnId
  txnId_lt : txn.txnId < 2 ^ 64
  nonempty : txn.pages ≠ []
  count : txn.pages.length ≤ walMaxRecords
  nextPageId : targetNext ≤ txn.nextPageId
  nextPageId_lt : txn.nextPageId < 2 ^ 64
  freelist : txn.freelistPage = 0 ∨ txn.freelistPage.toNat < txn.nextPageId
  pages : ∀ page ∈ txn.pages,
    page.Valid prim superblock dataKey txn.txnId txn.nextPageId
  distinct : (txn.pages.map (·.pageId)).Nodup

/-- Transactions that continue a log one after the other. -/
inductive Continues (prim : Primitives) (superblock : Superblock) (dataKey : Option Bytes) :
    (expected targetNext : Nat) → List WalTxn → Prop
  | nil {expected targetNext : Nat} : Continues prim superblock dataKey expected targetNext []
  | cons {expected targetNext : Nat} {txn : WalTxn} {txns : List WalTxn}
      (fits : txn.Fits prim superblock dataKey expected targetNext)
      (rest : Continues prim superblock dataKey ((txn.txnId + 1) % 2 ^ 64) txn.nextPageId txns) :
      Continues prim superblock dataKey expected targetNext (txn :: txns)

/-- The pages the writer checked are ones recovery takes. -/
lemma walPagesValid_pages {base target : Superblock} {pages : List WalPage} {seen : List PageId}
    (hpageSize : target.pageSize = base.pageSize)
    (hsizes : ∀ page ∈ pages, page.bytes.length = base.pageSize)
    (h : walPagesValid prim target txnId seen pages = true) :
    (∀ page ∈ pages, page.Valid prim base none txnId target.nextPageId ∧ page.pageId ∉ seen) ∧
      (pages.map (·.pageId)).Nodup := by
  induction pages generalizing seen with
  | nil => simp
  | cons page pages ih =>
    simp only [walPagesValid, Bool.and_eq_true, decide_eq_true_eq] at h
    obtain ⟨⟨⟨⟨hnonzero, hbounded⟩, hunseen⟩, hdecode⟩, hrest⟩ := h
    obtain ⟨hpages, hnodup⟩ :=
      ih (fun other hother => hsizes other (mem_cons_of_mem _ hother)) hrest
    have hunseen' : page.pageId ∉ seen := by simpa using hunseen
    have hvalid : page.Valid prim base none txnId target.nextPageId := by
      split at hdecode
      · rename_i view hview
        rw [hpageSize] at hview
        exact ⟨hnonzero, hbounded, hsizes page mem_cons_self, view, hview,
          by simpa using hdecode, rfl⟩
      · cases hdecode
    constructor
    · intro other hother
      rcases List.mem_cons.mp hother with rfl | hother
      · exact ⟨hvalid, hunseen'⟩
      · obtain ⟨hother, hnew⟩ := hpages other hother
        exact ⟨hother, fun hmem => hnew (mem_cons_of_mem _ hmem)⟩
    · rw [map_cons, nodup_cons]
      refine ⟨?_, hnodup⟩
      intro hmem
      obtain ⟨other, hother, hid⟩ := List.mem_map.mp hmem
      exact (hpages other hother).2 (hid ▸ mem_cons_self)

/-- The bytes of the transactions of a log. -/
def walTxnsBytes (prim : Primitives) (fileId : Bytes) (txns : List WalTxn) : Bytes :=
  txns.flatMap (·.bytes prim fileId)

section Frames

variable {nextPageId : Nat} {page : WalPage} (txnId count index : Nat)
  (hid : superblock.fileId.length = 16) (hpage : page.bytes.length = superblock.pageSize)

include hid hpage

lemma walFrame_length : (walFrame superblock.fileId txnId count index page).length =
    FrameFormat.v5.frameSize superblock.pageSize := by
  simp only [walFrame, length_append, write_length, hid, hpage, FrameFormat.frameSize,
    FrameFormat.headerSize]
  omega

lemma walFrame_fields (after : Bytes) :
    let bytes := walFrame superblock.fileId txnId count index page ++ after
    field 0 8 bytes = write 8 page.pageId.toNat ∧ field 8 8 bytes = write 8 txnId ∧
      field 16 4 bytes = write 4 index ∧ field 20 4 bytes = write 4 count ∧
      field 24 16 bytes = superblock.fileId ∧
      field 40 superblock.pageSize bytes = page.bytes := by
  simp [walFrame, field_skip, field_head, append_assoc, hid, hpage]

lemma framePage_walFrame (after : Bytes) :
    framePage .v5 superblock.pageSize
      (walFrame superblock.fileId txnId count index page ++ after) = page := by
  obtain ⟨hpageId, -, -, -, -, hbytes⟩ := walFrame_fields txnId count index hid hpage after
  simp only [framePage, FrameFormat.headerSize, read_field_write hpageId page.pageId.toNat_lt,
    hbytes, UInt64.ofNat_toNat]

lemma drop_walFrame (after : Bytes) :
    (walFrame superblock.fileId txnId count index page ++ after).drop
      (FrameFormat.v5.frameSize superblock.pageSize) = after :=
  drop_left' (walFrame_length txnId count index hid hpage)

omit hpage

lemma framePages_walFrames {pages : List WalPage}
    (hpages : ∀ page ∈ pages, page.bytes.length = superblock.pageSize) (after : Bytes) :
    framePages .v5 superblock.pageSize pages.length
      (walFrames superblock.fileId txnId count index pages ++ after) = pages := by
  induction pages generalizing index with
  | nil => rfl
  | cons page pages ih =>
    have hpage := hpages page mem_cons_self
    have hrest : ∀ other ∈ pages, other.bytes.length = superblock.pageSize :=
      fun other hother => hpages other (mem_cons_of_mem _ hother)
    rw [walFrames, append_assoc, length_cons, framePages,
      framePage_walFrame txnId count index hid hpage,
      drop_walFrame txnId count index hid hpage, ih (index + 1) hrest]

variable {txnId count index} {seen : List PageId}

lemma walFrameValid_walFrame (htxn : txnId < 2 ^ 64) (hindex : index < 2 ^ 32)
    (hcount : count < 2 ^ 32)
    (hpage : page.Valid prim superblock dataKey txnId nextPageId) (hseen : page.pageId ∉ seen)
    (after : Bytes) : walFrameValid prim superblock dataKey .v5 txnId nextPageId count index seen
      (walFrame superblock.fileId txnId count index page ++ after) = true := by
  obtain ⟨-, htxnField, hindexField, hcountField, hidField, -⟩ :=
    walFrame_fields txnId count index hid hpage.size after
  obtain ⟨view, hdecode, hlsn, hauthentic⟩ := hpage.decodes
  simp only [walFrameValid, framePage_walFrame txnId count index hid hpage.size,
    read_field_write htxnField htxn, read_field_write hindexField hindex,
    read_field_write hcountField hcount, hidField, hdecode, hlsn, hauthentic]
  simp [hpage.nonzero, hpage.bounded, hseen]

lemma walValidateFrames_walFrames {pages : List WalPage} (htxn : txnId < 2 ^ 64)
    (hcount : count < 2 ^ 32) (hindex : index + pages.length ≤ count)
    (hpages : ∀ page ∈ pages, page.Valid prim superblock dataKey txnId nextPageId)
    (hdistinct : (pages.map (·.pageId)).Nodup) (hseen : ∀ page ∈ pages, page.pageId ∉ seen)
    (after : Bytes) :
    walValidateFrames prim superblock dataKey .v5 txnId nextPageId count pages.length index seen
      (walFrames superblock.fileId txnId count index pages ++ after) = true := by
  -- the frames not yet checked; `seen` holds the pages of those before `index`
  induction pages generalizing index seen with
  | nil => rfl
  | cons page pages ih =>
    have hpage := hpages page mem_cons_self
    rw [length_cons] at hindex
    rw [map_cons, nodup_cons] at hdistinct
    rw [walFrames, append_assoc, length_cons, walValidateFrames,
      walFrameValid_walFrame hid htxn (by omega) hcount hpage
        (hseen page mem_cons_self), Bool.true_and,
      framePage_walFrame txnId count index hid hpage.size,
      drop_walFrame txnId count index hid hpage.size]
    apply ih
    · omega
    · exact fun other hother => hpages other (mem_cons_of_mem _ hother)
    · exact hdistinct.2
    · intro other hother hmem
      rcases List.mem_cons.mp hmem with heq | hmem
      · exact hdistinct.1 (heq ▸ mem_map_of_mem hother)
      · exact hseen other (mem_cons_of_mem _ hother) hmem

end Frames

lemma freelistHeadValid_iff (rec : WalCommitRec) : freelistHeadValid rec = true ↔
    rec.freelistPage = 0 ∨ rec.freelistPage.toNat < rec.nextPageId := by
  simp [freelistHeadValid]

section Step

variable {expected targetNext : Nat} {txn : WalTxn} (hid : superblock.fileId.length = 16)
  (hfits : txn.Fits prim superblock dataKey expected targetNext)

lemma walStep_short {bytes : Bytes}
    (h : bytes.length < FrameFormat.v5.frameSize superblock.pageSize + walCommitSize) :
    walStep prim superblock dataKey .v5 expected targetNext bytes = .stop := by
  simp only [walStep, walSelfDescribingStep, if_pos h]

include hid in
lemma WalTxn.frames_length
    (hpages : ∀ page ∈ txn.pages, page.bytes.length = superblock.pageSize) :
    (txn.frames superblock.fileId).length =
      txn.pages.length * FrameFormat.v5.frameSize superblock.pageSize := by
  rw [WalTxn.frames, walFrames_length hid hpages, Nat.mul_comm]

include hfits

lemma WalTxn.Fits.page_size :
    ∀ page ∈ txn.pages, page.bytes.length = superblock.pageSize :=
  fun page hpage => (hfits.pages page hpage).size

lemma WalTxn.Fits.count_lt : txn.pages.length < 2 ^ 32 := by
  have := hfits.count
  simp only [walMaxRecords] at this
  omega

lemma WalTxn.Fits.sized : txn.commitRec.Sized :=
  ⟨hfits.txnId_lt, hfits.count_lt, hfits.nextPageId_lt⟩

include hid

/-- The first frame of a transaction says how many there are. -/
lemma WalTxn.Fits.count_field (after : Bytes) :
    read (field 20 4 (txn.frames superblock.fileId ++ after)) = txn.pages.length ∧
      read (field 16 4 (txn.frames superblock.fileId ++ after)) = 0 ∧
      field 24 16 (txn.frames superblock.fileId ++ after) = superblock.fileId := by
  cases hpages : txn.pages with
  | nil => exact absurd hpages hfits.nonempty
  | cons page pages =>
    have hpage := hfits.page_size page (hpages ▸ mem_cons_self)
    have hcount := hfits.count_lt
    rw [hpages] at hcount
    obtain ⟨-, -, hindexField, hcountField, hidField, -⟩ := walFrame_fields txn.txnId
      (page :: pages).length 0 hid hpage (walFrames superblock.fileId txn.txnId
        (page :: pages).length (0 + 1) pages ++ after)
    rw [WalTxn.frames, hpages, walFrames, append_assoc]
    exact ⟨read_field_write hcountField hcount, read_field_write hindexField (by decide), hidField⟩

lemma WalTxn.bytes_length : (txn.bytes prim superblock.fileId).length =
    txn.pages.length * FrameFormat.v5.frameSize superblock.pageSize + walCommitSize := by
  rw [WalTxn.bytes, length_append, WalTxn.frames_length hid hfits.page_size,
    walEncodeCommitRec_length]

/-- What a reader finds where a transaction begins. -/
structure WalTxn.Layout (prim : Primitives) (superblock : Superblock) (txn : WalTxn)
    (bytes rest : Bytes) : Prop where
  long : FrameFormat.v5.frameSize superblock.pageSize + walCommitSize ≤ bytes.length
  room : txn.pages.length ≤
    (bytes.length - walCommitSize) / FrameFormat.v5.frameSize superblock.pageSize
  count : read (field 20 4 bytes) = txn.pages.length
  index : read (field 16 4 bytes) = 0
  fileId : field 24 16 bytes = superblock.fileId
  frames : bytes.take (txn.pages.length * FrameFormat.v5.frameSize superblock.pageSize) =
    txn.frames superblock.fileId
  commit : walDecodeCommitRec prim ((bytes.drop (txn.pages.length *
      FrameFormat.v5.frameSize superblock.pageSize)).take walCommitSize) =
    .ok (txn.commitRec, (prim.crc32 (txn.frames superblock.fileId)).toNat)
  rest : (bytes.drop (txn.pages.length *
    FrameFormat.v5.frameSize superblock.pageSize)).drop walCommitSize = rest

lemma WalTxn.Fits.layout (rest : Bytes) :
    txn.Layout prim superblock (txn.bytes prim superblock.fileId ++ rest) rest := by
  have hframes := WalTxn.frames_length hid hfits.page_size
  have hpositive : 0 < txn.pages.length := List.length_pos_iff.mpr hfits.nonempty
  have hframeSize : 0 < FrameFormat.v5.frameSize superblock.pageSize := by
    simp only [FrameFormat.frameSize, FrameFormat.headerSize]
    omega
  have hle := Nat.le_mul_of_pos_left (FrameFormat.v5.frameSize superblock.pageSize) hpositive
  have hlength : (txn.bytes prim superblock.fileId ++ rest).length = txn.pages.length *
      FrameFormat.v5.frameSize superblock.pageSize + walCommitSize + rest.length := by
    rw [length_append, WalTxn.bytes_length hid hfits]
  have hdrop : (txn.bytes prim superblock.fileId ++ rest).drop (txn.pages.length *
      FrameFormat.v5.frameSize superblock.pageSize) = walEncodeCommitRec prim txn.commitRec
        (prim.crc32 (txn.frames superblock.fileId)).toNat ++ rest := by
    rw [WalTxn.bytes, append_assoc]
    exact drop_left' hframes
  obtain ⟨hcount, hindex, hfileId⟩ := hfits.count_field hid (walEncodeCommitRec prim
    txn.commitRec (prim.crc32 (txn.frames superblock.fileId)).toNat ++ rest)
  rw [← append_assoc, ← WalTxn.bytes] at hcount hindex hfileId
  constructor
  · rw [hlength]
    omega
  · rw [Nat.le_div_iff_mul_le hframeSize, hlength]
    omega
  · exact hcount
  · exact hindex
  · exact hfileId
  · rw [WalTxn.bytes, append_assoc]
    exact take_left' hframes
  · rw [hdrop, take_left' (walEncodeCommitRec_length ..),
      ← walDecodeCommitRec_encode hfits.sized (UInt32.toNat_lt _) [], append_nil]
  · rw [hdrop]
    exact drop_left' (walEncodeCommitRec_length ..)

omit hid in
lemma WalTxn.Fits.count_guard {bytes rest : Bytes}
    (hlayout : txn.Layout prim superblock bytes rest) :
    (decide (txn.pages.length = 0) || decide (txn.pages.length > walMaxRecords) ||
      decide (txn.pages.length > (bytes.length - walCommitSize) /
        FrameFormat.v5.frameSize superblock.pageSize)) = false := by
  have hpositive := List.length_pos_iff.mpr hfits.nonempty
  simp only [Bool.or_eq_false_iff, decide_eq_false_iff_not, gt_iff_lt, not_lt]
  exact ⟨⟨hpositive.ne', hfits.count⟩, hlayout.room⟩

/-- A round of the scan at a complete transaction accepts it if it is the one
the scan expects. -/
lemma walStep_txn_bytes (rest : Bytes) (number low : Nat) :
    walStep prim superblock dataKey .v5 number low (txn.bytes prim superblock.fileId ++ rest) =
      if txn.txnId ≠ number ∨ txn.nextPageId < low then .stop else .accept txn rest := by
  have hlayout := hfits.layout hid rest
  have hvalid : walValidateFrames prim superblock dataKey .v5 txn.txnId txn.nextPageId
      txn.pages.length txn.pages.length 0 [] (txn.bytes prim superblock.fileId ++ rest) = true := by
    rw [WalTxn.bytes, append_assoc]
    exact walValidateFrames_walFrames hid hfits.txnId_lt hfits.count_lt (by omega) hfits.pages
      hfits.distinct (by simp) _
  have hpages : framePages .v5 superblock.pageSize txn.pages.length
      (txn.bytes prim superblock.fileId ++ rest) = txn.pages := by
    rw [WalTxn.bytes, append_assoc]
    exact framePages_walFrames txn.txnId txn.pages.length 0 hid hfits.page_size _
  have hfreelist := (freelistHeadValid_iff txn.commitRec).mpr hfits.freelist
  simp only [walStep, walSelfDescribingStep, if_neg (Nat.not_lt.mpr hlayout.long), hlayout.count,
    hfits.count_guard hlayout, hlayout.commit, hlayout.frames, hlayout.rest, Bool.false_eq_true,
    if_false, hfreelist, Bool.or_eq_true, decide_eq_true_eq, Bool.not_true, or_false]
  simp [acceptFrames, hvalid, hpages]

lemma walStep_txn (rest : Bytes) : walStep prim superblock dataKey .v5 expected targetNext
      (txn.bytes prim superblock.fileId ++ rest) = .accept txn rest := by
  rw [walStep_txn_bytes hid hfits, if_neg]
  rintro (hne | hlt)
  · exact hne hfits.txnId
  · exact absurd hfits.nextPageId (Nat.not_le.mpr hlt)

/-- A transaction cut short stops the scan. -/
lemma walStep_txn_cut {number low cut : Nat}
    (hcut : cut < (txn.bytes prim superblock.fileId).length) :
    walStep prim superblock dataKey .v5 number low
      ((txn.bytes prim superblock.fileId).take cut) = .stop := by
  rw [WalTxn.bytes_length hid hfits] at hcut
  generalize hframeSize : FrameFormat.v5.frameSize superblock.pageSize = frameSize at hcut
  have hcutLength : ((txn.bytes prim superblock.fileId).take cut).length = cut := by
    rw [length_take, WalTxn.bytes_length hid hfits, hframeSize]
    omega
  by_cases hshort : cut < frameSize + walCommitSize
  · exact walStep_short (by rw [hcutLength, hframeSize]; exact hshort)
  · -- the first frame is there, and it declares more frames than are left
    have hheader : 40 ≤ frameSize := by
      rw [← hframeSize, FrameFormat.frameSize, FrameFormat.headerSize]
      omega
    have hcount : read (field 20 4 ((txn.bytes prim superblock.fileId).take cut)) =
        txn.pages.length := by
      rw [← (hfits.count_field hid _).1, ← WalTxn.bytes,
        ← field_left ((txn.bytes prim superblock.fileId).drop cut)
          (by rw [hcutLength]; omega), take_append_drop]
    have hroom : (cut - walCommitSize) / frameSize < txn.pages.length := by
      rw [Nat.div_lt_iff_lt_mul (by omega)]
      omega
    simp only [walStep, walSelfDescribingStep, hcutLength, hframeSize, hcount, if_neg hshort,
      gt_iff_lt, hroom, decide_true, Bool.or_true, if_true]

end Step

section Scan

variable {expected targetNext : Nat} {txns : List WalTxn}

/-- What the scan expects behind `txns`. -/
def scanEnd : (expected targetNext : Nat) → List WalTxn → Nat × Nat
  | expected, targetNext, [] => (expected, targetNext)
  | _, _, txn :: txns => scanEnd ((txn.txnId + 1) % 2 ^ 64) txn.nextPageId txns

/-- The scan accepts the transactions of a log up to where it stops. -/
lemma walScan_txns (hid : superblock.fileId.length = 16)
    (hcontinues : Continues prim superblock dataKey expected targetNext txns) {rest : Bytes}
    (hstop : walStep prim superblock dataKey .v5 (scanEnd expected targetNext txns).1
      (scanEnd expected targetNext txns).2 rest = .stop) {fuel : Nat} (hfuel : txns.length ≤ fuel) :
    walScan prim superblock dataKey .v5 fuel expected targetNext
      (walTxnsBytes prim superblock.fileId txns ++ rest) = (txns, false) := by
  induction hcontinues generalizing fuel with
  | nil =>
    cases fuel with
    | zero => rfl
    | succ fuel =>
      simp only [scanEnd] at hstop
      simp only [walTxnsBytes, flatMap_nil, nil_append, walScan, hstop]
  | cons fits _ ih =>
    cases fuel with
    | zero => simp at hfuel
    | succ fuel =>
      rw [walTxnsBytes, flatMap_cons, append_assoc, walScan, walStep_txn hid fits]
      rw [← walTxnsBytes]
      simp only [ih hstop (by simpa using hfuel)]

/-- The transactions of a log have consecutive numbers. -/
lemma scanEnd_txnId (h : Continues prim superblock dataKey expected targetNext txns)
    (hexpected : expected < 2 ^ 64) :
    (scanEnd expected targetNext txns).1 = (expected + txns.length) % 2 ^ 64 := by
  induction h with
  | nil => exact (Nat.mod_eq_of_lt hexpected).symm
  | @cons expected targetNext txn txns fits _ ih =>
    rw [scanEnd, ih (Nat.mod_lt _ (by decide)), Nat.mod_add_mod, fits.txnId, List.length_cons]
    congr 1
    omega

/-- Where no commit record has the number it expects, the scan stops. -/
lemma walStep_unrecorded {bytes : Bytes}
    (h : ∀ place rec runningCrc, place <:+ bytes →
      walDecodeCommitRec prim (place.take walCommitSize) = .ok (rec, runningCrc) →
      rec.txnId ≠ expected) :
    walStep prim superblock dataKey .v5 expected targetNext bytes = .stop := by
  simp only [walStep, walSelfDescribingStep]
  split
  · rfl
  split
  · rfl
  split
  · rfl
  rename_i rec runningCrc hdecode
  rw [if_pos]
  simp [h _ rec runningCrc (List.drop_suffix ..) hdecode]

lemma Continues.front {front : List WalTxn} (hfront : front <+: txns)
    (h : Continues prim superblock dataKey expected targetNext txns) :
    Continues prim superblock dataKey expected targetNext front := by
  induction h generalizing front with
  | nil =>
    rw [List.prefix_nil.mp hfront]
    exact .nil
  | cons fits _ ih =>
    cases front with
    | nil => exact .nil
    | cons first front =>
      obtain ⟨rfl, hrest⟩ := List.cons_prefix_cons.mp hfront
      exact .cons fits (ih hrest)

lemma length_le_walTxnsBytes (prim : Primitives) (fileId : Bytes) (txns : List WalTxn) :
    txns.length ≤ (walTxnsBytes prim fileId txns).length := by
  induction txns with
  | nil => simp
  | cons txn txns ih =>
    rw [walTxnsBytes, flatMap_cons, ← walTxnsBytes, length_append, WalTxn.bytes,
      length_append, walEncodeCommitRec_length, length_cons, walCommitSize]
    omega

end Scan

section Header

variable {target : Superblock} {txnId pageCount : Nat} (hid : target.fileId.length = 16)

include hid

lemma zeroRange_walHeaderImage (checksum : Nat) :
    zeroRange (walHeaderImage target txnId pageCount checksum) walHeaderChecksumOffset 4 =
      walHeaderImage target txnId pageCount 0 := by
  have hzero : write 4 0 = List.replicate 4 0 := by decide
  simp only [zeroRange, walHeaderImage, walHeaderChecksumOffset, hzero]
  simp [take_skip, drop_skip, hid]

lemma walHeader_fields (prim : Primitives) (txnId pageCount : Nat) (after : Bytes) :
    let bytes := walHeader prim target txnId pageCount ++ after
    field 0 4 bytes = walMagic ∧ field 4 2 bytes = write 2 5 ∧
      field 6 2 bytes = write 2 walHeaderSize ∧ field 16 4 bytes = write 4 target.pageSize ∧
      field 24 16 bytes = target.fileId ∧
      field 60 4 bytes = write 4 (crc32ZeroedRange prim (walHeaderImage target txnId pageCount 0)
        walHeaderChecksumOffset 4) := by
  simp [walHeader, walHeaderImage, field_skip, field_head, append_assoc, hid]

lemma take_walHeader (after : Bytes) :
    (walHeader prim target txnId pageCount ++ after).take walHeaderSize =
      walHeader prim target txnId pageCount :=
  take_left' (walHeader_length hid)

lemma drop_walHeader (after : Bytes) :
    (walHeader prim target txnId pageCount ++ after).drop walHeaderSize = after :=
  drop_left' (walHeader_length hid)

lemma walHeaderCrcOk_walHeader (after : Bytes) :
    walHeaderCrcOk prim (walHeader prim target txnId pageCount ++ after) = true := by
  obtain ⟨-, -, -, -, -, hcrc⟩ := walHeader_fields hid prim txnId pageCount after
  have hstored : crc32ZeroedRange prim (walHeader prim target txnId pageCount)
      walHeaderChecksumOffset 4 = crc32ZeroedRange prim
        (walHeaderImage target txnId pageCount 0) walHeaderChecksumOffset 4 := by
    rw [walHeader, crc32ZeroedRange, crc32ZeroedRange, zeroRange_walHeaderImage hid,
      zeroRange_walHeaderImage hid]
  simp only [walHeaderCrcOk, take_walHeader hid, hstored, decide_eq_true_eq]
  exact (read_field_write hcrc (UInt32.toNat_lt _)).symm

lemma walHeaderPresent_walHeader (after : Bytes) :
    walHeaderPresent (walHeader prim target txnId pageCount ++ after) = true := by
  rw [walHeaderPresent, take_walHeader hid, walHeader, walHeaderImage, any_append,
    Bool.or_eq_true]
  exact .inl (by decide)

/-- The header of the writer selects the frames of the writer. -/
lemma walClassify_walHeader (hsize : target.pageSize = superblock.pageSize)
    (hsizeLt : superblock.pageSize < 2 ^ 32) (hsame : target.fileId = superblock.fileId)
    (after : Bytes) :
    walClassify prim superblock dataKey (walHeader prim target txnId pageCount ++ after) =
      .ok .v5 := by
  obtain ⟨hmagic, hversion, hheader, hpageSize, hfileId, -⟩ :=
    walHeader_fields hid prim txnId pageCount after
  have hmatches : walHeaderMatches superblock
      (walHeader prim target txnId pageCount ++ after) = true := by
    simp only [walHeaderMatches, hmagic, read_field_write hversion (by decide),
      read_field_write hheader (by decide), read_field_write hpageSize (hsize ▸ hsizeLt), hfileId]
    simp [hsize, hsame]
  simp only [walClassify, walHeaderPresent_walHeader hid, walHeaderCrcOk_walHeader hid, hmatches,
    read_field_write hversion (by decide)]
  simp

/-- Recovery reads a log of this database to the end of its transactions. -/
lemma walRecoverTxns_walHeader (hsize : target.pageSize = superblock.pageSize)
    (hsame : target.fileId = superblock.fileId) (hvalid : pageSizeValid superblock.pageSize = true)
    {txns : List WalTxn}
    (hcontinues : Continues prim superblock dataKey ((superblock.checkpointLsn + 1) % 2 ^ 64)
      superblock.nextPageId txns) {rest : Bytes}
    (hstop : walStep prim superblock dataKey .v5
      (scanEnd ((superblock.checkpointLsn + 1) % 2 ^ 64) superblock.nextPageId txns).1
      (scanEnd ((superblock.checkpointLsn + 1) % 2 ^ 64) superblock.nextPageId txns).2 rest =
        .stop) :
    walRecoverTxns prim superblock dataKey (walHeader prim target txnId pageCount ++
      (walTxnsBytes prim superblock.fileId txns ++ rest)) = .ok (txns, false) := by
  have hsmall : superblock.pageSize < 2 ^ 32 := (pageSize_bounds hvalid).2.trans_lt (by decide)
  rw [walRecoverTxns, walClassify_walHeader hid hsize hsmall hsame, drop_walHeader hid]
  refine congrArg Except.ok (walScan_txns (hsame ▸ hid) hcontinues hstop ?_)
  have hcount := length_le_walTxnsBytes prim superblock.fileId txns
  simp only [length_append]
  omega

end Header

section Damage

variable {header : Bytes} {txn : WalTxn} {base low : Nat}

lemma walFirstTxn_txn (hid : superblock.fileId.length = 16)
    (hheader : header.length = walHeaderSize)
    (hfits : txn.Fits prim superblock dataKey base low) (rest : Bytes) :
    walFirstTxnIsSelfDescribing prim superblock .v5
      (header ++ (txn.bytes prim superblock.fileId ++ rest)) = true := by
  have hlayout := hfits.layout hid rest
  have hbody : (header ++ (txn.bytes prim superblock.fileId ++ rest)).drop walHeaderSize =
      txn.bytes prim superblock.fileId ++ rest := drop_left' hheader
  have hlong : walHeaderSize < (header ++ (txn.bytes prim superblock.fileId ++ rest)).length := by
    have := hlayout.long
    rw [length_append, hheader]
    simp only [walCommitSize] at this
    omega
  have hpositive := List.length_pos_iff.mpr hfits.nonempty
  simp only [walFirstTxnIsSelfDescribing, hbody, hlayout.count, hlayout.index, hlayout.fileId,
    hlayout.commit, hlayout.frames, hlong, hlayout.long, hlayout.room, hfits.count]
  simp [hpositive.ne']

/-- A header that fails its checksum leaves the choice to the first transaction. -/
lemma walClassify_damaged (hid : superblock.fileId.length = 16)
    (hheader : header.length = walHeaderSize) (hpresent : header.any (· ≠ 0) = true)
    (hcrc : walHeaderCrcOk prim header = false)
    (hfits : txn.Fits prim superblock dataKey base low) (rest : Bytes) :
    walClassify prim superblock dataKey
      (header ++ (txn.bytes prim superblock.fileId ++ rest)) = .ok .v5 := by
  have hcrc' : walHeaderCrcOk prim (header ++ (txn.bytes prim superblock.fileId ++ rest)) =
      false := by
    rw [← hcrc, walHeaderCrcOk, walHeaderCrcOk, take_left' hheader,
      field_left _ (by rw [hheader]; decide), take_of_length_le hheader.le]
  have hpresent' : walHeaderPresent (header ++ (txn.bytes prim superblock.fileId ++ rest)) =
      true := by
    rw [walHeaderPresent, take_left' hheader, hpresent]
  simp only [walClassify, hpresent', hcrc', walFirstTxn_txn hid hheader hfits]
  simp

/-- Without a header the log of a plaintext database is refused. -/
lemma walClassify_zero {buffer : Bytes} (hzero : walHeaderPresent buffer = false) :
    walClassify prim superblock none buffer = .error .corrupt := by
  simp [walClassify, hzero]

end Damage

end ShibaDb
