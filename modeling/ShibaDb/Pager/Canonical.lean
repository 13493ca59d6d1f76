/-
The byte strings that are pages and superblock slots: every byte is determined by
the decoded fields, so encoding them again gives back the image.
-/
import ShibaDb.Pager.SuperblockStore

namespace ShibaDb

open LittleEndian List

section Pages

variable {prim : Primitives} {pageSize : Nat} {pageId : PageId} {page : Bytes} {view : ImageView}

lemma PageType.ofCode_eq_some {code : Nat} {type : PageType}
    (h : PageType.ofCode code = some type) : code = type.code := by
  unfold PageType.ofCode at h
  split at h
  · rename_i hcode
    obtain rfl := Option.some.inj h
    exact hcode
  split at h
  · rename_i hcode
    obtain rfl := Option.some.inj h
    exact hcode
  · cases h

lemma ImageType.ofCode_eq_some {code : Nat} {type : ImageType}
    (h : ImageType.ofCode code = some type) : code = type.code := by
  unfold ImageType.ofCode at h
  split at h
  · rename_i hcode
    obtain rfl := Option.some.inj h
    exact hcode
  · obtain ⟨plain, hplain, rfl⟩ := Option.map_eq_some_iff.mp h
    exact PageType.ofCode_eq_some hplain

lemma eq_replicate_zero {bytes : Bytes} (h : bytes.any (· ≠ 0) = false) :
    bytes = List.replicate bytes.length 0 := by
  apply eq_replicate_of_mem
  intro byte hmem
  have hzero := List.any_eq_false.mp h byte hmem
  simpa using hzero

/-- A page that decodes is the image of what it decodes to. -/
lemma pageImage_of_decode (hlength : page.length = pageSize)
    (h : pageDecode prim pageSize pageId page = .ok view) :
    pageId ≠ 0 ∧ pageSizeValid pageSize = true ∧ pageHeaderSize + view.payload.length ≤ pageSize ∧
      page = pageImage pageSize view.type pageId view.pageLsn view.payload
        (crc32ZeroedRange prim page pageChecksumOffset 4) := by
  simp only [pageDecode, Fallible.guard_eq_ok] at h
  obtain ⟨hid, hvalid, hmagic, h⟩ := h
  split at h
  · cases h
  rename_i type htype
  simp only [Fallible.guard_eq_ok, Bool.or_eq_true, decide_eq_true_eq, not_or, not_not,
    gt_iff_lt, not_lt, ne_eq] at h hmagic
  obtain ⟨⟨⟨hflags, hpage⟩, hsize⟩, hchecksum, htail, h⟩ := h
  obtain rfl := Except.ok.inj h
  have hvalid' : pageSizeValid pageSize = true := by simpa using hvalid
  have hmin : minPageSize ≤ pageSize := (pageSize_bounds hvalid').1
  simp only [minPageSize, pageHeaderSize, pageChecksumOffset] at hmin hsize hchecksum htail ⊢
  generalize hpayloadSize : read (field 24 4 page) = payloadSize at hsize htail ⊢
  have hpayload : (field 32 payloadSize page).length = payloadSize := field_length (by omega)
  refine ⟨hid, hvalid', by rw [hpayload]; omega, ?_⟩
  have hzero : write 2 0 = field 6 2 page := by
    rw [← hflags]
    exact write_read_field (by omega)
  have hrest : List.replicate (pageSize - 32 - payloadSize) 0 = page.drop (32 + payloadSize) := by
    have hzeros := eq_replicate_zero (Bool.eq_false_iff.mpr htail)
    rw [length_drop, hlength, ← Nat.sub_sub] at hzeros
    exact hzeros.symm
  simp only [pageImage, pageHeaderSize]
  rw [hpayload, hrest, ← hchecksum, ← hpayloadSize, ← hpage, hzero, ← hmagic,
    ← ImageType.ofCode_eq_some htype, write_read_field (by omega), write_read_field (by omega),
    write_read_field (by omega), write_read_field (by omega), write_read_field (by omega),
    field_append_drop, field_append_drop 28 4, field_append_drop 24 4, field_append_drop 16 8,
    field_append_drop 8 8, field_append_drop 6 2, field_append_drop 4 2, field_append_drop 0 4,
    drop_zero]

lemma pageEncode_of_fits {type : ImageType} {lsn : Nat} {payload : Bytes} (hid : pageId ≠ 0)
    (hvalid : pageSizeValid pageSize = true) (hsize : pageHeaderSize + payload.length ≤ pageSize) :
    pageEncode prim pageSize type pageId lsn payload =
      .ok (pageImage pageSize type pageId lsn payload
        (crc32ZeroedRange prim (pageImage pageSize type pageId lsn payload 0)
          pageChecksumOffset 4)) := by
  have hmax : pageSize ≤ maxPageSize := (pageSize_bounds hvalid).2
  rw [pageEncode, if_neg hid, if_neg (by simp [hvalid]), if_neg]
  simp only [Bool.or_eq_true, decide_eq_true_eq, not_or, gt_iff_lt, not_lt, maxPageSize,
    uint32Max] at hmax ⊢
  omega

/-- Encoding what a page decodes to gives the page. -/
lemma pageEncode_of_decode (hlength : page.length = pageSize)
    (h : pageDecode prim pageSize pageId page = .ok view) :
    pageEncode prim pageSize view.type pageId view.pageLsn view.payload = .ok page := by
  obtain ⟨hid, hvalid, hsize, himage⟩ := pageImage_of_decode hlength h
  have hcrc : crc32ZeroedRange prim
      (pageImage pageSize view.type pageId view.pageLsn view.payload 0) pageChecksumOffset 4 =
        crc32ZeroedRange prim page pageChecksumOffset 4 := by
    rw [himage, crc32ZeroedRange, crc32ZeroedRange, zeroRange_pageImage, zeroRange_pageImage]
  rw [pageEncode_of_fits hid hvalid hsize, hcrc, ← himage]

end Pages

section Superblocks

variable {prim : Primitives} {superblock : SuperblockV1} {slot : Bytes}

lemma eq_replicate_of_allZero {bytes : Bytes} (h : bytesAllZero bytes = true) :
    bytes = List.replicate bytes.length 0 := by
  apply eq_replicate_zero
  simpa [bytesAllZero] using h

lemma write_zero_of_allZero {offset : Nat} {bytes : Bytes}
    (hfits : offset + 4 ≤ bytes.length) (h : bytesAllZero (field offset 4 bytes) = true) :
    write 4 0 = field offset 4 bytes := by
  have hzeros := eq_replicate_of_allZero h
  rw [field_length hfits] at hzeros
  rw [hzeros]
  rfl

/-- A stored superblock of the current version starts with the image of what it decodes
to. -/
lemma superblockImage_of_decode (hversion : read (field 8 2 slot) = 2)
    (h : superblockV1Decode prim slot = .ok superblock) : superblockV1Valid superblock = true ∧
      superblockImage superblock (crc32ZeroedRange prim (slot.take superblockHeaderSize)
        superblockChecksumOffset 4) ++ slot.drop superblockHeaderSize = slot := by
  simp only [superblockV1Decode, Fallible.guard_eq_ok, Bool.or_eq_true, not_or,
    Bool.not_eq_true', Bool.not_eq_false, not_not, ne_eq] at h
  obtain ⟨hlength, hmagic, -, hheader, hchecksum, ⟨hgap, htail⟩, h⟩ := h
  split at h
  swap
  · cases h
  rename_i hvalid
  obtain rfl := Except.ok.inj h
  have hlong : 160 ≤ slot.length := Nat.not_lt.mp hlength
  refine ⟨hvalid, ?_⟩
  have hid : ∀ offset, (UInt64.ofNat (read (field offset 8 slot))).toNat =
      read (field offset 8 slot) :=
    fun offset => UInt64.toNat_ofNat_of_lt' (read_field_lt offset 8 slot)
  have hnumber : ∀ offset width, offset + width ≤ 160 →
      write width (read (field offset width slot)) = field offset width slot :=
    fun offset width hfits => write_read_field (le_trans hfits hlong)
  have hversionField := hnumber 8 2 (by omega)
  have hheaderField := hnumber 10 2 (by omega)
  rw [hversion] at hversionField
  rw [hheader] at hheaderField
  have hend : write 4 0 ++ slot.drop superblockHeaderSize = slot.drop 156 := by
    rw [write_zero_of_allZero (by omega) htail]
    exact field_append_drop 156 4 slot
  rw [← hchecksum]
  simp only [superblockImage, hid, superblockChecksumOffset, append_assoc]
  rw [hend, hversionField, hheaderField, ← hmagic, write_zero_of_allZero (by omega) hgap,
    hnumber 12 4 (by omega), hnumber 16 4 (by omega), hnumber 24 8 (by omega),
    hnumber 32 8 (by omega), hnumber 40 8 (by omega), hnumber 48 8 (by omega),
    hnumber 88 4 (by omega), hnumber 92 8 (by omega), hnumber 100 4 (by omega),
    hnumber 104 4 (by omega)]
  rw [field_append_drop 140 16, field_append_drop 108 32, field_append_drop 104 4,
    field_append_drop 100 4, field_append_drop 92 8, field_append_drop 88 4,
    field_append_drop 72 16, field_append_drop 56 16, field_append_drop 48 8,
    field_append_drop 40 8, field_append_drop 32 8, field_append_drop 24 8,
    field_append_drop 20 4, field_append_drop 16 4, field_append_drop 12 4,
    field_append_drop 10 2, field_append_drop 8 2, field_append_drop 0 8, drop_zero]

/-- A valid slot of the current version without a tag is what its superblock encodes to. -/
lemma encodeSlot_of_slotSuperblock (hlength : slot.length = superblockSlotSize)
    (hversion : read (field 8 2 slot) = 2) (hslot : slotSuperblock prim slot = some superblock)
    (hplain : superblock.headerAuth = false) (dataKey : Option Bytes) :
    encodeSlot prim superblock dataKey = .ok slot := by
  unfold slotSuperblock at hslot
  split at hslot
  · cases hslot
  rename_i decoded hdecode
  rw [Option.ite_none_right_eq_some] at hslot
  obtain ⟨hpadding, hsome⟩ := hslot
  obtain rfl := Option.some.inj hsome
  obtain ⟨hvalid, himage⟩ := superblockImage_of_decode hversion hdecode
  generalize hchecksum : crc32ZeroedRange prim (slot.take superblockHeaderSize)
    superblockChecksumOffset 4 = checksum at himage
  have hsize : (superblockImage decoded checksum).length = superblockHeaderSize := by
    have htotal := congrArg List.length himage
    simp only [length_append, length_drop, hlength, superblockSlotSize,
      superblockHeaderSize] at htotal ⊢
    omega
  have htake : slot.take superblockHeaderSize = superblockImage decoded checksum := by
    rw [← himage]
    exact take_left' hsize
  have hsized := (superblockV1Decode_eq_ok hdecode).1
  have hcrc : (prim.crc32 (superblockImage decoded 0)).toNat = checksum := by
    rw [← hchecksum, htake, crc32ZeroedRange, zeroRange_superblockImage hsized]
  have htail : List.replicate (superblockSlotSize - superblockHeaderSize) 0 =
      slot.drop superblockHeaderSize := by
    rw [slotPaddingIsZero, hplain] at hpadding
    have hzeros := eq_replicate_of_allZero hpadding
    simp only [Bool.false_eq_true, if_false, length_drop, hlength] at hzeros
    exact hzeros.symm
  rw [encodeSlot, superblockV1Encode, if_pos hvalid, hcrc]
  simp only [bind, Except.bind, superblockTag, hplain, Bool.false_eq_true, if_false]
  rw [nil_append, hsize, length_nil, Nat.sub_zero, htail, himage]

end Superblocks

/-- Pages and superblocks are what their fields encode to, and decode to their fields. -/
theorem storedFormats_canonical (prim : Primitives) :
    (∀ pageSize type (pageId : PageId) lsn payload, pageSizeValid pageSize = true → pageId ≠ 0 →
      lsn < 2 ^ 64 → payload.length ≤ pageSize - pageHeaderSize →
      ∃ page, pageEncode prim pageSize type pageId lsn payload = .ok page ∧ page.length = pageSize ∧
        pageDecode prim pageSize pageId page = .ok { type, pageLsn := lsn, payload }) ∧
    (∀ pageSize pageId (page : Bytes) view, page.length = pageSize →
      pageDecode prim pageSize pageId page = .ok view →
      pageEncode prim pageSize view.type pageId view.pageLsn view.payload = .ok page) ∧
    (∀ superblock : SuperblockV1, superblock.Sized → ∀ header,
      superblockV1Encode prim superblock = .ok header → ∀ padding,
      superblockV1Decode prim (header ++ List.replicate padding 0) = .ok superblock) ∧
    ∀ (slot : Bytes) superblock, slot.length = superblockSlotSize → read (field 8 2 slot) = 2 →
      superblockV1Decode prim slot = .ok superblock → slotPaddingIsZero slot superblock = true →
      superblock.headerAuth = false →
      ∀ dataKey, encodeSlot prim superblock dataKey = .ok slot := by
  refine ⟨?_, ?_, ?_, ?_⟩
  · intro pageSize type pageId lsn payload hvalid hid hlsn hpayload
    have hmin : minPageSize ≤ pageSize := (pageSize_bounds hvalid).1
    have hsize : pageHeaderSize + payload.length ≤ pageSize := by
      simp only [minPageSize, pageHeaderSize] at hmin hpayload ⊢
      omega
    exact ⟨_, pageEncode_of_fits hid hvalid hsize, pageImage_length hsize,
      pageDecode_pageImage hid hvalid hlsn hsize⟩
  · intro pageSize pageId page view hlength hdecode
    exact pageEncode_of_decode hlength hdecode
  · intro superblock hsized header hencode padding
    unfold superblockV1Encode at hencode
    split at hencode
    · rename_i hvalid
      obtain rfl := Except.ok.inj hencode
      exact superblockV1Decode_image hsized hvalid _
    · cases hencode
  · intro slot superblock hlength hversion hdecode hpadding hplain dataKey
    apply encodeSlot_of_slotSuperblock hlength hversion _ hplain
    rw [slotSuperblock, hdecode]
    exact if_pos hpadding

/-- A page with one byte of payload, and the slot of a plaintext superblock. -/
theorem bytePage_encodes :
    (∃ page, pageEncode .sample 4096 (.plain .data) 1 5 [9] = .ok page ∧ page.length = 4096 ∧
      pageDecode .sample 4096 1 page =
        .ok { type := .plain .data, pageLsn := 5, payload := [9] }) ∧
    ∃ slot, superblockV1Decode .sample slot = .ok plainSuperblock ∧
      encodeSlot .sample plainSuperblock none = .ok slot := by
  obtain ⟨hpage, -, hheader, hslot⟩ := storedFormats_canonical .sample
  constructor
  · exact hpage 4096 (.plain .data) 1 5 [9] (by decide) (by decide) (by decide) (by decide)
  · have hencode : superblockV1Encode .sample plainSuperblock =
        .ok (superblockImage plainSuperblock
          (Primitives.sample.crc32 (superblockImage plainSuperblock 0)).toNat) :=
      if_pos (by decide)
    have hdecode := hheader plainSuperblock plainSuperblock_sized _ hencode 3936
    exact ⟨_, hdecode, hslot _ _ (by decide +kernel) (by decide +kernel) hdecode
      (by decide +kernel) rfl none⟩

end ShibaDb
