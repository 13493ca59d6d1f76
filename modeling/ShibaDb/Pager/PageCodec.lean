/-
The bytes of a page: `sdb_page_encode` and `sdb_page_decode`, and the envelope
an encrypted database puts around the payload.  Checksum, cipher and key
derivation are parameters with the properties the formats rest on.
-/
import ShibaDb.Pager.Pager

namespace ShibaDb

open LittleEndian Fallible

/-- The primitives of the storage formats. -/
structure Primitives where
  crc32 : Bytes → UInt32
  hmacSha256 : (key message : Bytes) → Bytes
  hmacSha256_length : ∀ key message, (hmacSha256 key message).length = 32
  pbkdf2 : (password salt : Bytes) → (iterations : Nat) → Bytes
  /-- XChaCha20-Poly1305: the ciphertext and the tag. -/
  encrypt : (key nonce aad plaintext : Bytes) → Bytes × Bytes
  decrypt : (key nonce aad ciphertext tag : Bytes) → Option Bytes
  ciphertext_length : ∀ key nonce aad plaintext,
    (encrypt key nonce aad plaintext).1.length = plaintext.length
  tag_length : ∀ key nonce aad plaintext, (encrypt key nonce aad plaintext).2.length = 16
  decrypt_encrypt : ∀ key nonce aad plaintext,
    decrypt key nonce aad (encrypt key nonce aad plaintext).1
      (encrypt key nonce aad plaintext).2 = some plaintext
  plaintext_length : ∀ key nonce aad ciphertext tag plaintext,
    decrypt key nonce aad ciphertext tag = some plaintext → plaintext.length = ciphertext.length

/-- Primitives with these properties, to run the formats on: a cipher that hides
nothing and a checksum that weighs the bytes by their place. -/
def Primitives.sample : Primitives where
  crc32 bytes := bytes.foldl (fun sum byte => sum * 31 + byte.toUInt32 + 1) 7
  hmacSha256 key message := List.replicate 32 (UInt8.ofNat (key.length + message.length))
  hmacSha256_length _ _ := List.length_replicate
  pbkdf2 _ salt _ := salt ++ salt
  encrypt _ _ _ plaintext := (plaintext, List.replicate 16 1)
  decrypt _ _ _ ciphertext tag := if tag = List.replicate 16 1 then some ciphertext else none
  ciphertext_length _ _ _ _ := rfl
  tag_length _ _ _ _ := List.length_replicate
  decrypt_encrypt _ _ _ _ := if_pos rfl
  plaintext_length _ _ _ ciphertext tag plaintext h := by
    rw [Option.ite_none_right_eq_some] at h
    rw [Option.some.inj h.2]

/-- The bytes with the range `[offset, offset + size)` set to zero. -/
def zeroRange (bytes : Bytes) (offset size : Nat) : Bytes :=
  bytes.take offset ++ (List.replicate size 0 ++ bytes.drop (offset + size))

def crc32ZeroedRange (prim : Primitives) (bytes : Bytes) (offset size : Nat) : Nat :=
  (prim.crc32 (zeroRange bytes offset size)).toNat

/-- The page type stored in the page header. -/
inductive ImageType where
  | plain (type : PageType)
  | encrypted
  deriving DecidableEq, Repr

def PageType.code : PageType → Nat
  | data => 1
  | free => 2

def ImageType.code : ImageType → Nat
  | plain type => type.code
  | encrypted => 3

def PageType.ofCode (code : Nat) : Option PageType :=
  if code = 1 then some .data else if code = 2 then some .free else none

def ImageType.ofCode (code : Nat) : Option ImageType :=
  if code = 3 then some .encrypted else (PageType.ofCode code).map .plain

/-- `sdb_page_view` of a stored page. -/
structure ImageView where
  type : ImageType
  pageLsn : Nat
  payload : Bytes
  deriving DecidableEq, Repr

def pageMagic : Bytes := [83, 80, 71, 49]
def pageChecksumOffset : Nat := 28

@[simp] lemma pageMagic_length : pageMagic.length = 4 := by decide

/-- The page with the given checksum field. -/
def pageImage (pageSize : Nat) (type : ImageType) (pageId : PageId) (lsn : Nat)
    (payload : Bytes) (checksum : Nat) : Bytes :=
  pageMagic ++ (write 2 type.code ++ (write 2 0 ++ (write 8 pageId.toNat ++ (write 8 lsn ++
    (write 4 payload.length ++ (write 4 checksum ++
      (payload ++ List.replicate (pageSize - pageHeaderSize - payload.length) 0)))))))

def pageEncode (prim : Primitives) (pageSize : Nat) (type : ImageType) (pageId : PageId)
    (lsn : Nat) (payload : Bytes) : Except SdbError Bytes :=
  if pageId = 0 then .error .invalidArgument
  else if !pageSizeValid pageSize then .error .invalidArgument
  else if payload.length > pageSize - pageHeaderSize || payload.length > uint32Max then
    .error .invalidArgument
  else
    let page := pageImage pageSize type pageId lsn payload 0
    .ok (pageImage pageSize type pageId lsn payload
      (crc32ZeroedRange prim page pageChecksumOffset 4))

/-- `sdb_page_decode` of a buffer of `pageSize` bytes. -/
def pageDecode (prim : Primitives) (pageSize : Nat) (expectedPageId : PageId) (page : Bytes) :
    Except SdbError ImageView :=
  if expectedPageId = 0 then .error .invalidArgument
  else if !pageSizeValid pageSize then .error .invalidArgument
  else if field 0 4 page ≠ pageMagic then .error .badMagic
  else
    match ImageType.ofCode (read (field 4 2 page)) with
    | none => .error .corrupt
    | some type =>
      let payloadSize := read (field 24 4 page)
      if read (field 6 2 page) ≠ 0 || read (field 8 8 page) ≠ expectedPageId.toNat
          || payloadSize > pageSize - pageHeaderSize then .error .corrupt
      else if read (field pageChecksumOffset 4 page)
          ≠ crc32ZeroedRange prim page pageChecksumOffset 4 then .error .corrupt
      else if (page.drop (pageHeaderSize + payloadSize)).any (· ≠ 0) then .error .corrupt
      else .ok { type, pageLsn := read (field 16 8 page)
                 payload := field pageHeaderSize payloadSize page }

def encryptedMagic : Bytes := [83, 69, 78, 49]

/-- The associated data that binds a ciphertext to its place. -/
def encryptedAad (fileId : Bytes) (pageId : PageId) (lsn : Nat) (type : PageType)
    (plaintextSize : Nat) : Bytes :=
  fileId ++ (write 8 pageId.toNat ++ (write 8 lsn ++ (write 2 type.code ++
    (write 2 0 ++ write 4 plaintextSize))))

/-- `sdb_encrypted_page_encode` with the nonce it draws. -/
def encryptedPageEncode (prim : Primitives) (fileId dataKey nonce : Bytes) (pageSize : Nat)
    (type : PageType) (pageId : PageId) (lsn : Nat) (plaintext : Bytes) :
    Except SdbError Bytes :=
  if pageId = 0 || pageSize < pageHeaderSize + encryptedPayloadHeaderSize
      || plaintext.length > uint32Max
      || plaintext.length > pageSize - pageHeaderSize - encryptedPayloadHeaderSize then
    .error .invalidArgument
  else
    let sealed := prim.encrypt dataKey nonce
      (encryptedAad fileId pageId lsn type plaintext.length) plaintext
    pageEncode prim pageSize .encrypted pageId lsn
      (encryptedMagic ++ (write 2 1 ++ (write 2 type.code ++ (nonce ++
        (write 4 plaintext.length ++ (sealed.2 ++ sealed.1))))))

/-- `sdb_encrypted_page_decrypt` of a decoded page. -/
def encryptedPageDecrypt (prim : Primitives) (fileId dataKey : Bytes) (pageId : PageId)
    (view : ImageView) (capacity : Nat) : Except SdbError (PageType × Bytes) :=
  let payload := view.payload
  if view.type ≠ .encrypted || payload.length < encryptedPayloadHeaderSize then
    .error .invalidArgument
  else if field 0 4 payload ≠ encryptedMagic || read (field 4 2 payload) ≠ 1 then
    .error .corrupt
  else
    match PageType.ofCode (read (field 6 2 payload)) with
    | none => .error .corrupt
    | some type =>
      let plaintextSize := read (field 32 4 payload)
      if plaintextSize ≠ payload.length - encryptedPayloadHeaderSize then .error .corrupt
      else if capacity < plaintextSize then .error .bufferTooSmall
      else
        match prim.decrypt dataKey (field 8 24 payload)
            (encryptedAad fileId pageId view.pageLsn type plaintextSize)
            (payload.drop encryptedPayloadHeaderSize) (field 36 16 payload) with
        | none => .error .corrupt
        | some plaintext => .ok (type, plaintext)

section PageRoundTrip

variable {prim : Primitives} {pageSize lsn : Nat} {pageId : PageId} {payload : Bytes}
  {type : ImageType} {bytes : Bytes}

@[simp] lemma PageType.ofCode_code (type : PageType) : PageType.ofCode type.code = some type := by
  cases type <;> rfl

@[simp] lemma ImageType.ofCode_code (type : ImageType) :
    ImageType.ofCode type.code = some type := by
  cases type with
  | plain type => cases type <;> rfl
  | encrypted => rfl

lemma PageType.code_lt (type : PageType) : type.code < 256 ^ 2 := by
  cases type <;> decide

lemma ImageType.code_lt (type : ImageType) : type.code < 256 ^ 2 := by
  cases type with
  | plain type => exact type.code_lt
  | encrypted => decide

lemma pageImage_length {checksum : Nat} (hsize : pageHeaderSize + payload.length ≤ pageSize) :
    (pageImage pageSize type pageId lsn payload checksum).length = pageSize := by
  simp only [pageImage, List.length_append, write_length, List.length_replicate,
    pageMagic_length, pageHeaderSize] at hsize ⊢
  omega

/-- The image without its checksum does not depend on the checksum. -/
lemma zeroRange_pageImage {checksum : Nat} :
    zeroRange (pageImage pageSize type pageId lsn payload checksum) pageChecksumOffset 4 =
      pageImage pageSize type pageId lsn payload 0 := by
  have hzero : write 4 0 = List.replicate 4 0 := by decide
  simp only [zeroRange, pageImage, pageChecksumOffset, hzero]
  simp [take_skip, drop_skip]

lemma read_field_write {width value offset : Nat}
    (hfield : field offset width bytes = write width value) (hvalue : value < 256 ^ width) :
    read (field offset width bytes) = value := by
  rw [hfield, read_write_of_lt hvalue]

lemma pageDecode_pageImage (hid : pageId ≠ 0) (hvalid : pageSizeValid pageSize = true)
    (hlsn : lsn < 2 ^ 64) (hsize : pageHeaderSize + payload.length ≤ pageSize) :
    pageDecode prim pageSize pageId (pageImage pageSize type pageId lsn payload
      (crc32ZeroedRange prim (pageImage pageSize type pageId lsn payload 0)
        pageChecksumOffset 4)) = .ok { type, pageLsn := lsn, payload } := by
  have hmax : pageSize ≤ maxPageSize := (pageSize_bounds hvalid).2
  have hpayload : payload.length < 256 ^ 4 := by
    simp only [maxPageSize] at hmax
    omega
  generalize hchecksum : crc32ZeroedRange prim (pageImage pageSize type pageId lsn payload 0)
    pageChecksumOffset 4 = checksum
  have hcrc : crc32ZeroedRange prim (pageImage pageSize type pageId lsn payload checksum)
      pageChecksumOffset 4 = checksum := by
    rw [← hchecksum, crc32ZeroedRange, crc32ZeroedRange, zeroRange_pageImage, zeroRange_pageImage]
  have hchecksumLt : checksum < 256 ^ 4 := by
    rw [← hchecksum]
    exact UInt32.toNat_lt _
  have htail : ((pageImage pageSize type pageId lsn payload checksum).drop
      (pageHeaderSize + payload.length)) =
        List.replicate (pageSize - pageHeaderSize - payload.length) 0 := by
    simp (disch := (simp only [write_length, pageMagic_length]; omega)) only [pageImage,
      drop_skip, write_length, pageMagic_length, pageHeaderSize]
    rw [drop_skip _ (by omega), List.drop_replicate]
    congr 1
    omega
  generalize himage : pageImage pageSize type pageId lsn payload checksum = page at hcrc htail ⊢
  have hfields : field 0 4 page = pageMagic ∧ field 4 2 page = write 2 type.code ∧
      field 6 2 page = write 2 0 ∧ field 8 8 page = write 8 pageId.toNat ∧
      field 16 8 page = write 8 lsn ∧ field 24 4 page = write 4 payload.length ∧
      field 28 4 page = write 4 checksum ∧ field 32 payload.length page = payload := by
    rw [← himage]
    simp [pageImage, field_skip, field_head]
  obtain ⟨hmagic, htype, hflags, hpage, hpageLsn, hlength, hstored, hbody⟩ := hfields
  have hsize' : ¬payload.length > pageSize - pageHeaderSize := by omega
  simp only [pageDecode, hid, hvalid, hmagic, read_field_write htype type.code_lt,
    read_field_write hflags (by decide), read_field_write hpage pageId.toNat_lt,
    read_field_write hlength hpayload, read_field_write hpageLsn hlsn, pageChecksumOffset,
    read_field_write hstored hchecksumLt, ImageType.ofCode_code, hsize']
  simp only [pageChecksumOffset, pageHeaderSize] at hcrc htail
  simp [hcrc, htail, hbody, pageHeaderSize]

lemma pageEncode_eq_ok {page : Bytes}
    (h : pageEncode prim pageSize type pageId lsn payload = .ok page) :
    pageId ≠ 0 ∧ pageSizeValid pageSize = true ∧ pageHeaderSize + payload.length ≤ pageSize ∧
      page = pageImage pageSize type pageId lsn payload
        (crc32ZeroedRange prim (pageImage pageSize type pageId lsn payload 0)
          pageChecksumOffset 4) := by
  unfold pageEncode at h
  split at h
  · cases h
  split at h
  · cases h
  rename_i hid hvalid
  split at h
  · cases h
  rename_i hsize
  have hvalid' : pageSizeValid pageSize = true := by simpa using hvalid
  have hmin : minPageSize ≤ pageSize := (pageSize_bounds hvalid').1
  simp only [Bool.or_eq_true, decide_eq_true_eq, not_or, not_lt, gt_iff_lt] at hsize
  simp only [minPageSize] at hmin
  refine ⟨hid, hvalid', ?_, (Except.ok.inj h).symm⟩
  simp only [pageHeaderSize] at hsize ⊢
  omega

/-- Decoding an encoded page gives back what was encoded. -/
lemma pageDecode_of_pageEncode {page : Bytes} (hlsn : lsn < 2 ^ 64)
    (h : pageEncode prim pageSize type pageId lsn payload = .ok page) : page.length = pageSize ∧
      pageDecode prim pageSize pageId page = .ok { type, pageLsn := lsn, payload } := by
  obtain ⟨hid, hvalid, hsize, rfl⟩ := pageEncode_eq_ok h
  exact ⟨pageImage_length hsize, pageDecode_pageImage hid hvalid hlsn hsize⟩

lemma pageSizeValid_of_pageDecode {view : ImageView}
    (h : pageDecode prim pageSize pageId bytes = .ok view) : pageSizeValid pageSize = true := by
  simp only [pageDecode, guard_eq_ok] at h
  simpa using h.2.1

lemma pageDecode_lsn_lt {view : ImageView} (h : pageDecode prim pageSize pageId bytes = .ok view) :
    view.pageLsn < 2 ^ 64 := by
  simp only [pageDecode, guard_eq_ok] at h
  obtain ⟨-, -, -, h⟩ := h
  split at h
  · cases h
  · simp only [guard_eq_ok] at h
    obtain ⟨-, -, -, h⟩ := h
    rw [← Except.ok.inj h]
    exact read_field_lt 16 8 bytes

end PageRoundTrip

section EncryptedRoundTrip

variable {prim : Primitives} {fileId dataKey nonce plaintext page : Bytes} {pageSize lsn : Nat}
  {type : PageType} {pageId : PageId}

@[simp] lemma encryptedMagic_length : encryptedMagic.length = 4 := by decide

/-- An encrypted page decodes to an envelope that decrypts to the plaintext. -/
lemma encryptedPageEncode_eq_ok (hnonce : nonce.length = 24) (hlsn : lsn < 2 ^ 64)
    (h : encryptedPageEncode prim fileId dataKey nonce pageSize type pageId lsn plaintext =
      .ok page) : page.length = pageSize ∧ ∃ view, pageDecode prim pageSize pageId page = .ok view ∧
      view.type = .encrypted ∧ view.pageLsn = lsn ∧ ∀ capacity, plaintext.length ≤ capacity →
        encryptedPageDecrypt prim fileId dataKey pageId view capacity = .ok (type, plaintext) := by
  unfold encryptedPageEncode at h
  split at h
  · cases h
  rename_i hguard
  simp only [Bool.or_eq_true, decide_eq_true_eq, not_or, not_lt, gt_iff_lt] at hguard
  obtain ⟨hlength, hdecode⟩ := pageDecode_of_pageEncode hlsn h
  refine ⟨hlength, _, hdecode, rfl, rfl, ?_⟩
  intro capacity hcapacity
  generalize haad : encryptedAad fileId pageId lsn type plaintext.length = aad
  have htag := prim.tag_length dataKey nonce aad plaintext
  have hcipher := prim.ciphertext_length dataKey nonce aad plaintext
  have hopen := prim.decrypt_encrypt dataKey nonce aad plaintext
  generalize prim.encrypt dataKey nonce aad plaintext = box at htag hcipher hopen
  have hplain : plaintext.length < 256 ^ 4 := by
    have := hguard.1.2
    simp only [uint32Max] at this
    omega
  generalize hpayload : encryptedMagic ++ (write 2 1 ++ (write 2 type.code ++ (nonce ++
    (write 4 plaintext.length ++ (box.2 ++ box.1))))) = payload
  have hpayloadLength : payload.length = encryptedPayloadHeaderSize + plaintext.length := by
    rw [← hpayload]
    simp only [List.length_append, write_length, encryptedMagic_length, htag, hcipher, hnonce,
      encryptedPayloadHeaderSize]
    omega
  have hfields : field 0 4 payload = encryptedMagic ∧ field 4 2 payload = write 2 1 ∧
      field 6 2 payload = write 2 type.code ∧ field 8 24 payload = nonce ∧
      field 32 4 payload = write 4 plaintext.length ∧ field 36 16 payload = box.2 ∧
      payload.drop 52 = box.1 := by
    rw [← hpayload]
    simp [field_skip, field_head, drop_skip, hnonce, htag]
  obtain ⟨hmagic, hversion, htype, hnonceField, hsizeField, htagField, hbody⟩ := hfields
  have hshort : ¬payload.length < 52 := by
    rw [hpayloadLength, encryptedPayloadHeaderSize]
    omega
  have hsize : payload.length - 52 = plaintext.length := by
    rw [hpayloadLength, encryptedPayloadHeaderSize]
    omega
  simp only [encryptedPageDecrypt, hmagic, read_field_write hversion (by decide),
    read_field_write htype type.code_lt, read_field_write hsizeField hplain, hnonceField,
    htagField, PageType.ofCode_code, hshort, hsize, haad, encryptedPayloadHeaderSize, hbody,
    hopen]
  simp [Nat.not_lt.mpr hcapacity]

end EncryptedRoundTrip

end ShibaDb
