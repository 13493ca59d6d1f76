/-
Encrypted pages are bound to their place: the associated data names the database,
the page, the log sequence number, the type and the size, and a read that the
cache does not serve accepts only what the key holder sealed for that place.
-/
import ShibaDb.Pager.Session

namespace ShibaDb

open CallProgram FileSystem LittleEndian Fallible List

/-- A page the holder of a data key sealed. -/
structure PageSeal where
  fileId : Bytes
  pageId : PageId
  lsn : Nat
  type : PageType
  nonce : Bytes
  plaintext : Bytes
  fileId_length : fileId.length = fileIdSize
  lsn_lt : lsn < 2 ^ 64
  plaintext_lt : plaintext.length < 2 ^ 32

def PageSeal.aad (sealed : PageSeal) : Bytes :=
  encryptedAad sealed.fileId sealed.pageId sealed.lsn sealed.type sealed.plaintext.length

/-- The ciphertext and the tag of a sealed page. -/
def PageSeal.box (prim : Primitives) (key : Bytes) (sealed : PageSeal) : Bytes × Bytes :=
  prim.encrypt key sealed.nonce sealed.aad sealed.plaintext

/-- Of all that can be cut out of `content`, the key opens only what its holder sealed:
what an ideal cipher grants against someone who writes files without the key. -/
def Unforged (prim : Primitives) (key : Bytes) (issued : PageSeal → Prop) (content : Bytes) :
    Prop :=
  ∀ nonce aad ciphertext tag plaintext, nonce <:+: content → ciphertext <:+: content →
    tag <:+: content → prim.decrypt key nonce aad ciphertext tag = some plaintext →
    ∃ sealed, issued sealed ∧ sealed.nonce = nonce ∧ sealed.aad = aad ∧
      sealed.box prim key = (ciphertext, tag)

/-- The stored bytes of a page are the envelope of a sealed page. -/
def SealedAs (prim : Primitives) (key : Bytes) (pageSize : Nat) (pageId : PageId)
    (stored : Bytes) (sealed : PageSeal) : Prop :=
  ∃ view, pageDecode prim pageSize pageId stored = .ok view ∧ view.type = .encrypted ∧
    view.pageLsn = sealed.lsn ∧ field 8 24 view.payload = sealed.nonce ∧
    sealed.box prim key = (view.payload.drop encryptedPayloadHeaderSize, field 36 16 view.payload)

section Layout

lemma write_inj {width first second : Nat} (hfirst : first < 256 ^ width)
    (hsecond : second < 256 ^ width) (h : write width first = write width second) :
    first = second := by
  rw [← read_write_of_lt hfirst, h, read_write_of_lt hsecond]

lemma PageType.code_inj {first second : PageType} (h : first.code = second.code) :
    first = second := by
  have hcode := congrArg PageType.ofCode h
  rw [PageType.ofCode_code, PageType.ofCode_code] at hcode
  exact Option.some.inj hcode

/-- The associated data determines each of its fields. -/
lemma encryptedAad_inj {fileId fileId' : Bytes} {pageId pageId' : PageId} {lsn lsn' : Nat}
    {type type' : PageType} {size size' : Nat} (hfile : fileId.length = fileId'.length)
    (hlsn : lsn < 2 ^ 64) (hlsn' : lsn' < 2 ^ 64) (hsize : size < 2 ^ 32) (hsize' : size' < 2 ^ 32)
    (h : encryptedAad fileId pageId lsn type size = encryptedAad fileId' pageId' lsn' type' size') :
    fileId = fileId' ∧ pageId = pageId' ∧ lsn = lsn' ∧ type = type' ∧ size = size' := by
  obtain ⟨hfileId, h⟩ := append_inj h hfile
  obtain ⟨hpage, h⟩ := append_inj h (by rw [write_length, write_length])
  obtain ⟨hlsnBytes, h⟩ := append_inj h (by rw [write_length, write_length])
  obtain ⟨htype, h⟩ := append_inj h (by rw [write_length, write_length])
  obtain ⟨-, hsizeBytes⟩ := append_inj h rfl
  refine ⟨hfileId, ?_, write_inj hlsn hlsn' hlsnBytes, ?_, write_inj hsize hsize' hsizeBytes⟩
  · exact UInt64.toNat_inj.mp (write_inj pageId.toNat_lt pageId'.toNat_lt hpage)
  · exact PageType.code_inj (write_inj type.code_lt type'.code_lt htype)

lemma pageDecode_payload_isInfix {prim : Primitives} {pageSize : Nat} {pageId : PageId}
    {bytes : Bytes} {view : ImageView} (h : pageDecode prim pageSize pageId bytes = .ok view) :
    view.payload <:+: bytes := by
  simp only [pageDecode, guard_eq_ok] at h
  obtain ⟨-, -, -, h⟩ := h
  split at h
  · cases h
  · simp only [guard_eq_ok] at h
    obtain ⟨-, -, -, h⟩ := h
    rw [← Except.ok.inj h]
    exact field_isInfix ..

end Layout

section Open

variable {prim : Primitives} {key fileId stored : Bytes} {issued : PageSeal → Prop}
  {pageSize capacity : Nat} {pageId : PageId} {view : ImageView} {content : Bytes}

/-- An envelope that opens was sealed for the page, its log sequence number, and the
type and size it opens to. -/
lemma seal_of_encryptedPageDecrypt {type : PageType} {plaintext : Bytes}
    (hunforged : Unforged prim key issued content) (hfile : fileId.length = fileIdSize)
    (hlsn : view.pageLsn < 2 ^ 64) (hpayload : view.payload <:+: content)
    (h : encryptedPageDecrypt prim fileId key pageId view capacity = .ok (type, plaintext)) :
    ∃ sealed, issued sealed ∧ sealed.fileId = fileId ∧ sealed.pageId = pageId ∧
      sealed.lsn = view.pageLsn ∧ sealed.type = type ∧ sealed.plaintext = plaintext ∧
      field 8 24 view.payload = sealed.nonce ∧ sealed.box prim key =
        (view.payload.drop encryptedPayloadHeaderSize, field 36 16 view.payload) := by
  simp only [encryptedPageDecrypt, guard_eq_ok] at h
  obtain ⟨-, -, h⟩ := h
  split at h
  · cases h
  rename_i storedType htype
  simp only [guard_eq_ok] at h
  obtain ⟨-, -, h⟩ := h
  split at h
  · cases h
  rename_i opened hopen
  obtain ⟨rfl, rfl⟩ := Prod.mk.inj (Except.ok.inj h)
  obtain ⟨sealed, hissued, hnonce, haad, hbox⟩ := hunforged _ _ _ _ _
    ((field_isInfix ..).trans hpayload) ((drop_suffix ..).isInfix.trans hpayload)
    ((field_isInfix ..).trans hpayload) hopen
  obtain ⟨hfileId, hpageId, hsealLsn, hsealType, -⟩ := encryptedAad_inj
    (sealed.fileId_length.trans hfile.symm) sealed.lsn_lt hlsn sealed.plaintext_lt
    (read_field_lt 32 4 view.payload) haad
  -- what was sealed opens to its plaintext, and so does the envelope, which is the same box
  have hplaintext : sealed.plaintext = opened := by
    have hseal := prim.decrypt_encrypt key sealed.nonce sealed.aad sealed.plaintext
    rw [show prim.encrypt key sealed.nonce sealed.aad sealed.plaintext = _ from hbox, hnonce, haad,
      hopen] at hseal
    exact (Option.some.inj hseal).symm
  exact ⟨sealed, hissued, hfileId, hpageId, hsealLsn, hsealType, hplaintext, hnonce.symm, hbox⟩

/-- What a read takes from stored bytes of an encrypted database was sealed for that
page; where it takes nothing, the caller's page holds the stored bytes. -/
lemma pagerReveal_sealed (pageSize : Nat) (pageId : PageId)
    (hunforged : Unforged prim key issued content)
    (hfile : fileId.length = fileIdSize) (hstored : stored <:+: content) :
    (∃ revealed sealed, (pagerReveal prim fileId (some key) pageSize pageId stored).1 =
        .ok revealed ∧ issued sealed ∧ SealedAs prim key pageSize pageId stored sealed ∧
      sealed.fileId = fileId ∧ sealed.pageId = pageId ∧ revealed.pageLsn = sealed.lsn ∧
      revealed.type = .plain sealed.type ∧ revealed.payload = sealed.plaintext) ∨
    ∃ error, pagerReveal prim fileId (some key) pageSize pageId stored =
      (.error error, stored) := by
  unfold pagerReveal
  split
  · rename_i error hdecode
    exact .inr ⟨error, rfl⟩
  rename_i view hdecode
  dsimp only
  split
  · exact .inr ⟨.corrupt, rfl⟩
  rename_i htype
  split
  · rename_i error hopen
    exact .inr ⟨error, rfl⟩
  rename_i type plaintext hopen
  split
  · rename_i error hencode
    exact .inr ⟨error, rfl⟩
  rename_i page hencode
  have hlsn := pageDecode_lsn_lt hdecode
  obtain ⟨sealed, hissued, hfileId, hpageId, hsealLsn, hsealType, hplaintext, hnonce, hbox⟩ :=
    seal_of_encryptedPageDecrypt hunforged hfile hlsn
      ((pageDecode_payload_isInfix hdecode).trans hstored) hopen
  left
  refine ⟨_, sealed, (pageDecode_of_pageEncode hlsn hencode).2, hissued, ?_, hfileId, hpageId,
    hsealLsn.symm, by rw [hsealType], hplaintext.symm⟩
  have htype' : view.type = .encrypted := by
    by_contra hne
    simp [hne] at htype
  exact ⟨view, hdecode, htype', hsealLsn.symm, hnonce, hbox⟩

end Open

section Read

variable {prim : Primitives} {key buffer : Bytes} {issued : PageSeal → Prop} {pager : PagerSession}
  {pageId : PageId} {disk : FileDisk} {pageSize : Nat} {pageId : PageId} {plaintext : Bytes}

/-- A read returned a page that was sealed for this database, this page, the log
sequence number of the stored header, and the type and length it returned. -/
def ReturnsSealed (prim : Primitives) (key : Bytes) (issued : PageSeal → Prop)
    (pager : PagerSession) (disk : FileDisk) (pageId : PageId) (outcome : PagerReadResult) : Prop :=
  ∃ view stored sealed, outcome.result = .ok view ∧
    Fetched pager.toPagerHandle disk pageId stored ∧
    issued sealed ∧ SealedAs prim key pager.superblock.pageSize pageId stored sealed ∧
    sealed.fileId = pager.superblock.fileId ∧ sealed.pageId = pageId ∧
    view.pageLsn = sealed.lsn ∧ view.type = .plain sealed.type ∧
    view.payload = sealed.plaintext

/-- A read failed, and the caller's buffer is as before or holds the stored bytes. -/
def RejectsPage (pager : PagerSession) (disk : FileDisk) (pageId : PageId) (buffer : Bytes)
    (outcome : PagerReadResult) : Prop :=
  (∃ error, outcome.result = .error error) ∧ (outcome.buffer = buffer ∨
    ∃ stored, Fetched pager.toPagerHandle disk pageId stored ∧
      outcome.buffer = pager.fillBuffer buffer stored)

lemma readAt_isInfix {content bytes : Bytes} {offset size : Nat}
    (h : ByteFile.readAt content offset size = some bytes) : bytes <:+: content := by
  unfold ByteFile.readAt at h
  split at h
  · rw [← Option.some.inj h]
    exact field_isInfix ..
  · cases h

/-- Fetched bytes lie in the data file or in the log. -/
lemma Fetched.lies {stored : Bytes} (h : Fetched pager.toPagerHandle disk pageId stored) :
    stored <:+: disk.bytes pager.file ∨
      ∃ wal, ReadsLog pager.toPagerHandle disk wal ∧ stored <:+: disk.bytes wal := by
  rcases h with ⟨walOffset, wal, -, hwal, hread⟩ | ⟨-, hread⟩
  · exact .inr ⟨wal, hwal, readAt_isInfix hread⟩
  · exact .inl (readAt_isInfix hread)

/-- What a read makes of bytes nobody forged. -/
lemma readStored_sealed {stored : Bytes} {cache : PageCache} (hkey : pager.dataKey = some key)
    (hfile : pager.superblock.fileId.length = fileIdSize)
    (hdata : Unforged prim key issued (disk.bytes pager.file))
    (hlog : ∀ wal, ReadsLog pager.toPagerHandle disk wal →
      Unforged prim key issued (disk.bytes wal))
    (hfetched : Fetched pager.toPagerHandle disk pageId stored) :
    ReturnsSealed prim key issued pager disk pageId
        (pager.readStored prim cache pageId buffer stored) ∨
      RejectsPage pager disk pageId buffer (pager.readStored prim cache pageId buffer stored) := by
  have hreveal : ∀ content, Unforged prim key issued content → stored <:+: content →
      ReturnsSealed prim key issued pager disk pageId
          (pager.readStored prim cache pageId buffer stored) ∨
        RejectsPage pager disk pageId buffer
          (pager.readStored prim cache pageId buffer stored) := by
    intro content hunforged hinfix
    rcases pagerReveal_sealed pager.superblock.pageSize pageId hunforged
      hfile hinfix with
      ⟨view, sealed, hview, hissued, hsealed, hfields⟩ | ⟨error, herror⟩
    · left
      refine ⟨view, stored, sealed, ?_, hfetched, hissued, hsealed, hfields⟩
      rw [PagerSession.readStored, hkey]
      exact hview
    · right
      rw [PagerSession.readStored, hkey, herror]
      exact ⟨⟨error, rfl⟩, .inr ⟨stored, hfetched, rfl⟩⟩
  rcases hfetched.lies with hinfix | ⟨wal, hwal, hinfix⟩
  · exact hreveal _ hdata hinfix
  · exact hreveal _ (hlog wal hwal) hinfix

/-- A payload that fits is encoded. -/
lemma exists_pageEncode (prim : Primitives) (lsn : Nat) (type : ImageType) {payload : Bytes}
    (hvalid : pageSizeValid pageSize = true) (hid : pageId ≠ 0)
    (hfits : pageHeaderSize + payload.length ≤ pageSize) :
    ∃ page, pageEncode prim pageSize type pageId lsn payload = .ok page := by
  obtain ⟨-, hmax⟩ := pageSize_bounds hvalid
  have hroom : ¬payload.length > pageSize - pageHeaderSize := by omega
  have hcount : ¬payload.length > uint32Max := by
    simp only [maxPageSize, uint32Max] at hmax ⊢
    omega
  unfold pageEncode
  simp only [hid, hvalid, hroom, hcount, if_false, Bool.not_true, Bool.false_eq_true,
    decide_false, Bool.or_self]
  exact ⟨_, rfl⟩

/-- A plaintext that fits is sealed. -/
lemma exists_encryptedPageEncode (prim : Primitives) (fileId dataKey : Bytes) (nonce : Nonce)
    (lsn : Nat) (type : PageType) (hvalid : pageSizeValid pageSize = true) (hid : pageId ≠ 0)
    (hfits : plaintext.length ≤ payloadCapacity pageSize (some dataKey)) :
    ∃ page, encryptedPageEncode prim fileId dataKey nonce.1 pageSize type pageId lsn plaintext =
      .ok page := by
  obtain ⟨hmin, hmax⟩ := pageSize_bounds hvalid
  simp only [minPageSize, maxPageSize] at hmin hmax
  have hsmall : ¬pageSize < pageHeaderSize := by
    simp only [pageHeaderSize]
    omega
  simp only [payloadCapacity, hsmall, if_false, Option.isSome_some, if_true] at hfits
  have hguard : ¬(decide (pageId = 0) || decide (pageSize < pageHeaderSize +
      encryptedPayloadHeaderSize) || decide (plaintext.length > uint32Max) ||
      decide (plaintext.length > pageSize - pageHeaderSize - encryptedPayloadHeaderSize)) =
        true := by
    simp only [Bool.or_eq_true, decide_eq_true_eq, hid, false_or, not_or]
    simp only [pageHeaderSize, encryptedPayloadHeaderSize, uint32Max] at hfits ⊢
    omega
  unfold encryptedPageEncode
  rw [if_neg hguard]
  apply exists_pageEncode prim lsn .encrypted hvalid hid
  simp only [length_append, write_length, encryptedMagic_length, nonce.2,
    prim.tag_length, prim.ciphertext_length, pageHeaderSize, encryptedPayloadHeaderSize] at hfits ⊢
  omega

/-- What was sealed fits its page. -/
lemma encryptedPageEncode_fits {prim : Primitives} {fileId key nonce : Bytes} {lsn : Nat}
    {type : PageType} {page : Bytes}
    (h : encryptedPageEncode prim fileId key nonce pageSize type pageId lsn plaintext = .ok page) :
    pageId ≠ 0 ∧ pageSizeValid pageSize = true ∧ plaintext.length ≤ pageSize - 84 := by
  unfold encryptedPageEncode at h
  split at h
  · cases h
  rename_i hguard
  simp only [Bool.or_eq_true, decide_eq_true_eq, not_or, not_lt, gt_iff_lt] at hguard
  obtain ⟨hid, hvalid, -⟩ := pageEncode_eq_ok h
  refine ⟨hid, hvalid, ?_⟩
  have hfits := hguard.2
  simp only [pageHeaderSize, encryptedPayloadHeaderSize] at hfits
  omega

/-- An encrypted page that fits decodes and decrypts to what was sealed. -/
lemma encryptedPage_round_trip (prim : Primitives) (fileId dataKey : Bytes) (nonce : Nonce)
    {lsn : Nat} (type : PageType) (hvalid : pageSizeValid pageSize = true) (hid : pageId ≠ 0)
    (hlsn : lsn < 2 ^ 64) (hfits : plaintext.length ≤ payloadCapacity pageSize (some dataKey)) :
    ∃ page view, encryptedPageEncode prim fileId dataKey nonce.1 pageSize type pageId lsn
        plaintext = .ok page ∧ pageDecode prim pageSize pageId page = .ok view ∧
      view.pageLsn = lsn ∧ encryptedPageDecrypt prim fileId dataKey pageId view
        (payloadCapacity pageSize (some dataKey)) = .ok (type, plaintext) := by
  obtain ⟨page, hencode⟩ := exists_encryptedPageEncode prim fileId dataKey nonce lsn type
    hvalid hid hfits
  obtain ⟨-, view, hdecode, -, hview, hopen⟩ := encryptedPageEncode_eq_ok nonce.2 hlsn hencode
  exact ⟨page, view, hencode, hdecode, hview, hopen _ hfits⟩

/-- Pages of an encrypted database round-trip, and whatever the data file and the log
hold, a read past the cache returns a page only where the key holder sealed it for this
database, page, log sequence number, type and length; where it fails, no plaintext is in
the caller's buffer. -/
theorem encrypted_page_bound :
    (∀ (prim : Primitives) (fileId dataKey : Bytes) (nonce : Nonce) (pageSize lsn : Nat)
      (type : PageType) (pageId : PageId) (plaintext : Bytes),
      pageSizeValid pageSize = true → pageId ≠ 0 → lsn < 2 ^ 64 →
      plaintext.length ≤ payloadCapacity pageSize (some dataKey) →
      ∃ page view, encryptedPageEncode prim fileId dataKey nonce.1 pageSize type pageId lsn
          plaintext = .ok page ∧ pageDecode prim pageSize pageId page = .ok view ∧
        view.pageLsn = lsn ∧ encryptedPageDecrypt prim fileId dataKey pageId view
          (payloadCapacity pageSize (some dataKey)) = .ok (type, plaintext)) ∧
    ∀ (prim : Primitives) (key : Bytes) (issued : PageSeal → Prop) (pager : PagerSession)
      (disk after : FileDisk) (pageId : PageId) (buffer : Bytes)
      (status : Except SdbError PagerReadResult),
      pager.dataKey = some key → pager.superblock.fileId.length = fileIdSize →
      (pageCacheGet pager.cache pageId).1 = none →
      Unforged prim key issued (disk.bytes pager.file) →
      (∀ wal, ReadsLog pager.toPagerHandle disk wal → Unforged prim key issued (disk.bytes wal)) →
      (pager.pagerRead prim pageId buffer).Finishes faulty disk status after →
      ∃ outcome, status = .ok outcome ∧ (ReturnsSealed prim key issued pager disk pageId outcome ∨
          RejectsPage pager disk pageId buffer outcome) := by
  constructor
  · intro prim fileId dataKey nonce pageSize lsn type pageId plaintext hvalid hid hlsn hfits
    exact encryptedPage_round_trip prim fileId dataKey nonce type hvalid hid hlsn hfits
  · intro prim key issued pager disk after pageId buffer status hkey hfile hmiss hdata hlog hrun
    have hmeets : (pager.pagerRead prim pageId buffer).Meets faulty
        (fun outcome _ => ReturnsSealed prim key issued pager disk pageId outcome ∨
          RejectsPage pager disk pageId buffer outcome) (fun _ _ => False) disk := by
      apply PagerSession.meets_pagerRead
      · intro error
        exact Or.inr ⟨⟨error, rfl⟩, Or.inl rfl⟩
      · intro page cache hget
        rw [hget] at hmiss
        cases hmiss
      · intro error cache _
        exact Or.inr ⟨⟨error, rfl⟩, Or.inl rfl⟩
      · intro stored cache _ _ hfetched
        exact readStored_sealed hkey hfile hdata hlog hfetched
    obtain ⟨hok, hbad⟩ := hmeets.finishes hrun
    cases status with
    | ok outcome => exact ⟨outcome, rfl, hok outcome rfl⟩
    | error error => exact absurd (hbad error rfl) id

end Read

section Sample

/-- A cipher to run reads on: what `listed` names has a tag of its own. -/
def Primitives.marked (listed : Bytes → Bytes → Bytes → Bool) : Primitives :=
  { Primitives.sample with
    encrypt := fun _ nonce aad plaintext =>
      (plaintext, List.replicate 16 (if listed nonce aad plaintext then 1 else 238))
    decrypt := fun _ nonce aad ciphertext tag =>
      if tag = List.replicate 16 (if listed nonce aad ciphertext then 1 else 238) then
        some ciphertext
      else none
    ciphertext_length := fun _ _ _ _ => rfl
    tag_length := fun _ _ _ _ => List.length_replicate
    decrypt_encrypt := fun _ _ _ _ => if_pos rfl
    plaintext_length := fun _ _ _ ciphertext tag plaintext h => by
      rw [Option.ite_none_right_eq_some] at h
      rw [Option.some.inj h.2] }

/-- Where the other tag does not occur, only what is listed opens. -/
lemma unforged_marked {listed : Bytes → Bytes → Bytes → Bool} {key content : Bytes}
    {issued : PageSeal → Prop} (hlisted : ∀ nonce aad plaintext, listed nonce aad plaintext = true →
      ∃ sealed, issued sealed ∧ sealed.nonce = nonce ∧ sealed.aad = aad ∧
        sealed.plaintext = plaintext)
    (hcontent : 238 ∉ content) : Unforged (.marked listed) key issued content := by
  intro nonce aad ciphertext tag plaintext hnonce hciphertext htag hopen
  obtain ⟨htagEq, -⟩ := (Option.ite_none_right_eq_some.mp hopen)
  by_cases hlist : listed nonce aad ciphertext = true
  · obtain ⟨sealed, hissued, rfl, rfl, rfl⟩ := hlisted _ _ _ hlist
    refine ⟨sealed, hissued, rfl, rfl, ?_⟩
    rw [htagEq]
    rfl
  · have hmem : 238 ∈ tag := by
      rw [htagEq, if_neg hlist]
      decide
    exact absurd (htag.subset hmem) hcontent

/-- The one page the key holder sealed. -/
def boundSeal : PageSeal where
  fileId := List.replicate 16 5
  pageId := 1
  lsn := 1
  type := .data
  nonce := List.replicate 24 3
  plaintext := [1, 2, 3]
  fileId_length := rfl
  lsn_lt := by decide
  plaintext_lt := by decide

def boundCipher : Primitives :=
  .marked fun nonce aad plaintext =>
    nonce = boundSeal.nonce && aad = boundSeal.aad && plaintext = boundSeal.plaintext

def boundKey : Bytes := List.replicate 32 7

def boundPage : Bytes :=
  (encryptedPageEncode boundCipher boundSeal.fileId boundKey boundSeal.nonce 4096 .data 1 1
    boundSeal.plaintext).toOption.getD []

/-- An open database of one page. -/
def boundPager : PagerSession where
  file := ⟨.database, 0⟩
  superblock :=
    { pageSize := 4096, generation := 1, checkpointLsn := 1, rootPage := 0, freelistPage := 0
      nextPageId := 2, fileId := boundSeal.fileId, flags := 3, salt := List.replicate 16 9
      keyWrapId := 1, kdfIterations := 600000, wrappedKey := List.replicate 32 7
      keyWrapTag := List.replicate 16 1 }
  dataKey := some boundKey
  walFile := none
  walIndex := []
  walTail := walHeaderSize
  currentLsn := 1
  checkpointThreshold := 4096000
  needsRecovery := false
  transactionActive := false
  isOpen := true
  cache := pageCacheInit 8
  deferCommit := false
  syncRelaxed := false
  writtenLsn := 1
  durableLsn := 1
  pendingTxnId := none
  commitError := none

def boundDisk : FileDisk where
  directory := ⟨fun _ => none, []⟩
  files _ := ⟨List.replicate 8192 0 ++ boundPage, []⟩
  fresh := 1

def boundBuffer : Bytes := List.replicate 4096 0

lemma unforged_bound {content : Bytes} (h : 238 ∉ content) :
    Unforged boundCipher boundKey (· = boundSeal) content := by
  apply unforged_marked _ h
  intro nonce aad plaintext hlisted
  simp only [Bool.and_eq_true, decide_eq_true_eq] at hlisted
  exact ⟨boundSeal, rfl, hlisted.1.1.symm, hlisted.1.2.symm, hlisted.2.symm⟩

lemma unforged_boundDisk (file : FileInode) :
    Unforged boundCipher boundKey (· = boundSeal) (boundDisk.bytes file) := by
  apply unforged_bound
  show 238 ∉ List.replicate 8192 0 ++ boundPage
  decide +kernel

theorem encrypted_page_bound_sample :
    (∃ page view, encryptedPageEncode boundCipher boundSeal.fileId boundKey boundSeal.nonce 4096
        .data 1 1 boundSeal.plaintext = .ok page ∧
      pageDecode boundCipher 4096 1 page = .ok view ∧ view.pageLsn = 1 ∧
      encryptedPageDecrypt boundCipher boundSeal.fileId boundKey 1 view
        (payloadCapacity 4096 (some boundKey)) = .ok (.data, boundSeal.plaintext)) ∧
    ∃ outcome, ((boundPager.pagerRead boundCipher 1 boundBuffer).run exec boundDisk).1 =
        .ok outcome ∧
      (ReturnsSealed boundCipher boundKey (· = boundSeal) boundPager boundDisk 1 outcome ∨
        RejectsPage boundPager boundDisk 1 boundBuffer outcome) := by
  obtain ⟨hround, hread⟩ := encrypted_page_bound
  constructor
  · exact hround boundCipher boundSeal.fileId boundKey ⟨boundSeal.nonce, rfl⟩ 4096 1 .data 1
      boundSeal.plaintext (by decide) (by decide) (by decide) (by decide)
  · -- stated for any pager first, so that no read is run to compare two statements
    have hruns : ∀ (pager : PagerSession) (disk : FileDisk), pager.dataKey = some boundKey →
        pager.superblock.fileId.length = fileIdSize →
        (pageCacheGet pager.cache 1).1 = none →
        (∀ file, Unforged boundCipher boundKey (· = boundSeal) (disk.bytes file)) →
        ∃ outcome, ((pager.pagerRead boundCipher 1 boundBuffer).run exec disk).1 = .ok outcome ∧
          (ReturnsSealed boundCipher boundKey (· = boundSeal) pager disk 1 outcome ∨
            RejectsPage pager disk 1 boundBuffer outcome) := by
      intro pager disk hkey hfile hmiss hunforged
      exact hread boundCipher boundKey (· = boundSeal) pager disk _ 1 boundBuffer _ hkey hfile
        hmiss (hunforged _) (fun wal _ => hunforged wal) (finishes_faulty _ disk)
    exact hruns boundPager boundDisk rfl rfl (by decide) unforged_boundDisk

end Sample

end ShibaDb
