/-
The superblock as it is stored: the 160-byte header with its checksum, and the
slot of 4096 bytes around it with the tag of an authenticated header.
-/
import ShibaDb.Pager.PageCodec

namespace ShibaDb

open LittleEndian List

/-- `sdb_superblock_v1`: the fields the pager works with, the flags and the
wrapped data key. -/
structure SuperblockV1 extends Superblock where
  flags : Nat
  salt : Bytes
  keyWrapId : Nat
  kdfIterations : Nat
  wrappedKey : Bytes
  keyWrapTag : Bytes
  deriving DecidableEq, Repr

def superblockHeaderSize : Nat := 160
def superblockSlotSize : Nat := 4096
def superblockChecksumOffset : Nat := 88
def minKdfIterations : Nat := 600000
def maxKdfIterations : Nat := 10000000

def superblockMagic : Bytes := [83, 72, 73, 66, 65, 67, 48, 49]

@[simp] lemma superblockMagic_length : superblockMagic.length = 8 := by decide

/-- `SDB_FLAG_ENCRYPTED`. -/
def SuperblockV1.encrypted (superblock : SuperblockV1) : Bool := superblock.flags.testBit 0

/-- `SDB_FLAG_HEADER_AUTH`. -/
def SuperblockV1.headerAuth (superblock : SuperblockV1) : Bool := superblock.flags.testBit 1

def bytesAllZero (bytes : Bytes) : Bool := !bytes.any (· ≠ 0)

/-- The key-wrapping fields an encrypted or a plaintext superblock may have. -/
def keyFieldsValid (superblock : SuperblockV1) : Bool :=
  if superblock.encrypted then
    !bytesAllZero superblock.salt && superblock.keyWrapId ≠ 0
      && minKdfIterations ≤ superblock.kdfIterations
      && superblock.kdfIterations ≤ maxKdfIterations
      && !bytesAllZero superblock.wrappedKey && !bytesAllZero superblock.keyWrapTag
  else
    superblock.keyWrapId = 0 && superblock.kdfIterations = 0
      && bytesAllZero superblock.wrappedKey && bytesAllZero superblock.keyWrapTag

/-- `sdb_validate_superblock_detailed`. -/
def superblockV1Valid (superblock : SuperblockV1) : Bool :=
  superblockValid superblock.toSuperblock
    && superblock.flags < 4 && (!superblock.headerAuth || superblock.encrypted)
    && keyFieldsValid superblock

/-- The header with the given checksum field. -/
def superblockImage (superblock : SuperblockV1) (checksum : Nat) : Bytes :=
  superblockMagic ++ (write 2 2 ++ (write 2 superblockHeaderSize ++
    (write 4 superblock.pageSize ++ (write 4 superblock.flags ++ (write 4 0 ++
      (write 8 superblock.generation ++ (write 8 superblock.checkpointLsn ++
        (write 8 superblock.rootPage.toNat ++ (write 8 superblock.freelistPage.toNat ++
          (superblock.salt ++ (superblock.fileId ++ (write 4 checksum ++
            (write 8 superblock.nextPageId ++ (write 4 superblock.keyWrapId ++
              (write 4 superblock.kdfIterations ++ (superblock.wrappedKey ++
                (superblock.keyWrapTag ++ write 4 0)))))))))))))))))

/-- `sdb_superblock_v1_encode` without the zeros behind the header. -/
def superblockV1Encode (prim : Primitives) (superblock : SuperblockV1) : Except SdbError Bytes :=
  if superblockV1Valid superblock then
    .ok (superblockImage superblock (prim.crc32 (superblockImage superblock 0)).toNat)
  else .error .invalidArgument

def superblockV1Decode (prim : Primitives) (input : Bytes) : Except SdbError SuperblockV1 :=
  let version := read (field 8 2 input)
  if input.length < superblockHeaderSize then .error .bufferTooSmall
  else if field 0 8 input ≠ superblockMagic then .error .badMagic
  else if version ≠ 1 && version ≠ 2 then .error .unsupportedVersion
  else if read (field 10 2 input) ≠ superblockHeaderSize then .error .corrupt
  else if read (field superblockChecksumOffset 4 input) ≠
      crc32ZeroedRange prim (input.take superblockHeaderSize) superblockChecksumOffset 4 then
    .error .corrupt
  else if !bytesAllZero (field 20 4 input) || !bytesAllZero (field 156 4 input) then
    .error .corrupt
  else
    let decoded : SuperblockV1 :=
      { pageSize := read (field 12 4 input)
        flags := read (field 16 4 input)
        generation := read (field 24 8 input)
        checkpointLsn := read (field 32 8 input)
        rootPage := UInt64.ofNat (read (field 40 8 input))
        freelistPage := UInt64.ofNat (read (field 48 8 input))
        salt := field 56 16 input
        fileId := field 72 16 input
        nextPageId := read (field 92 8 input)
        keyWrapId := read (field 100 4 input)
        kdfIterations := read (field 104 4 input)
        wrappedKey := field 108 32 input
        keyWrapTag := field 140 16 input }
    if superblockV1Valid decoded then .ok decoded else .error .corrupt

/-- The tag of an authenticated header. -/
def superblockTag (prim : Primitives) (superblock : SuperblockV1) (dataKey : Option Bytes)
    (header : Bytes) : Except SdbError Bytes :=
  if superblock.headerAuth then
    match dataKey with
    | none => .error .invalidArgument
    | some key => .ok (prim.hmacSha256 key header)
  else .ok []

def encodeSlot (prim : Primitives) (superblock : SuperblockV1) (dataKey : Option Bytes) :
    Except SdbError Bytes := do
  let header ← superblockV1Encode prim superblock
  let tag ← superblockTag prim superblock dataKey header
  .ok (header ++ (tag ++ List.replicate (superblockSlotSize - header.length - tag.length) 0))

def slotPaddingIsZero (slot : Bytes) (superblock : SuperblockV1) : Bool :=
  bytesAllZero (slot.drop (if superblock.headerAuth then superblockHeaderSize + 32
    else superblockHeaderSize))

/-- The superblock of a slot that is valid. -/
def slotSuperblock (prim : Primitives) (slot : Bytes) : Option SuperblockV1 :=
  match superblockV1Decode prim slot with
  | .error _ => none
  | .ok superblock => if slotPaddingIsZero slot superblock then some superblock else none

def slotAuthTagMatches (prim : Primitives) (slot dataKey : Bytes) : Bool :=
  prim.hmacSha256 dataKey (slot.take superblockHeaderSize) = field superblockHeaderSize 32 slot

/-- The numbers and byte strings of a superblock fit their fields. -/
structure SuperblockV1.Sized (superblock : SuperblockV1) : Prop where
  generation : superblock.generation < 2 ^ 64
  checkpointLsn : superblock.checkpointLsn < 2 ^ 64
  keyWrapId : superblock.keyWrapId < 2 ^ 32
  kdfIterations : superblock.kdfIterations < 2 ^ 32
  salt : superblock.salt.length = 16
  fileId : superblock.fileId.length = 16
  wrappedKey : superblock.wrappedKey.length = 32
  keyWrapTag : superblock.keyWrapTag.length = 16

section RoundTrip

variable {prim : Primitives} {superblock : SuperblockV1} {dataKey : Option Bytes} {slot : Bytes}

lemma superblockImage_length (hsized : superblock.Sized) (checksum : Nat) :
    (superblockImage superblock checksum).length = superblockHeaderSize := by
  simp [superblockImage, hsized.salt, hsized.fileId, hsized.wrappedKey, hsized.keyWrapTag,
    superblockHeaderSize]

lemma zeroRange_superblockImage (hsized : superblock.Sized) (checksum : Nat) :
    zeroRange (superblockImage superblock checksum) superblockChecksumOffset 4 =
      superblockImage superblock 0 := by
  have hzero : write 4 0 = List.replicate 4 0 := by decide
  simp only [zeroRange, superblockImage, superblockChecksumOffset, hzero]
  simp [take_skip, drop_skip, hsized.salt, hsized.fileId]

lemma superblockValid_nextPageId (h : superblockValid superblock.toSuperblock = true) :
    superblock.nextPageId < 2 ^ 64 :=
  pageGeometryValid_lt (geometry_of_superblockValid h).2

lemma superblockValid_pageSize (h : superblockValid superblock.toSuperblock = true) :
    superblock.pageSize < 2 ^ 32 :=
  (pageSize_bounds (geometry_of_superblockValid h).1).2.trans_lt (by decide)

/-- A stored header decodes to the superblock, whatever follows it. -/
lemma superblockV1Decode_image (hsized : superblock.Sized)
    (hvalid : superblockV1Valid superblock = true) (after : Bytes) :
    superblockV1Decode prim (superblockImage superblock
      (prim.crc32 (superblockImage superblock 0)).toNat ++ after) = .ok superblock := by
  have hbase : superblockValid superblock.toSuperblock = true ∧ superblock.flags < 4 := by
    simp only [superblockV1Valid, Bool.and_eq_true, decide_eq_true_eq] at hvalid
    exact hvalid.1.1
  generalize hchecksum : (prim.crc32 (superblockImage superblock 0)).toNat = checksum
  have hchecksumLt : checksum < 256 ^ 4 := hchecksum ▸ UInt32.toNat_lt _
  have hlength := superblockImage_length hsized checksum
  have hstored : crc32ZeroedRange prim ((superblockImage superblock checksum ++ after).take
      superblockHeaderSize) superblockChecksumOffset 4 = checksum := by
    rw [take_left' hlength, crc32ZeroedRange, zeroRange_superblockImage hsized, hchecksum]
  have hshort : ¬(superblockImage superblock checksum ++ after).length < superblockHeaderSize := by
    rw [length_append, hlength]
    omega
  generalize hbytes : superblockImage superblock checksum ++ after = bytes at hstored hshort ⊢
  have hfields : field 0 8 bytes = superblockMagic ∧ field 8 2 bytes = write 2 2 ∧
      field 10 2 bytes = write 2 superblockHeaderSize ∧
      field 12 4 bytes = write 4 superblock.pageSize ∧
      field 16 4 bytes = write 4 superblock.flags ∧ field 20 4 bytes = write 4 0 ∧
      field 24 8 bytes = write 8 superblock.generation ∧
      field 32 8 bytes = write 8 superblock.checkpointLsn ∧
      field 40 8 bytes = write 8 superblock.rootPage.toNat ∧
      field 48 8 bytes = write 8 superblock.freelistPage.toNat ∧
      field 56 16 bytes = superblock.salt ∧ field 72 16 bytes = superblock.fileId := by
    rw [← hbytes]
    simp [superblockImage, field_skip, field_head, append_assoc, hsized.salt, hsized.fileId]
  have hkeyFields : field 88 4 bytes = write 4 checksum ∧
      field 92 8 bytes = write 8 superblock.nextPageId ∧
      field 100 4 bytes = write 4 superblock.keyWrapId ∧
      field 104 4 bytes = write 4 superblock.kdfIterations ∧
      field 108 32 bytes = superblock.wrappedKey ∧
      field 140 16 bytes = superblock.keyWrapTag ∧ field 156 4 bytes = write 4 0 := by
    rw [← hbytes]
    simp [superblockImage, field_skip, field_head, append_assoc, hsized.salt, hsized.fileId,
      hsized.wrappedKey, hsized.keyWrapTag]
  obtain ⟨hmagic, hversion, hsize, hpageSize, hflags, hpad, hgeneration, hcheckpoint, hroot,
    hfreelist, hsalt, hfileId⟩ := hfields
  obtain ⟨hsum, hnext, hwrapId, hkdf, hwrapped, htag, htail⟩ := hkeyFields
  have hflagsLt : superblock.flags < 256 ^ 4 := lt_trans hbase.2 (by decide)
  simp only [superblockV1Decode, hshort, hmagic, read_field_write hversion (by decide),
    read_field_write hsize (by decide), superblockChecksumOffset,
    read_field_write hsum hchecksumLt, hpad, htail,
    read_field_write hpageSize (superblockValid_pageSize hbase.1),
    read_field_write hflags hflagsLt, read_field_write hgeneration hsized.generation,
    read_field_write hcheckpoint hsized.checkpointLsn,
    read_field_write hroot superblock.rootPage.toNat_lt,
    read_field_write hfreelist superblock.freelistPage.toNat_lt,
    read_field_write hnext (superblockValid_nextPageId hbase.1),
    read_field_write hwrapId hsized.keyWrapId, read_field_write hkdf hsized.kdfIterations,
    hsalt, hfileId, hwrapped, htag, UInt64.ofNat_toNat]
  have hzero : bytesAllZero (write 4 0) = true := by decide
  simp only [superblockChecksumOffset] at hstored
  simp [hstored, hzero, hvalid]

end RoundTrip

section Slots

variable {prim : Primitives} {superblock : SuperblockV1} {dataKey : Option Bytes} {slot : Bytes}

/-- The header bytes of a stored superblock. -/
def superblockHeader (prim : Primitives) (superblock : SuperblockV1) : Bytes :=
  superblockImage superblock (prim.crc32 (superblockImage superblock 0)).toNat

/-- What an encoded slot consists of. -/
lemma encodeSlot_eq_ok (hsized : superblock.Sized)
    (h : encodeSlot prim superblock dataKey = .ok slot) :
    superblockV1Valid superblock = true ∧ ∃ tag,
      superblockTag prim superblock dataKey (superblockHeader prim superblock) = .ok tag ∧
      slot = superblockHeader prim superblock ++ (tag ++
        List.replicate (superblockSlotSize - superblockHeaderSize - tag.length) 0) := by
  rw [encodeSlot, Fallible.except_bind_eq_ok] at h
  obtain ⟨header, hheader, h⟩ := h
  rw [Fallible.except_bind_eq_ok] at h
  obtain ⟨tag, htag, h⟩ := h
  unfold superblockV1Encode at hheader
  split at hheader
  · rename_i hvalid
    obtain rfl := Except.ok.inj hheader
    refine ⟨hvalid, tag, htag, ?_⟩
    rw [← Except.ok.inj h, superblockImage_length hsized]
    rfl
  · cases hheader

lemma superblockTag_length {header tag : Bytes}
    (h : superblockTag prim superblock dataKey header = .ok tag) :
    tag.length = if superblock.headerAuth then 32 else 0 := by
  unfold superblockTag at h
  split at h
  · rename_i hauth
    rw [if_pos hauth]
    cases dataKey with
    | none => cases h
    | some key =>
      rw [← Except.ok.inj h]
      exact prim.hmacSha256_length _ _
  · rename_i hauth
    rw [if_neg hauth, ← Except.ok.inj h, length_nil]

lemma superblockHeader_length (hsized : superblock.Sized) :
    (superblockHeader prim superblock).length = superblockHeaderSize :=
  superblockImage_length hsized _

lemma encodeSlot_length (hsized : superblock.Sized)
    (h : encodeSlot prim superblock dataKey = .ok slot) : slot.length = superblockSlotSize := by
  obtain ⟨-, tag, htag, rfl⟩ := encodeSlot_eq_ok hsized h
  have hlength := superblockTag_length htag
  have htagLength : tag.length ≤ 32 := by
    rw [hlength]
    split <;> decide
  rw [length_append, superblockHeader_length hsized, length_append,
    length_replicate, superblockSlotSize, superblockHeaderSize]
  omega

/-- An encoded slot is valid and holds the superblock. -/
lemma slotSuperblock_encodeSlot (hsized : superblock.Sized)
    (h : encodeSlot prim superblock dataKey = .ok slot) :
    slotSuperblock prim slot = some superblock := by
  obtain ⟨hvalid, tag, htag, rfl⟩ := encodeSlot_eq_ok hsized h
  have hlength := superblockTag_length htag
  have hstart : (if superblock.headerAuth then superblockHeaderSize + 32
      else superblockHeaderSize) = (superblockHeader prim superblock).length + tag.length := by
    rw [superblockHeader_length hsized, hlength]
    split <;> rfl
  have hpadding : slotPaddingIsZero (superblockHeader prim superblock ++ (tag ++
      List.replicate (superblockSlotSize - superblockHeaderSize - tag.length) 0))
        superblock = true := by
    rw [slotPaddingIsZero, hstart, ← append_assoc, drop_left' length_append]
    simp [bytesAllZero]
  rw [slotSuperblock, superblockHeader, superblockV1Decode_image hsized hvalid]
  exact if_pos hpadding

/-- The tag of an encoded slot authenticates it. -/
lemma slotAuthTagMatches_encodeSlot {key : Bytes} (hsized : superblock.Sized)
    (hauth : superblock.headerAuth = true) (h : encodeSlot prim superblock (some key) = .ok slot) :
    slotAuthTagMatches prim slot key = true := by
  obtain ⟨-, tag, htag, rfl⟩ := encodeSlot_eq_ok hsized h
  have hlength := superblockTag_length htag
  rw [if_pos hauth] at hlength
  rw [superblockTag, if_pos hauth] at htag
  rw [slotAuthTagMatches, take_left' (superblockHeader_length hsized), Except.ok.inj htag,
    field_skip _ (superblockHeader_length hsized).le, superblockHeader_length hsized,
    Nat.sub_self, field_head _ hlength]
  simp

end Slots

/-- A plaintext database with one page. -/
def plainSuperblock : SuperblockV1 :=
  { pageSize := 4096, generation := 1, checkpointLsn := 0, rootPage := 0, freelistPage := 0
    nextPageId := 2, fileId := List.replicate 16 5, flags := 0, salt := List.replicate 16 9
    keyWrapId := 0, kdfIterations := 0, wrappedKey := List.replicate 32 0
    keyWrapTag := List.replicate 16 0 }

lemma plainSuperblock_sized : plainSuperblock.Sized := by constructor <;> decide

end ShibaDb
