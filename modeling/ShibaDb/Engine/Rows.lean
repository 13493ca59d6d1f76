/-
The row values of `engine.c`: the metadata row of an object, the owner a unique
guard names, and the term a reverse row records.
-/
import ShibaDb.Engine.Keys

namespace ShibaDb

open LittleEndian

def objectMetadataSize : Nat := 64
def objectChunkTarget : Nat := 2048

structure ObjectMetadata where
  kind : ObjectKind
  generation : UInt64
  totalSize : Nat
  chunkCount : Nat
  chunkSize : Nat
  digest : Bytes
  deriving DecidableEq

/-- The magic `SOM1`. -/
def objectMagic : Bytes := [0x53, 0x4f, 0x4d, 0x31]

def objectMetadataEncode (metadata : ObjectMetadata) : Bytes :=
  objectMagic ++ (write 2 1 ++ (write 2 metadata.kind.code.toNat ++
    (write 8 metadata.generation.toNat ++ (write 8 metadata.totalSize ++
      (write 4 metadata.chunkCount ++ (write 4 metadata.chunkSize ++ metadata.digest))))))

/-- How many chunks of `chunkSize` bytes hold `totalSize` bytes. -/
def chunkCountFor (totalSize chunkSize : Nat) : Nat :=
  totalSize / chunkSize + if totalSize % chunkSize ≠ 0 then 1 else 0

def objectMetadataValid (metadata : ObjectMetadata) : Bool :=
  metadata.generation ≠ 0 && metadata.chunkSize ≤ objectChunkTarget &&
    (metadata.totalSize ≠ 0 || (metadata.chunkCount = 0 && metadata.chunkSize = 0)) &&
    (metadata.totalSize = 0 || (metadata.chunkCount ≠ 0 && metadata.chunkSize ≠ 0)) &&
    (metadata.chunkCount = 0 ||
      chunkCountFor metadata.totalSize metadata.chunkSize = metadata.chunkCount)

def objectMetadataDecode (input : Bytes) (expectedKind : ObjectKind) :
    Except SdbError ObjectMetadata :=
  if input.length ≠ objectMetadataSize || field 0 4 input ≠ objectMagic
      || read (field 4 2 input) ≠ 1
      || read (field 6 2 input) ≠ expectedKind.code.toNat then .error .corrupt
  else
    let metadata : ObjectMetadata :=
      { kind := expectedKind
        generation := UInt64.ofNat (read (field 8 8 input))
        totalSize := read (field 16 8 input)
        chunkCount := read (field 24 4 input)
        chunkSize := read (field 28 4 input)
        digest := field 32 32 input }
    if objectMetadataValid metadata then .ok metadata else .error .corrupt

/-- The value of a unique guard. -/
def guardValue (generation : UInt64) (document : Bytes) : Bytes :=
  write 8 generation.toNat ++ (write 2 document.length ++ document)

/-- The generation and the document id a guard names, as `sdb_unique_guard_check` and
`sdb_document_reclaim_guard` read them. -/
def guardOwner (value : Bytes) : Except SdbError (UInt64 × Bytes) :=
  if value.length < 10 then .error .corrupt
  else if read (field 8 2 value) ≠ value.length - 10 then .error .corrupt
  else .ok (UInt64.ofNat (read (field 0 8 value)), value.drop 10)

/-- `sdb_index_term` as a caller passes it. -/
structure IndexTerm where
  indexName : Bytes
  value : Bytes
  deriving DecidableEq

def Term.raw (term : Term) : IndexTerm :=
  { indexName := term.index.bytes, value := term.value.bytes }

def indexReverseMaxValue : Nat := 12 + 2 * engineMaxNameSize

/-- The value of a reverse row. -/
def reverseValue (generation : UInt64) (term : IndexTerm) : Bytes :=
  write 8 generation.toNat ++ (write 2 term.indexName.length ++ (term.indexName ++
    (write 2 term.value.length ++ term.value)))

def indexReverseEncodeTerm (generation : UInt64) (term : IndexTerm) (valueCapacity : Nat) :
    Except SdbError Bytes :=
  if !engineBytesValid term.indexName || !engineBytesValid term.value then
    .error .invalidArgument
  else if valueCapacity < 12 + term.indexName.length + term.value.length then
    .error .bufferTooSmall
  else .ok (reverseValue generation term)

def indexReverseDecodeTerm (value : Bytes) : Except SdbError (UInt64 × IndexTerm) :=
  if value.length < 12 then .error .corrupt
  else
    let nameSize := read (field 8 2 value)
    if nameSize = 0 || nameSize > engineMaxNameSize || value.length < 12 + nameSize then
      .error .corrupt
    else
      let termValueSize := read (field (10 + nameSize) 2 value)
      if termValueSize = 0 || termValueSize > engineMaxNameSize
          || value.length ≠ 12 + nameSize + termValueSize then .error .corrupt
      else
        .ok (UInt64.ofNat (read (field 0 8 value)),
          { indexName := field 10 nameSize value
            value := field (12 + nameSize) termValueSize value })

section RoundTrips

/-- A metadata row the engine writes: its numbers fit their fields, and its checks
pass. -/
structure ObjectMetadata.Sized (metadata : ObjectMetadata) : Prop where
  totalSize : metadata.totalSize < 2 ^ 64
  chunkCount : metadata.chunkCount < 2 ^ 32
  chunkSize : metadata.chunkSize < 2 ^ 32
  digest : metadata.digest.length = 32
  valid : objectMetadataValid metadata = true

lemma objectMetadataEncode_length {metadata : ObjectMetadata}
    (hdigest : metadata.digest.length = 32) :
    (objectMetadataEncode metadata).length = objectMetadataSize := by
  simp [objectMetadataEncode, objectMagic, objectMetadataSize, hdigest]

@[simp] lemma ofNat_read_write (value : UInt64) :
    UInt64.ofNat (read (write 8 value.toNat)) = value := by
  rw [read_write_of_lt (show value.toNat < 256 ^ 8 from value.toNat_lt), UInt64.ofNat_toNat]

lemma objectMetadataDecode_encode {metadata : ObjectMetadata} (hsized : metadata.Sized) :
    objectMetadataDecode (objectMetadataEncode metadata) metadata.kind = .ok metadata := by
  have hcode : metadata.kind.code.toNat < 256 ^ 2 :=
    lt_trans metadata.kind.code.toNat_lt (by decide)
  have hfields : field 0 4 (objectMetadataEncode metadata) = objectMagic ∧
      field 4 2 (objectMetadataEncode metadata) = write 2 1 ∧
      field 6 2 (objectMetadataEncode metadata) = write 2 metadata.kind.code.toNat ∧
      field 8 8 (objectMetadataEncode metadata) = write 8 metadata.generation.toNat ∧
      field 16 8 (objectMetadataEncode metadata) = write 8 metadata.totalSize ∧
      field 24 4 (objectMetadataEncode metadata) = write 4 metadata.chunkCount ∧
      field 28 4 (objectMetadataEncode metadata) = write 4 metadata.chunkSize ∧
      field 32 32 (objectMetadataEncode metadata) = metadata.digest := by
    simp [objectMetadataEncode, show objectMagic.length = 4 from rfl, field_skip, field_head,
      field_full hsized.digest]
  obtain ⟨hmagic, hversion, hkind, hgeneration, htotal, hcount, hsize, hdigest⟩ := hfields
  simp only [objectMetadataDecode, objectMetadataEncode_length hsized.digest, hmagic, hversion,
    hkind, hgeneration, htotal, hcount, hsize, hdigest, ofNat_read_write, read_write_of_lt hcode,
    read_write_of_lt (show metadata.totalSize < 256 ^ 8 from hsized.totalSize),
    read_write_of_lt (show metadata.chunkCount < 256 ^ 4 from hsized.chunkCount),
    read_write_of_lt (show metadata.chunkSize < 256 ^ 4 from hsized.chunkSize),
    read_write_of_lt (show 1 < 256 ^ 2 by decide)]
  simp [hsized.valid]

@[simp] lemma guardValue_length (generation : UInt64) (document : Bytes) :
    (guardValue generation document).length = 10 + document.length := by
  simp only [guardValue, List.length_append, write_length]
  omega

lemma guardOwner_guardValue (generation : UInt64) (document : Name) :
    guardOwner (guardValue generation document.bytes) = .ok (generation, document.bytes) := by
  have hsize : field 8 2 (guardValue generation document.bytes) =
      write 2 document.bytes.length := by
    rw [guardValue, field_skip _ (by simp)]
    exact field_head _ (by simp)
  have hgeneration : field 0 8 (guardValue generation document.bytes) =
      write 8 generation.toNat := field_head _ (by simp)
  have hdocument : (guardValue generation document.bytes).drop 10 = document.bytes := by
    rw [guardValue, drop_skip _ (by simp), drop_skip _ (by simp)]
    simp
  simp [guardOwner, hsize, hgeneration, hdocument, read_write_of_lt document.length_lt]

lemma reverseValue_length (generation : UInt64) (term : IndexTerm) :
    (reverseValue generation term).length = 12 + term.indexName.length + term.value.length := by
  simp only [reverseValue, List.length_append, write_length]
  omega

lemma indexReverseEncodeTerm_eq_ok (generation : UInt64) (term : Term) :
    indexReverseEncodeTerm generation term.raw indexReverseMaxValue =
      .ok (reverseValue generation term.raw) := by
  have hroom : ¬indexReverseMaxValue < 12 + term.raw.indexName.length + term.raw.value.length := by
    have hname := term.index.length_le
    have hvalue := term.value.length_le
    simp only [indexReverseMaxValue, engineMaxNameSize, Term.raw]
    omega
  simp only [indexReverseEncodeTerm, Term.raw, term.index.valid, term.value.valid] at hroom ⊢
  simp [hroom]

lemma indexReverseDecodeTerm_reverseValue (generation : UInt64) (term : Term) :
    indexReverseDecodeTerm (reverseValue generation term.raw) = .ok (generation, term.raw) := by
  have hname := term.index.length_bounds
  have hvalue := term.value.length_bounds
  have hfields : field 0 8 (reverseValue generation term.raw) = write 8 generation.toNat ∧
      field 8 2 (reverseValue generation term.raw) = write 2 term.index.bytes.length ∧
      field 10 term.index.bytes.length (reverseValue generation term.raw) = term.index.bytes := by
    simp [reverseValue, Term.raw, field_skip, field_head]
  have hbehind : ∀ offset width, field (10 + term.index.bytes.length + offset) width
      (reverseValue generation term.raw) =
        field offset width (write 2 term.value.bytes.length ++ term.value.bytes) := by
    intro offset width
    rw [reverseValue, field_skip _ (by simp; omega), field_skip _ (by simp; omega),
      field_skip _ (by simp [Term.raw]; omega)]
    congr 1
    simp [Term.raw]
    omega
  have hvalueField := hbehind 0 2
  have hvalueBytes := hbehind 2 term.value.bytes.length
  rw [field_head _ (by simp), Nat.add_zero] at hvalueField
  rw [field_skip _ (by simp), write_length, field_full rfl, Nat.add_right_comm] at hvalueBytes
  have hlength : (reverseValue generation term.raw).length =
      12 + term.index.bytes.length + term.value.bytes.length := reverseValue_length ..
  simp only [indexReverseDecodeTerm, hfields, read_write_of_lt term.index.length_lt, hvalueField,
    read_write_of_lt term.value.length_lt, hvalueBytes, hlength]
  simp only [Bool.or_eq_true, decide_eq_true_eq]
  rw [if_neg (by omega), if_neg (by omega), if_neg (by omega)]
  simp [Term.raw]

/-- The rows beside an object read back as they were written: its metadata, the owner of
a unique value and the terms of a document. -/
theorem engineRows_read_back :
    (∀ metadata : ObjectMetadata, metadata.Sized →
      objectMetadataDecode (objectMetadataEncode metadata) metadata.kind = .ok metadata) ∧
    (∀ (generation : UInt64) (document : Name),
      guardOwner (guardValue generation document.bytes) = .ok (generation, document.bytes)) ∧
    ∀ (generation : UInt64) (term : Term), ∃ value,
      indexReverseEncodeTerm generation term.raw indexReverseMaxValue = .ok value ∧
        indexReverseDecodeTerm value = .ok (generation, term.raw) :=
  ⟨fun _ => objectMetadataDecode_encode, guardOwner_guardValue, fun generation term =>
    ⟨_, indexReverseEncodeTerm_eq_ok generation term,
      indexReverseDecodeTerm_reverseValue generation term⟩⟩

/-- The metadata row of an object in two chunks. -/
theorem engineRows_read_back_chunked : ∃ metadata : ObjectMetadata, metadata.chunkCount = 2 ∧
      metadata.Sized ∧
      objectMetadataDecode (objectMetadataEncode metadata) .blob = .ok metadata := by
  have hsized : ObjectMetadata.Sized
      { kind := .blob, generation := 7, totalSize := 3, chunkCount := 2, chunkSize := 2
        digest := List.replicate 32 1 } := by
    constructor <;> decide
  exact ⟨_, rfl, hsized, engineRows_read_back.1 _ hsized⟩

end RoundTrips

end ShibaDb
