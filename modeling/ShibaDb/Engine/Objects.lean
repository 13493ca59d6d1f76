/-
Objects in the tree, after `sdb_object_put` and `sdb_object_delete` of `engine.c`: a
metadata row that names a generation, and the value in chunk rows under that
generation.
-/
import ShibaDb.Engine.Calls

namespace ShibaDb

open LittleEndian CallProgram

def generationCounterKey : Bytes := [sequenceKeyPrefix]

/-- Hand out the next generation; the counter row is staged with the rows it stamps. -/
def engineAllocGeneration : EngineM UInt64 := do
  let current : UInt64 ← Program.request EngineCall.generation
  if current.toNat = uint64Max then Program.fail .overflow
  else
    let next := current + 1
    engineTreePut generationCounterKey (write 8 next.toNat)
    Program.request (EngineCall.setGeneration next)
    pure next

def objectKey (kind : ObjectKind) (space key : Bytes) : EngineM Bytes :=
  enginePairKey objectKeyPrefix kind.code space key []

def chunkKey (kind : ObjectKind) (space key : Bytes) (generation : UInt64) (index : Nat) :
    EngineM Bytes :=
  enginePairKey chunkKeyPrefix kind.code space key (chunkSuffix generation (UInt32.ofNat index))

def objectReadMetadata (kind : ObjectKind) (space key : Bytes) : EngineM ObjectMetadata := do
  let metadataKey ← objectKey kind space key
  let encoded ← engineTreeGet metadataKey objectMetadataSize
  EngineM.ofExcept (objectMetadataDecode encoded kind)

/-- The current version of an object, if there is one. -/
def objectFindMetadata (kind : ObjectKind) (space key : Bytes) :
    EngineM (Option ObjectMetadata) := do
  match ← (objectReadMetadata kind space key).attempt with
  | .ok metadata => pure (some metadata)
  | .error .notFound => pure none
  | .error error => Program.fail error

/-- The bytes a chunk row of the object may hold: two entries have to fit a leaf. -/
def objectChunkSize (leafCapacity keySize : Nat) : Except SdbError Nat :=
  if leafCapacity ≤ btreeNodeHeaderSize then .error .bufferTooSmall
  else
    let balanced := (leafCapacity - btreeNodeHeaderSize) / 2
    if keySize > balanced || balanced - keySize ≤ 6 then .error .bufferTooSmall
    else .ok (min (balanced - keySize - 6) objectChunkTarget)

section Hashing

variable (sha256 : Bytes → Bytes)

def objectPlan (kind : ObjectKind) (space key value : Bytes) : EngineM ObjectMetadata := do
  -- The version found is not used; the read surfaces an unreadable metadata row.
  let _ ← objectFindMetadata kind space key
  let generation ← engineAllocGeneration
  let sampleChunkKey ← chunkKey kind space key generation 0
  let leafCapacity : Nat ← Program.request EngineCall.payloadCapacity
  let chunkSize ← EngineM.ofExcept (objectChunkSize leafCapacity sampleChunkKey.length)
  if value.length = 0 then
    pure { kind, generation, totalSize := 0, chunkCount := 0, chunkSize := 0
           digest := sha256 value }
  else if chunkCountFor value.length chunkSize > uint32Max then Program.fail .overflow
  else
    pure { kind, generation, totalSize := value.length
           chunkCount := chunkCountFor value.length chunkSize, chunkSize
           digest := sha256 value }

/-- The loop of `sdb_object_write_chunks` with `remaining` chunks to go. -/
def objectWriteChunks (metadata : ObjectMetadata) (space key value : Bytes) :
    (remaining index consumed : Nat) → EngineM Unit
  | 0, _, _ => pure ()
  | remaining + 1, index, consumed => do
      let take := min (metadata.totalSize - consumed) metadata.chunkSize
      let chunkKey ← chunkKey metadata.kind space key metadata.generation index
      engineTreePut chunkKey ((value.drop consumed).take take)
      objectWriteChunks metadata space key value remaining (index + 1) (consumed + take)

def objectCommitMetadata (metadata : ObjectMetadata) (space key : Bytes) : EngineM Unit := do
  let metadataKey ← objectKey metadata.kind space key
  engineTreePut metadataKey (objectMetadataEncode metadata)

def objectDeleteChunks (kind : ObjectKind) (space key : Bytes) (generation : UInt64) :
    (remaining index : Nat) → EngineM Unit
  | 0, _ => pure ()
  | remaining + 1, index => do
      let chunkKey ← chunkKey kind space key generation index
      engineTreeDelete chunkKey
      objectDeleteChunks kind space key generation remaining (index + 1)

/-- `sdb_object_put` between its read of the batch's page count and its check of it. -/
def objectPutRows (kind : ObjectKind) (space key value : Bytes) : EngineM Unit := do
  let previous ← objectFindMetadata kind space key
  let metadata ← objectPlan sha256 kind space key value
  objectWriteChunks metadata space key value metadata.chunkCount 0 0
  objectCommitMetadata metadata space key
  match previous with
  | none => pure ()
  | some previous =>
    objectDeleteChunks kind space key previous.generation previous.chunkCount 0

def objectPut (kind : ObjectKind) (space key value : Bytes) : EngineM Unit := do
  let countBefore : Nat ← Program.request EngineCall.stagedCount
  let status ← (objectPutRows sha256 kind space key value).attempt
  mutationPoisonOnPartial countBefore status

end Hashing

/-- `sdb_object_delete` between its read of the page count and its check of it.
Deleting an absent object goes on to the metadata row, which is not there. -/
def objectDeleteRows (kind : ObjectKind) (space key : Bytes) : EngineM Unit := do
  match ← objectFindMetadata kind space key with
  | none => pure ()
  | some metadata =>
    objectDeleteChunks kind space key metadata.generation metadata.chunkCount 0
  let metadataKey ← objectKey kind space key
  engineTreeDelete metadataKey

def objectDelete (kind : ObjectKind) (space key : Bytes) : EngineM Unit := do
  let countBefore : Nat ← Program.request EngineCall.stagedCount
  let status ← (objectDeleteRows kind space key).attempt
  mutationPoisonOnPartial countBefore status

end ShibaDb
