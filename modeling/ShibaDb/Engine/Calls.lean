/-
What the row-level code of `engine.c` asks of the layer below: reads and writes
of the tree through the mutation of an operation, memory, and the object
generation kept beside the pager.  An operation of the engine is a program of such
calls; `engineExec` answers them from a database.
-/
import ShibaDb.BTree.Cursor
import ShibaDb.Engine.Rows
import ShibaDb.Lib.CallProgram

namespace ShibaDb

open LittleEndian CallProgram

/-- A term of a document found through its index entries, with the generation the
entry names. -/
structure LegacyIndexTerm where
  term : IndexTerm
  generation : UInt64

/-- The calls an operation makes. -/
inductive EngineCall where
  /-- `malloc` or `calloc`. -/
  | allocate
  /-- `sdb_engine_tree_get` into a buffer of `capacity` bytes. -/
  | get (key : Bytes) (capacity : Nat)
  | put (key value : Bytes)
  | delete (key : Bytes)
  | payloadCapacity
  /-- `pager.next_object_generation`. -/
  | generation
  | setGeneration (next : UInt64)
  /-- `mutation->batch.count`. -/
  | stagedCount
  /-- Set the failure of the batch, if it has none yet. -/
  | poison (error : SdbError)
  /-- `sdb_document_collect_legacy_terms`. -/
  | legacyTerms (collection document : Bytes)

abbrev EngineReply : EngineCall → Type
  | .allocate => Bool
  | .get _ _ => Lookup
  | .put _ _ => Except SdbError Unit
  | .delete _ => Except SdbError Unit
  | .payloadCapacity => Nat
  | .generation => UInt64
  | .setGeneration _ => Unit
  | .stagedCount => Nat
  | .poison _ => Unit
  | .legacyTerms _ _ => Except SdbError (List LegacyIndexTerm)

abbrev EngineM := Program EngineCall EngineReply SdbError

/-- Return a status that was computed without a call. -/
def EngineM.ofExcept {α : Type} (result : Except SdbError α) : EngineM α := .done result

/-- Allocate the result of a builder. -/
def engineAllocate : EngineM Unit := do
  if ← Program.request .allocate then pure () else Program.fail .outOfMemory

def engineTreeGet (key : Bytes) (capacity : Nat) : EngineM Bytes := do
  let lookup ← Program.request (.get key capacity)
  match lookup.status with
  | .ok _ => pure lookup.value
  | .error error => Program.fail error

def engineTreePut (key value : Bytes) : EngineM Unit := do
  EngineM.ofExcept (← Program.request (.put key value))

def engineTreeDelete (key : Bytes) : EngineM Unit := do
  EngineM.ofExcept (← Program.request (.delete key))

/-- `sdb_mutation_poison_on_partial`: an operation that failed after it staged a page
poisons its batch. -/
def mutationPoisonOnPartial {α : Type} (countBefore : Nat) (status : Except SdbError α) :
    EngineM α := do
  match status with
  | .ok value => pure value
  | .error error =>
    let count : Nat ← Program.request EngineCall.stagedCount
    if count ≠ countBefore then
      Program.request (EngineCall.poison error)
    Program.fail error

/-- `sdb_engine_pair_key` with its suffix filled in. -/
def enginePairKey (lead kind : UInt8) (space key suffix : Bytes) : EngineM Bytes :=
  if !engineBytesValid space || !engineBytesValid key then Program.fail .invalidArgument
  else do
    engineAllocate
    pure (pairKeyBytes lead kind space key suffix)

/-- `sdb_index_base_key` with its suffix filled in. -/
def indexBaseKey (lead : UInt8) (collection index value suffix : Bytes) : EngineM Bytes :=
  if !engineBytesValid collection || !engineBytesValid index
      || value.length > engineMaxNameSize then Program.fail .invalidArgument
  else do
    engineAllocate
    pure (indexKeyBytes lead collection index value suffix)

/-- The row a cursor stands on, taken apart as an index entry; the checks of
`sdb_document_collect_legacy_terms`. -/
structure EntryParts where
  collection : Bytes
  term : IndexTerm
  document : Bytes
  generation : UInt64

def entryKeyParts (key : Bytes) : Except SdbError EntryParts :=
  let collectionSize := read (field 1 2 key)
  let nameSize := read (field 3 2 key)
  let valueSize := read (field 5 2 key)
  if collectionSize = 0 || nameSize = 0 || valueSize = 0
      || collectionSize > engineMaxNameSize || nameSize > engineMaxNameSize
      || valueSize > engineMaxNameSize
      || key.length < 7 + collectionSize + nameSize + valueSize then .error .corrupt
  else
    let baseSize := 7 + collectionSize + nameSize + valueSize
    if key.length < baseSize + 10 then .error .corrupt
    else
      let documentSize := read (field baseSize 2 key)
      if documentSize = 0 || documentSize > engineMaxNameSize
          || key.length ≠ baseSize + 10 + documentSize then .error .corrupt
      else
        .ok
          { collection := field 7 collectionSize key
            term :=
              { indexName := field (7 + collectionSize) nameSize key
                value := field (7 + collectionSize + nameSize) valueSize key }
            document := field (baseSize + 2) documentSize key
            generation := UInt64.ofNat (read (field (baseSize + 2 + documentSize) 8 key)) }

/-- One row of the scan of `sdb_document_collect_legacy_terms`. -/
def collectLegacyRow (collection document : Bytes) (terms : List LegacyIndexTerm)
    (row : Bytes × Bytes) : Except SdbError (List LegacyIndexTerm × Bool) :=
  if row.1.head? ≠ some indexEntryPrefix then .ok (terms, false)
  else if row.1.length < 17 || row.2.length ≠ 0 then .error .corrupt
  else do
    let parts ← entryKeyParts row.1
    if parts.collection = collection && parts.document = document then
      if parts.generation = 0 then .error .corrupt
      else .ok (terms ++ [{ term := parts.term, generation := parts.generation }], true)
    else .ok (terms, true)

def documentCollectLegacyTerms (pager : Pager) (collection document : Bytes) :
    Except SdbError (List LegacyIndexTerm) := do
  let cursor ← btreeCursorSeek pager pager.superblock.rootPage [indexEntryPrefix]
  btreeCursorLoop pager (pagerPayloadCapacity pager) (collectLegacyRow collection document)
    (btreeRowLimit pager) cursor []

/-- The database handle as its operations use it. -/
structure Database where
  pager : Pager
  nextObjectGeneration : UInt64

/-- An operation at work: the database, the batch of its mutation, which a plain read
does not have, and whether each of the next allocations succeeds; all after the list
do. -/
structure EngineWorld where
  database : Database
  batch : Option BTreeBatch
  memory : List Bool

namespace EngineWorld

/-- The outcome of the next allocation. -/
def allocates (world : EngineWorld) : Bool := world.memory.headD true

def allocated (world : EngineWorld) : EngineWorld := { world with memory := world.memory.tail }

/-- Let the batch of the mutation do one step; one that runs out of memory poisons
the batch.  No operation writes without a mutation. -/
def mutate (world : EngineWorld)
    (step : Pager → BTreeBatch → Except SdbError Unit × BTreeBatch) :
    Except SdbError Unit × EngineWorld :=
  match world.batch with
  | none => (.error .invalidArgument, world.allocated)
  | some batch =>
    let (status, batch) :=
      if !batch.active || batch.failure.isSome then (.error .invalidArgument, batch)
      else if world.allocates then step world.database.pager batch
      else (.error .outOfMemory, { batch with failure := some .outOfMemory })
    (status, { world with batch := some batch, memory := world.memory.tail })

/-- `sdb_btree_get` or `sdb_btree_batch_get`. -/
def lookup (world : EngineWorld) (key : Bytes) (capacity : Nat) : Lookup :=
  let pager := world.database.pager
  match world.batch with
  | none => btreeGet pager pager.superblock.rootPage key capacity
  | some batch => btreeBatchGet pager batch key capacity

end EngineWorld

def engineExec : (call : EngineCall) → EngineWorld → EngineReply call × EngineWorld
  | .allocate, world => (world.allocates, world.allocated)
  | .get key capacity, world =>
    (if world.allocates then world.lookup key capacity else .failed .outOfMemory,
      world.allocated)
  | .put key value, world => world.mutate fun pager => btreeBatchPut pager key value
  | .delete key, world => world.mutate fun pager => btreeBatchDelete pager key
  | .payloadCapacity, world => (pagerPayloadCapacity world.database.pager, world)
  | .generation, world => (world.database.nextObjectGeneration, world)
  | .setGeneration next, world =>
    ((), { world with database := { world.database with nextObjectGeneration := next } })
  | .stagedCount, world => ((world.batch.map fun batch => batch.items.length).getD 0, world)
  | .poison error, world =>
    ((), { world with
      batch := world.batch.map fun batch =>
        { batch with failure := batch.failure.orElse fun _ => some error } })
  | .legacyTerms collection document, world =>
    (if world.allocates then
        documentCollectLegacyTerms world.database.pager collection document
      else .error .outOfMemory,
      world.allocated)

/-- Run an operation. -/
def EngineM.execute {α : Type} (operation : EngineM α) (world : EngineWorld) :
    Except SdbError α × EngineWorld :=
  operation.run engineExec world

end ShibaDb
