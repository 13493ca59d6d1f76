/-
The operations of a database and the rows they write.  A database is reached from a
new one by operations, each in a mutation of its own or several in one transaction;
every row of its tree is one whose key stands for something.
-/
import ShibaDb.Engine.Mutation

namespace ShibaDb

open LittleEndian CallProgram SepTree

/-- The operations that write. -/
inductive EngineOp where
  | kvPut (space key value : Bytes)
  | kvDelete (space key : Bytes)
  | blobPut (space key value : Bytes)
  | blobDelete (space key : Bytes)
  | indexCreate (collection index : Bytes) (unique : Bool)
  | documentPut (collection document value : Bytes) (terms : List IndexTerm)
  | documentDelete (collection document : Bytes)

def transactionMaxOperations : Nat := 10000

def transactionMaxLogicalBytes : Nat := 67108864

/-- The bytes an operation counts for in a transaction. -/
def EngineOp.logicalBytes : EngineOp → Nat
  | .kvPut space key value => space.length + key.length + value.length
  | .kvDelete space key => space.length + key.length
  | .blobPut space key value => space.length + key.length + value.length
  | .blobDelete space key => space.length + key.length
  | .indexCreate collection index _ => collection.length + index.length
  | .documentPut collection document value terms =>
    collection.length + document.length + value.length +
      (terms.map fun term => term.indexName.length + term.value.length).sum
  | .documentDelete collection document => collection.length + document.length

/-- What a transaction has counted. -/
structure TransactionCount where
  operationCount : Nat
  logicalByteCount : Nat

/-- `sdb_transaction_reserve`: it comes before the operation, so a refused one counts. -/
def TransactionCount.reserve (count : TransactionCount) (logicalBytes : Nat) :
    Except SdbError TransactionCount :=
  if transactionMaxOperations ≤ count.operationCount || transactionMaxLogicalBytes < logicalBytes
      || transactionMaxLogicalBytes - logicalBytes < count.logicalByteCount then .error .overflow
  else .ok { operationCount := count.operationCount + 1
             logicalByteCount := count.logicalByteCount + logicalBytes }

section Hashing

variable (sha256 : Bytes → Bytes)

def EngineOp.program : EngineOp → EngineM Unit
  | .kvPut space key value => objectPut sha256 .kv space key value
  | .kvDelete space key => objectDelete .kv space key
  | .blobPut space key value => objectPut sha256 .blob space key value
  | .blobDelete space key => objectDelete .blob space key
  | .indexCreate collection index unique => ShibaDb.indexCreate collection index unique
  | .documentPut collection document value terms =>
    ShibaDb.documentPut sha256 collection document value terms
  | .documentDelete collection document => ShibaDb.documentDelete collection document

/-- The operations of a transaction: a failed one is reported, and the transaction goes
on; `committed` says how the client ends it. -/
def transactionFrom (committed : Bool) : TransactionCount → List EngineOp → EngineM Unit
  | _, [] => if committed then pure () else Program.fail .invalidArgument
  | count, op :: rest =>
    match count.reserve op.logicalBytes with
    | .error _ => transactionFrom committed count rest
    | .ok count => do
        let _ ← (op.program sha256).attempt
        transactionFrom committed count rest

def transactionProgram (committed : Bool) (ops : List EngineOp) : EngineM Unit :=
  transactionFrom sha256 committed ⟨0, 0⟩ ops

/-- The databases operations lead to, whichever allocations fail on the way. -/
inductive Reached : Database → Prop
  | created {pageSize : Nat} {fileId : Bytes} {encrypted : Bool} {pager : Pager}
      (hcreate : freshDatabase pageSize fileId encrypted = .ok pager) :
      Reached { pager, nextObjectGeneration := 0 }
  | operated {database : Database} (op : EngineOp) (memory : List Bool)
      (hreached : Reached database) :
      Reached (engineMutation (op.program sha256) memory database).2
  | transacted {database : Database} (ops : List EngineOp) (committed : Bool)
      (memory : List Bool) (hreached : Reached database) :
      Reached (engineMutation (transactionProgram sha256 committed ops) memory database).2

end Hashing

section Steps

variable {ok : Bytes → Bytes → Prop} {capacity : Nat} {α β : Type} {returns : α → Prop}
  {mid : β → Prop}

lemma writesOnly_pure {value : α} (h : returns value) :
    WritesOnly ok capacity (pure value : EngineM α) returns := h

lemma writesOnly_fail {error : SdbError} :
    WritesOnly ok capacity (Program.fail error : EngineM α) returns := trivial

lemma WritesOnly.bind {program : EngineM β} {next : β → EngineM α}
    (h : WritesOnly ok capacity program mid)
    (hnext : ∀ value, mid value → WritesOnly ok capacity (next value) returns) :
    WritesOnly ok capacity (program >>= next) returns :=
  issues_bind (h.mono hnext)

lemma WritesOnly.attempt {program : EngineM α} (h : WritesOnly ok capacity program returns) :
    WritesOnly ok capacity program.attempt fun _ => True :=
  issues_attempt (h.mono fun _ _ => trivial) fun _ => trivial

lemma WritesOnly.weaken {program : EngineM α} (h : WritesOnly ok capacity program returns) :
    WritesOnly ok capacity program fun _ => True :=
  h.mono fun _ _ => trivial

lemma writesOnly_request (call : EngineCall) (hcall : Writes ok call) :
    WritesOnly ok capacity (Program.request call : EngineM (EngineReply call))
      (Answers capacity call) :=
  issues_request hcall fun _ hreply => hreply

lemma writesOnly_ofExcept (result : Except SdbError α) :
    WritesOnly ok capacity (EngineM.ofExcept result) fun value => result = .ok value := by
  cases result with
  | ok value => exact writesOnly_pure rfl
  | error error => exact writesOnly_fail

lemma readsOnly_pure {value : α} (h : returns value) :
    ReadsOnly (pure value : EngineM α) returns := h

lemma readsOnly_fail {error : SdbError} :
    ReadsOnly (Program.fail error : EngineM α) returns := trivial

lemma readsOnly_request {call : EngineCall} (hcall : ReadCall call) :
    ReadsOnly (Program.request call : EngineM (EngineReply call)) fun _ => True :=
  issues_request hcall fun _ _ => trivial

lemma readsOnly_ofExcept (result : Except SdbError α) :
    ReadsOnly (EngineM.ofExcept result) fun _ => True := by
  cases result with
  | ok value => exact readsOnly_pure trivial
  | error error => exact readsOnly_fail

lemma ReadsOnly.bind {program : EngineM β} {next : β → EngineM α} (h : ReadsOnly program mid)
    (hnext : ∀ value, mid value → ReadsOnly (next value) returns) :
    ReadsOnly (program >>= next) returns :=
  issues_bind (h.mono hnext)

/-- A read that may find nothing. -/
lemma ReadsOnly.found {program : EngineM β} {next : Except SdbError β → EngineM α}
    (h : ReadsOnly program mid) (hnext : ∀ result, ReadsOnly (next result) returns) :
    ReadsOnly (program.attempt >>= next) returns := by
  have hattempt : ReadsOnly program.attempt fun _ => True :=
    issues_attempt (h.mono fun _ _ => trivial) fun _ => trivial
  exact hattempt.bind fun result _ => hnext result

lemma ReadsOnly.writesOnly {program : EngineM α} (h : ReadsOnly program returns) :
    WritesOnly ok capacity program returns := by
  refine h.weaken (fun call hcall => ?_) fun _ _ _ => trivial
  cases call with
  | put key value => exact hcall.elim
  | _ => trivial

lemma engineAllocate_readsOnly : ReadsOnly engineAllocate fun _ => True := by
  refine (readsOnly_request (show ReadCall .allocate from trivial)).bind fun success _ => ?_
  cases success with
  | false => exact readsOnly_fail
  | true => exact readsOnly_pure trivial

lemma engineTreeGet_readsOnly (key : Bytes) (room : Nat) :
    ReadsOnly (engineTreeGet key room) fun _ => True := by
  refine (readsOnly_request (show ReadCall (.get key room) from trivial)).bind fun lookup _ => ?_
  cases lookup.status with
  | ok _ => exact readsOnly_pure trivial
  | error error => exact readsOnly_fail

lemma engineTreeFind_readsOnly (key : Bytes) (room : Nat) :
    ReadsOnly (engineTreeFind key room) fun _ => True := by
  refine (engineTreeGet_readsOnly key room).found fun result => ?_
  split
  · exact readsOnly_pure trivial
  · exact readsOnly_pure trivial
  · exact readsOnly_fail

lemma engineTreeFind_writesOnly (key : Bytes) (room : Nat) :
    WritesOnly ok capacity (engineTreeFind key room) fun _ => True :=
  (engineTreeFind_readsOnly key room).writesOnly

lemma engineTreePut_writesOnly {key value : Bytes} (hrow : ok key value) :
    WritesOnly ok capacity (engineTreePut key value) fun _ => True :=
  (writesOnly_request (.put key value) hrow).bind fun status _ =>
    (writesOnly_ofExcept status).weaken

lemma engineTreeDelete_writesOnly (key : Bytes) :
    WritesOnly ok capacity (engineTreeDelete key) fun _ => True :=
  (writesOnly_request (.delete key) trivial).bind fun status _ =>
    (writesOnly_ofExcept status).weaken

lemma mutationPoisonOnPartial_writesOnly (countBefore : Nat) (status : Except SdbError α) :
    WritesOnly ok capacity (mutationPoisonOnPartial countBefore status) fun _ => True := by
  cases status with
  | ok value => exact writesOnly_pure trivial
  | error error =>
    refine (writesOnly_request .stagedCount trivial).bind fun count _ => ?_
    split
    · exact (writesOnly_request (.poison error) trivial).bind fun _ _ => writesOnly_fail
    · exact writesOnly_fail

/-- Work between the count of staged pages and the check of it. -/
lemma WritesOnly.counted {work : EngineM α} (h : WritesOnly ok capacity work fun _ => True) :
    WritesOnly ok capacity (Program.request EngineCall.stagedCount >>= fun countBefore =>
        work.attempt >>= mutationPoisonOnPartial countBefore) fun _ => True :=
  (writesOnly_request .stagedCount trivial).bind fun countBefore _ =>
    h.attempt.bind fun status _ => mutationPoisonOnPartial_writesOnly countBefore status

lemma allowNotFound_writesOnly {step : EngineM Unit} {returns : Unit → Prop}
    (h : WritesOnly ok capacity step returns) :
    WritesOnly ok capacity (allowNotFound step) fun _ => True := by
  refine h.attempt.bind fun result _ => ?_
  split
  · exact writesOnly_pure trivial
  · exact writesOnly_pure trivial
  · exact writesOnly_fail

/-- The key of a pair is built from two names. -/
lemma enginePairKey_readsOnly (lead kind : UInt8) (space key suffix : Bytes) :
    ReadsOnly (enginePairKey lead kind space key suffix) fun bytes =>
      ∃ space' key' : Name, space'.bytes = space ∧ key'.bytes = key ∧
        bytes = pairKeyBytes lead kind space'.bytes key'.bytes suffix := by
  rw [enginePairKey]
  split
  · exact readsOnly_fail
  · rename_i hvalid
    simp only [Bool.or_eq_true, Bool.not_eq_true', not_or, Bool.not_eq_false] at hvalid
    exact engineAllocate_readsOnly.bind fun _ _ =>
      readsOnly_pure ⟨⟨space, hvalid.1⟩, ⟨key, hvalid.2⟩, rfl, rfl, rfl⟩

lemma enginePairKey_writesOnly (lead kind : UInt8) (space key suffix : Bytes) :
    WritesOnly ok capacity (enginePairKey lead kind space key suffix) fun bytes =>
      ∃ space' key' : Name, space'.bytes = space ∧ key'.bytes = key ∧
        bytes = pairKeyBytes lead kind space'.bytes key'.bytes suffix :=
  (enginePairKey_readsOnly lead kind space key suffix).writesOnly

lemma indexBaseKey_readsOnly (lead : UInt8) (collection index value suffix : Bytes) :
    ReadsOnly (indexBaseKey lead collection index value suffix) fun bytes =>
      ∃ collection' index' : Name, collection'.bytes = collection ∧ index'.bytes = index ∧
        bytes = indexKeyBytes lead collection'.bytes index'.bytes value suffix := by
  rw [indexBaseKey]
  split
  · exact readsOnly_fail
  · rename_i hvalid
    simp only [Bool.or_eq_true, Bool.not_eq_true', not_or, Bool.not_eq_false] at hvalid
    exact engineAllocate_readsOnly.bind fun _ _ =>
      readsOnly_pure ⟨⟨collection, hvalid.1.1⟩, ⟨index, hvalid.1.2⟩, rfl, rfl, rfl⟩

lemma indexBaseKey_writesOnly (lead : UInt8) (collection index value suffix : Bytes) :
    WritesOnly ok capacity (indexBaseKey lead collection index value suffix) fun bytes =>
      ∃ collection' index' : Name, collection'.bytes = collection ∧ index'.bytes = index ∧
        bytes = indexKeyBytes lead collection'.bytes index'.bytes value suffix :=
  (indexBaseKey_readsOnly lead collection index value suffix).writesOnly

end Steps

section Objects

variable {ok : Bytes → Bytes → Prop} {capacity : Nat} {kind : ObjectKind}
  {space key value : Bytes} {sha256 : Bytes → Bytes}

/-- The rows a put of an object writes: the counter, and for an object whose name the
size check admits its chunks and its metadata row. -/
structure ObjectRows (ok : Bytes → Bytes → Prop) (sha256 : Bytes → Bytes) (capacity : Nat)
    (id : ObjectId) : Prop where
  counter : ∀ generation : UInt64, ok RowKey.counter.spell (write 8 generation.toNat)
  chunk : ∀ generation index size (chunk : Bytes),
    objectChunkSize capacity (RowKey.chunk id generation index).spell.length = .ok size →
    chunk.length ≤ size → ok (RowKey.chunk id generation index).spell chunk
  object : ∀ generation index size (metadata : ObjectMetadata) (value : Bytes),
    objectChunkSize capacity (RowKey.chunk id generation index).spell.length = .ok size →
    metadata.digest = sha256 value →
    ok (RowKey.object id).spell (objectMetadataEncode metadata)

lemma RowKey.chunk_spell_length (id : ObjectId) (generation : UInt64) (index : UInt32) :
    (RowKey.chunk id generation index).spell.length =
      4 + (id.space.bytes.length + (id.key.bytes.length + 12)) := by
  simp [spell, chunkSuffix]

lemma objectReadMetadata_readsOnly (kind : ObjectKind) (space key : Bytes) :
    ReadsOnly (objectReadMetadata kind space key) fun _ => True :=
  (enginePairKey_readsOnly _ _ _ _ _).bind fun metadataKey _ =>
    (engineTreeGet_readsOnly metadataKey _).bind fun encoded _ =>
      readsOnly_ofExcept (objectMetadataDecode encoded kind)

lemma objectFindMetadata_readsOnly (kind : ObjectKind) (space key : Bytes) :
    ReadsOnly (objectFindMetadata kind space key) fun _ => True := by
  refine (objectReadMetadata_readsOnly kind space key).found fun result => ?_
  split
  · exact readsOnly_pure trivial
  · exact readsOnly_pure trivial
  · exact readsOnly_fail

lemma objectFindMetadata_writesOnly (kind : ObjectKind) (space key : Bytes) :
    WritesOnly ok capacity (objectFindMetadata kind space key) fun _ => True :=
  (objectFindMetadata_readsOnly kind space key).writesOnly

lemma engineAllocGeneration_writesOnly
    (hcounter : ∀ generation : UInt64, ok RowKey.counter.spell (write 8 generation.toNat)) :
    WritesOnly ok capacity engineAllocGeneration fun _ => True := by
  refine (writesOnly_request .generation trivial).bind fun current _ => ?_
  split
  · exact writesOnly_fail
  · refine (engineTreePut_writesOnly (hcounter _)).bind fun _ _ => ?_
    exact (writesOnly_request (.setGeneration _) trivial).bind fun _ _ => writesOnly_pure trivial

/-- What a plan says of the object it is for. -/
structure Planned (sha256 : Bytes → Bytes) (capacity : Nat) (id : ObjectId)
    (metadata : ObjectMetadata) : Prop where
  kind : metadata.kind = id.kind
  digest : ∃ value, metadata.digest = sha256 value
  size : ∃ generation index size,
    objectChunkSize capacity (RowKey.chunk id generation index).spell.length = .ok size ∧
      metadata.chunkSize ≤ size

lemma objectPlan_writesOnly
    (hcounter : ∀ generation : UInt64, ok RowKey.counter.spell (write 8 generation.toNat))
    (kind : ObjectKind) (space key value : Bytes) :
    WritesOnly ok capacity (objectPlan sha256 kind space key value) fun metadata =>
      ∃ space' key' : Name, space'.bytes = space ∧ key'.bytes = key ∧
        Planned sha256 capacity ⟨kind, space', key'⟩ metadata := by
  refine (objectFindMetadata_writesOnly kind space key).bind fun _ _ => ?_
  refine (engineAllocGeneration_writesOnly hcounter).bind fun generation _ => ?_
  refine (enginePairKey_writesOnly _ _ _ _ _).bind ?_
  rintro sampleKey ⟨space', key', rfl, rfl, rfl⟩
  refine (writesOnly_request .payloadCapacity trivial).bind ?_
  rintro leafCapacity rfl
  refine (writesOnly_ofExcept _).bind fun size hsize => ?_
  by_cases hempty : value.length = 0
  · rw [if_pos hempty]
    exact writesOnly_pure ⟨space', key', rfl, rfl, rfl, ⟨value, rfl⟩,
      generation, UInt32.ofNat 0, size, hsize, Nat.zero_le _⟩
  · rw [if_neg hempty]
    split
    · exact writesOnly_fail
    · exact writesOnly_pure ⟨space', key', rfl, rfl, rfl, ⟨value, rfl⟩,
        generation, UInt32.ofNat 0, size, hsize, le_rfl⟩

lemma objectWriteChunks_writesOnly {id : ObjectId} {metadata : ObjectMetadata}
    (hrows : ObjectRows ok sha256 capacity id) (hplanned : Planned sha256 capacity id metadata)
    (value : Bytes) (remaining index consumed : Nat) : WritesOnly ok capacity
      (objectWriteChunks metadata id.space.bytes id.key.bytes value remaining index consumed)
      fun _ => True := by
  induction remaining generalizing index consumed with
  | zero => exact writesOnly_pure trivial
  | succ remaining ih =>
    refine (enginePairKey_writesOnly _ _ _ _ _).bind ?_
    rintro chunkKey ⟨space', key', hspace, hkey, rfl⟩
    obtain ⟨generation, position, size, hsize, hle⟩ := hplanned.size
    rw [RowKey.chunk_spell_length, ← RowKey.chunk_spell_length id metadata.generation
      (UInt32.ofNat index)] at hsize
    rw [hspace, hkey, hplanned.kind]
    refine (engineTreePut_writesOnly (hrows.chunk _ _ size _ hsize ?_)).bind fun _ _ =>
      ih _ _
    calc ((value.drop consumed).take _).length
        ≤ min (metadata.totalSize - consumed) metadata.chunkSize := List.length_take_le _ _
      _ ≤ metadata.chunkSize := min_le_right _ _
      _ ≤ size := hle

lemma objectCommitMetadata_writesOnly {id : ObjectId} {metadata : ObjectMetadata}
    (hrows : ObjectRows ok sha256 capacity id) (hplanned : Planned sha256 capacity id metadata) :
    WritesOnly ok capacity (objectCommitMetadata metadata id.space.bytes id.key.bytes)
      fun _ => True := by
  refine (enginePairKey_writesOnly _ _ _ _ _).bind ?_
  rintro metadataKey ⟨space', key', hspace, hkey, rfl⟩
  obtain ⟨generation, index, size, hsize, _⟩ := hplanned.size
  obtain ⟨value, hdigest⟩ := hplanned.digest
  rw [hspace, hkey, hplanned.kind]
  exact engineTreePut_writesOnly (hrows.object generation index size metadata value hsize hdigest)

lemma objectDeleteChunks_writesOnly (kind : ObjectKind) (space key : Bytes)
    (generation : UInt64) (remaining index : Nat) :
    WritesOnly ok capacity (objectDeleteChunks kind space key generation remaining index)
      fun _ => True := by
  induction remaining generalizing index with
  | zero => exact writesOnly_pure trivial
  | succ remaining ih =>
    exact (enginePairKey_writesOnly _ _ _ _ _).bind fun chunkKey _ =>
      (engineTreeDelete_writesOnly chunkKey).bind fun _ _ => ih _

lemma objectPut_writesOnly
    (hcounter : ∀ generation : UInt64, ok RowKey.counter.spell (write 8 generation.toNat))
    (hrows : ∀ id : ObjectId, id.kind = kind → id.space.bytes = space → id.key.bytes = key →
      ObjectRows ok sha256 capacity id) :
    WritesOnly ok capacity (objectPut sha256 kind space key value) fun _ => True := by
  apply WritesOnly.counted
  refine (objectFindMetadata_writesOnly kind space key).bind fun previous _ => ?_
  refine (objectPlan_writesOnly hcounter kind space key value).bind ?_
  rintro metadata ⟨space', key', rfl, rfl, hplanned⟩
  have hid := hrows ⟨kind, space', key'⟩ rfl rfl rfl
  refine (objectWriteChunks_writesOnly hid hplanned value _ _ _).bind fun _ _ => ?_
  refine (objectCommitMetadata_writesOnly hid hplanned).bind fun _ _ => ?_
  cases previous with
  | none => exact writesOnly_pure trivial
  | some previous => exact objectDeleteChunks_writesOnly _ _ _ _ _ _

lemma objectDelete_writesOnly (kind : ObjectKind) (space key : Bytes) :
    WritesOnly ok capacity (objectDelete kind space key) fun _ => True := by
  apply WritesOnly.counted
  refine (objectFindMetadata_writesOnly kind space key).bind fun previous _ => ?_
  have hrest : WritesOnly ok capacity
      (objectKey kind space key >>= fun metadataKey => engineTreeDelete metadataKey)
      fun _ => True :=
    (enginePairKey_writesOnly _ _ _ _ _).bind fun metadataKey _ =>
      engineTreeDelete_writesOnly metadataKey
  cases previous with
  | none => exact hrest
  | some previous => exact (objectDeleteChunks_writesOnly _ _ _ _ _ _).bind fun _ _ => hrest

end Objects

/-- The key of a row stands for something. -/
def Spelled (key _value : Bytes) : Prop := ∃ row : RowKey, row.spell = key

section Documents

variable {capacity : Nat} {collection document value : Bytes} {sha256 : Bytes → Bytes}

lemma spelled_objectRows (id : ObjectId) : ObjectRows Spelled sha256 capacity id where
  counter _ := ⟨_, rfl⟩
  chunk _ _ _ _ _ _ := ⟨_, rfl⟩
  object _ _ _ _ _ _ _ := ⟨_, rfl⟩

lemma spelled_counter (generation : UInt64) :
    Spelled RowKey.counter.spell (write 8 generation.toNat) := ⟨_, rfl⟩

/-- A term both parts of which are names. -/
def IndexTerm.Named (term : IndexTerm) : Prop :=
  engineBytesValid term.indexName = true ∧ engineBytesValid term.value = true

lemma indexDefinition_readsOnly (collection index : Bytes) :
    ReadsOnly (indexDefinition collection index) fun _ => True := by
  refine (indexBaseKey_readsOnly _ _ _ _ _).bind fun key _ => ?_
  refine (engineTreeGet_readsOnly key 1).bind fun definition _ => ?_
  split
  · exact readsOnly_pure trivial
  · split
    · exact readsOnly_pure trivial
    · exact readsOnly_fail

lemma indexFindDefinition_writesOnly (collection index : Bytes) :
    WritesOnly Spelled capacity (indexFindDefinition collection index) fun _ => True := by
  refine ReadsOnly.writesOnly ((indexDefinition_readsOnly collection index).found fun result => ?_)
  split
  · exact readsOnly_pure trivial
  · exact readsOnly_pure trivial
  · exact readsOnly_fail

lemma indexCreate_writesOnly (collection index : Bytes) (unique : Bool) :
    WritesOnly Spelled capacity (indexCreate collection index unique) fun _ => True := by
  refine (indexFindDefinition_writesOnly collection index).bind fun found _ => ?_
  cases found with
  | some existing =>
    dsimp only
    split
    · exact writesOnly_pure trivial
    · exact writesOnly_fail
  | none =>
    refine (indexBaseKey_writesOnly _ _ _ _ _).bind ?_
    rintro key ⟨collection', index', _, _, rfl⟩
    exact engineTreePut_writesOnly ⟨.definition collection' index', rfl⟩

lemma uniqueGuardCheck_readsOnly (collection : Bytes) (term : IndexTerm) (document : Bytes) :
    ReadsOnly (uniqueGuardCheck collection term document) fun _ => True := by
  refine (indexBaseKey_readsOnly _ _ _ _ _).bind fun key _ => ?_
  refine (engineTreeFind_readsOnly key _).bind fun found _ => ?_
  cases found with
  | none => exact readsOnly_pure trivial
  | some value =>
    refine (readsOnly_ofExcept (guardOwner value)).bind ?_
    rintro ⟨guardedGeneration, guardedDocument⟩ _
    dsimp only
    split
    · exact readsOnly_pure trivial
    · refine (objectFindMetadata_readsOnly _ _ _).bind fun holder _ => ?_
      cases holder with
      | none => exact readsOnly_pure trivial
      | some metadata =>
        dsimp only
        split
        · exact readsOnly_fail
        · exact readsOnly_pure trivial

/-- The check of the terms only reads, and passes only names. -/
lemma documentCheckTerms_readsOnly (collection document : Bytes) (terms : List IndexTerm) :
    ReadsOnly (documentCheckTerms collection document terms)
      fun _ => ∀ term ∈ terms, term.Named := by
  induction terms with
  | nil => exact readsOnly_pure (by simp)
  | cons term rest ih =>
    rw [documentCheckTerms]
    split
    · exact readsOnly_fail
    · rename_i hvalid
      simp only [Bool.or_eq_true, Bool.not_eq_true', not_or, Bool.not_eq_false] at hvalid
      have hrest : ∀ unique, ReadsOnly
          (documentCheckTerms collection document rest >>= fun uniques =>
            pure (unique :: uniques)) fun _ => ∀ other ∈ term :: rest, other.Named :=
        fun unique => ih.bind fun _ hnamed =>
          readsOnly_pure (List.forall_mem_cons.mpr ⟨hvalid, hnamed⟩)
      refine (indexDefinition_readsOnly collection term.indexName).bind fun unique _ => ?_
      cases unique with
      | false => exact hrest false
      | true =>
        exact (uniqueGuardCheck_readsOnly collection term document).bind fun _ _ => hrest true

lemma indexWriteTerm_writesOnly (collection : Bytes) {term : IndexTerm} (document : Name)
    (generation : UInt64) (unique : Bool) (hnamed : term.Named) : WritesOnly Spelled capacity
      (indexWriteTerm collection term document.bytes generation unique) fun _ => True := by
  refine (indexBaseKey_writesOnly _ _ _ _ _).bind ?_
  rintro entry ⟨collection', index, _, _, rfl⟩
  have hentry : Spelled (indexKeyBytes indexEntryPrefix collection'.bytes index.bytes term.value
      (entrySuffix document.bytes generation)) [] :=
    ⟨.entry collection' ⟨index, ⟨term.value, hnamed.2⟩⟩ document generation, rfl⟩
  refine (engineTreePut_writesOnly hentry).bind fun _ _ => ?_
  cases unique with
  | false => exact writesOnly_pure trivial
  | true =>
    refine (indexBaseKey_writesOnly _ _ _ _ _).bind ?_
    rintro guard ⟨collection', index, _, _, rfl⟩
    exact engineTreePut_writesOnly ⟨.guard collection' ⟨index, ⟨term.value, hnamed.2⟩⟩, rfl⟩

lemma writeTerms_writesOnly (collection : Bytes) (document : Name) (generation : UInt64)
    {terms : List (IndexTerm × Bool)} (hnamed : ∀ term ∈ terms, term.1.Named) :
    WritesOnly Spelled capacity (writeTerms collection document.bytes generation terms)
      fun _ => True := by
  induction terms with
  | nil => exact writesOnly_pure trivial
  | cons term rest ih =>
    rw [List.forall_mem_cons] at hnamed
    exact (indexWriteTerm_writesOnly collection document generation term.2 hnamed.1).bind
      fun _ _ => ih hnamed.2

lemma writeReverseRow_writesOnly (collection document : Bytes) (generation : UInt64)
    (ordinal : Nat) (term : IndexTerm) :
    WritesOnly Spelled capacity (writeReverseRow collection document generation ordinal term)
      fun _ => True := by
  refine (enginePairKey_writesOnly _ _ _ _ _).bind ?_
  rintro key ⟨collection', document', _, _, rfl⟩
  refine (writesOnly_ofExcept _).bind fun value _ => ?_
  exact engineTreePut_writesOnly ⟨.reverse collection' document' (UInt16.ofNat ordinal), rfl⟩

lemma documentWriteReverse_writesOnly (collection document : Bytes) (generation : UInt64)
    (terms : List IndexTerm) :
    WritesOnly Spelled capacity (documentWriteReverse collection document generation terms)
      fun _ => True := by
  have hrows : ∀ ordinal, WritesOnly Spelled capacity
      (writeReverseRows collection document generation ordinal terms) fun _ => True := by
    induction terms with
    | nil => exact fun _ => writesOnly_pure trivial
    | cons term rest ih =>
      exact fun ordinal =>
        (writeReverseRow_writesOnly collection document generation ordinal term).bind
          fun _ _ => ih (ordinal + 1)
  rw [documentWriteReverse]
  split
  · exact writeReverseRow_writesOnly collection document generation 0 markerTerm
  · exact hrows 0

lemma documentReclaimOneTerm_writesOnly (collection : Bytes) (term : IndexTerm)
    (document : Bytes) (generation : UInt64) :
    WritesOnly Spelled capacity (documentReclaimOneTerm collection term document generation)
      fun _ => True := by
  refine (indexBaseKey_writesOnly _ _ _ _ _).bind fun entry _ => ?_
  refine (allowNotFound_writesOnly (engineTreeDelete_writesOnly entry)).bind fun _ _ => ?_
  refine (indexFindDefinition_writesOnly _ _).bind fun definition _ => ?_
  cases definition with
  | none => exact writesOnly_pure trivial
  | some unique =>
    cases unique with
    | false => exact writesOnly_pure trivial
    | true =>
      refine (indexBaseKey_writesOnly _ _ _ _ _).bind fun key _ => ?_
      refine (engineTreeFind_writesOnly key _).bind fun found _ => ?_
      cases found with
      | none => exact writesOnly_pure trivial
      | some value =>
        refine (writesOnly_ofExcept (guardOwner value)).bind ?_
        rintro ⟨_, guardedDocument⟩ _
        dsimp only
        split
        · exact engineTreeDelete_writesOnly key
        · exact writesOnly_pure trivial

lemma documentReclaimReverse_writesOnly (collection document : Bytes)
    (remaining ordinal : Nat) (found : Bool) : WritesOnly Spelled capacity
      (documentReclaimReverse collection document remaining ordinal found) fun _ => True := by
  induction remaining generalizing ordinal found with
  | zero => exact writesOnly_pure trivial
  | succ remaining ih =>
    refine (enginePairKey_writesOnly _ _ _ _ _).bind fun key _ => ?_
    refine (engineTreeFind_writesOnly key _).bind fun row _ => ?_
    cases row with
    | none => exact writesOnly_pure trivial
    | some value =>
      refine (writesOnly_ofExcept (indexReverseDecodeTerm value)).bind ?_
      rintro ⟨generation, term⟩ _
      dsimp only
      split
      · exact writesOnly_fail
      · exact (documentReclaimOneTerm_writesOnly _ _ _ _).bind fun _ _ =>
          (engineTreeDelete_writesOnly key).bind fun _ _ => ih _ _

lemma documentReclaim_writesOnly (collection document : Bytes) :
    WritesOnly Spelled capacity (documentReclaim collection document) fun _ => True := by
  have hterms : ∀ terms, WritesOnly Spelled capacity (reclaimTerms collection document terms)
      fun _ => True := by
    intro terms
    induction terms with
    | nil => exact writesOnly_pure trivial
    | cons found rest ih =>
      exact (documentReclaimOneTerm_writesOnly _ _ _ _).bind fun _ _ => ih
  refine (documentReclaimReverse_writesOnly _ _ _ _ _).bind fun found _ => ?_
  cases found with
  | true => exact writesOnly_pure trivial
  | false =>
    exact (writesOnly_request (.legacyTerms collection document) trivial).bind
      fun terms _ => (writesOnly_ofExcept terms).bind fun terms _ => hterms terms

lemma documentPutRows_writesOnly (collection : Bytes) (document : Name) (value : Bytes)
    (terms : List IndexTerm) :
    WritesOnly Spelled capacity (documentPutRows sha256 collection document.bytes value terms)
      fun _ => True := by
  refine (objectFindMetadata_writesOnly _ _ _).bind fun previous _ => ?_
  refine (objectPlan_writesOnly spelled_counter _ _ _ _).bind ?_
  rintro metadata ⟨collection', document', rfl, hdocument, hplanned⟩
  obtain rfl := Name.ext_bytes hdocument
  have hrows : ObjectRows Spelled sha256 capacity ⟨.document, collection', document'⟩ :=
    spelled_objectRows _
  refine (documentCheckTerms_readsOnly _ _ terms).writesOnly.bind fun uniques hnamed => ?_
  refine (objectWriteChunks_writesOnly hrows hplanned value _ _ _).bind fun _ _ => ?_
  have hzip : ∀ term ∈ terms.zip uniques, term.1.Named :=
    fun term hterm => hnamed term.1 (List.of_mem_zip hterm).1
  cases previous with
  | none =>
    refine (writeTerms_writesOnly _ document' _ hzip).bind fun _ _ => ?_
    refine (documentWriteReverse_writesOnly _ _ _ terms).bind fun _ _ => ?_
    exact (objectCommitMetadata_writesOnly hrows hplanned).bind fun _ _ =>
      writesOnly_pure trivial
  | some previous =>
    refine (documentReclaim_writesOnly _ _).bind fun _ _ => ?_
    refine (writeTerms_writesOnly _ document' _ hzip).bind fun _ _ => ?_
    refine (documentWriteReverse_writesOnly _ _ _ terms).bind fun _ _ => ?_
    exact (objectCommitMetadata_writesOnly hrows hplanned).bind fun _ _ =>
      objectDeleteChunks_writesOnly _ _ _ _ _ _

lemma documentPut_writesOnly (collection document value : Bytes) (terms : List IndexTerm) :
    WritesOnly Spelled capacity (documentPut sha256 collection document value terms)
      fun _ => True := by
  rw [documentPut]
  split
  · exact writesOnly_fail
  · rename_i hvalid
    simp only [Bool.or_eq_true, Bool.not_eq_true', not_or, Bool.not_eq_false] at hvalid
    have hput := (documentPutRows_writesOnly collection ⟨document, hvalid.1⟩ value
      terms : WritesOnly Spelled capacity (documentPutRows sha256 _ _ _ _) _).counted
    by_cases hterms : terms ≠ []
    · rw [if_pos hterms]
      exact engineAllocate_readsOnly.writesOnly.bind fun _ _ => hput
    · rw [if_neg hterms]
      exact hput

lemma documentDelete_writesOnly (collection document : Bytes) :
    WritesOnly Spelled capacity (documentDelete collection document) fun _ => True := by
  rw [documentDelete]
  split
  · exact writesOnly_fail
  · apply WritesOnly.counted
    have hindex : WritesOnly Spelled capacity
        (objectReadMetadata .document collection document >>= fun _ =>
          documentReclaim collection document) fun _ => True :=
      (objectReadMetadata_readsOnly _ _ _).writesOnly.bind fun _ _ => documentReclaim_writesOnly _ _
    exact (allowNotFound_writesOnly hindex).bind fun _ _ => objectDelete_writesOnly _ _ _

end Documents

section Reached

variable {sha256 : Bytes → Bytes} {capacity : Nat} {database : Database}

lemma EngineOp.writesOnly (op : EngineOp) :
    WritesOnly Spelled capacity (op.program sha256) fun _ => True := by
  cases op with
  | kvPut space key value =>
    exact objectPut_writesOnly spelled_counter fun id _ _ _ => spelled_objectRows id
  | kvDelete space key => exact objectDelete_writesOnly _ _ _
  | blobPut space key value =>
    exact objectPut_writesOnly spelled_counter fun id _ _ _ => spelled_objectRows id
  | blobDelete space key => exact objectDelete_writesOnly _ _ _
  | indexCreate collection index unique => exact indexCreate_writesOnly _ _ _
  | documentPut collection document value terms => exact documentPut_writesOnly _ _ _ _
  | documentDelete collection document => exact documentDelete_writesOnly _ _

lemma transactionFrom_writesOnly {ok : Bytes → Bytes → Prop} (committed : Bool)
    {ops : List EngineOp}
    (hops : ∀ op ∈ ops, WritesOnly ok capacity (op.program sha256) fun _ => True)
    (count : TransactionCount) :
    WritesOnly ok capacity (transactionFrom sha256 committed count ops) fun _ => True := by
  induction ops generalizing count with
  | nil =>
    rw [transactionFrom]
    split
    · exact writesOnly_pure trivial
    · exact writesOnly_fail
  | cons op rest ih =>
    rw [List.forall_mem_cons] at hops
    rw [transactionFrom]
    split
    · exact ih hops.2 _
    · exact hops.1.attempt.bind fun _ _ => ih hops.2 _

lemma rowsIn_emptyMap (ok : Bytes → Bytes → Prop) : RowsIn ok emptyMap := by
  rintro key value ⟨⟩

/-- Every row of a database that operations led to has a key that stands for
something. -/
lemma Reached.serves (hreached : Reached sha256 database) :
    ∃ map, Serves database.pager map ∧ RowsIn Spelled map := by
  induction hreached with
  | created hcreate =>
    exact ⟨emptyMap, (freshDatabase_created hcreate).serves, rowsIn_emptyMap _⟩
  | operated op memory _ ih =>
    obtain ⟨map, hserves, hrows⟩ := ih
    exact engineMutation_serves hserves hrows op.writesOnly memory
  | transacted ops committed memory _ ih =>
    obtain ⟨map, hserves, hrows⟩ := ih
    exact engineMutation_serves hserves hrows
      (transactionFrom_writesOnly committed (fun op _ => op.writesOnly) _) memory

/-- A database in service stores a tree of such rows. -/
lemma Reached.stores (hreached : Reached sha256 database)
    (hservice : database.pager.needsRecovery = false) :
    ∃ (h : Nat) (tree : PageTree h), StoresTree database.pager [] tree ∧
      ∀ row ∈ tree.rows, Spelled row.1 row.2 := by
  obtain ⟨map, ⟨h, tree, hstores, himplements⟩, hspelled⟩ := hreached.serves
  rw [Pager.unfenced_of_inService hservice] at hstores
  refine ⟨h, tree, hstores, fun row hrow => hspelled row.1 row.2 ?_⟩
  rw [← himplements row.1]
  exact lookup_of_mem hstores.holds.sortedRows hrow

end Reached

end ShibaDb
