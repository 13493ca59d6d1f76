/-
Indexes and documents of `engine.c`: index definitions, the entries and unique
guards of a document's terms, and the reverse rows through which an overwrite or a
delete finds what the previous version wrote.
-/
import ShibaDb.Engine.Objects

namespace ShibaDb

open LittleEndian CallProgram

/-- Read a row that may be absent. -/
def engineTreeFind (key : Bytes) (capacity : Nat) : EngineM (Option Bytes) := do
  match ← (engineTreeGet key capacity).attempt with
  | .ok value => pure (some value)
  | .error .notFound => pure none
  | .error error => Program.fail error

/-- A step whose NOT_FOUND counts as success. -/
def allowNotFound (step : EngineM Unit) : EngineM Unit := do
  match ← step.attempt with
  | .ok _ => pure ()
  | .error .notFound => pure ()
  | .error error => Program.fail error

def indexDefinition (collection index : Bytes) : EngineM Bool := do
  let key ← indexBaseKey indexDefinitionPrefix collection index [] []
  let definition ← engineTreeGet key 1
  if definition = [0] then pure false
  else if definition = [1] then pure true
  else Program.fail .corrupt

/-- The definition of an index, if it exists. -/
def indexFindDefinition (collection index : Bytes) : EngineM (Option Bool) := do
  match ← (indexDefinition collection index).attempt with
  | .ok unique => pure (some unique)
  | .error .notFound => pure none
  | .error error => Program.fail error

def definitionValue (unique : Bool) : Bytes := [if unique then 1 else 0]

/-- `sdb_index_create_in_mutation`. -/
def indexCreate (collection index : Bytes) (unique : Bool) : EngineM Unit := do
  match ← indexFindDefinition collection index with
  | some existing => if existing = unique then pure () else Program.fail .conflict
  | none =>
    let key ← indexBaseKey indexDefinitionPrefix collection index [] []
    engineTreePut key (definitionValue unique)

def guardValueCapacity : Nat := 2 + engineMaxNameSize + 8

def guardKey (collection : Bytes) (term : IndexTerm) : EngineM Bytes :=
  indexBaseKey uniqueGuardPrefix collection term.indexName term.value []

def entryKey (collection : Bytes) (term : IndexTerm) (document : Bytes) (generation : UInt64) :
    EngineM Bytes :=
  indexBaseKey indexEntryPrefix collection term.indexName term.value
    (entrySuffix document generation)

/-- A guard of another document holds the value only while that document is at the
generation the guard names. -/
def uniqueGuardCheck (collection : Bytes) (term : IndexTerm) (document : Bytes) :
    EngineM Unit := do
  let key ← guardKey collection term
  match ← engineTreeFind key guardValueCapacity with
  | none => pure ()
  | some value =>
    let (guardedGeneration, guardedDocument) ← EngineM.ofExcept (guardOwner value)
    if guardedDocument = document then pure ()
    else
      match ← objectFindMetadata .document collection guardedDocument with
      | none => pure ()
      | some metadata =>
        if metadata.generation = guardedGeneration then Program.fail .conflict else pure ()

def indexWriteTerm (collection : Bytes) (term : IndexTerm) (document : Bytes)
    (generation : UInt64) (unique : Bool) : EngineM Unit := do
  let entry ← entryKey collection term document generation
  engineTreePut entry []
  if unique then
    let key ← guardKey collection term
    engineTreePut key (guardValue generation document)

def indexReverseKey (collection document : Bytes) (ordinal : Nat) : EngineM Bytes :=
  enginePairKey indexReversePrefix ObjectKind.document.code collection document
    (write 2 (UInt16.ofNat ordinal).toNat)

/-- Delete a term's guard if this document owns it. -/
def documentReclaimGuard (collection : Bytes) (term : IndexTerm) (document : Bytes) :
    EngineM Unit := do
  let key ← guardKey collection term
  match ← engineTreeFind key guardValueCapacity with
  | none => pure ()
  | some value =>
    let (_, guardedDocument) ← EngineM.ofExcept (guardOwner value)
    if guardedDocument = document then engineTreeDelete key else pure ()

/-- Delete what a superseded term left: its entry and, in a unique index, its guard.
A term listed twice shares one entry, so the entry may be gone already. -/
def documentReclaimOneTerm (collection : Bytes) (term : IndexTerm) (document : Bytes)
    (generation : UInt64) : EngineM Unit := do
  let entry ← entryKey collection term document generation
  allowNotFound (engineTreeDelete entry)
  match ← indexFindDefinition collection term.indexName with
  | none => pure ()
  | some unique =>
    if unique then documentReclaimGuard collection term document else pure ()

/-- The loop of `sdb_document_reclaim_reverse` from `ordinal` on; it returns whether
the document had a reverse row. -/
def documentReclaimReverse (collection document : Bytes) :
    (remaining ordinal : Nat) → (found : Bool) → EngineM Bool
  | 0, _, found => pure found
  | remaining + 1, ordinal, found => do
      let key ← indexReverseKey collection document ordinal
      match ← engineTreeFind key indexReverseMaxValue with
      | none => pure found
      | some value =>
        let (generation, term) ← EngineM.ofExcept (indexReverseDecodeTerm value)
        if generation = 0 then Program.fail .corrupt
        else
          documentReclaimOneTerm collection term document generation
          engineTreeDelete key
          documentReclaimReverse collection document remaining (ordinal + 1) true

def reclaimTerms (collection document : Bytes) : List LegacyIndexTerm → EngineM Unit
  | [] => pure ()
  | found :: rest => do
      documentReclaimOneTerm collection found.term document found.generation
      reclaimTerms collection document rest

def documentReclaimLegacyIndexes (collection document : Bytes) : EngineM Unit := do
  let terms ← EngineM.ofExcept (← Program.request (EngineCall.legacyTerms collection document))
  reclaimTerms collection document terms

/-- Reclaim the index rows of the current version, through its reverse rows or, where
it has none, through a scan of the index entries. -/
def documentReclaim (collection document : Bytes) : EngineM Unit := do
  let found ← documentReclaimReverse collection document (uint16Max + 1) 0 false
  if found then pure () else documentReclaimLegacyIndexes collection document

/-- The term in the reverse row of a document without terms. -/
def markerTerm : IndexTerm := { indexName := [0xff], value := [0xff] }

def writeReverseRow (collection document : Bytes) (generation : UInt64) (ordinal : Nat)
    (term : IndexTerm) : EngineM Unit := do
  let key ← indexReverseKey collection document ordinal
  let value ← EngineM.ofExcept (indexReverseEncodeTerm generation term indexReverseMaxValue)
  engineTreePut key value

def writeReverseRows (collection document : Bytes) (generation : UInt64) :
    (ordinal : Nat) → List IndexTerm → EngineM Unit
  | _, [] => pure ()
  | ordinal, term :: rest => do
      writeReverseRow collection document generation ordinal term
      writeReverseRows collection document generation (ordinal + 1) rest

def documentWriteReverse (collection document : Bytes) (generation : UInt64)
    (terms : List IndexTerm) : EngineM Unit :=
  if terms = [] then writeReverseRow collection document generation 0 markerTerm
  else writeReverseRows collection document generation 0 terms

/-- The first loop over the terms of `sdb_document_put_in_mutation`: which of their
indexes are unique. -/
def documentCheckTerms (collection document : Bytes) : List IndexTerm → EngineM (List Bool)
  | [] => pure []
  | term :: rest => do
      if !engineBytesValid term.indexName || !engineBytesValid term.value then
        Program.fail .invalidArgument
      else
        let unique ← indexDefinition collection term.indexName
        if unique then uniqueGuardCheck collection term document
        let uniques ← documentCheckTerms collection document rest
        pure (unique :: uniques)

def writeTerms (collection document : Bytes) (generation : UInt64) :
    List (IndexTerm × Bool) → EngineM Unit
  | [] => pure ()
  | (term, unique) :: rest => do
      indexWriteTerm collection term document generation unique
      writeTerms collection document generation rest

section Hashing

variable (sha256 : Bytes → Bytes)

/-- `sdb_document_put_in_mutation` between its read of the page count and its check of
it.  The rows of the previous version go before the new ones are written: an
unchanged unique term keeps its guard key. -/
def documentPutRows (collection document value : Bytes) (terms : List IndexTerm) :
    EngineM Unit := do
  let previous ← objectFindMetadata .document collection document
  let metadata ← objectPlan sha256 .document collection document value
  let uniques ← documentCheckTerms collection document terms
  objectWriteChunks metadata collection document value metadata.chunkCount 0 0
  match previous with
  | none => pure ()
  | some _ => documentReclaim collection document
  writeTerms collection document metadata.generation (terms.zip uniques)
  documentWriteReverse collection document metadata.generation terms
  objectCommitMetadata metadata collection document
  match previous with
  | none => pure ()
  | some previous =>
    objectDeleteChunks .document collection document previous.generation
      previous.chunkCount 0

def documentPut (collection document value : Bytes) (terms : List IndexTerm) :
    EngineM Unit := do
  if !engineBytesValid document || terms.length > uint16Max then
    Program.fail .invalidArgument
  else
    if terms ≠ [] then engineAllocate
    let countBefore : Nat ← Program.request EngineCall.stagedCount
    let status ← (documentPutRows sha256 collection document value terms).attempt
    mutationPoisonOnPartial countBefore status

end Hashing

/-- Read the metadata row and reclaim the index rows; absent documents have none. -/
def documentDeleteIndexRows (collection document : Bytes) : EngineM Unit :=
  allowNotFound do
    let _ ← objectReadMetadata .document collection document
    documentReclaim collection document

def documentDeleteRows (collection document : Bytes) : EngineM Unit := do
  documentDeleteIndexRows collection document
  objectDelete .document collection document

def documentDelete (collection document : Bytes) : EngineM Unit := do
  if !engineBytesValid document then Program.fail .invalidArgument
  else
    let countBefore : Nat ← Program.request EngineCall.stagedCount
    let status ← (documentDeleteRows collection document).attempt
    mutationPoisonOnPartial countBefore status

end ShibaDb
