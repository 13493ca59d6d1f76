/-
`sdb_pager_open_internal`: choose a superblock, unlock the data key, settle an
unfinished replacement, repair the peer slot, replay the log, and bring the data
file to its size.
-/
import ShibaDb.Pager.KeyManager
import ShibaDb.Pager.Replace
import ShibaDb.Wal.Replay

namespace ShibaDb

open CallProgram FileSystem

/-- `sdb_pager` on its files. -/
structure PagerHandle where
  file : FileInode
  superblock : SuperblockV1
  /-- The data key of an encrypted database. -/
  dataKey : Option Bytes
  /-- The log, once a commit has opened it. -/
  walFile : Option FileInode
  /-- Where the log holds the newest image of a page. -/
  walIndex : List (PageId × Nat)
  walTail : Nat
  currentLsn : Nat
  checkpointThreshold : Nat
  needsRecovery : Bool
  transactionActive : Bool
  isOpen : Bool
  deriving DecidableEq, Repr

/-- The superblock to work with, the data key, and whether the header is still to
be authenticated. -/
structure Unlocked where
  result : SuperblockReadResult
  dataKey : Option Bytes
  legacyUpgradePending : Bool
  deriving DecidableEq, Repr

/-- The fields the log is read against. -/
abbrev Unlocked.base (unlocked : Unlocked) : Superblock := unlocked.result.superblock.toSuperblock

def pagerUnlock (prim : Primitives) (file : FileInode) (password : Option Bytes)
    (result : SuperblockReadResult) : FileM Unlocked := do
  if result.superblock.encrypted then
    match password with
    | none => Program.fail .authentication
    | some [] => Program.fail .authentication
    | some password =>
      let dataKey ← fromExcept (keyUnwrap prim result.superblock password)
      if result.superblock.headerAuth then
        let result ← superblockStoreReadAuthenticatedFile prim file dataKey
        pure { result, dataKey := some dataKey, legacyUpgradePending := false }
      else pure { result, dataKey := some dataKey, legacyUpgradePending := true }
  else if password.isSome then Program.fail .invalidArgument
  else pure { result, dataKey := none, legacyUpgradePending := false }

/-- The key an update of the slots authenticates with. -/
def slotKey (superblock : SuperblockV1) (dataKey : Option Bytes) : Option Bytes :=
  if superblock.headerAuth then dataKey else none

def fileStoreSuperblock (prim : Primitives) (file : FileInode) (next : SuperblockV1)
    (dataKey : Option Bytes) : FileM Unit :=
  superblockStoreUpdateFile prim file next (slotKey next dataKey)

/-- The multi-transaction log, and the single-record log where it held nothing. -/
def pagerRecoverWal (prim : Primitives) (file : FileInode) (superblock : Superblock)
    (dataKey : Option Bytes) : FileM WalRecovery := do
  let recovery ← walRecoverAll prim file superblock dataKey
  if recovery.replayed then pure recovery
  else
    let legacy ← walRecover prim file superblock dataKey
    pure (if legacy.replayed then legacy else recovery)

/-- Advance the superblock to what was recovered. -/
def pagerAdvance (prim : Primitives) (file : FileInode) (superblock : SuperblockV1)
    (dataKey : Option Bytes) (recovery : WalRecovery) : FileM SuperblockV1 := do
  if superblock.checkpointLsn < recovery.lastLsn then
    if !pageGeometryValid recovery.nextPageId superblock.pageSize then Program.fail .corrupt
    else
      let generation ← fromExcept (generationBump superblock.generation)
      let next : SuperblockV1 :=
        { superblock with
          checkpointLsn := recovery.lastLsn
          nextPageId := recovery.nextPageId
          freelistPage := recovery.freelistPage
          generation }
      fileStoreSuperblock prim file next dataKey
      pure next
  else pure superblock

/-- Read the rest of the file in pages and refuse a byte that is not zero. -/
def pagerCheckTrailing (file : FileInode) (pageSize finish : Nat) :
    (fuel offset : Nat) → FileM Unit
  | 0, _ => pure ()
  | fuel + 1, offset =>
    if offset < finish then do
      let chunk := min (finish - offset) pageSize
      let bytes ← fileReadFull file offset chunk
      if !bytesAllZero bytes then Program.fail .corrupt
      else pagerCheckTrailing file pageSize finish fuel (offset + chunk)
    else pure ()

def pagerCanonicalizeFileSize (file : FileInode) (superblock : SuperblockV1)
    (geometryUnauthenticated : Bool) : FileM Unit := do
  if superblock.nextPageId = 0 then Program.fail .invalidArgument
  else if superblock.nextPageId - 1 > (uint64Max - dataOffset) / superblock.pageSize then
    Program.fail .corrupt
  else
    let expectedSize := canonicalSize superblock.nextPageId superblock.pageSize
    let actualSize ← fileSize file
    if actualSize < expectedSize then Program.fail .truncated
    else if actualSize = expectedSize then pure ()
    else
      if geometryUnauthenticated then
        pagerCheckTrailing file superblock.pageSize actualSize
          (actualSize - expectedSize) expectedSize
      fileResizeTo file expectedSize
      fileSync file

/-- Seal the header of a database from before header authentication. -/
def pagerLegacySeal (prim : Primitives) (file : FileInode) (superblock : SuperblockV1)
    (password dataKey : Bytes) : FileM SuperblockV1 := do
  if superblock.keyWrapId = uint32Max || superblock.generation = uint64Max then
    Program.fail .overflow
  else
    let upgraded ← fromExcept (keyWrap prim
      { superblock with
        flags := superblock.flags ||| 2
        keyWrapId := superblock.keyWrapId + 1
        generation := superblock.generation + 1 } password dataKey)
    superblockStoreUpdateFile prim file upgraded (some dataKey)
    pure upgraded

/-- The seal, where one is pending; the password and the key are there then. -/
def pagerUpgrade (prim : Primitives) (file : FileInode) (superblock : SuperblockV1)
    (password : Option Bytes) (unlocked : Unlocked) : FileM SuperblockV1 :=
  match unlocked.legacyUpgradePending, password, unlocked.dataKey with
  | true, some password, some dataKey => pagerLegacySeal prim file superblock password dataKey
  | _, _, _ => pure superblock

def openHandle (file : FileInode) (superblock : SuperblockV1) (dataKey : Option Bytes) :
    PagerHandle :=
  { file, superblock, dataKey, walFile := none, walIndex := []
    walTail := walHeaderSize, currentLsn := superblock.checkpointLsn
    checkpointThreshold := 1000 * superblock.pageSize
    needsRecovery := false, transactionActive := false, isOpen := true }

/-- The open from the replay of the log on. -/
def pagerOpenRecover (prim : Primitives) (file : FileInode) (password : Option Bytes)
    (unlocked : Unlocked) : FileM PagerHandle := do
  let superblock := unlocked.result.superblock
  let recovery ← pagerRecoverWal prim file superblock.toSuperblock unlocked.dataKey
  let superblock ← pagerAdvance prim file superblock unlocked.dataKey recovery
  pagerCanonicalizeFileSize file superblock unlocked.legacyUpgradePending
  let superblock ← pagerUpgrade prim file superblock password unlocked
  walClear
  pure (openHandle file superblock unlocked.dataKey)

def pagerOpen (prim : Primitives) (password : Option Bytes) : FileM PagerHandle := do
  let file ← fileOpenExisting .database
  let selected ← superblockStoreReadFile prim file
  let unlocked ← pagerUnlock prim file password selected
  let superblock := unlocked.result.superblock
  replaceRecover prim superblock.fileId
  superblockStoreHealFile prim file unlocked.result (slotKey superblock unlocked.dataKey)
  pagerOpenRecover prim file password unlocked

end ShibaDb
