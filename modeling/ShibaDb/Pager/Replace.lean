/-
The marker of a replacement, which the next open reads to tell which data file it
found.
-/
import ShibaDb.Pager.SuperblockStore

namespace ShibaDb

open CallProgram FileSystem LittleEndian

def replaceMarkerSize : Nat := 32
def replaceChecksumOffset : Nat := 24
def replaceMagic : Bytes := [83, 66, 82, 49]

def replaceMarkerDecode (prim : Primitives) (marker : Bytes) : Except SdbError Bytes :=
  if field 0 4 marker ≠ replaceMagic || read (field 4 2 marker) ≠ 1
      || read (field 6 2 marker) ≠ replaceMarkerSize
      || read (field replaceChecksumOffset 4 marker) ≠
        crc32ZeroedRange prim marker replaceChecksumOffset 4 then .error .corrupt
  else if !bytesAllZero (field 28 4 marker) then .error .corrupt
  else .ok (field 8 16 marker)

/-- Remove the temporary marker if it is still there; a failure is ignored. -/
def replaceDropTemporary : FileM Unit := do
  let _ ← (fileRemove .markerTemporary).attempt

/-- `sdb_replace_finish`: the log goes before the marker. -/
def replaceFinish : FileM Unit := do
  fileRemove .wal
  fileSyncParentDirectory
  fileRemove .marker
  fileSyncParentDirectory

def replaceAbort : FileM Unit := do
  fileRemove .marker
  fileSyncParentDirectory

/-- What the marker says about the data file at the path. -/
def replaceMarkerRead (prim : Primitives) (marker : FileInode) : FileM Bytes := do
  let bytes ← fileReadFull marker 0 replaceMarkerSize
  fromExcept (replaceMarkerDecode prim bytes)

def replaceRecover (prim : Primitives) (currentFileId : Bytes) : FileM Unit := do
  replaceDropTemporary
  match ← (fileOpenExisting .marker).attempt with
  | .error .notFound => pure ()
  | .error error => Program.fail error
  | .ok marker =>
    match ← (replaceMarkerRead prim marker).attempt with
    | .ok fileId => if fileId = currentFileId then replaceFinish else replaceAbort
    | .error .corrupt => replaceAbort
    | .error .truncated => replaceAbort
    | .error .io => replaceAbort
    | .error error => Program.fail error

end ShibaDb
