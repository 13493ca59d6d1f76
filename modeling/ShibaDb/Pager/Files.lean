/-
The files of a database and the calls of `file.c` on them, as programs that may
be run on a medium that works, fails or crashes.
-/
import ShibaDb.Lib.FileSystem
import ShibaDb.Pager.PageCodec

namespace ShibaDb

open CallProgram FileSystem

/-- The names next to the database path. -/
inductive FileName where
  | database
  | wal
  | marker
  | markerTemporary
  deriving DecidableEq, Repr

inductive FileKind where
  | database
  | wal
  | marker
  deriving DecidableEq, Repr

abbrev FileInode := Inode FileKind
abbrev FileDisk := Disk FileName FileKind
abbrev FileCall := Call FileName FileKind

/-- A computation of the library that works on files. -/
abbrev FileM := Program FileCall Call.Reply SdbError

def callStatus : CallError → SdbError
  | .notFound => .notFound
  | .alreadyExists => .conflict
  | .truncated => .truncated
  | .invalid => .invalidArgument
  | .failed => .io

/-- A call whose failure is the status of the function. -/
def fileCall (request : FileCall) : FileM request.Value := do
  match ← Program.request request with
  | .ok value => pure value
  | .error error => Program.fail (callStatus error)

def fileOpenExisting (name : FileName) : FileM FileInode := fileCall (.openExisting name)

def fileCreateNew (name : FileName) (kind : FileKind) : FileM FileInode :=
  fileCall (.createNew name kind)

def fileSize (file : FileInode) : FileM Nat := fileCall (.size file)

def fileReadFull (file : FileInode) (offset size : Nat) : FileM Bytes :=
  fileCall (.readFull file offset size)

def fileWriteFull (file : FileInode) (offset : Nat) (data : Bytes) : FileM Unit :=
  fileCall (.writeFull file offset data)

def fileResizeTo (file : FileInode) (size : Nat) : FileM Unit := fileCall (.resize file size)

def fileSync (file : FileInode) : FileM Unit := fileCall (.sync file)

def fileSyncParentDirectory : FileM Unit := fileCall .syncDirectory

/-- `sdb_file_remove` of a name that may be missing. -/
def fileRemove (name : FileName) : FileM Unit := do
  match ← Program.request (.remove name) with
  | .ok _ => pure ()
  | .error .notFound => pure ()
  | .error _ => Program.fail .io

section Working

variable {disk : FileDisk} {name : FileName} {file : FileInode} {offset size : Nat}

lemma run_fileOpenExisting (h : disk.names name = some file) :
    (fileOpenExisting name).run exec disk = (.ok file, disk) := by
  simp [fileOpenExisting, fileCall, exec, h]

lemma run_fileOpenExisting_missing (h : disk.names name = none) :
    (fileOpenExisting name).run exec disk = (.error .notFound, disk) := by
  simp [fileOpenExisting, fileCall, exec, h, callStatus]

@[simp] lemma run_fileSize :
    (fileSize file).run exec disk = (.ok (disk.bytes file).length, disk) := by
  simp [fileSize, fileCall, exec]

lemma run_fileReadFull {bytes : Bytes} (hoffset : offset ≤ maxOffset)
    (h : ByteFile.readAt (disk.bytes file) offset size = some bytes) :
    (fileReadFull file offset size).run exec disk = (.ok bytes, disk) := by
  simp [fileReadFull, fileCall, exec, h, Nat.not_lt.mpr hoffset]

lemma run_fileReadFull_short (hoffset : offset ≤ maxOffset)
    (h : ByteFile.readAt (disk.bytes file) offset size = none) :
    (fileReadFull file offset size).run exec disk = (.error .truncated, disk) := by
  simp [fileReadFull, fileCall, exec, h, callStatus, Nat.not_lt.mpr hoffset]

/-- A read changes nothing. -/
lemma run_fileReadFull_disk (file : FileInode) (offset size : Nat) (disk : FileDisk) :
    ((fileReadFull file offset size).run exec disk).2 = disk := by
  by_cases hfar : maxOffset < offset
  · simp [fileReadFull, fileCall, exec, hfar]
  · cases hread : ByteFile.readAt (disk.bytes file) offset size with
    | none => simp [fileReadFull, fileCall, exec, hfar, hread]
    | some bytes => simp [fileReadFull, fileCall, exec, hfar, hread]

@[simp] lemma run_fileWriteFull {data : Bytes} (hoffset : offset ≤ maxOffset) :
    (fileWriteFull file offset data).run exec disk =
      (.ok (), disk.editFile file (.write offset data)) := by
  simp [fileWriteFull, fileCall, exec, Nat.not_lt.mpr hoffset]

lemma run_fileWriteFull_far {data : Bytes} (hoffset : maxOffset < offset) :
    (fileWriteFull file offset data).run exec disk = (.error .invalidArgument, disk) := by
  simp [fileWriteFull, fileCall, exec, callStatus, hoffset]

@[simp] lemma run_fileResizeTo (hsize : size ≤ maxOffset) :
    (fileResizeTo file size).run exec disk = (.ok (), disk.editFile file (.resize size)) := by
  simp [fileResizeTo, fileCall, exec, Nat.not_lt.mpr hsize]

lemma run_fileResizeTo_far (hsize : maxOffset < size) :
    (fileResizeTo file size).run exec disk = (.error .invalidArgument, disk) := by
  simp [fileResizeTo, fileCall, exec, callStatus, hsize]

@[simp] lemma run_fileSync : (fileSync file).run exec disk = (.ok (), disk.syncFile file) := by
  simp [fileSync, fileCall, exec]

@[simp] lemma run_fileSyncParentDirectory :
    fileSyncParentDirectory.run exec disk = (.ok (), disk.syncDirectory) := by
  simp [fileSyncParentDirectory, fileCall, exec]

lemma run_fileRemove {inode : FileInode} (h : disk.names name = some inode) :
    (fileRemove name).run exec disk = (.ok (), disk.editDirectory (.unlink name)) := by
  simp [fileRemove, exec, h]

lemma run_fileRemove_missing (h : disk.names name = none) :
    (fileRemove name).run exec disk = (.ok (), disk) := by
  simp [fileRemove, exec, h]

end Working

section Faulty

variable {disk : FileDisk} {name : FileName} {file : FileInode} {bad : SdbError → FileDisk → Prop}
  {ok : Unit → FileDisk → Prop}

lemma meets_fileCall {request : FileCall} {ok : request.Value → FileDisk → Prop}
    (hok : ∀ value after, exec request disk = (.ok value, after) → ok value after)
    (herror : ∀ error after, exec request disk = (.error error, after) →
      bad (callStatus error) after) (hfault : ∀ after, Spoiled request disk after → bad .io after) :
    (fileCall request).Meets faulty ok bad disk := by
  apply meets_bind
  apply meets_request
  intro reply after henv
  rcases henv with hexec | ⟨rfl, hspoiled⟩
  · cases reply with
    | ok value => exact hok value after hexec.symm
    | error error => exact herror error after hexec.symm
  · exact hfault after hspoiled

lemma meets_fileReadFull {offset size : Nat} {ok : Bytes → FileDisk → Prop}
    (hok : ∀ bytes, ByteFile.readAt (disk.bytes file) offset size = some bytes → ok bytes disk)
    (hbad : ∀ error, bad error disk) :
    (fileReadFull file offset size).Meets faulty ok bad disk := by
  apply meets_fileCall
  · intro value after hexec
    simp only [exec] at hexec
    split at hexec
    · cases (Prod.mk.inj hexec).1
    split at hexec
    · rename_i bytes hread
      obtain ⟨hvalue, rfl⟩ := Prod.mk.inj hexec
      obtain rfl := Except.ok.inj hvalue
      exact hok bytes hread
    · cases (Prod.mk.inj hexec).1
  · intro error after hexec
    simp only [exec] at hexec
    split at hexec
    · obtain ⟨-, rfl⟩ := Prod.mk.inj hexec
      exact hbad _
    split at hexec
    · cases (Prod.mk.inj hexec).1
    · obtain ⟨-, rfl⟩ := Prod.mk.inj hexec
      exact hbad _
  · rintro after rfl
    exact hbad _

lemma meets_fileSize {ok : Nat → FileDisk → Prop} (hok : ok (disk.bytes file).length disk)
    (hbad : ∀ error, bad error disk) : (fileSize file).Meets faulty ok bad disk := by
  apply meets_fileCall
  · intro value after hexec
    obtain ⟨hvalue, rfl⟩ := Prod.mk.inj hexec
    obtain rfl := Except.ok.inj hvalue
    exact hok
  · intro error after hexec
    cases (Prod.mk.inj hexec).1
  · rintro after rfl
    exact hbad _

/-- A call that edits a file: it works, it refuses its range, or it fails. -/
lemma meets_edit {request : FileCall} {ok : request.Value → FileDisk → Prop} {p : Prop}
    [Decidable p] {value : request.Value} {edited : FileDisk}
    (hexec : exec request disk =
      if p then (.error .invalid, disk) else (.ok value, edited))
    (hspoiled : ∀ after, Spoiled request disk after → ∃ content, after = disk.setFile file content)
    (hok : ¬p → ok value edited) (hbad : ∀ error content, bad error (disk.setFile file content)) :
    (fileCall request).Meets faulty ok bad disk := by
  have hkept : ∀ error, bad error disk := by
    intro error
    have hself := hbad error (disk.files file)
    rwa [setFile_self] at hself
  apply meets_fileCall
  · intro reply after hreply
    rw [hexec] at hreply
    split at hreply
    · cases (Prod.mk.inj hreply).1
    · rename_i hrange
      obtain ⟨hvalue, rfl⟩ := Prod.mk.inj hreply
      obtain rfl := Except.ok.inj hvalue
      exact hok hrange
  · intro error after hreply
    rw [hexec] at hreply
    split at hreply
    · obtain ⟨-, rfl⟩ := Prod.mk.inj hreply
      exact hkept _
    · cases (Prod.mk.inj hreply).1
  · intro after hafter
    obtain ⟨content, rfl⟩ := hspoiled after hafter
    exact hbad _ content

lemma meets_fileWriteFull {offset : Nat} {data : Bytes}
    (hok : ok () (disk.editFile file (.write offset data)))
    (hbad : ∀ error content, bad error (disk.setFile file content)) :
    (fileWriteFull file offset data).Meets faulty ok bad disk := by
  unfold fileWriteFull
  exact meets_edit rfl (fun _ h => h) (fun _ => hok) hbad

lemma meets_fileResizeTo {size : Nat}
    (hok : size ≤ maxOffset → ok () (disk.editFile file (.resize size)))
    (hbad : ∀ error content, bad error (disk.setFile file content)) :
    (fileResizeTo file size).Meets faulty ok bad disk := by
  unfold fileResizeTo
  exact meets_edit rfl (fun _ h => h) (fun hrange => hok (Nat.not_lt.mp hrange)) hbad

lemma meets_fileSync (hok : ok () (disk.syncFile file)) (hbad : ∀ error, bad error disk) :
    (fileSync file).Meets faulty ok bad disk := by
  apply meets_fileCall
  · intro value after hexec
    obtain ⟨-, rfl⟩ := Prod.mk.inj hexec
    exact hok
  · intro error after hexec
    cases (Prod.mk.inj hexec).1
  · rintro after rfl
    exact hbad _

lemma meets_fileSyncParentDirectory (hok : ok () disk.syncDirectory)
    (hbad : ∀ error, bad error disk) : fileSyncParentDirectory.Meets faulty ok bad disk := by
  apply meets_fileCall
  · intro value after hexec
    obtain ⟨-, rfl⟩ := Prod.mk.inj hexec
    exact hok
  · intro error after hexec
    cases (Prod.mk.inj hexec).1
  · rintro after rfl
    exact hbad _

lemma meets_fileOpenExisting {ok : FileInode → FileDisk → Prop}
    (hok : ∀ inode, disk.names name = some inode → ok inode disk)
    (hmissing : disk.names name = none → bad .notFound disk) (hbad : bad .io disk) :
    (fileOpenExisting name).Meets faulty ok bad disk := by
  apply meets_fileCall
  · intro value after hexec
    simp only [exec] at hexec
    split at hexec
    · rename_i inode hname
      obtain ⟨hvalue, rfl⟩ := Prod.mk.inj hexec
      obtain rfl := Except.ok.inj hvalue
      exact hok inode hname
    · cases (Prod.mk.inj hexec).1
  · intro error after hexec
    simp only [exec] at hexec
    split at hexec
    · cases (Prod.mk.inj hexec).1
    · rename_i hname
      obtain ⟨herror, rfl⟩ := Prod.mk.inj hexec
      obtain rfl := Except.error.inj herror
      exact hmissing hname
  · rintro after rfl
    exact hbad

/-- The disk behind a created file. -/
def createdFile (disk : FileDisk) (name : FileName) (kind : FileKind) : FileDisk :=
  (exec (.createNew name kind) disk).2

lemma meets_fileCreateNew {kind : FileKind} {ok : FileInode → FileDisk → Prop}
    (hname : disk.names name = none) (hok : ok ⟨kind, disk.fresh⟩ (createdFile disk name kind))
    (hbad : ∀ error after, bad error after) :
    (fileCreateNew name kind).Meets faulty ok bad disk := by
  apply meets_fileCall
  · intro value after hexec
    have hafter : after = createdFile disk name kind := by rw [createdFile, hexec]
    simp only [exec, hname] at hexec
    obtain ⟨hvalue, -⟩ := Prod.mk.inj hexec
    obtain rfl := Except.ok.inj hvalue
    rw [hafter]
    exact hok
  · intro error after hexec
    exact hbad _ after
  · intro after hspoiled
    exact hbad _ after

end Faulty

end ShibaDb
