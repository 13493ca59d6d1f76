/-
A directory of files.  Names are entries of the directory, files are inodes
with a kind; edits of a file wait for a sync of the file, edits of the directory
for a sync of the directory.
-/
import ShibaDb.Lib.ByteFile
import ShibaDb.Lib.CallProgram
import ShibaDb.Lib.Durable

namespace FileSystem

open Durable CallProgram
open LittleEndian (Bytes)

/-- A file, whatever its names are. -/
structure Inode (Kind : Type) where
  kind : Kind
  number : Nat
  deriving DecidableEq, Repr

inductive Edit where
  | write (offset : Nat) (data : Bytes)
  | resize (size : Nat)
  deriving DecidableEq, Repr

def Edit.apply : Edit → Bytes → Bytes
  | .write offset data, content => ByteFile.writeAt content offset data
  | .resize size, content => ByteFile.resize content size

abbrev Directory (Name Kind : Type) := Name → Option (Inode Kind)

inductive DirectoryEdit (Name Kind : Type) where
  | link (name : Name) (inode : Inode Kind)
  | unlink (name : Name)

section Definitions

variable {Name Kind : Type} [DecidableEq Name] [DecidableEq Kind]

def DirectoryEdit.apply : DirectoryEdit Name Kind → Directory Name Kind → Directory Name Kind
  | .link name inode, directory => Function.update directory name (some inode)
  | .unlink name, directory => Function.update directory name none

structure Disk (Name Kind : Type) where
  directory : Buffered (Directory Name Kind) (DirectoryEdit Name Kind)
  files : Inode Kind → Buffered Bytes Edit
  /-- The number of the next file to be created. -/
  fresh : Nat

def Disk.names (disk : Disk Name Kind) : Directory Name Kind :=
  disk.directory.current DirectoryEdit.apply

/-- The bytes a reader of the file sees. -/
def Disk.bytes (disk : Disk Name Kind) (inode : Inode Kind) : Bytes :=
  (disk.files inode).current Edit.apply

def Disk.setFile (disk : Disk Name Kind) (inode : Inode Kind) (file : Buffered Bytes Edit) :
    Disk Name Kind :=
  { disk with files := Function.update disk.files inode file }

def Disk.editFile (disk : Disk Name Kind) (inode : Inode Kind) (e : Edit) : Disk Name Kind :=
  disk.setFile inode ((disk.files inode).edit e)

def Disk.syncFile (disk : Disk Name Kind) (inode : Inode Kind) : Disk Name Kind :=
  disk.setFile inode ((disk.files inode).sync Edit.apply)

def Disk.editDirectory (disk : Disk Name Kind) (e : DirectoryEdit Name Kind) : Disk Name Kind :=
  { disk with directory := disk.directory.edit e }

def Disk.syncDirectory (disk : Disk Name Kind) : Disk Name Kind :=
  { disk with directory := disk.directory.sync DirectoryEdit.apply }

inductive Call (Name Kind : Type) where
  | openExisting (name : Name)
  | createNew (name : Name) (kind : Kind)
  | size (inode : Inode Kind)
  | readFull (inode : Inode Kind) (offset size : Nat)
  | writeFull (inode : Inode Kind) (offset : Nat) (data : Bytes)
  | resize (inode : Inode Kind) (size : Nat)
  | sync (inode : Inode Kind)
  | remove (name : Name)
  | syncDirectory

inductive CallError where
  | notFound
  | alreadyExists
  | truncated
  | invalid
  | failed
  deriving DecidableEq, Repr

/-- The largest offset or size a call on a file takes. -/
def maxOffset : Nat := 2 ^ 63 - 1

/-- What a call returns when it succeeds. -/
abbrev Call.Value : Call Name Kind → Type
  | .openExisting _ => Inode Kind
  | .createNew _ _ => Inode Kind
  | .size _ => Nat
  | .readFull _ _ _ => Bytes
  | .writeFull _ _ _ => Unit
  | .resize _ _ => Unit
  | .sync _ => Unit
  | .remove _ => Unit
  | .syncDirectory => Unit

abbrev Call.Reply (request : Call Name Kind) : Type := Except CallError request.Value

/-- A call on a medium that works. -/
def exec : (request : Call Name Kind) → Disk Name Kind → request.Reply × Disk Name Kind
  | .openExisting name, disk =>
    match disk.names name with
    | some inode => (.ok inode, disk)
    | none => (.error .notFound, disk)
  | .createNew name kind, disk =>
    match disk.names name with
    | some _ => (.error .alreadyExists, disk)
    | none =>
      let inode : Inode Kind := ⟨kind, disk.fresh⟩
      (.ok inode, { (disk.editDirectory (.link name inode)).setFile inode ⟨[], []⟩ with
        fresh := disk.fresh + 1 })
  | .size inode, disk => (.ok (disk.bytes inode).length, disk)
  | .readFull inode offset size, disk =>
    if maxOffset < offset then (.error .invalid, disk)
    else
      match ByteFile.readAt (disk.bytes inode) offset size with
      | some bytes => (.ok bytes, disk)
      | none => (.error .truncated, disk)
  | .writeFull inode offset data, disk =>
    if maxOffset < offset then (.error .invalid, disk)
    else (.ok (), disk.editFile inode (.write offset data))
  | .resize inode size, disk =>
    if maxOffset < size then (.error .invalid, disk)
    else (.ok (), disk.editFile inode (.resize size))
  | .sync inode, disk => (.ok (), disk.syncFile inode)
  | .remove name, disk =>
    match disk.names name with
    | some _ => (.ok (), disk.editDirectory (.unlink name))
    | none => (.error .notFound, disk)
  | .syncDirectory, disk => (.ok (), disk.syncDirectory)

/-- The environment in which every call works. -/
def works : Environment (Call Name Kind) Call.Reply (Disk Name Kind) :=
  fun request disk reply after => (reply, after) = exec request disk

/-- What a call that fails may leave: a write or a resize any content of its file, a
call on the directory its effect or nothing, every other call nothing. -/
def Spoiled : Call Name Kind → Disk Name Kind → Disk Name Kind → Prop
  | .writeFull inode _ _, disk, after => ∃ file, after = disk.setFile inode file
  | .resize inode _, disk, after => ∃ file, after = disk.setFile inode file
  | .createNew name kind, disk, after =>
    after = disk ∨ after = (exec (.createNew name kind) disk).2
  | .remove name, disk, after => after = disk ∨ after = (exec (.remove name) disk).2
  | .openExisting _, disk, after => after = disk
  | .size _, disk, after => after = disk
  | .readFull _ _ _, disk, after => after = disk
  | .sync _, disk, after => after = disk
  | .syncDirectory, disk, after => after = disk

/-- The environment in which any call may fail. -/
def faulty : Environment (Call Name Kind) Call.Reply (Disk Name Kind) :=
  fun request disk reply after =>
    (reply, after) = exec request disk ∨ reply = .error .failed ∧ Spoiled request disk after

/-- What a crash may leave: directory entries are kept or lost one by one, file
edits may also be torn, each kind of file in its own way. -/
structure Crash (tears : Kind → Edit → Bytes → Bytes → Prop) (disk after : Disk Name Kind) :
    Prop where
  directory : ∃ names, after.directory = ⟨names, []⟩ ∧
    Survives DirectoryEdit.apply (fun _ _ _ => False) disk.directory.durable
      disk.directory.pending names
  files : ∀ inode, ∃ bytes, after.files inode = ⟨bytes, []⟩ ∧
    Survives Edit.apply (tears inode.kind) (disk.files inode).durable
      (disk.files inode).pending bytes
  fresh : after.fresh = disk.fresh

end Definitions

section Lemmas

variable {Name Kind : Type} [DecidableEq Kind] {disk : Disk Name Kind}
  {inode other : Inode Kind}

@[simp] lemma setFile_same (disk : Disk Name Kind) (inode : Inode Kind)
    (file : Buffered Bytes Edit) : (disk.setFile inode file).files inode = file :=
  Function.update_self ..

@[simp] lemma setFile_self (disk : Disk Name Kind) (inode : Inode Kind) :
    disk.setFile inode (disk.files inode) = disk := by
  rw [Disk.setFile, Function.update_eq_self]

lemma setFile_other (file : Buffered Bytes Edit) (h : other ≠ inode) :
    (disk.setFile inode file).files other = disk.files other :=
  Function.update_of_ne h ..

@[simp] lemma editFile_files (e : Edit) :
    (disk.editFile inode e).files inode = (disk.files inode).edit e := setFile_same ..

lemma editFile_other (e : Edit) (h : other ≠ inode) :
    (disk.editFile inode e).files other = disk.files other := setFile_other _ h

@[simp] lemma editFile_bytes (e : Edit) :
    (disk.editFile inode e).bytes inode = e.apply (disk.bytes inode) := by
  rw [Disk.bytes, editFile_files, Buffered.current_edit]
  rfl

lemma editFile_bytes_other (e : Edit) (h : other ≠ inode) :
    (disk.editFile inode e).bytes other = disk.bytes other := by
  rw [Disk.bytes, editFile_other e h]
  rfl

@[simp] lemma syncFile_files :
    (disk.syncFile inode).files inode = ⟨disk.bytes inode, []⟩ := setFile_same ..

lemma syncFile_other (h : other ≠ inode) :
    (disk.syncFile inode).files other = disk.files other := setFile_other _ h

@[simp] lemma syncFile_bytes (other : Inode Kind) :
    (disk.syncFile inode).bytes other = disk.bytes other := by
  by_cases h : other = inode
  · subst h
    rw [Disk.bytes, syncFile_files]
    rfl
  · rw [Disk.bytes, syncFile_other h]
    rfl

/-- What a program does on a medium that works it may do on one that may fail. -/
lemma finishes_faulty [DecidableEq Name] {ε α : Type}
    (program : Program (Call Name Kind) Call.Reply ε α) (disk : Disk Name Kind) :
    program.Finishes faulty disk (program.run exec disk).1 (program.run exec disk).2 := by
  apply run_finishes
  intro request world
  exact .inl rfl

end Lemmas

section CrashLemmas

variable {Name Kind : Type} [DecidableEq Name] {disk after : Disk Name Kind}
  {inode : Inode Kind} {tears : Kind → Edit → Bytes → Bytes → Prop}

@[simp] lemma syncDirectory_names : disk.syncDirectory.names = disk.names :=
  Buffered.current_sync ..

@[simp] lemma syncDirectory_bytes (other : Inode Kind) :
    disk.syncDirectory.bytes other = disk.bytes other := rfl

/-- A file without pending edits survives a crash as it is. -/
lemma Crash.settled (h : Crash tears disk after) {bytes : Bytes}
    (hfile : disk.files inode = ⟨bytes, []⟩) : after.files inode = ⟨bytes, []⟩ := by
  obtain ⟨bytes', hafter, hsurvives⟩ := h.files inode
  rw [hfile, survives_nil] at hsurvives
  rw [hafter, hsurvives]

end CrashLemmas

end FileSystem
