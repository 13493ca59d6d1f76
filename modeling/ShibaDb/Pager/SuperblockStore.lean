/-
The two superblock slots of the data file: selection of the newest valid mirror,
the update that writes one slot after the other, and the repair of a damaged
peer.
-/
import ShibaDb.Pager.Files
import ShibaDb.Pager.SuperblockCodec

namespace ShibaDb

open CallProgram FileSystem LittleEndian ByteFile

inductive Slot where
  | first
  | second
  deriving DecidableEq, Repr

def Slot.offset : Slot → Nat
  | first => 0
  | second => superblockSlotSize

@[simp] lemma Slot.offset_le (slot : Slot) : slot.offset ≤ maxOffset := by
  cases slot <;> decide

def Slot.peer : Slot → Slot
  | first => second
  | second => first

/-- A slot that was read and is valid. -/
structure LoadedSlot where
  bytes : Bytes
  superblock : SuperblockV1
  deriving DecidableEq, Repr

/-- `sdb_superblock_read_result`. -/
structure SuperblockReadResult where
  superblock : SuperblockV1
  selectedSlot : Slot
  validMirrorCount : Nat
  deriving DecidableEq, Repr

def loadedSlot (prim : Primitives) : Except SdbError Bytes → Option LoadedSlot
  | .ok bytes => (slotSuperblock prim bytes).map fun superblock => { bytes, superblock }
  | .error _ => none

/-- `sdb_superblock_load_slots`: a slot behind the end of the file is not valid,
an I/O failure is reported after both reads. -/
def superblockLoadSlots (prim : Primitives) (file : FileInode) :
    FileM (Option LoadedSlot × Option LoadedSlot) := do
  let first ← (fileReadFull file Slot.first.offset superblockSlotSize).attempt
  let second ← (fileReadFull file Slot.second.offset superblockSlotSize).attempt
  if first = .error .io || second = .error .io then Program.fail .io
  else pure (loadedSlot prim first, loadedSlot prim second)

/-- The newest of the mirrors; two that differ must not have one generation. -/
def selectMirror : Option LoadedSlot → Option LoadedSlot → Except SdbError SuperblockReadResult
  | none, none => .error .corrupt
  | some first, none =>
    .ok { superblock := first.superblock, selectedSlot := .first, validMirrorCount := 1 }
  | none, some second =>
    .ok { superblock := second.superblock, selectedSlot := .second, validMirrorCount := 1 }
  | some first, some second =>
    if first.superblock.generation = second.superblock.generation
        && first.superblock ≠ second.superblock then .error .corrupt
    else if first.superblock.generation < second.superblock.generation then
      .ok { superblock := second.superblock, selectedSlot := .second, validMirrorCount := 2 }
    else .ok { superblock := first.superblock, selectedSlot := .first, validMirrorCount := 2 }

/-- The outcome of a computation without calls. -/
def fromExcept {α : Type} : Except SdbError α → FileM α
  | .ok value => pure value
  | .error error => Program.fail error

def superblockStoreReadFile (prim : Primitives) (file : FileInode) :
    FileM SuperblockReadResult := do
  let (first, second) ← superblockLoadSlots prim file
  fromExcept (selectMirror first second)

/-- A mirror that also authenticates. -/
def authenticSlot (prim : Primitives) (dataKey : Bytes) (slot : Option LoadedSlot) :
    Option LoadedSlot :=
  slot.filter fun loaded =>
    loaded.superblock.headerAuth && slotAuthTagMatches prim loaded.bytes dataKey

def superblockStoreReadAuthenticatedFile (prim : Primitives) (file : FileInode)
    (dataKey : Bytes) : FileM SuperblockReadResult := do
  let (first, second) ← superblockLoadSlots prim file
  fromExcept (selectMirror (authenticSlot prim dataKey first) (authenticSlot prim dataKey second))

/-- `sdb_superblock_store_heal_file`. -/
def superblockStoreHealFile (prim : Primitives) (file : FileInode)
    (current : SuperblockReadResult) (dataKey : Option Bytes) : FileM Unit := do
  let encoded ← fromExcept (encodeSlot prim current.superblock dataKey)
  let offset := current.selectedSlot.peer.offset
  match ← (fileReadFull file offset superblockSlotSize).attempt with
  | .ok peer =>
    if peer = encoded then pure ()
    else do
      fileWriteFull file offset encoded
      fileSync file
  | .error .truncated => do
      fileWriteFull file offset encoded
      fileSync file
  | .error error => Program.fail error

/-- What an update must not change. -/
def superblockUpdateValid (next current : SuperblockV1) : Bool :=
  current.generation < next.generation
    && next.fileId = current.fileId && next.salt = current.salt
    && next.pageSize = current.pageSize && current.nextPageId ≤ next.nextPageId
    && next.encrypted = current.encrypted

/-- `sdb_superblock_store_update_file_internal`: the slot that is not selected
first, each write followed by a sync. -/
def superblockStoreUpdateFile (prim : Primitives) (file : FileInode) (next : SuperblockV1)
    (dataKey : Option Bytes) : FileM Unit := do
  let encoded ← fromExcept (encodeSlot prim next dataKey)
  let current ← superblockStoreReadFile prim file
  if !superblockUpdateValid next current.superblock then Program.fail .invalidArgument
  else
    fileWriteFull file current.selectedSlot.peer.offset encoded
    fileSync file
    fileWriteFull file current.selectedSlot.offset encoded
    fileSync file

section Reading

variable {prim : Primitives} {file : FileInode} {disk : FileDisk} {slot : Slot}

/-- The slot as it lies in the data file. -/
def slotAt (prim : Primitives) (content : Bytes) (slot : Slot) : Option LoadedSlot :=
  (readAt content slot.offset superblockSlotSize).bind fun bytes =>
    (slotSuperblock prim bytes).map fun superblock => { bytes, superblock }

/-- The superblock a reader of the data file selects. -/
def readSuperblock (prim : Primitives) (content : Bytes) :
    Except SdbError SuperblockReadResult :=
  selectMirror (slotAt prim content .first) (slotAt prim content .second)

def readAuthenticSuperblock (prim : Primitives) (dataKey content : Bytes) :
    Except SdbError SuperblockReadResult :=
  selectMirror (authenticSlot prim dataKey (slotAt prim content .first))
    (authenticSlot prim dataKey (slotAt prim content .second))

@[simp] lemma run_fromExcept {α : Type} (result : Except SdbError α) :
    (fromExcept result).run exec disk = (result, disk) := by
  cases result <;> rfl

lemma run_readSlot (prim : Primitives) (file : FileInode) (disk : FileDisk) (slot : Slot) :
    ∃ bytes, ((fileReadFull file slot.offset superblockSlotSize).attempt).run exec disk =
        (.ok bytes, disk) ∧ bytes ≠ .error .io ∧
      loadedSlot prim bytes = slotAt prim (disk.bytes file) slot := by
  rw [run_attempt]
  cases hread : readAt (disk.bytes file) slot.offset superblockSlotSize with
  | none =>
    rw [run_fileReadFull_short (Slot.offset_le _) hread]
    exact ⟨_, rfl, by simp, by simp [loadedSlot, slotAt, hread]⟩
  | some bytes =>
    rw [run_fileReadFull (Slot.offset_le _) hread]
    exact ⟨_, rfl, by simp, by simp [loadedSlot, slotAt, hread]⟩

lemma run_superblockLoadSlots : (superblockLoadSlots prim file).run exec disk =
      (.ok (slotAt prim (disk.bytes file) .first, slotAt prim (disk.bytes file) .second),
        disk) := by
  obtain ⟨first, hfirst, hfirstIo, hfirstLoaded⟩ := run_readSlot prim file disk .first
  obtain ⟨second, hsecond, hsecondIo, hsecondLoaded⟩ := run_readSlot prim file disk .second
  rw [superblockLoadSlots, run_bind, hfirst, resume_ok, run_bind, hsecond, resume_ok]
  simp only [hfirstIo, hsecondIo, decide_false, Bool.or_false, Bool.false_eq_true, if_false,
    run_pure, hfirstLoaded, hsecondLoaded]

lemma run_superblockStoreReadFile : (superblockStoreReadFile prim file).run exec disk =
      (readSuperblock prim (disk.bytes file), disk) := by
  rw [superblockStoreReadFile, run_bind, run_superblockLoadSlots, resume_ok]
  exact run_fromExcept _

lemma run_superblockStoreReadAuthenticatedFile (dataKey : Bytes) :
    (superblockStoreReadAuthenticatedFile prim file dataKey).run exec disk =
      (readAuthenticSuperblock prim dataKey (disk.bytes file), disk) := by
  rw [superblockStoreReadAuthenticatedFile, run_bind, run_superblockLoadSlots, resume_ok]
  exact run_fromExcept _

end Reading

section Mirrors

variable {prim : Primitives} {content : Bytes} {slot : Slot} {loaded : LoadedSlot}
  {result : SuperblockReadResult} {superblock : SuperblockV1}

/-- A decoded superblock fits its fields and passes the checks of a stored one. -/
lemma superblockV1Decode_eq_ok {input : Bytes}
    (h : superblockV1Decode prim input = .ok superblock) :
    superblock.Sized ∧ superblockV1Valid superblock = true := by
  simp only [superblockV1Decode, Fallible.guard_eq_ok] at h
  obtain ⟨hlength, -, -, -, -, -, h⟩ := h
  split at h
  · rename_i hvalid
    obtain rfl := Except.ok.inj h
    refine ⟨?_, hvalid⟩
    have hlong : superblockHeaderSize ≤ input.length := Nat.not_lt.mp hlength
    simp only [superblockHeaderSize] at hlong
    have hfield : ∀ offset width, offset + width ≤ 160 →
        (field offset width input).length = width :=
      fun offset width h => field_length (by omega)
    have hread : ∀ offset width, offset + width ≤ 160 →
        read (field offset width input) < 256 ^ width := by
      intro offset width h
      have hlt := read_lt (field offset width input)
      rwa [hfield offset width h] at hlt
    exact
      { generation := hread 24 8 (by decide)
        checkpointLsn := hread 32 8 (by decide)
        keyWrapId := hread 100 4 (by decide)
        kdfIterations := hread 104 4 (by decide)
        salt := hfield 56 16 (by decide)
        fileId := hfield 72 16 (by decide)
        wrappedKey := hfield 108 32 (by decide)
        keyWrapTag := hfield 140 16 (by decide) }
  · cases h

lemma slotAt_eq_some (h : slotAt prim content slot = some loaded) :
    readAt content slot.offset superblockSlotSize = some loaded.bytes ∧
      slotSuperblock prim loaded.bytes = some loaded.superblock := by
  simp only [slotAt, Option.bind_eq_some_iff, Option.map_eq_some_iff] at h
  obtain ⟨bytes, hread, superblock, hslot, rfl⟩ := h
  exact ⟨hread, hslot⟩

lemma slotSuperblock_eq_some {bytes : Bytes} (h : slotSuperblock prim bytes = some superblock) :
    superblock.Sized ∧ superblockV1Valid superblock = true := by
  unfold slotSuperblock at h
  split at h
  · cases h
  · rename_i decoded hdecode
    split at h
    · exact Option.some.inj h ▸ superblockV1Decode_eq_ok hdecode
    · cases h

lemma slotAt_of_readAt {bytes : Bytes}
    (hread : readAt content slot.offset superblockSlotSize = some bytes)
    (hslot : slotSuperblock prim bytes = some superblock) :
    slotAt prim content slot = some { bytes, superblock } := by
  simp [slotAt, hread, hslot]

section Selection

variable {slots : Slot → Option LoadedSlot} {other : LoadedSlot}

/-- The selected superblock is the one of the selected slot. -/
lemma selectMirror_eq_ok (h : selectMirror (slots .first) (slots .second) = .ok result) :
    ∃ loaded, slots result.selectedSlot = some loaded ∧ loaded.superblock = result.superblock := by
  cases hfirst : slots .first with
  | none =>
    cases hsecond : slots .second with
    | none => simp [hfirst, hsecond, selectMirror] at h
    | some second =>
      rw [hfirst, hsecond] at h
      obtain rfl := Except.ok.inj h
      exact ⟨second, hsecond, rfl⟩
  | some first =>
    cases hsecond : slots .second with
    | none =>
      rw [hfirst, hsecond] at h
      obtain rfl := Except.ok.inj h
      exact ⟨first, hfirst, rfl⟩
    | some second =>
      rw [hfirst, hsecond, selectMirror] at h
      split_ifs at h
      · obtain rfl := Except.ok.inj h
        exact ⟨second, hsecond, rfl⟩
      · obtain rfl := Except.ok.inj h
        exact ⟨first, hfirst, rfl⟩

section

variable (hslot : slots slot = some loaded)

include hslot

lemma selectMirror_alone (hpeer : slots slot.peer = none) :
    selectMirror (slots .first) (slots .second) =
      .ok { superblock := loaded.superblock, selectedSlot := slot, validMirrorCount := 1 } := by
  cases slot <;> rw [Slot.peer] at hpeer <;> rw [hslot, hpeer, selectMirror]

/-- The choice between a slot and its peer. -/
lemma selectMirror_pair (hpeer : slots slot.peer = some other) :
    selectMirror (slots .first) (slots .second) =
      if other.superblock.generation = loaded.superblock.generation then
        if other.superblock = loaded.superblock then
          .ok { superblock := loaded.superblock, selectedSlot := .first, validMirrorCount := 2 }
        else .error .corrupt
      else if other.superblock.generation < loaded.superblock.generation then
        .ok { superblock := loaded.superblock, selectedSlot := slot, validMirrorCount := 2 }
      else
        .ok { superblock := other.superblock, selectedSlot := slot.peer
              validMirrorCount := 2 } := by
  cases slot <;> rw [Slot.peer] at hpeer <;> rw [hslot, hpeer, selectMirror] <;> grind [Slot.peer]

lemma selectMirror_newer (hpeer : slots slot.peer = some other)
    (hnewer : other.superblock.generation < loaded.superblock.generation) :
    selectMirror (slots .first) (slots .second) =
      .ok { superblock := loaded.superblock, selectedSlot := slot, validMirrorCount := 2 } := by
  rw [selectMirror_pair hslot hpeer, if_neg hnewer.ne, if_pos hnewer]

lemma selectMirror_older (hpeer : slots slot.peer = some other)
    (holder : loaded.superblock.generation < other.superblock.generation) :
    selectMirror (slots .first) (slots .second) =
      .ok { superblock := other.superblock, selectedSlot := slot.peer, validMirrorCount := 2 } := by
  rw [selectMirror_pair hslot hpeer, if_neg holder.ne', if_neg holder.not_gt]

lemma selectMirror_same (hpeer : slots slot.peer = some other)
    (hsame : other.superblock = loaded.superblock) : selectMirror (slots .first) (slots .second) =
      .ok { superblock := loaded.superblock, selectedSlot := .first, validMirrorCount := 2 } := by
  rw [selectMirror_pair hslot hpeer, hsame, if_pos rfl, if_pos rfl]

/-- Two mirrors of one generation that differ. -/
lemma selectMirror_split (hpeer : slots slot.peer = some other)
    (hgeneration : other.superblock.generation = loaded.superblock.generation)
    (hdiffer : other.superblock ≠ loaded.superblock) :
    selectMirror (slots .first) (slots .second) = .error .corrupt := by
  rw [selectMirror_pair hslot hpeer, if_pos hgeneration, if_neg hdiffer]

/-- A slot is selected whose peer is older or holds the same. -/
lemma selectMirror_of_peer (hpeer : ∀ other, slots slot.peer = some other →
      other.superblock.generation < loaded.superblock.generation ∨
        other.superblock = loaded.superblock) :
    ∃ result, selectMirror (slots .first) (slots .second) = .ok result ∧
      result.superblock = loaded.superblock := by
  cases hother : slots slot.peer with
  | none => exact ⟨_, selectMirror_alone hslot hother, rfl⟩
  | some other =>
    rcases hpeer other hother with hlt | hsame
    · exact ⟨_, selectMirror_newer hslot hother hlt, rfl⟩
    · exact ⟨_, selectMirror_same hslot hother hsame, rfl⟩

/-- No slot is newer than the one selected. -/
lemma le_of_selectMirror (h : selectMirror (slots .first) (slots .second) = .ok result) :
    loaded.superblock.generation ≤ result.superblock.generation := by
  cases hother : slots slot.peer with
  | none =>
    obtain rfl := Except.ok.inj ((selectMirror_alone hslot hother).symm.trans h)
    exact le_rfl
  | some other =>
    rw [selectMirror_pair hslot hother] at h
    split_ifs at h with _ _ hlt
    · exact (Except.ok.inj h) ▸ le_rfl
    · exact (Except.ok.inj h) ▸ le_rfl
    · exact (Except.ok.inj h) ▸ not_lt.mp hlt

end

end Selection

lemma readSuperblock_eq_ok (h : readSuperblock prim content = .ok result) :
    ∃ loaded, slotAt prim content result.selectedSlot = some loaded ∧
      loaded.superblock = result.superblock :=
  selectMirror_eq_ok h

/-- Two mirrors of one superblock: the first is selected. -/
lemma readSuperblock_same {first second : Bytes}
    (hfirst : slotAt prim content .first = some { bytes := first, superblock })
    (hsecond : slotAt prim content .second = some { bytes := second, superblock }) :
    readSuperblock prim content =
      .ok { superblock, selectedSlot := .first, validMirrorCount := 2 } := by
  simp [readSuperblock, selectMirror, hfirst, hsecond]

end Mirrors

section Writing

variable {prim : Primitives} {file : FileInode} {disk : FileDisk} {dataKey : Option Bytes}
  {superblock : SuperblockV1} {content encoded : Bytes}

/-- The data file changed at most in its slots. -/
structure KeepsPages (before after : Bytes) : Prop where
  pages : after.drop dataOffset = before.drop dataOffset
  slots : dataOffset ≤ after.length

/-- Nothing but the file changed. -/
structure OnlyTouches (file : FileInode) (before after : FileDisk) : Prop where
  directory : after.directory = before.directory
  files : ∀ other, other ≠ file → after.files other = before.files other

lemma OnlyTouches.refl (file : FileInode) (disk : FileDisk) : OnlyTouches file disk disk :=
  ⟨rfl, fun _ _ => rfl⟩

lemma OnlyTouches.trans {first second third : FileDisk} (h : OnlyTouches file first second)
    (h' : OnlyTouches file second third) : OnlyTouches file first third :=
  ⟨h'.directory.trans h.directory, fun other hne => (h'.files other hne).trans (h.files other hne)⟩

lemma onlyTouches_editFile (e : Edit) : OnlyTouches file disk (disk.editFile file e) :=
  ⟨rfl, fun _ hne => editFile_other e hne⟩

lemma onlyTouches_syncFile : OnlyTouches file disk (disk.syncFile file) :=
  ⟨rfl, fun _ hne => syncFile_other hne⟩

lemma OnlyTouches.names {after : FileDisk} (h : OnlyTouches file disk after) :
    after.names = disk.names := by
  rw [Disk.names, h.directory, Disk.names]

lemma OnlyTouches.bytes {after : FileDisk} (h : OnlyTouches file disk after) {other : FileInode}
    (hne : other ≠ file) : after.bytes other = disk.bytes other := by
  rw [Disk.bytes, h.files other hne, Disk.bytes]

lemma KeepsPages.refl (h : dataOffset ≤ content.length) : KeepsPages content content :=
  ⟨rfl, h⟩

lemma KeepsPages.length {before after : Bytes} (h : KeepsPages before after) :
    after.length = max before.length dataOffset := by
  have hlength := congrArg List.length h.pages
  have hslots := h.slots
  simp only [List.length_drop] at hlength
  omega

/-- The slot holds the bytes. -/
def HoldsSlot (content : Bytes) (slot : Slot) (bytes : Bytes) : Prop :=
  readAt content slot.offset superblockSlotSize = some bytes

/-- Writing one slot leaves the other slot and the pages alone. -/
lemma holdsSlot_write (content : Bytes) (slot : Slot)
    (hencoded : encoded.length = superblockSlotSize) :
    HoldsSlot (writeAt content slot.offset encoded) slot encoded := by
  rw [HoldsSlot, ← hencoded]
  exact readAt_writeAt content slot.offset encoded

lemma HoldsSlot.write_peer {slot : Slot} {bytes : Bytes} (h : HoldsSlot content slot bytes)
    (hencoded : encoded.length = superblockSlotSize) :
    HoldsSlot (writeAt content slot.peer.offset encoded) slot bytes := by
  have hend : slot.offset + superblockSlotSize ≤ content.length :=
    readAt_eq_some_iff.mp ⟨bytes, h⟩
  rw [HoldsSlot, readAt_writeAt_disjoint _ hend]
  · exact h
  · rw [hencoded]
    cases slot with
    | first => exact .inl (by simp [Slot.offset, Slot.peer])
    | second => exact .inr (by simp [Slot.offset, Slot.peer])

lemma drop_writeSlot (slot : Slot) (hencoded : encoded.length = superblockSlotSize) :
    (writeAt content slot.offset encoded).drop dataOffset = content.drop dataOffset := by
  apply drop_writeAt
  rw [hencoded]
  cases slot <;> simp [Slot.offset, superblockSlotSize, dataOffset]

lemma HoldsSlot.slots {bytes : Bytes} (hsecond : HoldsSlot content .second bytes) :
    dataOffset ≤ content.length := by
  have hend := readAt_eq_some_iff.mp ⟨bytes, hsecond⟩
  simpa [Slot.offset, superblockSlotSize, dataOffset] using hend

@[simp] lemma Slot.peer_peer (slot : Slot) : slot.peer.peer = slot := by
  cases slot <;> rfl

lemma HoldsSlot.slots_of_peer {slot : Slot} {bytes other : Bytes}
    (hslot : HoldsSlot content slot bytes) (hpeer : HoldsSlot content slot.peer other) :
    dataOffset ≤ content.length := by
  cases slot with
  | first => exact hpeer.slots
  | second => exact hslot.slots

/-- Healing makes the peer of the selected slot a mirror of it. -/
lemma run_superblockStoreHealFile {current : SuperblockReadResult} {bytes : Bytes}
    (hencode : encodeSlot prim current.superblock dataKey = .ok encoded)
    (hlength : encoded.length = superblockSlotSize)
    (hselected : HoldsSlot (disk.bytes file) current.selectedSlot bytes) :
    ∃ after, (superblockStoreHealFile prim file current dataKey).run exec disk = (.ok (), after) ∧
      OnlyTouches file disk after ∧ HoldsSlot (after.bytes file) current.selectedSlot bytes ∧
      HoldsSlot (after.bytes file) current.selectedSlot.peer encoded ∧
      KeepsPages (disk.bytes file) (after.bytes file) := by
  have hwritten : ∃ after, (fileWriteFull file current.selectedSlot.peer.offset encoded >>=
        fun _ => fileSync file).run exec disk = (.ok (), after) ∧
      OnlyTouches file disk after ∧
      HoldsSlot (after.bytes file) current.selectedSlot bytes ∧
      HoldsSlot (after.bytes file) current.selectedSlot.peer encoded ∧
      KeepsPages (disk.bytes file) (after.bytes file) := by
    have hsel := hselected.write_peer hlength
    have hpeer := holdsSlot_write (disk.bytes file) current.selectedSlot.peer hlength
    refine ⟨(disk.editFile file (.write current.selectedSlot.peer.offset encoded)).syncFile file,
      by simp, (onlyTouches_editFile _).trans onlyTouches_syncFile, ?_⟩
    rw [syncFile_bytes, editFile_bytes]
    exact ⟨hsel, hpeer, drop_writeSlot _ hlength, hsel.slots_of_peer hpeer⟩
  rw [superblockStoreHealFile, run_bind, run_fromExcept, hencode, resume_ok, run_bind, run_attempt]
  cases hread : readAt (disk.bytes file) current.selectedSlot.peer.offset superblockSlotSize with
  | none =>
    rw [run_fileReadFull_short (Slot.offset_le _) hread]
    exact hwritten
  | some peer =>
    rw [run_fileReadFull (Slot.offset_le _) hread]
    by_cases hsame : peer = encoded
    · subst hsame
      refine ⟨disk, by simp, OnlyTouches.refl file disk, hselected, hread, ?_⟩
      exact KeepsPages.refl (hselected.slots_of_peer hread)
    · simp only [resume_ok, if_neg hsame]
      exact hwritten

/-- An update leaves two mirrors of the new superblock. -/
lemma run_superblockStoreUpdateFile {current : SuperblockReadResult} {next : SuperblockV1}
    (hencode : encodeSlot prim next dataKey = .ok encoded)
    (hlength : encoded.length = superblockSlotSize)
    (hcurrent : readSuperblock prim (disk.bytes file) = .ok current)
    (hvalid : superblockUpdateValid next current.superblock = true) :
    ∃ after, (superblockStoreUpdateFile prim file next dataKey).run exec disk = (.ok (), after) ∧
      OnlyTouches file disk after ∧ (∀ slot, HoldsSlot (after.bytes file) slot encoded) ∧
      KeepsPages (disk.bytes file) (after.bytes file) := by
  have hselected := holdsSlot_write
    (writeAt (disk.bytes file) current.selectedSlot.peer.offset encoded)
    current.selectedSlot hlength
  have hpeer : HoldsSlot (writeAt (writeAt (disk.bytes file)
      current.selectedSlot.peer.offset encoded) current.selectedSlot.offset encoded)
        current.selectedSlot.peer encoded := by
    have hfirst := holdsSlot_write (disk.bytes file) current.selectedSlot.peer hlength
    have hkept := hfirst.write_peer hlength
    rwa [Slot.peer_peer] at hkept
  refine ⟨(((disk.editFile file (.write current.selectedSlot.peer.offset encoded)).syncFile
    file).editFile file (.write current.selectedSlot.offset encoded)).syncFile file, ?_, ?_, ?_⟩
  · rw [superblockStoreUpdateFile, run_bind, run_fromExcept, hencode, resume_ok, run_bind,
      run_superblockStoreReadFile, hcurrent, resume_ok]
    simp [hvalid]
  · exact ((onlyTouches_editFile _).trans onlyTouches_syncFile).trans
      ((onlyTouches_editFile _).trans onlyTouches_syncFile)
  · rw [syncFile_bytes, editFile_bytes, syncFile_bytes, editFile_bytes]
    refine ⟨?_, ?_, hselected.slots_of_peer hpeer⟩
    · intro slot
      by_cases hslot : slot = current.selectedSlot
      · rw [hslot]
        exact hselected
      · have hother : slot = current.selectedSlot.peer := by
          cases slot <;> cases hsel : current.selectedSlot <;> simp_all [Slot.peer]
        rw [hother]
        exact hpeer
    · change List.drop dataOffset (writeAt (writeAt (disk.bytes file)
        current.selectedSlot.peer.offset encoded) current.selectedSlot.offset encoded) = _
      rw [drop_writeSlot _ hlength, drop_writeSlot _ hlength]

end Writing

end ShibaDb
