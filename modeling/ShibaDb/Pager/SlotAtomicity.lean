/-
The two superblock slots over runs of updates, repairs and crashes: whatever a
crash leaves of the slot that is being written, the other slot decides.
-/
import ShibaDb.Pager.PartialApply

namespace ShibaDb

open CallProgram FileSystem LittleEndian ByteFile

/-- A write of a slot that is torn leaves a slot that does not decode, and the other
slot as it was. -/
def SlotTears (prim : Primitives) (tears : FileKind → Edit → Bytes → Bytes → Prop)
    (kind : FileKind) : Prop :=
  ∀ (slot : Slot) (data before after : Bytes), tears kind (.write slot.offset data) before after →
    slotAt prim after slot = none ∧ slotAt prim after slot.peer = slotAt prim before slot.peer

section Visits

variable {file : FileInode} {disk middle : FileDisk} {prim : Primitives}

lemma works_eq (request : FileCall) (disk : FileDisk) (reply : request.Reply) (after : FileDisk)
    (h : works request disk reply after) : (reply, after) = exec request disk := h

lemma visits_fileCall {request : FileCall} (h : (fileCall request).Visits works disk middle) :
    middle = disk ∨ middle = (exec request disk).2 := by
  rcases h with rfl | ⟨reply, after, hreply, h⟩
  · exact .inl rfl
  · right
    have hafter : after = (exec request disk).2 := congrArg Prod.snd (works_eq _ _ _ _ hreply)
    rw [← hafter]
    cases reply with
    | ok value => exact h
    | error error => exact h

lemma visits_fromExcept {α : Type} {result : Except SdbError α}
    (h : (fromExcept result).Visits works disk middle) : middle = disk := by
  cases result with
  | ok value => exact h
  | error error => exact h

lemma visits_fileReadFull {offset size : Nat}
    (h : (fileReadFull file offset size).Visits works disk middle) : middle = disk := by
  rcases visits_fileCall h with rfl | rfl
  · rfl
  · simp only [exec]
    split
    · rfl
    split
    · rfl
    · rfl

lemma visits_fileWriteFull {slot : Slot} {encoded : Bytes}
    (h : (fileWriteFull file slot.offset encoded).Visits works disk middle) :
    middle = disk ∨ middle = disk.editFile file (.write slot.offset encoded) := by
  rcases visits_fileCall h with rfl | rfl
  · exact .inl rfl
  · simp only [exec, Nat.not_lt.mpr slot.offset_le, if_false]
    exact .inr trivial

lemma visits_superblockStoreReadFile
    (h : (superblockStoreReadFile prim file).Visits works disk middle) : middle = disk := by
  rcases visits_bind works_eq h with h | ⟨slots, after, hrun, h⟩
  · rcases visits_bind works_eq h with h | ⟨first, after, hrun, h⟩
    · exact visits_fileReadFull (visits_attempt.mp h)
    · obtain ⟨_, hfirst, -, -⟩ := run_readSlot prim file disk .first
      obtain ⟨-, rfl⟩ := Prod.mk.inj (hfirst.symm.trans hrun)
      rcases visits_bind works_eq h with h | ⟨second, after, hrun, h⟩
      · exact visits_fileReadFull (visits_attempt.mp h)
      · obtain ⟨_, hsecond, -, -⟩ := run_readSlot prim file disk .second
        obtain ⟨-, rfl⟩ := Prod.mk.inj (hsecond.symm.trans hrun)
        split at h
        · exact h
        · exact h
  · rw [run_superblockLoadSlots] at hrun
    obtain ⟨-, rfl⟩ := Prod.mk.inj hrun
    exact visits_fromExcept h

/-- Writing a slot and waiting for it: the disk before, with the write pending, and
with the write durable. -/
lemma visits_writeSlot {slot : Slot} {encoded : Bytes}
    (h : (fileWriteFull file slot.offset encoded >>= fun _ => fileSync file).Visits works disk
      middle) : middle = disk ∨ middle = disk.editFile file (.write slot.offset encoded) ∨
      middle = (disk.editFile file (.write slot.offset encoded)).syncFile file := by
  rcases visits_bind works_eq h with h | ⟨_, after, hrun, h⟩
  · rcases visits_fileWriteFull h with rfl | rfl
    · exact .inl rfl
    · exact .inr (.inl rfl)
  · rw [run_fileWriteFull slot.offset_le] at hrun
    obtain ⟨-, rfl⟩ := Prod.mk.inj hrun
    rcases visits_fileCall h with rfl | rfl
    · exact .inr (.inl rfl)
    · exact .inr (.inr rfl)

end Visits

section Select

variable {prim : Primitives} {content : Bytes} {slot : Slot} {loaded other : LoadedSlot}

lemma readSuperblock_alone (hslot : slotAt prim content slot = some loaded)
    (hpeer : slotAt prim content slot.peer = none) : readSuperblock prim content =
      .ok { superblock := loaded.superblock, selectedSlot := slot, validMirrorCount := 1 } :=
  selectMirror_alone hslot hpeer

lemma readSuperblock_newer (hslot : slotAt prim content slot = some loaded)
    (hpeer : slotAt prim content slot.peer = some other)
    (hnewer : other.superblock.generation < loaded.superblock.generation) :
    readSuperblock prim content =
      .ok { superblock := loaded.superblock, selectedSlot := slot, validMirrorCount := 2 } :=
  selectMirror_newer hslot hpeer hnewer

lemma readSuperblock_both {superblock : SuperblockV1}
    (h : ∀ slot, ∃ loaded, slotAt prim content slot = some loaded ∧
      loaded.superblock = superblock) :
    ∃ result, readSuperblock prim content = .ok result ∧ result.superblock = superblock := by
  obtain ⟨first, hfirst, rfl⟩ := h .first
  obtain ⟨second, hsecond, hsame⟩ := h .second
  have hmirror : slotAt prim content .second =
      some { bytes := second.bytes, superblock := first.superblock } := by
    rw [hsecond, ← hsame]
  exact ⟨_, readSuperblock_same hfirst hmirror, rfl⟩

lemma slotAt_write_same {encoded : Bytes} {superblock : SuperblockV1}
    (hlength : encoded.length = superblockSlotSize)
    (hslot : slotSuperblock prim encoded = some superblock) :
    slotAt prim (writeAt content slot.offset encoded) slot =
      some { bytes := encoded, superblock } :=
  slotAt_of_readAt (holdsSlot_write content slot hlength) hslot

lemma slotAt_write_peer {encoded : Bytes} (hlength : encoded.length = superblockSlotSize)
    (h : slotAt prim content slot = some loaded) :
    slotAt prim (writeAt content slot.peer.offset encoded) slot = some loaded := by
  obtain ⟨hread, hslot⟩ := slotAt_eq_some h
  exact slotAt_of_readAt (HoldsSlot.write_peer hread hlength) hslot

lemma slot_cases (slot which : Slot) : slot = which ∨ slot = which.peer := by
  cases slot <;> cases which <;> simp [Slot.peer]

end Select

section Crash

variable {prim : Primitives} {tears : FileKind → Edit → Bytes → Bytes → Prop} {file : FileInode}
  {disk middle after : FileDisk} {content encoded : Bytes} {superblock next : SuperblockV1}
  {slot : Slot}

/-- What a crash may leave of the slots while `slot` is written. -/
def SlotLeft (prim : Primitives) (content encoded : Bytes) (slot : Slot) (bytes : Bytes) : Prop :=
  bytes = content ∨ bytes = writeAt content slot.offset encoded ∨
    slotAt prim bytes slot = none ∧ slotAt prim bytes slot.peer = slotAt prim content slot.peer

/-- The data file is durable and a reader selects `superblock`. -/
def Selects (prim : Primitives) (file : FileInode) (disk : FileDisk) (superblock : SuperblockV1) :
    Prop :=
  ∃ content result, disk.files file = ⟨content, []⟩ ∧ readSuperblock prim content = .ok result ∧
    result.superblock = superblock

lemma bytes_of_files (hfile : disk.files file = ⟨content, []⟩) : disk.bytes file = content := by
  rw [Disk.bytes, hfile]
  rfl

lemma crash_writeSlot (htears : SlotTears prim tears file.kind)
    (hfile : disk.files file = ⟨content, []⟩)
    (hmiddle : middle = disk ∨ middle = disk.editFile file (.write slot.offset encoded) ∨
      middle = (disk.editFile file (.write slot.offset encoded)).syncFile file)
    (hcrash : Crash tears middle after) :
    ∃ bytes, after.files file = ⟨bytes, []⟩ ∧ SlotLeft prim content encoded slot bytes := by
  rcases hmiddle with rfl | rfl | rfl
  · exact ⟨content, hcrash.settled hfile, .inl rfl⟩
  · obtain ⟨bytes, hafter, hsurvives⟩ := hcrash.files file
    rw [editFile_files, hfile] at hsurvives
    refine ⟨bytes, hafter, ?_⟩
    rcases Durable.survives_singleton.mp hsurvives with hkept | hlost | htorn
    · exact .inr (.inl hkept)
    · exact .inl hlost
    · exact .inr (.inr (htears slot encoded content bytes htorn))
  · refine ⟨_, hcrash.settled syncFile_files, .inr (.inl ?_)⟩
    rw [editFile_bytes, bytes_of_files hfile]
    rfl

variable {loaded : LoadedSlot} {bytes : Bytes} (h : SlotLeft prim content encoded slot.peer bytes)
  (hslot : slotAt prim content slot = some loaded)
  (hread : ∃ result, readSuperblock prim content = .ok result ∧
    result.superblock = loaded.superblock) (hlength : encoded.length = superblockSlotSize)

include h hslot hread hlength

/-- While the peer of a slot is written with a newer superblock a reader finds the
old one or the new one. -/
lemma SlotLeft.newer (hencoded : slotSuperblock prim encoded = some next)
    (hnewer : loaded.superblock.generation < next.generation) :
    ∃ result, readSuperblock prim bytes = .ok result ∧
      (result.superblock = loaded.superblock ∨ result.superblock = next) := by
  rcases h with rfl | rfl | ⟨hnone, hkept⟩
  · obtain ⟨result, hread, hsame⟩ := hread
    exact ⟨result, hread, .inl hsame⟩
  · refine ⟨_, readSuperblock_newer (slotAt_write_same hlength hencoded) ?_ hnewer, .inr rfl⟩
    rw [Slot.peer_peer]
    exact slotAt_write_peer hlength hslot
  · rw [Slot.peer_peer, hslot] at hkept
    exact ⟨_, readSuperblock_alone hkept hnone, .inl rfl⟩

/-- While the peer of a slot is written with what the slot holds, that is what a reader
finds. -/
lemma SlotLeft.same (hencoded : slotSuperblock prim encoded = some loaded.superblock) :
    ∃ result, readSuperblock prim bytes = .ok result ∧ result.superblock = loaded.superblock := by
  rcases h with rfl | rfl | ⟨hnone, hkept⟩
  · exact hread
  · apply readSuperblock_both
    intro which
    rcases slot_cases which slot with rfl | rfl
    · exact ⟨_, slotAt_write_peer hlength hslot, rfl⟩
    · exact ⟨_, slotAt_write_same hlength hencoded, rfl⟩
  · rw [Slot.peer_peer, hslot] at hkept
    exact ⟨_, readSuperblock_alone hkept hnone, rfl⟩

end Crash

section Update

variable {prim : Primitives} {tears : FileKind → Edit → Bytes → Bytes → Prop} {file : FileInode}
  {disk middle after : FileDisk} {content encoded : Bytes} {next : SuperblockV1}
  {current : SuperblockReadResult} {dataKey : Option Bytes}

/-- The disks an accepted update passes through: before it, around the write of the
peer, and around the write of the selected slot. -/
lemma visits_superblockStoreUpdateFile (hencode : encodeSlot prim next dataKey = .ok encoded)
    (hcurrent : readSuperblock prim (disk.bytes file) = .ok current)
    (hvalid : superblockUpdateValid next current.superblock = true)
    (h : (superblockStoreUpdateFile prim file next dataKey).Visits works disk middle) :
    (middle = disk ∨ middle = disk.editFile file (.write current.selectedSlot.peer.offset encoded) ∨
      middle = (disk.editFile file (.write current.selectedSlot.peer.offset encoded)).syncFile
        file) ∨ ∃ first, first = (disk.editFile file
        (.write current.selectedSlot.peer.offset encoded)).syncFile file ∧
      (middle = first ∨ middle = first.editFile file (.write current.selectedSlot.offset encoded) ∨
        middle = (first.editFile file (.write current.selectedSlot.offset encoded)).syncFile
          file) := by
  rcases visits_bind works_eq h with h | ⟨_, after, hrun, h⟩
  · exact .inl (.inl (visits_fromExcept h))
  rw [run_fromExcept, hencode] at hrun
  obtain ⟨hsame, rfl⟩ := Prod.mk.inj hrun
  obtain rfl := Except.ok.inj hsame
  rcases visits_bind works_eq h with h | ⟨_, after, hrun, h⟩
  · exact .inl (.inl (visits_superblockStoreReadFile h))
  rw [run_superblockStoreReadFile, hcurrent] at hrun
  obtain ⟨hsame, rfl⟩ := Prod.mk.inj hrun
  obtain rfl := Except.ok.inj hsame
  simp only [hvalid, Bool.not_true, Bool.false_eq_true, if_false] at h
  rcases visits_bind works_eq h with h | ⟨_, after, hrun, h⟩
  · rcases visits_fileWriteFull h with rfl | rfl
    · exact .inl (.inl rfl)
    · exact .inl (.inr (.inl rfl))
  rw [run_fileWriteFull (Slot.offset_le _)] at hrun
  obtain ⟨-, rfl⟩ := Prod.mk.inj hrun
  rcases visits_bind works_eq h with h | ⟨_, after, hrun, h⟩
  · rcases visits_fileCall h with rfl | rfl
    · exact .inl (.inr (.inl rfl))
    · exact .inl (.inr (.inr rfl))
  rw [run_fileSync] at hrun
  obtain ⟨-, rfl⟩ := Prod.mk.inj hrun
  exact .inr ⟨_, rfl, visits_writeSlot h⟩

/-- A crash during an accepted update leaves the old superblock or the new one. -/
lemma crash_update (htears : SlotTears prim tears file.kind) (hsized : next.Sized)
    (hencode : encodeSlot prim next dataKey = .ok encoded)
    (hfile : disk.files file = ⟨content, []⟩) (hcurrent : readSuperblock prim content = .ok current)
    (hvalid : superblockUpdateValid next current.superblock = true)
    (hvisits : (superblockStoreUpdateFile prim file next dataKey).Visits works disk middle)
    (hcrash : Crash tears middle after) :
    Selects prim file after current.superblock ∨ Selects prim file after next := by
  have hlength := encodeSlot_length hsized hencode
  have hencoded := slotSuperblock_encodeSlot hsized hencode
  have hbytes := bytes_of_files hfile
  obtain ⟨loaded, hslot, hloaded⟩ := readSuperblock_eq_ok hcurrent
  have hnewer : loaded.superblock.generation < next.generation := by
    rw [hloaded]
    simp only [superblockUpdateValid, Bool.and_eq_true, decide_eq_true_eq] at hvalid
    exact hvalid.1.1.1.1.1
  rcases visits_superblockStoreUpdateFile hencode (by rw [hbytes]; exact hcurrent) hvalid hvisits
    with hfirst | ⟨first, rfl, hsecond⟩
  · obtain ⟨bytes, hafter, hleft⟩ := crash_writeSlot htears hfile hfirst hcrash
    obtain ⟨result, hread, hold | hnew⟩ :=
      hleft.newer hslot ⟨current, hcurrent, hloaded.symm⟩ hlength hencoded hnewer
    · exact .inl ⟨bytes, result, hafter, hread, hold.trans hloaded⟩
    · exact .inr ⟨bytes, result, hafter, hread, hnew⟩
  · -- the peer is durable; now it is the slot that is kept
    have hmiddle : ((disk.editFile file (.write current.selectedSlot.peer.offset encoded)).syncFile
        file).files file = ⟨writeAt content current.selectedSlot.peer.offset encoded, []⟩ := by
      rw [syncFile_files, editFile_bytes, hbytes]
      rfl
    have hpeer : slotAt prim (writeAt content current.selectedSlot.peer.offset encoded)
        current.selectedSlot.peer = some { bytes := encoded, superblock := next } :=
      slotAt_write_same hlength hencoded
    have hread : readSuperblock prim
        (writeAt content current.selectedSlot.peer.offset encoded) =
          .ok { superblock := next, selectedSlot := current.selectedSlot.peer
                validMirrorCount := 2 } := by
      refine readSuperblock_newer hpeer ?_ hnewer
      rw [Slot.peer_peer]
      exact slotAt_write_peer hlength hslot
    obtain ⟨bytes, hafter, hleft⟩ := crash_writeSlot htears hmiddle hsecond hcrash
    have hkept : SlotLeft prim (writeAt content current.selectedSlot.peer.offset encoded)
        encoded current.selectedSlot.peer.peer bytes := by
      rw [Slot.peer_peer]
      exact hleft
    obtain ⟨result, hread, hnew⟩ := hkept.same hpeer ⟨_, hread, rfl⟩ hlength hencoded
    exact .inr ⟨bytes, result, hafter, hread, hnew⟩

/-- An update that returned leaves the new superblock, durably. -/
lemma update_done (hsized : next.Sized) (hencode : encodeSlot prim next dataKey = .ok encoded)
    (hfile : disk.files file = ⟨content, []⟩) (hcurrent : readSuperblock prim content = .ok current)
    (hvalid : superblockUpdateValid next current.superblock = true) :
    ∃ after, (superblockStoreUpdateFile prim file next dataKey).run exec disk = (.ok (), after) ∧
      Selects prim file after next := by
  have hlength := encodeSlot_length hsized hencode
  have hencoded := slotSuperblock_encodeSlot hsized hencode
  have hbytes := bytes_of_files hfile
  refine ⟨(((disk.editFile file (.write current.selectedSlot.peer.offset encoded)).syncFile
    file).editFile file (.write current.selectedSlot.offset encoded)).syncFile file, ?_, ?_⟩
  · rw [superblockStoreUpdateFile, run_bind, run_fromExcept, hencode, resume_ok, run_bind,
      run_superblockStoreReadFile, hbytes, hcurrent, resume_ok]
    simp [hvalid]
  · have hboth : ∀ slot, ∃ loaded, slotAt prim (writeAt (writeAt content
        current.selectedSlot.peer.offset encoded) current.selectedSlot.offset encoded) slot =
          some loaded ∧ loaded.superblock = next := by
      intro slot
      rcases slot_cases slot current.selectedSlot with rfl | rfl
      · exact ⟨_, slotAt_write_same hlength hencoded, rfl⟩
      · refine ⟨{ bytes := encoded, superblock := next }, ?_, rfl⟩
        have hkept := slotAt_write_peer hlength
          (show slotAt prim (writeAt content current.selectedSlot.peer.offset encoded)
            current.selectedSlot.peer = some { bytes := encoded, superblock := next } from
              slotAt_write_same hlength hencoded)
        rwa [Slot.peer_peer] at hkept
    obtain ⟨result, hread, hsame⟩ := readSuperblock_both hboth
    refine ⟨_, result, syncFile_files, ?_, hsame⟩
    rw [editFile_bytes, syncFile_bytes, editFile_bytes, hbytes]
    exact hread

/-- An update is accepted when its superblock can be encoded and may follow the
current one. -/
def Accepted (prim : Primitives) (current next : SuperblockV1) (dataKey : Option Bytes) : Prop :=
  (∃ encoded, encodeSlot prim next dataKey = .ok encoded) ∧
    superblockUpdateValid next current = true

lemma Selects.crash (h : Selects prim file disk next) (hcrash : Crash tears disk after) :
    Selects prim file after next := by
  obtain ⟨content, result, hfile, hread, hsame⟩ := h
  exact ⟨content, result, hcrash.settled hfile, hread, hsame⟩

/-- An update that is not accepted leaves the disk alone. -/
lemma update_refused (hfile : disk.files file = ⟨content, []⟩)
    (hcurrent : readSuperblock prim content = .ok current)
    (h : ¬Accepted prim current.superblock next dataKey) :
    (∃ error, (superblockStoreUpdateFile prim file next dataKey).run exec disk =
      (.error error, disk)) ∧
    ∀ middle, (superblockStoreUpdateFile prim file next dataKey).Visits works disk middle →
      middle = disk := by
  have hread : (superblockStoreReadFile prim file).run exec disk = (.ok current, disk) := by
    rw [run_superblockStoreReadFile, bytes_of_files hfile, hcurrent]
  cases hencode : encodeSlot prim next dataKey with
  | error error =>
    constructor
    · refine ⟨error, ?_⟩
      rw [superblockStoreUpdateFile, run_bind, run_fromExcept, hencode]
      rfl
    · intro middle hvisits
      rcases visits_bind works_eq hvisits with hvisits | ⟨_, after, hrun, -⟩
      · exact visits_fromExcept hvisits
      · rw [run_fromExcept, hencode] at hrun
        cases hrun
  | ok encoded =>
    have hvalid : superblockUpdateValid next current.superblock = false := by
      rw [Bool.eq_false_iff]
      exact fun hvalid => h ⟨⟨encoded, hencode⟩, hvalid⟩
    constructor
    · refine ⟨.invalidArgument, ?_⟩
      rw [superblockStoreUpdateFile, run_bind, run_fromExcept, hencode, resume_ok, run_bind,
        hread, resume_ok, hvalid]
      rfl
    · intro middle hvisits
      rcases visits_bind works_eq hvisits with hvisits | ⟨_, after, hrun, hvisits⟩
      · exact visits_fromExcept hvisits
      obtain ⟨-, rfl⟩ := Prod.mk.inj ((run_fromExcept _).symm.trans hrun)
      rcases visits_bind works_eq hvisits with hvisits | ⟨_, after, hrun, hvisits⟩
      · exact visits_superblockStoreReadFile hvisits
      obtain ⟨hsame, rfl⟩ := Prod.mk.inj (hread.symm.trans hrun)
      obtain rfl := Except.ok.inj hsame
      simp only [hvalid, Bool.not_false, if_true] at hvisits
      exact hvisits

end Update

section Heal

variable {prim : Primitives} {tears : FileKind → Edit → Bytes → Bytes → Prop} {file : FileInode}
  {disk middle after : FileDisk} {content encoded : Bytes} {current : SuperblockReadResult}
  {dataKey : Option Bytes}

/-- What a repair does once it has read the peer of the selected slot. -/
def healPeer (file : FileInode) (offset : Nat) (encoded : Bytes) :
    Except SdbError Bytes → FileM Unit
  | .ok peer =>
    if peer = encoded then pure ()
    else do
      fileWriteFull file offset encoded
      fileSync file
  | .error .truncated => do
      fileWriteFull file offset encoded
      fileSync file
  | .error error => Program.fail error

lemma superblockStoreHealFile_eq : superblockStoreHealFile prim file current dataKey =
      (fromExcept (encodeSlot prim current.superblock dataKey) >>= fun encoded =>
        (fileReadFull file current.selectedSlot.peer.offset superblockSlotSize).attempt >>=
          healPeer file current.selectedSlot.peer.offset encoded) := rfl

/-- A repair leaves the disk alone, or writes the peer of the selected slot. -/
lemma heal_cases (hencode : encodeSlot prim current.superblock dataKey = .ok encoded)
    (hfile : disk.files file = ⟨content, []⟩) : ∃ rest : FileM Unit,
      (superblockStoreHealFile prim file current dataKey).run exec disk = rest.run exec disk ∧
      (∀ middle, (superblockStoreHealFile prim file current dataKey).Visits works disk middle →
        middle = disk ∨ rest.Visits works disk middle) ∧
      (rest = pure () ∧ readAt content current.selectedSlot.peer.offset
          superblockSlotSize = some encoded ∨
        rest = (fileWriteFull file current.selectedSlot.peer.offset encoded >>=
          fun _ => fileSync file)) := by
  have hbytes := bytes_of_files hfile
  obtain ⟨reply, hreply, hrest⟩ : ∃ reply,
      ((fileReadFull file current.selectedSlot.peer.offset superblockSlotSize).attempt).run exec
        disk = (.ok reply, disk) ∧
      (healPeer file current.selectedSlot.peer.offset encoded reply = pure () ∧
          readAt content current.selectedSlot.peer.offset superblockSlotSize = some encoded ∨
        healPeer file current.selectedSlot.peer.offset encoded reply =
          (fileWriteFull file current.selectedSlot.peer.offset encoded >>=
            fun _ => fileSync file)) := by
    rw [run_attempt]
    cases hread : readAt content current.selectedSlot.peer.offset superblockSlotSize with
    | none =>
      rw [run_fileReadFull_short (Slot.offset_le _) (by rw [hbytes]; exact hread)]
      exact ⟨_, rfl, .inr rfl⟩
    | some peer =>
      rw [run_fileReadFull (Slot.offset_le _) (by rw [hbytes]; exact hread)]
      refine ⟨_, rfl, ?_⟩
      by_cases hsame : peer = encoded
      · exact .inl ⟨if_pos hsame, congrArg some hsame⟩
      · exact .inr (if_neg hsame)
  refine ⟨healPeer file current.selectedSlot.peer.offset encoded reply, ?_, ?_, hrest⟩
  · rw [superblockStoreHealFile_eq, run_bind, run_fromExcept, hencode, resume_ok, run_bind, hreply,
      resume_ok]
  · intro middle h
    rw [superblockStoreHealFile_eq] at h
    rcases visits_bind works_eq h with h | ⟨_, after, hrun, h⟩
    · exact .inl (visits_fromExcept h)
    rw [run_fromExcept, hencode] at hrun
    obtain ⟨hsame, rfl⟩ := Prod.mk.inj hrun
    obtain rfl := Except.ok.inj hsame
    rcases visits_bind works_eq h with h | ⟨_, after, hrun, h⟩
    · exact .inl (visits_fileReadFull (visits_attempt.mp h))
    rw [hreply] at hrun
    obtain ⟨hsame, rfl⟩ := Prod.mk.inj hrun
    obtain rfl := Except.ok.inj hsame
    exact .inr h

/-- A repair that returned leaves two mirrors of the selected superblock, durably. -/
lemma heal_done (hsized : current.superblock.Sized)
    (hencode : encodeSlot prim current.superblock dataKey = .ok encoded)
    (hfile : disk.files file = ⟨content, []⟩)
    (hcurrent : readSuperblock prim content = .ok current) :
    ∃ after bytes, (superblockStoreHealFile prim file current dataKey).run exec disk =
        (.ok (), after) ∧ after.files file = ⟨bytes, []⟩ ∧
      ∀ slot, ∃ loaded, slotAt prim bytes slot = some loaded ∧
        loaded.superblock = current.superblock := by
  have hlength := encodeSlot_length hsized hencode
  have hencoded := slotSuperblock_encodeSlot hsized hencode
  obtain ⟨loaded, hslot, hloaded⟩ := readSuperblock_eq_ok hcurrent
  obtain ⟨rest, hrun, -, ⟨rfl, hpeer⟩ | rfl⟩ := heal_cases hencode hfile
  · refine ⟨disk, content, hrun, hfile, ?_⟩
    intro slot
    rcases slot_cases slot current.selectedSlot with rfl | rfl
    · exact ⟨loaded, hslot, hloaded⟩
    · exact ⟨_, slotAt_of_readAt hpeer hencoded, rfl⟩
  · refine ⟨(disk.editFile file (.write current.selectedSlot.peer.offset encoded)).syncFile file, _,
      hrun.trans (by simp), syncFile_files, ?_⟩
    rw [editFile_bytes, bytes_of_files hfile]
    intro slot
    rcases slot_cases slot current.selectedSlot with rfl | rfl
    · exact ⟨loaded, slotAt_write_peer hlength hslot, hloaded⟩
    · exact ⟨_, slotAt_write_same hlength hencoded, rfl⟩

/-- A crash during a repair leaves the selected superblock. -/
lemma crash_heal (htears : SlotTears prim tears file.kind) (hsized : current.superblock.Sized)
    (hencode : encodeSlot prim current.superblock dataKey = .ok encoded)
    (hfile : disk.files file = ⟨content, []⟩) (hcurrent : readSuperblock prim content = .ok current)
    (hvisits : (superblockStoreHealFile prim file current dataKey).Visits works disk middle)
    (hcrash : Crash tears middle after) : Selects prim file after current.superblock := by
  have hlength := encodeSlot_length hsized hencode
  have hencoded := slotSuperblock_encodeSlot hsized hencode
  obtain ⟨loaded, hslot, hloaded⟩ := readSuperblock_eq_ok hcurrent
  have hmiddle : middle = disk ∨
      middle = disk.editFile file (.write current.selectedSlot.peer.offset encoded) ∨
      middle = (disk.editFile file (.write current.selectedSlot.peer.offset encoded)).syncFile
        file := by
    obtain ⟨rest, -, hpassed, ⟨rfl, -⟩ | rfl⟩ := heal_cases hencode hfile
    · rcases hpassed middle hvisits with hsame | hsame
      · exact .inl hsame
      · exact .inl hsame
    · rcases hpassed middle hvisits with hsame | hwrite
      · exact .inl hsame
      · exact visits_writeSlot hwrite
  obtain ⟨bytes, hafter, hleft⟩ := crash_writeSlot htears hfile hmiddle hcrash
  rw [← hloaded] at hencoded ⊢
  obtain ⟨result, hread, hsame⟩ :=
    hleft.same hslot ⟨current, hcurrent, hloaded.symm⟩ hlength hencoded
  exact ⟨bytes, result, hafter, hread, hsame⟩

end Heal

section Runs

variable {prim : Primitives} {tears : FileKind → Edit → Bytes → Bytes → Prop} {file : FileInode}
  {start disk after : FileDisk} {first last : SuperblockV1} {content : Bytes}
  {present : SuperblockV1} {dataKey : Option Bytes} {middle : FileDisk}

/-- A read returns `superblock`. -/
def Reads (prim : Primitives) (file : FileInode) (disk : FileDisk) (superblock : SuperblockV1) :
    Prop :=
  ∃ result, (superblockStoreReadFile prim file).run exec disk = (.ok result, disk) ∧
    result.superblock = superblock

/-- Runs of updates, reads and repairs, each of which may end in a crash.  `last` is
the superblock of the last update that returned `SDB_OK`. -/
inductive SlotRun (prim : Primitives) (tears : FileKind → Edit → Bytes → Bytes → Prop)
    (file : FileInode) (start : FileDisk) (first : SuperblockV1) :
    (last : SuperblockV1) → FileDisk → Prop
  | start : SlotRun prim tears file start first first start
  | update {last next : SuperblockV1} {disk after : FileDisk} {dataKey : Option Bytes}
      (before : SlotRun prim tears file start first last disk) (sized : next.Sized)
      (run : (superblockStoreUpdateFile prim file next dataKey).run exec disk = (.ok (), after)) :
      SlotRun prim tears file start first next after
  | refused {last next : SuperblockV1} {disk after : FileDisk} {dataKey : Option Bytes}
      {error : SdbError} (before : SlotRun prim tears file start first last disk)
      (sized : next.Sized)
      (run : (superblockStoreUpdateFile prim file next dataKey).run exec disk =
        (.error error, after)) : SlotRun prim tears file start first last after
  | crashedUpdate {last next : SuperblockV1} {disk middle after : FileDisk}
      {dataKey : Option Bytes} (before : SlotRun prim tears file start first last disk)
      (sized : next.Sized)
      (visits : (superblockStoreUpdateFile prim file next dataKey).Visits works disk middle)
      (crash : Crash tears middle after) : SlotRun prim tears file start first last after
  | read {last : SuperblockV1} {disk after : FileDisk}
      {result : Except SdbError SuperblockReadResult}
      (before : SlotRun prim tears file start first last disk)
      (run : (superblockStoreReadFile prim file).run exec disk = (result, after)) :
      SlotRun prim tears file start first last after
  | heal {last : SuperblockV1} {disk middle after : FileDisk} {dataKey : Option Bytes}
      {current : SuperblockReadResult} {result : Except SdbError Unit}
      (before : SlotRun prim tears file start first last disk)
      (read : (superblockStoreReadFile prim file).run exec disk = (.ok current, middle))
      (run : (superblockStoreHealFile prim file current dataKey).run exec middle =
        (result, after)) : SlotRun prim tears file start first last after
  | crashedHeal {last : SuperblockV1} {disk middle visited after : FileDisk}
      {dataKey : Option Bytes} {current : SuperblockReadResult}
      (before : SlotRun prim tears file start first last disk)
      (read : (superblockStoreReadFile prim file).run exec disk = (.ok current, middle))
      (visits : (superblockStoreHealFile prim file current dataKey).Visits works middle visited)
      (crash : Crash tears visited after) : SlotRun prim tears file start first last after

/-- The superblock `newer` may follow `older`. -/
structure Follows (older newer : SuperblockV1) : Prop where
  generation : older.generation ≤ newer.generation
  nextPageId : older.nextPageId ≤ newer.nextPageId
  fileId : newer.fileId = older.fileId
  salt : newer.salt = older.salt
  pageSize : newer.pageSize = older.pageSize
  encrypted : newer.encrypted = older.encrypted

lemma Follows.refl (superblock : SuperblockV1) : Follows superblock superblock :=
  ⟨le_rfl, le_rfl, rfl, rfl, rfl, rfl⟩

lemma Follows.trans {older newer newest : SuperblockV1} (h : Follows older newer)
    (h' : Follows newer newest) : Follows older newest :=
  ⟨h.generation.trans h'.generation, h.nextPageId.trans h'.nextPageId,
    h'.fileId.trans h.fileId, h'.salt.trans h.salt, h'.pageSize.trans h.pageSize,
    h'.encrypted.trans h.encrypted⟩

lemma follows_of_updateValid {older newer : SuperblockV1}
    (h : superblockUpdateValid newer older = true) : Follows older newer := by
  simp only [superblockUpdateValid, Bool.and_eq_true, decide_eq_true_eq] at h
  obtain ⟨⟨⟨⟨⟨hgeneration, hfileId⟩, hsalt⟩, hpageSize⟩, hnext⟩, hencrypted⟩ := h
  exact ⟨hgeneration.le, hnext, hfileId, hsalt, hpageSize, hencrypted⟩

lemma Selects.reads {superblock : SuperblockV1} (h : Selects prim file disk superblock) :
    Reads prim file disk superblock := by
  obtain ⟨content, result, hfile, hread, hsame⟩ := h
  refine ⟨result, ?_, hsame⟩
  rw [run_superblockStoreReadFile, bytes_of_files hfile, hread]

lemma sized_of_readSuperblock {result : SuperblockReadResult}
    (h : readSuperblock prim content = .ok result) : result.superblock.Sized := by
  obtain ⟨loaded, hslot, hloaded⟩ := readSuperblock_eq_ok h
  rw [← hloaded]
  exact (slotSuperblock_eq_some (slotAt_eq_some hslot).2).1

/-- What an update leaves, whether it returns or not. -/
lemma update_result {next : SuperblockV1} {result : Except SdbError Unit}
    (hselects : Selects prim file disk present) (hsized : next.Sized)
    (hrun : (superblockStoreUpdateFile prim file next dataKey).run exec disk = (result, after)) :
    (result = .ok () ∧ Accepted prim present next dataKey ∧ Selects prim file after next) ∨
      ((∃ error, result = .error error) ∧ after = disk) := by
  obtain ⟨content, current, hfile, hcurrent, rfl⟩ := hselects
  by_cases haccepted : Accepted prim current.superblock next dataKey
  · obtain ⟨⟨encoded, hencode⟩, hvalid⟩ := haccepted
    obtain ⟨done, hdone, hnext⟩ := update_done hsized hencode hfile hcurrent hvalid
    obtain ⟨rfl, rfl⟩ := Prod.mk.inj (hdone.symm.trans hrun)
    exact .inl ⟨rfl, ⟨⟨encoded, hencode⟩, hvalid⟩, hnext⟩
  · obtain ⟨⟨error, hrefused⟩, -⟩ := update_refused hfile hcurrent haccepted
    obtain ⟨rfl, rfl⟩ := Prod.mk.inj (hrefused.symm.trans hrun)
    exact .inr ⟨⟨error, rfl⟩, rfl⟩

/-- What a crash during an update leaves. -/
lemma update_crash {next : SuperblockV1} (htears : SlotTears prim tears file.kind)
    (hselects : Selects prim file disk present) (hsized : next.Sized)
    (hvisits : (superblockStoreUpdateFile prim file next dataKey).Visits works disk middle)
    (hcrash : Crash tears middle after) : Selects prim file after present ∨
      (Accepted prim present next dataKey ∧ Selects prim file after next) := by
  have hpresent := hselects
  obtain ⟨content, current, hfile, hcurrent, rfl⟩ := hselects
  by_cases haccepted : Accepted prim current.superblock next dataKey
  · obtain ⟨⟨encoded, hencode⟩, hvalid⟩ := haccepted
    rcases crash_update htears hsized hencode hfile hcurrent hvalid hvisits hcrash with hold | hnew
    · exact .inl hold
    · exact .inr ⟨⟨⟨encoded, hencode⟩, hvalid⟩, hnew⟩
  · obtain rfl := (update_refused hfile hcurrent haccepted).2 middle hvisits
    exact .inl (hpresent.crash hcrash)

/-- What a repair leaves, whether it returns or not. -/
lemma heal_result {current : SuperblockReadResult} {result : Except SdbError Unit}
    (hselects : Selects prim file disk present)
    (hread : (superblockStoreReadFile prim file).run exec disk = (.ok current, middle))
    (hrun : (superblockStoreHealFile prim file current dataKey).run exec middle = (result, after)) :
    Selects prim file after present ∧ (result = .ok () →
      ∀ slot, ∃ loaded, slotAt prim (after.bytes file) slot = some loaded ∧
        loaded.superblock = present) := by
  have hpresent := hselects
  obtain ⟨content, selected, hfile, hcurrent, rfl⟩ := hselects
  rw [run_superblockStoreReadFile, bytes_of_files hfile, hcurrent] at hread
  obtain ⟨hsame, rfl⟩ := Prod.mk.inj hread
  obtain rfl := Except.ok.inj hsame
  cases hencode : encodeSlot prim selected.superblock dataKey with
  | error error =>
    rw [superblockStoreHealFile_eq, run_bind, run_fromExcept, hencode] at hrun
    obtain ⟨rfl, rfl⟩ := Prod.mk.inj hrun
    exact ⟨hpresent, by simp⟩
  | ok encoded =>
    obtain ⟨done, bytes, hdone, hfile', hboth⟩ :=
      heal_done (sized_of_readSuperblock hcurrent) hencode hfile hcurrent
    obtain ⟨rfl, rfl⟩ := Prod.mk.inj (hdone.symm.trans hrun)
    obtain ⟨reread, hreread, hsame⟩ := readSuperblock_both hboth
    refine ⟨⟨bytes, reread, hfile', hreread, hsame⟩, fun _ => ?_⟩
    rw [bytes_of_files hfile']
    exact hboth

/-- What a crash during a repair leaves. -/
lemma heal_crash {current : SuperblockReadResult} {visited : FileDisk}
    (htears : SlotTears prim tears file.kind) (hselects : Selects prim file disk present)
    (hread : (superblockStoreReadFile prim file).run exec disk = (.ok current, middle))
    (hvisits : (superblockStoreHealFile prim file current dataKey).Visits works middle visited)
    (hcrash : Crash tears visited after) : Selects prim file after present := by
  have hpresent := hselects
  obtain ⟨content, selected, hfile, hcurrent, rfl⟩ := hselects
  rw [run_superblockStoreReadFile, bytes_of_files hfile, hcurrent] at hread
  obtain ⟨hsame, rfl⟩ := Prod.mk.inj hread
  obtain rfl := Except.ok.inj hsame
  cases hencode : encodeSlot prim selected.superblock dataKey with
  | error error =>
    rw [superblockStoreHealFile_eq] at hvisits
    rcases visits_bind works_eq hvisits with hvisits | ⟨_, after, hrun, -⟩
    · obtain rfl := visits_fromExcept hvisits
      exact hpresent.crash hcrash
    · rw [run_fromExcept, hencode] at hrun
      cases hrun
  | ok encoded =>
    exact crash_heal htears (sized_of_readSuperblock hcurrent) hencode hfile hcurrent hvisits hcrash

/-- Along a run a read finds a superblock that follows the last one that was
completely written, and the first one. -/
lemma SlotRun.selects (htears : SlotTears prim tears file.kind)
    (hstart : Selects prim file start first) (h : SlotRun prim tears file start first last disk) :
    ∃ present, Selects prim file disk present ∧ Follows last present ∧ Follows first present := by
  induction h with
  | start => exact ⟨first, hstart, Follows.refl first, Follows.refl first⟩
  | @update last next disk after dataKey before sized run ih =>
    obtain ⟨present, hselects, -, hfirst⟩ := ih
    rcases update_result hselects sized run with ⟨-, haccepted, hnext⟩ | ⟨⟨error, herror⟩, -⟩
    · exact ⟨next, hnext, Follows.refl next, hfirst.trans (follows_of_updateValid haccepted.2)⟩
    · cases herror
  | refused before sized run ih =>
    obtain ⟨present, hselects, hlast, hfirst⟩ := ih
    rcases update_result hselects sized run with ⟨hok, -, -⟩ | ⟨-, rfl⟩
    · cases hok
    · exact ⟨present, hselects, hlast, hfirst⟩
  | @crashedUpdate last next disk middle after dataKey before sized visits crash ih =>
    obtain ⟨present, hselects, hlast, hfirst⟩ := ih
    rcases update_crash htears hselects sized visits crash with hold | ⟨haccepted, hnew⟩
    · exact ⟨present, hold, hlast, hfirst⟩
    · have hfollows := follows_of_updateValid haccepted.2
      exact ⟨next, hnew, hlast.trans hfollows, hfirst.trans hfollows⟩
  | read before run ih =>
    rw [run_superblockStoreReadFile] at run
    obtain ⟨-, rfl⟩ := Prod.mk.inj run
    exact ih
  | heal before read run ih =>
    obtain ⟨present, hselects, hlast, hfirst⟩ := ih
    exact ⟨present, (heal_result hselects read run).1, hlast, hfirst⟩
  | crashedHeal before read visits crash ih =>
    obtain ⟨present, hselects, hlast, hfirst⟩ := ih
    exact ⟨present, heal_crash htears hselects read visits crash, hlast, hfirst⟩

/-- The two slots change from one superblock to the next as one: during an update, over
runs, and by a repair. -/
theorem superblock_slots_atomic (htears : SlotTears prim tears file.kind)
    {old : SuperblockReadResult} (hfile : start.files file = ⟨content, []⟩)
    (hread : (superblockStoreReadFile prim file).run exec start = (.ok old, start)) :
    (∀ next dataKey, next.Sized → Accepted prim old.superblock next dataKey →
      (∀ middle after,
        (superblockStoreUpdateFile prim file next dataKey).Visits works start middle →
        Crash tears middle after →
          Reads prim file after old.superblock ∨ Reads prim file after next) ∧
      ∃ done, (superblockStoreUpdateFile prim file next dataKey).run exec start = (.ok (), done) ∧
        Reads prim file done next ∧ ∀ after, Crash tears done after → Reads prim file after next) ∧
    (∀ last disk, SlotRun prim tears file start old.superblock last disk →
      ∃ present, Reads prim file disk present ∧ Follows last present ∧
        Follows old.superblock present) ∧
    ∀ dataKey done, (superblockStoreHealFile prim file old dataKey).run exec start =
        (.ok (), done) → ∀ slot, ∃ loaded, slotAt prim (done.bytes file) slot = some loaded ∧
        loaded.superblock = old.superblock := by
  have hselected := hread
  rw [run_superblockStoreReadFile, bytes_of_files hfile] at hselected
  have hcurrent : readSuperblock prim content = .ok old := (Prod.mk.inj hselected).1
  have hselects : Selects prim file start old.superblock := ⟨content, old, hfile, hcurrent, rfl⟩
  refine ⟨?_, ?_, ?_⟩
  · rintro next dataKey hsized ⟨⟨encoded, hencode⟩, hvalid⟩
    constructor
    · intro middle after hvisits hcrash
      rcases crash_update htears hsized hencode hfile hcurrent hvalid hvisits hcrash with
        hold | hnew
      · exact Or.inl hold.reads
      · exact Or.inr hnew.reads
    · obtain ⟨done, hrun, hnext⟩ := update_done hsized hencode hfile hcurrent hvalid
      exact ⟨done, hrun, hnext.reads, fun after hcrash => (hnext.crash hcrash).reads⟩
  · intro last disk hrun
    obtain ⟨present, hpresent, hlast, hfirst⟩ := hrun.selects htears hselects
    exact ⟨present, hpresent.reads, hlast, hfirst⟩
  · intro dataKey done hrun
    exact (heal_result hselects hread hrun).2 rfl

/-- The tears of slot writes, and no others. -/
def slotTears (prim : Primitives) (_ : FileKind) (edit : Edit) (before after : Bytes) : Prop :=
  ∃ (slot : Slot) (data : Bytes), edit = .write slot.offset data ∧
    slotAt prim after slot = none ∧ slotAt prim after slot.peer = slotAt prim before slot.peer

lemma slotTears_tears (prim : Primitives) (kind : FileKind) :
    SlotTears prim (slotTears prim) kind := by
  rintro slot data before after ⟨other, _, hedit, hnone, hkept⟩
  obtain ⟨hoffset, -⟩ := Edit.write.inj hedit
  have hslot : slot = other := by
    cases slot <;> cases other <;> simp [Slot.offset, superblockSlotSize] at hoffset ⊢
  rw [hslot]
  exact ⟨hnone, hkept⟩

/-- The superblock behind the next allocation in the plaintext database. -/
def plainNext : SuperblockV1 := { plainSuperblock with generation := 2, nextPageId := 3 }

theorem superblock_slots_atomic_plain :
    (∀ middle after, (superblockStoreUpdateFile .sample databaseInode plainNext none).Visits works
        (restDisk plainContent []) middle → Crash (slotTears .sample) middle after →
      Reads .sample databaseInode after plainSuperblock ∨
        Reads .sample databaseInode after plainNext) ∧
    ∃ done, (superblockStoreUpdateFile .sample databaseInode plainNext none).run exec
        (restDisk plainContent []) = (.ok (), done) ∧ Reads .sample databaseInode done plainNext ∧
      ∀ after, Crash (slotTears .sample) done after →
        Reads .sample databaseInode after plainNext := by
  have hnextSized : plainNext.Sized := by constructor <;> decide
  have hslot : encodeSlot .sample plainSuperblock none = .ok plainSlot :=
    Fallible.eq_ok_getD [] (by decide +kernel)
  have hnext : ∃ encoded, encodeSlot .sample plainNext none = .ok encoded :=
    ⟨_, Fallible.eq_ok_getD [] (by decide +kernel)⟩
  have hread : (superblockStoreReadFile .sample databaseInode).run exec (restDisk plainContent []) =
      (.ok { superblock := plainSuperblock, selectedSlot := .first, validMirrorCount := 2 },
        restDisk plainContent []) := by
    rw [run_superblockStoreReadFile, restDisk_database]
    exact congrArg (·, restDisk plainContent [])
      (mirrored_encodeSlot _ plainSuperblock_sized hslot).read
  exact (superblock_slots_atomic (slotTears_tears .sample _) rfl hread).1 plainNext none hnextSized
    ⟨hnext, by decide⟩

end Runs

end ShibaDb
