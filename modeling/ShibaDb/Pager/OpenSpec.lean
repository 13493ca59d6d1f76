/-
What an open makes of a database: the stages of `sdb_pager_open_internal` put
together, for a log that holds nothing new and for one that holds transactions.
-/
import ShibaDb.Pager.OpenRun

namespace ShibaDb

open CallProgram FileSystem ByteFile List

section Unlocking

variable {prim : Primitives} {file : FileInode} {disk : FileDisk} {password : Option Bytes}
  {content : Bytes} {result : SuperblockReadResult} {unlocked : Unlocked}

/-- `pagerUnlock` as a function of the data file. -/
def unlock (prim : Primitives) (password : Option Bytes) (content : Bytes)
    (result : SuperblockReadResult) : Except SdbError Unlocked :=
  if result.superblock.encrypted then
    match password with
    | none => .error .authentication
    | some [] => .error .authentication
    | some password => do
        let dataKey ← keyUnwrap prim result.superblock password
        if result.superblock.headerAuth then do
          let result ← readAuthenticSuperblock prim dataKey content
          .ok { result, dataKey := some dataKey, legacyUpgradePending := false }
        else .ok { result, dataKey := some dataKey, legacyUpgradePending := true }
  else if password.isSome then .error .invalidArgument
  else .ok { result, dataKey := none, legacyUpgradePending := false }

lemma run_pagerUnlock : (pagerUnlock prim file password result).run exec disk =
      (unlock prim password (disk.bytes file) result, disk) := by
  unfold pagerUnlock unlock
  by_cases hencrypted : result.superblock.encrypted = true
  · rw [if_pos hencrypted, if_pos hencrypted]
    rcases password with _ | _ | ⟨byte, rest⟩
    · rfl
    · rfl
    · rw [run_bind, run_fromExcept]
      cases hunwrap : keyUnwrap prim result.superblock (byte :: rest) with
      | error error => simp [hunwrap, bind, Except.bind]
      | ok dataKey =>
        by_cases hauth : result.superblock.headerAuth = true
        · rw [resume_ok, if_pos hauth, run_bind, run_superblockStoreReadAuthenticatedFile]
          cases hread : readAuthenticSuperblock prim dataKey (disk.bytes file) with
          | error error => simp [hunwrap, hauth, hread, bind, Except.bind]
          | ok authentic => simp [hunwrap, hauth, hread, bind, Except.bind]
        · simp [hunwrap, hauth, bind, Except.bind]
  · rw [if_neg hencrypted, if_neg hencrypted]
    split <;> rfl

/-- The superblock to work with lies in its slot, and an authenticated header
comes with the key. -/
structure Unlocked.Sound (prim : Primitives) (content : Bytes) (unlocked : Unlocked) : Prop where
  slot : ∃ loaded, slotAt prim content unlocked.result.selectedSlot = some loaded ∧
    loaded.superblock = unlocked.result.superblock
  key : unlocked.result.superblock.headerAuth = true → unlocked.dataKey.isSome = true
  length : ∀ dataKey, unlocked.dataKey = some dataKey → dataKey.length = 32

lemma authenticSlot_eq_some {key : Bytes} {mirror : Option LoadedSlot} {other : LoadedSlot}
    (h : authenticSlot prim key mirror = some other) :
    mirror = some other ∧ other.superblock.headerAuth = true ∧
      slotAuthTagMatches prim other.bytes key = true := by
  rw [authenticSlot, Option.filter_eq_some_iff] at h
  simpa using h

/-- The slots whose tag is right. -/
def authenticMirror (prim : Primitives) (key content : Bytes) (slot : Slot) : Option LoadedSlot :=
  authenticSlot prim key (slotAt prim content slot)

lemma readAuthenticSuperblock_eq (prim : Primitives) (key content : Bytes) :
    readAuthenticSuperblock prim key content = selectMirror
      (authenticMirror prim key content .first) (authenticMirror prim key content .second) := rfl

/-- An open that goes on keeps the first selection, or unwraps it and takes the second. -/
lemma unlock_eq_ok (h : unlock prim password content result = .ok unlocked) :
    (result.superblock.encrypted = false ∧ password = none ∧
      unlocked = { result, dataKey := none, legacyUpgradePending := false }) ∨
    ∃ secret key, password = some secret ∧ keyUnwrap prim result.superblock secret = .ok key ∧
      unlocked.dataKey = some key ∧
      if result.superblock.headerAuth then
        readAuthenticSuperblock prim key content = .ok unlocked.result
      else unlocked.result = result := by
  unfold unlock at h
  split at h
  · split at h
    · cases h
    · cases h
    · rename_i secret _
      obtain ⟨key, hunwrap, h⟩ := Fallible.except_bind_eq_ok.mp h
      refine .inr ⟨secret, key, rfl, hunwrap, ?_⟩
      split_ifs at h ⊢
      · obtain ⟨second, hsecond, h⟩ := Fallible.except_bind_eq_ok.mp h
        obtain rfl := Except.ok.inj h
        exact ⟨rfl, hsecond⟩
      · obtain rfl := Except.ok.inj h
        exact ⟨rfl, rfl⟩
  · rename_i hplain
    split_ifs at h with hpassword
    exact .inl ⟨by simpa using hplain, by simpa using hpassword, (Except.ok.inj h).symm⟩

lemma unlock_sound (hread : readSuperblock prim content = .ok result)
    (hunlock : unlock prim password content result = .ok unlocked) :
    unlocked.Sound prim content := by
  obtain ⟨loaded, hslot, hloaded⟩ := readSuperblock_eq_ok hread
  obtain ⟨hsized, hvalid⟩ := slotSuperblock_eq_some (slotAt_eq_some hslot).2
  rw [hloaded] at hsized hvalid
  rcases unlock_eq_ok hunlock with ⟨hplain, -, rfl⟩ | ⟨secret, key, -, hunwrap, hkey, hsecond⟩
  · refine ⟨⟨loaded, hslot, hloaded⟩, ?_, by simp⟩
    -- only an encrypted superblock can be authenticated
    intro hauth
    simp only [superblockV1Valid, Bool.and_eq_true, Bool.or_eq_true, Bool.not_eq_true'] at hvalid
    rcases hvalid.1.2 with hnot | hencrypted
    · cases hnot.symm.trans hauth
    · cases hplain.symm.trans hencrypted
  · refine ⟨?_, fun _ => by rw [hkey]; rfl, fun key' hkey' => ?_⟩
    · split_ifs at hsecond
      · rw [readAuthenticSuperblock_eq] at hsecond
        obtain ⟨chosen, hauthentic, hchosen⟩ := selectMirror_eq_ok hsecond
        exact ⟨chosen, (authenticSlot_eq_some hauthentic).1, hchosen⟩
      · rw [hsecond]
        exact ⟨loaded, hslot, hloaded⟩
    · obtain rfl := Option.some.inj (hkey.symm.trans hkey')
      rw [keyUnwrap_length hunwrap, hsized.wrappedKey]

end Unlocking

section Mirrors

variable {prim : Primitives} {file : FileInode} {disk : FileDisk} {content : Bytes}
  {superblock : SuperblockV1} {dataKey : Option Bytes} {recovery : WalRecovery}

/-- Both slots hold the superblock. -/
def Mirrored (prim : Primitives) (content : Bytes) (superblock : SuperblockV1) : Prop :=
  ∀ slot, ∃ bytes, HoldsSlot content slot bytes ∧ slotSuperblock prim bytes = some superblock

lemma Mirrored.slots (h : Mirrored prim content superblock) : dataOffset ≤ content.length := by
  obtain ⟨bytes, hbytes, -⟩ := h .second
  exact hbytes.slots

lemma Mirrored.sized (h : Mirrored prim content superblock) : superblock.Sized := by
  obtain ⟨bytes, -, hslot⟩ := h .first
  exact (slotSuperblock_eq_some hslot).1

lemma Mirrored.valid (h : Mirrored prim content superblock) :
    superblockV1Valid superblock = true := by
  obtain ⟨bytes, -, hslot⟩ := h .first
  exact (slotSuperblock_eq_some hslot).2

lemma Mirrored.read (h : Mirrored prim content superblock) : readSuperblock prim content =
      .ok { superblock, selectedSlot := .first, validMirrorCount := 2 } := by
  obtain ⟨first, hfirst, hfirstSlot⟩ := h .first
  obtain ⟨second, hsecond, hsecondSlot⟩ := h .second
  exact readSuperblock_same (slotAt_of_readAt hfirst hfirstSlot)
    (slotAt_of_readAt hsecond hsecondSlot)

lemma Mirrored.writePages {pageSize : Nat} {pages : List WalPage}
    (h : Mirrored prim content superblock) :
    Mirrored prim (ShibaDb.writePages pageSize content pages) superblock := by
  intro slot
  obtain ⟨bytes, hbytes, hslot⟩ := h slot
  exact ⟨bytes, hbytes.writePages, hslot⟩

lemma Mirrored.writeTxns {pageSize : Nat} {txns : List WalTxn}
    (h : Mirrored prim content superblock) :
    Mirrored prim (ShibaDb.writeTxns pageSize content txns) superblock := by
  induction txns generalizing content with
  | nil => exact h
  | cons txn txns ih => exact ih h.writePages

/-- Two copies of an encoded slot, before the pages. -/
lemma mirrored_encodeSlot {slot : Bytes} (pages : Bytes) (hsized : superblock.Sized)
    (h : encodeSlot prim superblock dataKey = .ok slot) :
    Mirrored prim (slot ++ (slot ++ pages)) superblock := by
  have hlength := encodeSlot_length hsized h
  intro which
  refine ⟨slot, ?_, slotSuperblock_encodeSlot hsized h⟩
  rw [HoldsSlot, readAt, if_pos]
  · cases which with
    | first => rw [Slot.offset, LittleEndian.field_head _ hlength]
    | second =>
      rw [Slot.offset, LittleEndian.field_skip _ hlength.le, hlength, Nat.sub_self,
        LittleEndian.field_head _ hlength]
  · simp only [length_append, hlength]
    cases which <;> simp only [Slot.offset, superblockSlotSize] <;> omega

lemma encodeSlot_ok (prim : Primitives) (dataKey : Option Bytes)
    (hvalid : superblockV1Valid superblock = true)
    (hkey : superblock.headerAuth = true → dataKey.isSome = true) :
    ∃ encoded, encodeSlot prim superblock (slotKey superblock dataKey) = .ok encoded := by
  unfold encodeSlot superblockV1Encode superblockTag slotKey
  rw [if_pos hvalid]
  by_cases hauth : superblock.headerAuth = true
  · obtain ⟨key, rfl⟩ := Option.isSome_iff_exists.mp (hkey hauth)
    simp [hauth, bind, Except.bind]
  · simp [hauth, bind, Except.bind]

/-- Healing leaves two mirrors of the superblock to work with. -/
lemma run_heal {unlocked : Unlocked} (hsound : unlocked.Sound prim (disk.bytes file)) :
    ∃ after, (superblockStoreHealFile prim file unlocked.result
          (slotKey unlocked.result.superblock unlocked.dataKey)).run exec disk = (.ok (), after) ∧
      OnlyTouches file disk after ∧ Mirrored prim (after.bytes file) unlocked.result.superblock ∧
      KeepsPages (disk.bytes file) (after.bytes file) := by
  obtain ⟨loaded, hslot, hloaded⟩ := hsound.slot
  obtain ⟨hread, hsuperblock⟩ := slotAt_eq_some hslot
  rw [hloaded] at hsuperblock
  obtain ⟨hsized, hvalid⟩ := slotSuperblock_eq_some hsuperblock
  obtain ⟨encoded, hencode⟩ := encodeSlot_ok prim unlocked.dataKey hvalid hsound.key
  obtain ⟨after, hrun, htouches, hselected, hpeer, hkeeps⟩ :=
    run_superblockStoreHealFile hencode (encodeSlot_length hsized hencode) hread
  refine ⟨after, hrun, htouches, ?_, hkeeps⟩
  have hencoded := slotSuperblock_encodeSlot hsized hencode
  intro slot
  by_cases hsame : slot = unlocked.result.selectedSlot
  · exact ⟨loaded.bytes, hsame ▸ hselected, hsuperblock⟩
  · have hother : slot = unlocked.result.selectedSlot.peer := by
      cases slot <;> cases hsel : unlocked.result.selectedSlot <;> simp_all [Slot.peer]
    exact ⟨encoded, hother ▸ hpeer, hencoded⟩

/-- The superblock behind a recovery. -/
def SuperblockV1.advance (superblock : SuperblockV1) (recovery : WalRecovery) : SuperblockV1 :=
  { superblock with
    checkpointLsn := recovery.lastLsn
    nextPageId := recovery.nextPageId
    freelistPage := recovery.freelistPage
    generation := superblock.generation + 1 }

/-- What recovery must report for the superblock to be valid afterwards. -/
structure WalRecovery.Fits (superblock : SuperblockV1) (recovery : WalRecovery) : Prop where
  lastLsn : recovery.lastLsn < 2 ^ 64
  geometry : pageGeometryValid recovery.nextPageId superblock.pageSize = true
  nextPageId : superblock.nextPageId ≤ recovery.nextPageId
  freelist : recovery.freelistPage.toNat < recovery.nextPageId

lemma SuperblockV1.advance_valid (hvalid : superblockV1Valid superblock = true)
    (hfits : recovery.Fits superblock) :
    superblockV1Valid (superblock.advance recovery) = true := by
  simp only [superblockV1Valid, superblockValid, Bool.and_eq_true, decide_eq_true_eq] at hvalid ⊢
  obtain ⟨⟨⟨⟨⟨⟨⟨hsize, -⟩, hroot⟩, -⟩, hid⟩, hflags⟩, hauth⟩, hkey⟩ := hvalid
  exact ⟨⟨⟨⟨⟨⟨⟨hsize, hfits.geometry⟩, lt_of_lt_of_le hroot hfits.nextPageId⟩, hfits.freelist⟩,
    hid⟩, hflags⟩, hauth⟩, hkey⟩

lemma SuperblockV1.advance_sized (hsized : superblock.Sized) (hfits : recovery.Fits superblock)
    (hgeneration : superblock.generation < uint64Max) : (superblock.advance recovery).Sized := by
  simp only [uint64Max] at hgeneration
  exact
    { generation := by
        change superblock.generation + 1 < 2 ^ 64
        omega
      checkpointLsn := hfits.lastLsn
      keyWrapId := hsized.keyWrapId
      kdfIterations := hsized.kdfIterations
      salt := hsized.salt
      fileId := hsized.fileId
      wrappedKey := hsized.wrappedKey
      keyWrapTag := hsized.keyWrapTag }

/-- Advancing writes two mirrors of the new superblock. -/
lemma run_pagerAdvance (hmirrored : Mirrored prim (disk.bytes file) superblock)
    (hkey : superblock.headerAuth = true → dataKey.isSome = true)
    (hnew : superblock.checkpointLsn < recovery.lastLsn) (hfits : recovery.Fits superblock)
    (hgeneration : superblock.generation < uint64Max) :
    ∃ after, (pagerAdvance prim file superblock dataKey recovery).run exec disk =
        (.ok (superblock.advance recovery), after) ∧
      Mirrored prim (after.bytes file) (superblock.advance recovery) ∧
      KeepsPages (disk.bytes file) (after.bytes file) := by
  have hsized := SuperblockV1.advance_sized hmirrored.sized hfits hgeneration
  have hvalid := SuperblockV1.advance_valid hmirrored.valid hfits
  obtain ⟨encoded, hencode⟩ := encodeSlot_ok prim dataKey hvalid hkey
  have hupdate : superblockUpdateValid (superblock.advance recovery) superblock = true := by
    simp [superblockUpdateValid, SuperblockV1.advance, SuperblockV1.encrypted, hfits.nextPageId]
  obtain ⟨after, hrun, -, hslots, hkeeps⟩ := run_superblockStoreUpdateFile hencode
    (encodeSlot_length hsized hencode) hmirrored.read hupdate
  have hbump : generationBump superblock.generation = .ok (superblock.generation + 1) := by
    rw [generationBump, if_neg hgeneration.ne]
  refine ⟨after, ?_, ?_, hkeeps⟩
  · rw [pagerAdvance, if_pos hnew, hfits.geometry]
    simp only [Bool.not_true, Bool.false_eq_true, if_false, run_bind, run_fromExcept, hbump,
      resume_ok]
    rw [fileStoreSuperblock]
    rw [show ({ superblock with
          checkpointLsn := recovery.lastLsn
          nextPageId := recovery.nextPageId
          freelistPage := recovery.freelistPage
          generation := superblock.generation + 1 } : SuperblockV1) =
        superblock.advance recovery from rfl, hrun]
    rfl
  · exact fun slot => ⟨encoded, hslots slot, slotSuperblock_encodeSlot hsized hencode⟩

lemma fileContents_keepsPages {before after : Bytes} (base : Superblock)
    (h : KeepsPages before after) (hbefore : dataOffset ≤ before.length) :
    fileContents base after = fileContents base before := by
  ext1
  · rfl
  · rfl
  · funext pageId
    simp only [fileContents, pageAt]
    rw [readAt_congr_drop (dataOffset_le_pageOffset _ _) h.pages hbefore h.slots]

/-- However long the data file was, its pages stay. -/
lemma fileContents_within_keepsPages {before after : Bytes} (base : Superblock)
    (h : KeepsPages before after) :
    (fileContents base before).Within (fileContents base after) := by
  refine ⟨rfl, rfl, ?_⟩
  intro pageId bytes hpage
  simp only [fileContents, Option.ite_none_right_eq_some] at hpage ⊢
  refine ⟨hpage.1, ?_⟩
  have hend := readAt_eq_some_iff.mp ⟨bytes, hpage.2⟩
  have hstart := dataOffset_le_pageOffset base.pageSize pageId
  rw [pageAt, readAt_congr_drop hstart h.pages (by omega) h.slots]
  exact hpage.2

lemma fileContents_congr {base other : Superblock} {content : Bytes}
    (hnext : base.nextPageId = other.nextPageId)
    (hfreelist : base.freelistPage = other.freelistPage)
    (hpageSize : base.pageSize = other.pageSize) :
    fileContents base content = fileContents other content := by
  simp only [fileContents, hnext, hfreelist, hpageSize]

lemma fileContents_resize {base : Superblock}
    (hsize : canonicalSize base.nextPageId base.pageSize ≤ content.length) :
    fileContents base (resize content
        (canonicalSize base.nextPageId base.pageSize)) = fileContents base content := by
  ext1
  · rfl
  · rfl
  · funext pageId
    simp only [fileContents]
    split
    · rename_i hpage
      have hend := pageOffset_end_le base.pageSize hpage.1 hpage.2
      exact readAt_resize hend (le_trans hend hsize)
    · rfl

lemma Mirrored.resize {size : Nat} (h : Mirrored prim content superblock)
    (hsize : dataOffset ≤ size) : Mirrored prim (resize content size) superblock := by
  intro slot
  obtain ⟨bytes, hbytes, hslot⟩ := h slot
  refine ⟨bytes, ?_, hslot⟩
  have hend := readAt_eq_some_iff.mp ⟨bytes, hbytes⟩
  rw [HoldsSlot, readAt_resize _ hend]
  · exact hbytes
  · refine le_trans ?_ hsize
    cases slot <;> simp [Slot.offset, superblockSlotSize, dataOffset]

lemma Mirrored.geometry (h : Mirrored prim content superblock) :
    pageGeometryValid superblock.nextPageId superblock.pageSize = true := by
  have hvalid := h.valid
  simp only [superblockV1Valid, superblockValid, Bool.and_eq_true] at hvalid
  exact hvalid.1.1.1.1.1.1.2

lemma Mirrored.pageSize (h : Mirrored prim content superblock) :
    pageSizeValid superblock.pageSize = true := by
  have hvalid := h.valid
  simp only [superblockV1Valid, superblockValid, Bool.and_eq_true] at hvalid
  exact hvalid.1.1.1.1.1.1.1

/-- A data file that is long enough is cut to its size. -/
lemma run_pagerCanonicalizeFileSize (hmirrored : Mirrored prim (disk.bytes file) superblock)
    (hlimit : canonicalSize superblock.nextPageId superblock.pageSize ≤ maxOffset)
    (hsize : canonicalSize superblock.nextPageId superblock.pageSize ≤ (disk.bytes file).length) :
    ∃ after, (pagerCanonicalizeFileSize file superblock false).run exec disk = (.ok (), after) ∧
      Mirrored prim (after.bytes file) superblock ∧
      fileContents superblock.toSuperblock (after.bytes file) =
        fileContents superblock.toSuperblock (disk.bytes file) := by
  have hgeometry := hmirrored.geometry
  rw [pageGeometryValid_iff] at hgeometry
  obtain ⟨⟨hnext, -⟩, hcount⟩ := hgeometry
  have hprogram : (pagerCanonicalizeFileSize file superblock false).run exec disk =
      if (disk.bytes file).length = canonicalSize superblock.nextPageId superblock.pageSize then
        (.ok (), disk)
      else (.ok (), (disk.editFile file (.resize
        (canonicalSize superblock.nextPageId superblock.pageSize))).syncFile file) := by
    rw [pagerCanonicalizeFileSize, if_neg hnext, if_neg (Nat.not_lt.mpr hcount), run_bind,
      run_fileSize, resume_ok, if_neg (Nat.not_lt.mpr hsize)]
    split
    · rfl
    · simp [hlimit]
  rw [hprogram]
  split
  · exact ⟨disk, rfl, hmirrored, rfl⟩
  · refine ⟨_, rfl, ?_, ?_⟩
    · rw [syncFile_bytes, editFile_bytes]
      exact hmirrored.resize (Nat.le_add_right _ _)
    · rw [syncFile_bytes, editFile_bytes]
      exact fileContents_resize hsize

/-- A data file that is too short is refused. -/
lemma run_pagerCanonicalizeFileSize_short
    (hmirrored : Mirrored prim (disk.bytes file) superblock) (pending : Bool)
    (hsize : (disk.bytes file).length < canonicalSize superblock.nextPageId superblock.pageSize) :
    (pagerCanonicalizeFileSize file superblock pending).run exec disk =
      (.error .truncated, disk) := by
  have hgeometry := hmirrored.geometry
  rw [pageGeometryValid_iff] at hgeometry
  obtain ⟨⟨hnext, -⟩, hcount⟩ := hgeometry
  rw [pagerCanonicalizeFileSize, if_neg hnext, if_neg (Nat.not_lt.mpr hcount), run_bind,
    run_fileSize, resume_ok, if_pos hsize, run_fail]

end Mirrors

section Log

variable {prim : Primitives} {file wal : FileInode} {disk : FileDisk} {superblock : SuperblockV1}
  {dataKey : Option Bytes} {txns : List WalTxn} {base : Superblock}

/-- Clearing empties the log and leaves every other file alone. -/
lemma run_walClear (disk : FileDisk) : ∃ after, walClear.run exec disk = (.ok (), after) ∧
    (∀ wal, disk.names .wal = some wal → after.bytes wal = []) ∧
    ∀ other, disk.names .wal ≠ some other → after.bytes other = disk.bytes other := by
  cases hname : disk.names .wal with
  | none =>
    refine ⟨disk, ?_, by simp, fun _ _ => rfl⟩
    rw [walClear, run_bind, run_attempt, run_fileOpenExisting_missing hname]
    rfl
  | some wal =>
    refine ⟨((disk.editFile wal (.resize 0)).syncFile wal).syncDirectory, ?_, ?_, ?_⟩
    · rw [walClear, run_bind, run_attempt, run_fileOpenExisting hname]
      simp
    · intro other heq
      obtain rfl := Option.some.inj heq
      change ((disk.editFile wal (.resize 0)).syncFile wal).bytes wal = []
      rw [syncFile_bytes, editFile_bytes]
      exact List.length_eq_zero_iff.mp (resize_length _ 0)
    · intro other hne
      change ((disk.editFile wal (.resize 0)).syncFile wal).bytes other = _
      rw [syncFile_bytes]
      exact editFile_bytes_other _ fun heq => hne (congrArg some heq.symm)

lemma run_walRecoverAll_log (base : Superblock) (hpageSize : pageSizeValid base.pageSize = true)
    (hgeometry : pageGeometryValid base.nextPageId base.pageSize = true)
    (hname : disk.names .wal = some wal) (hlow : walHeaderSize < (disk.bytes wal).length)
    (hhigh : (disk.bytes wal).length ≤ walMaxBytes) :
    (walRecoverAll prim file base dataKey).run exec disk =
      (walReplay prim file base dataKey (disk.bytes wal)).run exec disk := by
  rw [walRecoverAll, hpageSize, hgeometry]
  simp only [Bool.not_true, Bool.false_eq_true, if_false, run_bind, run_attempt,
    run_fileOpenExisting hname, resume_ok, run_fileSize, if_neg (Nat.not_lt.mpr hhigh),
    if_neg (Nat.not_le.mpr hlow), run_fileReadFull (Nat.zero_le _) (readAt_all _)]

lemma run_walRecoverAll_short (base : Superblock) (hpageSize : pageSizeValid base.pageSize = true)
    (hgeometry : pageGeometryValid base.nextPageId base.pageSize = true)
    (hname : disk.names .wal = some wal) (hlow : (disk.bytes wal).length ≤ walHeaderSize) :
    (walRecoverAll prim file base dataKey).run exec disk = (.ok (.nothing base), disk) := by
  have hhigh : ¬(disk.bytes wal).length > walMaxBytes := by
    simp only [walHeaderSize, walMaxBytes] at hlow ⊢
    omega
  rw [walRecoverAll, hpageSize, hgeometry]
  simp only [Bool.not_true, Bool.false_eq_true, if_false, run_bind, run_attempt,
    run_fileOpenExisting hname, resume_ok, run_fileSize, if_neg hhigh, if_pos hlow, run_pure]

/-- The reader of several transactions finds nothing and changes nothing, or replays
the log. -/
lemma run_walRecoverAll_eq_ok {recovery : WalRecovery} {after : FileDisk}
    (hname : disk.names .wal = some wal)
    (hrun : (walRecoverAll prim file base dataKey).run exec disk = (.ok recovery, after)) :
    (recovery = .nothing base ∧ after = disk) ∨ ((disk.bytes wal).length ≤ walMaxBytes ∧
      (walReplay prim file base dataKey (disk.bytes wal)).run exec disk =
        (.ok recovery, after)) := by
  rw [walRecoverAll] at hrun
  split at hrun
  · cases (Prod.mk.inj hrun).1
  split at hrun
  · cases (Prod.mk.inj hrun).1
  rw [run_bind, run_attempt, run_fileOpenExisting hname, resume_ok] at hrun
  simp only [run_bind, run_fileSize, resume_ok] at hrun
  split at hrun
  · cases (Prod.mk.inj hrun).1
  rename_i hsize
  split at hrun
  · obtain ⟨hrecovery, rfl⟩ := Prod.mk.inj hrun
    exact .inl ⟨(Except.ok.inj hrecovery).symm, rfl⟩
  · rw [run_bind, run_fileReadFull (Nat.zero_le _) (readAt_all _), resume_ok] at hrun
    exact .inr ⟨Nat.not_lt.mp hsize, hrun⟩

/-- Nothing is in the log for either reader. -/
structure QuietLog (prim : Primitives) (base : Superblock) (dataKey : Option Bytes)
    (log : Bytes) : Prop where
  size : log.length ≤ walMaxBytes
  scan : walHeaderSize < log.length → walRecoverTxns prim base dataKey log = .ok ([], false)
  legacy : walHeaderSize + walLegacyCommitSize ≤ log.length →
    walLegacyHeader prim base log.length (log.take walHeaderSize) = .ok .skip

/-- The log keeps its bytes, but a rest too short for a record loses its name. -/
structure LogKept (before after : FileDisk) : Prop where
  files : after.files = before.files
  names : ∀ name, name ≠ .wal → after.names name = before.names name
  wal : after.names .wal = before.names .wal ∨ after.names .wal = none

lemma LogKept.refl (disk : FileDisk) : LogKept disk disk := ⟨rfl, fun _ _ => rfl, .inl rfl⟩

lemma LogKept.bytes {after : FileDisk} (h : LogKept disk after) (inode : FileInode) :
    after.bytes inode = disk.bytes inode := by
  rw [Disk.bytes, h.files, Disk.bytes]

lemma run_walDiscard (hname : disk.names .wal = some wal) :
    ∃ after, walDiscard.run exec disk = (.ok (), after) ∧ LogKept disk after := by
  refine ⟨(disk.editDirectory (.unlink .wal)).syncDirectory, ?_, rfl, ?_, ?_⟩
  · rw [walDiscard, run_bind, run_attempt, run_fileRemove hname]
    simp
  · intro name hne
    simp [Disk.names, Disk.syncDirectory, Disk.editDirectory, DirectoryEdit.apply, hne]
  · right
    simp [Disk.names, Disk.syncDirectory, Disk.editDirectory, DirectoryEdit.apply]

/-- The reader of a single record finds nothing, refuses the log, or replays it. -/
lemma run_walRecover_cases (prim : Primitives) (file : FileInode) (base : Superblock)
    (dataKey : Option Bytes) (hname : disk.names .wal = some wal) :
    (∃ after, (walRecover prim file base dataKey).run exec disk = (.ok (.nothing base), after) ∧
      LogKept disk after) ∨
    (∃ error, (walRecover prim file base dataKey).run exec disk = (.error error, disk)) ∨
    (walRecover prim file base dataKey).run exec disk =
      (walLegacyReplay prim file base dataKey (disk.bytes wal)).run exec disk := by
  obtain ⟨discarded, hdiscard, hkept⟩ := run_walDiscard hname
  rw [walRecover, run_bind, run_attempt, run_fileOpenExisting hname, resume_ok]
  simp only [run_bind, run_fileSize, resume_ok]
  split
  · exact .inl ⟨disk, rfl, LogKept.refl disk⟩
  split
  · exact .inr (.inl ⟨.corrupt, rfl⟩)
  split
  · rw [run_bind, hdiscard]
    exact .inl ⟨discarded, rfl, hkept⟩
  rename_i hlong
  obtain ⟨header, hheader⟩ := readAt_eq_some_iff.mpr
    (show 0 + walHeaderSize ≤ (disk.bytes wal).length by omega)
  rw [run_bind, run_fileReadFull (Nat.zero_le _) hheader, resume_ok, run_bind, run_fromExcept]
  cases walLegacyHeader prim base (disk.bytes wal).length header with
  | error error => exact .inr (.inl ⟨error, rfl⟩)
  | ok kind =>
    rw [resume_ok]
    cases kind with
    | skip => exact .inl ⟨disk, rfl, LogKept.refl disk⟩
    | discard =>
      simp only [run_bind, hdiscard]
      exact .inl ⟨discarded, rfl, hkept⟩
    | read =>
      simp only [run_bind, run_fileReadFull (Nat.zero_le _) (readAt_all _), resume_ok]
      exact .inr (.inr trivial)

lemma run_walRecover_quiet (file : FileInode) (hname : disk.names .wal = some wal)
    (hquiet : QuietLog prim base dataKey (disk.bytes wal)) :
    ∃ after, (walRecover prim file base dataKey).run exec disk = (.ok (.nothing base), after) ∧
      LogKept disk after := by
  rw [walRecover, run_bind, run_attempt, run_fileOpenExisting hname]
  simp only [resume_ok, run_bind, run_fileSize, if_neg (Nat.not_lt.mpr hquiet.size)]
  split
  · exact ⟨disk, rfl, LogKept.refl disk⟩
  split
  · obtain ⟨after, hrun, hkept⟩ := run_walDiscard hname
    refine ⟨after, ?_, hkept⟩
    rw [run_bind, hrun]
    rfl
  · rename_i hlong
    have hlegacy := hquiet.legacy (Nat.not_lt.mp hlong)
    have hread : readAt (disk.bytes wal) 0 walHeaderSize =
        some ((disk.bytes wal).take walHeaderSize) := by
      rw [readAt, if_pos (by omega)]
      rfl
    refine ⟨disk, ?_, LogKept.refl disk⟩
    rw [run_bind, run_fileReadFull (Nat.zero_le _) hread, resume_ok, run_bind, run_fromExcept,
      hlegacy]
    rfl

/-- A log with nothing in it is left, or dropped when it is too short. -/
lemma run_pagerRecoverWal_quiet (file : FileInode)
    (hpageSize : pageSizeValid base.pageSize = true)
    (hgeometry : pageGeometryValid base.nextPageId base.pageSize = true)
    (hname : disk.names .wal = some wal) (hquiet : QuietLog prim base dataKey (disk.bytes wal)) :
    ∃ after, (pagerRecoverWal prim file base dataKey).run exec disk =
      (.ok (.nothing base), after) ∧ LogKept disk after := by
  have hfirst : (walRecoverAll prim file base dataKey).run exec disk =
      (.ok (.nothing base), disk) := by
    by_cases hlow : (disk.bytes wal).length ≤ walHeaderSize
    · exact run_walRecoverAll_short base hpageSize hgeometry hname hlow
    · rw [run_walRecoverAll_log base hpageSize hgeometry hname (Nat.not_le.mp hlow) hquiet.size,
        walReplay, run_bind, run_fromExcept, hquiet.scan (Nat.not_le.mp hlow)]
      rfl
  obtain ⟨after, hrun, hkept⟩ := run_walRecover_quiet file hname hquiet
  refine ⟨after, ?_, hkept⟩
  rw [pagerRecoverWal, run_bind, hfirst]
  simp only [resume_ok, WalRecovery.nothing, Bool.false_eq_true, if_false, run_bind] at hrun ⊢
  rw [hrun]
  rfl

lemma behind_fields (base : Superblock) (txns : List WalTxn) :
    (WalRecovery.behind base txns).lastLsn = (txns.foldl Superblock.behind base).checkpointLsn ∧
      (WalRecovery.behind base txns).nextPageId = (txns.foldl Superblock.behind base).nextPageId ∧
      (WalRecovery.behind base txns).freelistPage =
        (txns.foldl Superblock.behind base).freelistPage := by
  rcases eq_nil_or_concat txns with rfl | ⟨init, last, rfl⟩
  · exact ⟨rfl, rfl, rfl⟩
  · rw [concat_eq_append, foldl_append, WalRecovery.behind, List.getLast?_concat]
    exact ⟨rfl, rfl, rfl⟩

lemma lt_behind_lastLsn (hnew : ∀ txn ∈ txns, base.checkpointLsn < txn.txnId)
    (hnonempty : txns ≠ []) : base.checkpointLsn < (WalRecovery.behind base txns).lastLsn := by
  rcases eq_nil_or_concat txns with rfl | ⟨init, last, rfl⟩
  · exact absurd rfl hnonempty
  · have hlast := hnew last (by simp)
    simpa [WalRecovery.behind] using hlast

/-- A log changes three fields of the superblock. -/
lemma foldl_behind_kept (base : Superblock) (txns : List WalTxn) :
    txns.foldl Superblock.behind base =
      { base with
        checkpointLsn := (txns.foldl Superblock.behind base).checkpointLsn
        nextPageId := (txns.foldl Superblock.behind base).nextPageId
        freelistPage := (txns.foldl Superblock.behind base).freelistPage } := by
  induction txns generalizing base with
  | nil => rfl
  | cons txn txns ih => exact ih (base.behind txn)

lemma foldl_behind_pageSize (base : Superblock) (txns : List WalTxn) :
    (txns.foldl Superblock.behind base).pageSize = base.pageSize := by
  rw [foldl_behind_kept]

/-- The superblock behind a log is the one behind its transactions, one by one. -/
lemma fileContents_advance (superblock : SuperblockV1) (txns : List WalTxn) (content : Bytes) :
    fileContents (superblock.advance (.behind superblock.toSuperblock txns)).toSuperblock content =
      fileContents (txns.foldl Superblock.behind superblock.toSuperblock) content := by
  obtain ⟨-, hnext, hfreelist⟩ := behind_fields superblock.toSuperblock txns
  apply fileContents_congr
  · exact hnext
  · exact hfreelist
  · exact (foldl_behind_pageSize superblock.toSuperblock txns).symm

/-- A log with transactions behind the checkpoint is replayed. -/
lemma run_pagerRecoverWal_txns (file : FileInode) (hpageSize : pageSizeValid base.pageSize = true)
    (hgeometry : pageGeometryValid base.nextPageId base.pageSize = true)
    (hname : disk.names .wal = some wal) (hlow : walHeaderSize < (disk.bytes wal).length)
    (hhigh : (disk.bytes wal).length ≤ walMaxBytes)
    (hscan : walRecoverTxns prim base dataKey (disk.bytes wal) = .ok (txns, false))
    (hnew : ∀ txn ∈ txns, base.checkpointLsn < txn.txnId) (hnonempty : txns ≠ []) :
    (TxnsWritable prim base.pageSize txns ∧
      ∃ after, (pagerRecoverWal prim file base dataKey).run exec disk =
          (.ok (.behind base txns), after) ∧ OnlyTouches file disk after ∧
        after.bytes file = writeTxns base.pageSize (disk.bytes file) txns) ∨
    (¬TxnsWritable prim base.pageSize txns ∧
      ∃ error after, (pagerRecoverWal prim file base dataKey).run exec disk =
        (.error error, after) ∧ OnlyTouches file disk after) := by
  have hreplayed := behind_replayed hnew hnonempty
  rw [pagerRecoverWal, run_bind, run_walRecoverAll_log base hpageSize hgeometry hname hlow hhigh]
  rcases run_walReplay file disk hscan hnew with
    ⟨hvalid, hrun⟩ | ⟨hvalid, -, -, error, after, -, hrun⟩
  · refine .inl ⟨hvalid, _, ?_, (touchesOnly_walReplay _ _).of_run hrun, replayed_bytes ..⟩
    rw [hrun, resume_ok, if_pos hreplayed, run_pure]
  · exact .inr ⟨hvalid, error, after, by rw [hrun, resume_error],
      (touchesOnly_walReplay _ _).of_run hrun⟩

end Log

section Open

variable {prim : Primitives} {file wal : FileInode} {disk : FileDisk} {password : Option Bytes}
  {unlocked : Unlocked} {txns : List WalTxn} {base : Superblock} {dataKey : Option Bytes}
  {expected next : Nat}

/-- A database whose superblock can be read and unlocked, with no replacement
under way, in a file of a size that files have. -/
structure AtRest (prim : Primitives) (password : Option Bytes) (disk : FileDisk)
    (file wal : FileInode) (unlocked : Unlocked) : Prop where
  database : disk.names .database = some file
  log : disk.names .wal = some wal
  distinct : wal ≠ file
  marker : disk.names .marker = none
  markerTemporary : disk.names .markerTemporary = none
  superblock : ∃ result, readSuperblock prim (disk.bytes file) = .ok result ∧
    unlock prim password (disk.bytes file) result = .ok unlocked
  size : (disk.bytes file).length ≤ maxOffset

def databaseInode : FileInode := ⟨.database, 0⟩
def walInode : FileInode := ⟨.wal, 1⟩

/-- The directory of a database that nothing is being done to. -/
def restDirectory : Directory FileName FileKind
  | .database => some databaseInode
  | .wal => some walInode
  | _ => none

/-- A database and its log, all of it durable. -/
def restDisk (content log : Bytes) : FileDisk where
  directory := ⟨restDirectory, []⟩
  files inode :=
    if inode = databaseInode then ⟨content, []⟩ else if inode = walInode then ⟨log, []⟩
    else ⟨[], []⟩
  fresh := 2

@[simp] lemma restDisk_database (content log : Bytes) :
    (restDisk content log).bytes databaseInode = content := rfl

@[simp] lemma restDisk_wal (content log : Bytes) :
    (restDisk content log).bytes walInode = log := rfl

lemma atRest_restDisk {content : Bytes} {result : SuperblockReadResult} (log : Bytes)
    (hread : readSuperblock prim content = .ok result)
    (hunlock : unlock prim password content result = .ok unlocked)
    (hsize : content.length ≤ maxOffset) :
    AtRest prim password (restDisk content log) databaseInode walInode unlocked :=
  { database := rfl
    log := rfl
    distinct := by decide
    marker := rfl
    markerTemporary := rfl
    superblock := ⟨result, hread, hunlock⟩
    size := hsize }

lemma AtRest.sound (h : AtRest prim password disk file wal unlocked) :
    unlocked.Sound prim (disk.bytes file) := by
  obtain ⟨result, hread, hunlock⟩ := h.superblock
  exact unlock_sound hread hunlock

lemma run_replaceRecover_none (fileId : Bytes) (hmarker : disk.names .marker = none)
    (htemporary : disk.names .markerTemporary = none) :
    (replaceRecover prim fileId).run exec disk = (.ok (), disk) := by
  rw [replaceRecover, run_bind, replaceDropTemporary, run_bind, run_attempt,
    run_fileRemove_missing htemporary]
  simp [run_fileOpenExisting_missing hmarker]

/-- The open up to the replay leaves two mirrors of the superblock. -/
lemma run_pagerOpen_mirrored (h : AtRest prim password disk file wal unlocked) :
    ∃ healed, (pagerOpen prim password).run exec disk =
        (pagerOpenRecover prim file password unlocked).run exec healed ∧
      OnlyTouches file disk healed ∧ Mirrored prim (healed.bytes file) unlocked.result.superblock ∧
      KeepsPages (disk.bytes file) (healed.bytes file) ∧
      (unlocked.result.superblock.headerAuth = true → unlocked.dataKey.isSome = true) := by
  obtain ⟨result, hread, hunlock⟩ := h.superblock
  have hsound := h.sound
  obtain ⟨healed, hheal, htouches, hmirrored, hkeeps⟩ := run_heal hsound
  refine ⟨healed, ?_, htouches, hmirrored, hkeeps, hsound.key⟩
  rw [pagerOpen, run_bind, run_fileOpenExisting h.database, resume_ok, run_bind,
    run_superblockStoreReadFile, hread, resume_ok, run_bind, run_pagerUnlock, hunlock, resume_ok,
    run_bind, run_replaceRecover_none _ h.marker h.markerTemporary, resume_ok, run_bind, hheal,
    resume_ok]

/-- The end of an open: the data file is cut to its size and the log cleared. -/
lemma run_pagerOpenRecover {healed scanned advanced : FileDisk} {recovery : WalRecovery}
    {next : SuperblockV1} (hsealed : unlocked.legacyUpgradePending = false)
    (hscan : (pagerRecoverWal prim file unlocked.base
      unlocked.dataKey).run exec healed = (.ok recovery, scanned))
    (hadvance : (pagerAdvance prim file unlocked.result.superblock unlocked.dataKey
      recovery).run exec scanned = (.ok next, advanced))
    (hmirrored : Mirrored prim (advanced.bytes file) next)
    (hlimit : canonicalSize next.nextPageId next.pageSize ≤ maxOffset)
    (hsize : canonicalSize next.nextPageId next.pageSize ≤ (advanced.bytes file).length)
    (hname : advanced.names .wal ≠ some file) :
    ∃ after, (pagerOpenRecover prim file password unlocked).run exec healed =
        (.ok (openHandle file next unlocked.dataKey), after) ∧
      fileContents next.toSuperblock (after.bytes file) =
        fileContents next.toSuperblock (advanced.bytes file) := by
  obtain ⟨sized, hcanonical, -, hcontents⟩ := run_pagerCanonicalizeFileSize hmirrored hlimit hsize
  have htouches := (touchesOnly_pagerCanonicalizeFileSize false).of_run hcanonical
  obtain ⟨after, hclear, -, hothers⟩ := run_walClear sized
  have hupgrade : pagerUpgrade prim file next password unlocked = pure next := by
    simp [pagerUpgrade, hsealed]
  refine ⟨after, ?_, ?_⟩
  · rw [pagerOpenRecover, run_bind, hscan, resume_ok, run_bind, hadvance, resume_ok, run_bind,
      hsealed, hcanonical, resume_ok, run_bind, hupgrade, run_pure, resume_ok, run_bind, hclear,
      resume_ok, run_pure]
  · rw [hothers file (by rw [htouches.names]; exact hname), hcontents]

/-- Opening a database whose log holds nothing changes nothing. -/
lemma run_pagerOpen_quiet (h : AtRest prim password disk file wal unlocked)
    (hsealed : unlocked.legacyUpgradePending = false)
    (hsize : canonicalSize unlocked.result.superblock.nextPageId
      unlocked.result.superblock.pageSize ≤ (disk.bytes file).length)
    (hquiet : QuietLog prim unlocked.base unlocked.dataKey
      (disk.bytes wal)) : ∃ after, (pagerOpen prim password).run exec disk =
        (.ok (openHandle file unlocked.result.superblock unlocked.dataKey), after) ∧
      fileContents unlocked.base (after.bytes file) =
        fileContents unlocked.base (disk.bytes file) := by
  obtain ⟨healed, hopen, htouches, hmirrored, hkeeps, -⟩ := run_pagerOpen_mirrored h
  have hslots : dataOffset ≤ (disk.bytes file).length :=
    le_trans (Nat.le_add_right _ _) hsize
  have hname : healed.names .wal = some wal := by rw [htouches.names, h.log]
  rw [← htouches.bytes h.distinct] at hquiet
  obtain ⟨scanned, hscan, hkept⟩ := run_pagerRecoverWal_quiet file hmirrored.pageSize
    hmirrored.geometry hname hquiet
  have hadvance : (pagerAdvance prim file unlocked.result.superblock unlocked.dataKey
      (.nothing unlocked.base)).run exec scanned =
        (.ok unlocked.result.superblock, scanned) := by
    rw [pagerAdvance, if_neg (by simp [WalRecovery.nothing])]
    rfl
  have hnotLog : scanned.names .wal ≠ some file := by
    rcases hkept.wal with hsame | hnone
    · rw [hsame, hname]
      exact fun heq => h.distinct (Option.some.inj heq)
    · simp [hnone]
  obtain ⟨after, hrun, hcontents⟩ := run_pagerOpenRecover hsealed hscan hadvance
    (by rw [hkept.bytes file]; exact hmirrored) (le_trans hsize h.size)
    (by rw [hkept.bytes file, hkeeps.length, max_eq_left hslots]; exact hsize) hnotLog
  refine ⟨after, by rw [hopen, hrun], ?_⟩
  rw [hcontents, hkept.bytes file, fileContents_keepsPages _ hkeeps hslots]

lemma Continues.ids_gt {low : Nat} (h : Continues prim base dataKey expected next txns)
    (hlow : expected = 0 ∨ low < expected) : ∀ txn ∈ txns, low < txn.txnId := by
  induction h with
  | nil => simp
  | @cons expected next txn txns fits rest ih =>
    have hid := fits.txnId
    have hpositive := fits.positive
    have hlt := fits.txnId_lt
    have hthis : low < txn.txnId := by omega
    intro other hother
    rcases List.mem_cons.mp hother with rfl | hother
    · exact hthis
    · refine ih ?_ other hother
      rcases Nat.lt_or_ge (txn.txnId + 1) (2 ^ 64) with hsmall | hbig
      · right
        rw [Nat.mod_eq_of_lt hsmall]
        omega
      · left
        have hmax : txn.txnId + 1 = 2 ^ 64 := by omega
        rw [hmax, Nat.mod_self]

lemma Continues.ids_new
    (h : Continues prim base dataKey ((base.checkpointLsn + 1) % 2 ^ 64) next txns)
    (hlsn : base.checkpointLsn < 2 ^ 64) : ∀ txn ∈ txns, base.checkpointLsn < txn.txnId := by
  apply h.ids_gt
  rcases Nat.lt_or_ge (base.checkpointLsn + 1) (2 ^ 64) with hsmall | hbig
  · right
    rw [Nat.mod_eq_of_lt hsmall]
    omega
  · left
    have hmax : base.checkpointLsn + 1 = 2 ^ 64 := by omega
    rw [hmax, Nat.mod_self]

/-- The page counter never goes back along a log. -/
lemma Continues.nextPageId_le {current : Superblock}
    (h : Continues prim base dataKey expected current.nextPageId txns) :
    current.nextPageId ≤ (txns.foldl Superblock.behind current).nextPageId ∧
      ∀ txn ∈ txns, txn.nextPageId ≤ (txns.foldl Superblock.behind current).nextPageId := by
  induction txns generalizing expected current with
  | nil => exact ⟨le_rfl, by simp⟩
  | cons txn txns ih =>
    cases h with
    | cons fits rest =>
      have hrest : Continues prim base dataKey ((txn.txnId + 1) % 2 ^ 64)
        (current.behind txn).nextPageId txns := rest
      obtain ⟨hfirst, hothers⟩ := ih hrest
      refine ⟨le_trans fits.nextPageId hfirst, ?_⟩
      intro other hother
      rcases List.mem_cons.mp hother with rfl | hother
      · exact hfirst
      · exact hothers other hother

/-- Of a page that was validated, applying it checks again only what it can still find:
that its offset in the data file has 64 bits. -/
lemma walApplyValid_iff {txnId nextPageId : Nat} {page : WalPage}
    (h : page.Valid prim base dataKey txnId nextPageId) :
    walApplyValid prim base.pageSize txnId nextPageId page = true ↔
      (page.pageId.toNat - 1) * base.pageSize ≤ uint64Max - dataOffset := by
  obtain ⟨view, hdecode, hlsn, -⟩ := h.decodes
  have hpositive : 0 < base.pageSize := lt_of_lt_of_le (by decide)
    (pageSize_bounds (pageSizeValid_of_pageDecode hdecode)).1
  simp only [walApplyValid, hdecode, hlsn, Bool.and_eq_true, decide_eq_true_eq]
  constructor
  · exact fun hvalid => hvalid.1.2
  · intro hrange
    refine ⟨⟨⟨⟨h.nonzero, h.bounded⟩, ?_⟩, hrange⟩, trivial⟩
    rw [Nat.le_div_iff_mul_le hpositive]
    exact hrange.trans (Nat.sub_le _ _)

lemma walApplyValid_of_valid {txnId nextPageId bound : Nat} {page : WalPage}
    (hpage : page.Valid prim base dataKey txnId nextPageId) (hbound : nextPageId ≤ bound)
    (hgeometry : pageGeometryValid bound base.pageSize = true) :
    walApplyValid prim base.pageSize txnId nextPageId page = true := by
  rw [pageGeometryValid_iff] at hgeometry
  have hbounded := hpage.bounded
  rw [walApplyValid_iff hpage, ← Nat.le_div_iff_mul_le (Nat.pos_of_ne_zero hgeometry.1.2)]
  omega

/-- A page below a page counter that has a place in the data file can be written. -/
lemma WalTxn.writable_of_valid {txn : WalTxn} {bound : Nat} {page : WalPage}
    (hpage : page.Valid prim base dataKey txn.txnId txn.nextPageId)
    (hbound : txn.nextPageId ≤ bound) (hgeometry : pageGeometryValid bound base.pageSize = true)
    (hlimit : canonicalSize bound base.pageSize ≤ maxOffset) :
    txn.writable prim base.pageSize page = true := by
  have hend := pageOffset_end_le base.pageSize hpage.nonzero
    (lt_of_lt_of_le hpage.bounded hbound)
  simp only [WalTxn.writable, walApplyValid_of_valid hpage hbound hgeometry, Bool.true_and,
    decide_eq_true_eq]
  omega

lemma Continues.mem_fits (h : Continues prim base dataKey expected next txns) {txn : WalTxn}
    (hmem : txn ∈ txns) : ∃ expected' next', txn.Fits prim base dataKey expected' next' := by
  induction h with
  | nil => cases hmem
  | cons fits rest ih =>
    rcases List.mem_cons.mp hmem with rfl | hmem
    · exact ⟨_, _, fits⟩
    · exact ih hmem

lemma Continues.writable {bound : Nat} (h : Continues prim base dataKey expected next txns)
    (hbound : ∀ txn ∈ txns, txn.nextPageId ≤ bound)
    (hgeometry : pageGeometryValid bound base.pageSize = true)
    (hlimit : canonicalSize bound base.pageSize ≤ maxOffset) :
    TxnsWritable prim base.pageSize txns := by
  intro txn hmem page hpage
  obtain ⟨_, _, hfits⟩ := h.mem_fits hmem
  exact WalTxn.writable_of_valid (hfits.pages page hpage) (hbound txn hmem) hgeometry hlimit

/-- The last transaction of a log states a valid end. -/
lemma Continues.behind_fits {superblock : SuperblockV1}
    (h : Continues prim superblock.toSuperblock dataKey expected superblock.nextPageId txns)
    (hnonempty : txns ≠ [])
    (hgeometry : pageGeometryValid (WalRecovery.behind superblock.toSuperblock txns).nextPageId
      superblock.pageSize = true) :
    (WalRecovery.behind superblock.toSuperblock txns).Fits superblock := by
  have hle := h.nextPageId_le.1
  rw [← (behind_fields superblock.toSuperblock txns).2.1] at hle
  rcases eq_nil_or_concat txns with rfl | ⟨init, last, rfl⟩
  · exact absurd rfl hnonempty
  · obtain ⟨_, _, hlast⟩ := h.mem_fits (by simp : last ∈ init.concat last)
    have hbehind : (WalRecovery.behind superblock.toSuperblock (init.concat last)).lastLsn =
        last.txnId ∧ (WalRecovery.behind superblock.toSuperblock (init.concat last)).nextPageId =
        last.nextPageId ∧ (WalRecovery.behind superblock.toSuperblock
          (init.concat last)).freelistPage = last.freelistPage := by
      simp [WalRecovery.behind]
    constructor
    · rw [hbehind.1]
      exact hlast.txnId_lt
    · exact hgeometry
    · exact hle
    · rw [pageGeometryValid_iff] at hgeometry
      rw [hbehind.2.1] at hgeometry ⊢
      rw [hbehind.2.2]
      rcases hlast.freelist with hnone | hbelow
      · rw [hnone]
        exact Nat.pos_of_ne_zero hgeometry.1.1
      · exact hbelow

lemma writePages_length_congr {pageSize : Nat} {first second : Bytes}
    (h : first.length = second.length) (pages : List WalPage) :
    (writePages pageSize first pages).length = (writePages pageSize second pages).length := by
  induction pages generalizing first second with
  | nil => exact h
  | cons page pages ih =>
    rw [writePages_cons, writePages_cons]
    apply ih
    rw [writeAt_length, writeAt_length, h]

lemma writeTxns_length_congr {pageSize : Nat} {first second : Bytes}
    (h : first.length = second.length) (txns : List WalTxn) :
    (writeTxns pageSize first txns).length = (writeTxns pageSize second txns).length := by
  induction txns generalizing first second with
  | nil => exact h
  | cons txn txns ih => exact ih (writePages_length_congr h txn.pages)

/-- Opening a database whose log holds transactions: it ends behind them if the
generation can be bumped and the data file then reaches its page counter, and fails
otherwise. -/
lemma run_pagerOpen_behind (h : AtRest prim password disk file wal unlocked)
    (hsealed : unlocked.legacyUpgradePending = false)
    (hlow : walHeaderSize < (disk.bytes wal).length) (hhigh : (disk.bytes wal).length ≤ walMaxBytes)
    (hscan : walRecoverTxns prim unlocked.base unlocked.dataKey (disk.bytes wal) =
      .ok (txns, false))
    (hcontinues : Continues prim unlocked.base unlocked.dataKey
      ((unlocked.base.checkpointLsn + 1) % 2 ^ 64) unlocked.base.nextPageId txns)
    (hnonempty : txns ≠ [])
    (hgeometry : pageGeometryValid (WalRecovery.behind unlocked.base txns).nextPageId
      unlocked.base.pageSize = true)
    (hlimit : canonicalSize (WalRecovery.behind unlocked.base txns).nextPageId
      unlocked.base.pageSize ≤ maxOffset)
    (hslots : dataOffset ≤ (disk.bytes file).length) :
    (unlocked.base.generation < uint64Max ∧
          canonicalSize (WalRecovery.behind unlocked.base txns).nextPageId unlocked.base.pageSize ≤
            (writeTxns unlocked.base.pageSize (disk.bytes file) txns).length →
        ∃ after, (pagerOpen prim password).run exec disk =
            (.ok (openHandle file (unlocked.result.superblock.advance
              (.behind unlocked.base txns)) unlocked.dataKey), after) ∧
          (txns.foldl Contents.apply (fileContents unlocked.base (disk.bytes file))).Within
            (fileContents (unlocked.result.superblock.advance
              (.behind unlocked.base txns)).toSuperblock (after.bytes file))) ∧
      (¬(unlocked.base.generation < uint64Max ∧
          canonicalSize (WalRecovery.behind unlocked.base txns).nextPageId unlocked.base.pageSize ≤
            (writeTxns unlocked.base.pageSize (disk.bytes file) txns).length) →
        ∃ error after, (pagerOpen prim password).run exec disk = (.error error, after)) := by
  obtain ⟨healed, hopen, htouches, hmirrored, hkeeps, hkey⟩ := run_pagerOpen_mirrored h
  have hname : healed.names .wal = some wal := by rw [htouches.names, h.log]
  rw [← htouches.bytes h.distinct] at hlow hhigh hscan
  have hnew := hcontinues.ids_new hmirrored.sized.checkpointLsn
  have hfits := hcontinues.behind_fits hnonempty hgeometry
  have hvalid : TxnsWritable prim unlocked.base.pageSize txns := by
    apply hcontinues.writable _ hgeometry hlimit
    rw [(behind_fields _ txns).2.1]
    exact hcontinues.nextPageId_le.2
  rcases run_pagerRecoverWal_txns file hmirrored.pageSize hmirrored.geometry hname hlow hhigh hscan
      hnew hnonempty with ⟨-, replayed, hreplay, honly, hbytes⟩ | ⟨hinvalid, -⟩
  swap
  · exact absurd hvalid hinvalid
  have hmirroredReplayed : Mirrored prim (replayed.bytes file) unlocked.result.superblock := by
    rw [hbytes]
    exact hmirrored.writeTxns
  have hslotsReplayed := hmirroredReplayed.slots
  have hlength : (writeTxns unlocked.base.pageSize (disk.bytes file) txns).length =
      (replayed.bytes file).length := by
    rw [hbytes]
    apply writeTxns_length_congr
    rw [hkeeps.length, max_eq_left hslots]
  have hadvances := lt_behind_lastLsn hnew hnonempty
  constructor
  · rintro ⟨hgeneration, hgrown⟩
    obtain ⟨advanced, hadvance, hmirroredNext, hkeepsNext⟩ := run_pagerAdvance hmirroredReplayed
      hkey hadvances hfits hgeneration
    have hnamed : advanced.names .wal = some wal := by
      rw [((touchesOnly_pagerAdvance _).of_run hadvance).names, honly.names, hname]
    rw [hlength] at hgrown
    obtain ⟨after, hrun, hafter⟩ := run_pagerOpenRecover hsealed hreplay hadvance hmirroredNext
      hlimit (by
        rw [hkeepsNext.length, max_eq_left hslotsReplayed]
        exact hgrown)
      (by
        rw [hnamed]
        exact fun heq => h.distinct (Option.some.inj heq))
    refine ⟨after, by rw [hopen, hrun], ?_⟩
    rw [hafter, fileContents_keepsPages _ hkeepsNext hslotsReplayed, fileContents_advance, hbytes]
    exact ((fileContents_within_keepsPages _ hkeeps).foldl_apply txns).trans
      (foldl_apply_within_writeTxns hcontinues rfl)
  · intro hfails
    rw [hopen, pagerOpenRecover, run_bind, hreplay, resume_ok, run_bind]
    by_cases hgeneration : unlocked.base.generation < uint64Max
    · obtain ⟨advanced, hadvance, hmirroredNext, hkeepsNext⟩ := run_pagerAdvance hmirroredReplayed
        hkey hadvances hfits hgeneration
      have hshort : (advanced.bytes file).length < canonicalSize
          (unlocked.result.superblock.advance (.behind unlocked.base txns)).nextPageId
            unlocked.base.pageSize := by
        rw [hkeepsNext.length, max_eq_left hslotsReplayed, ← hlength]
        exact Nat.not_le.mp fun hle => hfails ⟨hgeneration, hle⟩
      rw [hadvance, resume_ok, run_bind, run_pagerCanonicalizeFileSize_short hmirroredNext _ hshort]
      exact ⟨_, _, rfl⟩
    · have hbump : generationBump unlocked.base.generation = .error .overflow := by
        have hbound : unlocked.base.generation < _ := hmirrored.sized.generation
        rw [generationBump, if_pos]
        simp only [uint64Max] at hgeneration ⊢
        omega
      rw [pagerAdvance, if_pos hadvances, hgeometry]
      simp [hbump]

end Open

end ShibaDb
