/-
What an open that succeeds has done, whatever bytes the log has: it took some
transactions from the log, and the pages and counters are those behind them.
-/
import ShibaDb.Pager.OpenSpec
import ShibaDb.Wal.Accept

namespace ShibaDb

open CallProgram FileSystem LittleEndian ByteFile

section Outcome

variable {prim : Primitives} {file : FileInode} {disk after : FileDisk}
  {superblock next : SuperblockV1} {dataKey password : Option Bytes} {unlocked : Unlocked}

/-- Advancing succeeds only to the superblock behind the recovery. -/
lemma run_pagerAdvance_ok {recovery : WalRecovery}
    (hmirrored : Mirrored prim (disk.bytes file) superblock)
    (hkey : superblock.headerAuth = true → dataKey.isSome = true)
    (hnew : superblock.checkpointLsn < recovery.lastLsn)
    (hfits : pageGeometryValid recovery.nextPageId superblock.pageSize = true →
      recovery.Fits superblock)
    (hrun : (pagerAdvance prim file superblock dataKey recovery).run exec disk =
      (.ok next, after)) :
    next = superblock.advance recovery ∧ Mirrored prim (after.bytes file) next ∧
      KeepsPages (disk.bytes file) (after.bytes file) := by
  by_cases hgeometry : pageGeometryValid recovery.nextPageId superblock.pageSize = true
  · by_cases hgeneration : superblock.generation < uint64Max
    · obtain ⟨advanced, hadvance, hresult⟩ :=
        run_pagerAdvance hmirrored hkey hnew (hfits hgeometry) hgeneration
      rw [hadvance] at hrun
      obtain ⟨hnext, rfl⟩ := Prod.mk.inj hrun
      obtain rfl := Except.ok.inj hnext
      exact ⟨rfl, hresult⟩
    · -- the generation cannot be bumped
      have hbound := hmirrored.sized.generation
      have hbump : generationBump superblock.generation = .error .overflow := by
        rw [generationBump, if_pos]
        simp only [uint64Max] at hgeneration ⊢
        omega
      rw [pagerAdvance, if_pos hnew, hgeometry] at hrun
      simp [run_fromExcept, hbump] at hrun
  · rw [pagerAdvance, if_pos hnew] at hrun
    simp [hgeometry] at hrun

lemma run_pagerCheckTrailing (disk : FileDisk) (pageSize finish fuel offset : Nat) :
    ((pagerCheckTrailing file pageSize finish fuel offset).run exec disk).2 = disk := by
  induction fuel generalizing offset with
  | zero => rfl
  | succ fuel ih =>
    rw [pagerCheckTrailing]
    split
    · have hsame := run_fileReadFull_disk file offset (min (finish - offset) pageSize) disk
      rw [run_bind]
      rcases hread : (fileReadFull file offset (min (finish - offset) pageSize)).run exec disk
        with ⟨error | bytes, after⟩
      · rw [hread] at hsame
        exact hsame
      · rw [hread] at hsame
        obtain rfl : after = disk := hsame
        rw [resume_ok]
        split
        · rfl
        · exact ih _
    · rfl

/-- A data file that is accepted keeps its pages. -/
lemma run_pagerCanonicalizeFileSize_ok {pending : Bool}
    (hmirrored : Mirrored prim (disk.bytes file) superblock)
    (hrun : (pagerCanonicalizeFileSize file superblock pending).run exec disk = (.ok (), after)) :
    Mirrored prim (after.bytes file) superblock ∧
      fileContents superblock.toSuperblock (after.bytes file) =
        fileContents superblock.toSuperblock (disk.bytes file) := by
  rcases Nat.lt_or_ge (disk.bytes file).length
      (canonicalSize superblock.nextPageId superblock.pageSize) with hshort | hsize
  · rw [run_pagerCanonicalizeFileSize_short hmirrored pending hshort] at hrun
    cases (Prod.mk.inj hrun).1
  have hgeometry := hmirrored.geometry
  rw [pageGeometryValid_iff] at hgeometry
  rw [pagerCanonicalizeFileSize, if_neg hgeometry.1.1,
    if_neg (Nat.not_lt.mpr hgeometry.2), run_bind, run_fileSize, resume_ok,
    if_neg (Nat.not_lt.mpr hsize)] at hrun
  split at hrun
  · obtain ⟨-, rfl⟩ := Prod.mk.inj hrun
    exact ⟨hmirrored, rfl⟩
  -- the check of the rest reads only
  obtain ⟨middle, hchecked, hresize⟩ : ∃ middle, middle = disk ∧ (fileResizeTo file
      (canonicalSize superblock.nextPageId superblock.pageSize) >>= fun _ =>
        fileSync file).run exec middle = (.ok (), after) := by
    cases pending with
    | false => exact ⟨disk, rfl, hrun⟩
    | true =>
      obtain ⟨_, middle, hcheck, hresize⟩ := run_bind_ok hrun
      refine ⟨middle, ?_, hresize⟩
      rw [← run_pagerCheckTrailing disk superblock.pageSize (disk.bytes file).length
        ((disk.bytes file).length - canonicalSize superblock.nextPageId superblock.pageSize)
        (canonicalSize superblock.nextPageId superblock.pageSize), hcheck]
  subst hchecked
  rcases Nat.lt_or_ge maxOffset (canonicalSize superblock.nextPageId superblock.pageSize) with
    hfar | hlimit
  · rw [run_bind, run_fileResizeTo_far hfar] at hresize
    cases (Prod.mk.inj hresize).1
  · simp only [run_bind, run_fileResizeTo hlimit, resume_ok, run_fileSync] at hresize
    obtain ⟨-, rfl⟩ := Prod.mk.inj hresize
    rw [syncFile_bytes, editFile_bytes]
    exact ⟨hmirrored.resize (Nat.le_add_right _ _), fileContents_resize hsize⟩

/-- A seal keeps the pages and the counters. -/
lemma run_pagerUpgrade_ok (hmirrored : Mirrored prim (disk.bytes file) superblock)
    (hkey : ∀ key, unlocked.dataKey = some key → key.length = 32)
    (hrun : (pagerUpgrade prim file superblock password unlocked).run exec disk =
      (.ok next, after)) :
    next.toSuperblock = { superblock.toSuperblock with generation := next.generation } ∧
      fileContents superblock.toSuperblock (after.bytes file) =
        fileContents superblock.toSuperblock (disk.bytes file) := by
  unfold pagerUpgrade at hrun
  split at hrun
  · rename_i _ key _ hdataKey
    unfold pagerLegacySeal at hrun
    split at hrun
    · cases (Prod.mk.inj hrun).1
    · rename_i hroom
      obtain ⟨upgraded, _, hwrapRun, hrun⟩ := run_bind_ok hrun
      rw [run_fromExcept] at hwrapRun
      obtain ⟨hwrap, rfl⟩ := Prod.mk.inj hwrapRun
      obtain ⟨_, updated, hupdate, hrun⟩ := run_bind_ok hrun
      obtain ⟨hnext, rfl⟩ := Prod.mk.inj hrun
      obtain rfl := Except.ok.inj hnext
      obtain ⟨encoded, _, hencodeRun, hstore⟩ := run_bind_ok hupdate
      rw [run_fromExcept] at hencodeRun
      obtain ⟨hencode, rfl⟩ := Prod.mk.inj hencodeRun
      obtain ⟨wrappedKey, keyWrapTag, hwrapped, htag, rfl⟩ := keyWrap_eq_ok hwrap
      have hsized := hmirrored.sized
      have hupgraded : SuperblockV1.Sized
          { superblock with
            flags := superblock.flags ||| 2
            keyWrapId := superblock.keyWrapId + 1
            generation := superblock.generation + 1
            wrappedKey, keyWrapTag } := by
        have hgeneration := hsized.generation
        have hkeyWrapId := hsized.keyWrapId
        simp only [Bool.or_eq_true, decide_eq_true_eq, not_or] at hroom
        simp only [uint32Max, uint64Max] at hroom
        exact
          { generation := by change superblock.generation + 1 < 2 ^ 64; omega
            checkpointLsn := hsized.checkpointLsn
            keyWrapId := by change superblock.keyWrapId + 1 < 2 ^ 32; omega
            kdfIterations := hsized.kdfIterations
            salt := hsized.salt
            fileId := hsized.fileId
            wrappedKey := hwrapped.trans (hkey key hdataKey)
            keyWrapTag := htag }
      obtain ⟨_, _, hreadRun, hguard⟩ := run_bind_ok hstore
      rw [run_superblockStoreReadFile, hmirrored.read] at hreadRun
      obtain ⟨hread, rfl⟩ := Prod.mk.inj hreadRun
      obtain rfl := Except.ok.inj hread
      split at hguard
      · cases (Prod.mk.inj hguard).1
      · rename_i hvalid
        obtain ⟨stored, hstored, -, -, hkeeps⟩ := run_superblockStoreUpdateFile hencode
          (encodeSlot_length hupgraded hencode) hmirrored.read (by simpa using hvalid)
        rw [hupdate] at hstored
        obtain ⟨-, rfl⟩ := Prod.mk.inj hstored
        exact ⟨rfl, fileContents_keepsPages _ hkeeps hmirrored.slots⟩
  · obtain ⟨hnext, rfl⟩ := Prod.mk.inj hrun
    obtain rfl := Except.ok.inj hnext
    exact ⟨rfl, rfl⟩

/-- After a replay the open either fails before it touches the log, or ends behind
the last transaction. -/
lemma run_pagerOpenRecover_outcome {healed scanned : FileDisk} {recovery : WalRecovery}
    (hscan : (pagerRecoverWal prim file unlocked.base
      unlocked.dataKey).run exec healed = (.ok recovery, scanned))
    (hmirrored : Mirrored prim (scanned.bytes file) unlocked.result.superblock)
    (hauth : unlocked.result.superblock.headerAuth = true → unlocked.dataKey.isSome = true)
    (hkey : ∀ key, unlocked.dataKey = some key → key.length = 32)
    (hnew : unlocked.result.superblock.checkpointLsn < recovery.lastLsn)
    (hfits : pageGeometryValid recovery.nextPageId unlocked.result.superblock.pageSize = true →
      recovery.Fits unlocked.result.superblock) (hname : scanned.names .wal ≠ some file) :
    (∃ error after, (pagerOpenRecover prim file password unlocked).run exec healed =
        (.error error, after) ∧ OnlyTouches file scanned after) ∨
    (∃ handle after, (pagerOpenRecover prim file password unlocked).run exec healed =
        (.ok handle, after) ∧ handle.currentLsn = recovery.lastLsn ∧
      fileContents handle.superblock.toSuperblock (after.bytes file) =
        fileContents (unlocked.result.superblock.advance recovery).toSuperblock
          (scanned.bytes file)) := by
  rw [pagerOpenRecover, run_bind, hscan, resume_ok, run_bind]
  rcases hadvance : (pagerAdvance prim file unlocked.result.superblock unlocked.dataKey
    recovery).run exec scanned with ⟨error | next, advanced⟩
  · exact .inl ⟨error, advanced, rfl, (touchesOnly_pagerAdvance _).of_run hadvance⟩
  have hadvanced := (touchesOnly_pagerAdvance _).of_run hadvance
  obtain ⟨rfl, hmirroredNext, hkeeps⟩ := run_pagerAdvance_ok hmirrored hauth hnew hfits hadvance
  rw [resume_ok, run_bind]
  rcases hcanonical : (pagerCanonicalizeFileSize file
    (unlocked.result.superblock.advance recovery) unlocked.legacyUpgradePending).run exec advanced
      with ⟨error | _, sized⟩
  · exact .inl ⟨error, sized, rfl, hadvanced.trans
      ((touchesOnly_pagerCanonicalizeFileSize _).of_run hcanonical)⟩
  have hsized := hadvanced.trans ((touchesOnly_pagerCanonicalizeFileSize _).of_run hcanonical)
  obtain ⟨hmirroredSized, hcontents⟩ := run_pagerCanonicalizeFileSize_ok hmirroredNext hcanonical
  rw [resume_ok, run_bind]
  rcases hupgrade : (pagerUpgrade prim file (unlocked.result.superblock.advance recovery)
    password unlocked).run exec sized with ⟨error | upgraded, sealed⟩
  · exact .inl ⟨error, sealed, rfl, hsized.trans ((touchesOnly_pagerUpgrade _ _).of_run hupgrade)⟩
  have hsealed := hsized.trans ((touchesOnly_pagerUpgrade _ _).of_run hupgrade)
  obtain ⟨hupgraded, hkept⟩ := run_pagerUpgrade_ok hmirroredSized hkey hupgrade
  obtain ⟨after, hclear, -, hothers⟩ := run_walClear sealed
  refine .inr ⟨openHandle file upgraded unlocked.dataKey, after, ?_, ?_, ?_⟩
  · rw [resume_ok, run_bind, hclear]
    rfl
  · change upgraded.checkpointLsn = _
    rw [hupgraded]
    rfl
  · rw [hothers file (by rw [hsealed.names]; exact hname),
      ← fileContents_keepsPages _ hkeeps hmirrored.slots, ← hcontents, ← hkept]
    change fileContents upgraded.toSuperblock _ = _
    rw [hupgraded]
    rfl

end Outcome

section Took

variable {prim : Primitives} {file wal : FileInode} {disk after : FileDisk} {base : Superblock}
  {dataKey : Option Bytes} {txns : List WalTxn} {recovery : WalRecovery} {log : Bytes}

end Took

section Open

variable {prim : Primitives} {file wal : FileInode} {disk after : FileDisk}
  {superblock next : SuperblockV1} {dataKey password : Option Bytes} {unlocked : Unlocked}
  {txns : List WalTxn} {handle : PagerHandle}

end Open

end ShibaDb
