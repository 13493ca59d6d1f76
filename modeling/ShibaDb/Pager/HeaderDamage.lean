/-
Damage to the header of the log.  The frames say on their own where the first
transaction ends, so a header that fails its checksum costs nothing; a header of
zeros is taken for one that was never written.
-/
import ShibaDb.Pager.OpenOutcome

namespace ShibaDb

open CallProgram FileSystem LittleEndian Fallible List

section Damage

variable {prim : Primitives} {file wal : FileInode} {disk : FileDisk} {password : Option Bytes}
  {unlocked : Unlocked} {header rest : Bytes} {txns : List WalTxn} {superblock : Superblock}
  {dataKey : Option Bytes} {log : Bytes}

/-- A log with transactions behind the checkpoint, whose header was replaced; what
follows the transactions is no further one. -/
structure DamagedLog (prim : Primitives) (superblock : Superblock) (dataKey : Option Bytes)
    (header : Bytes) (txns : List WalTxn) (rest log : Bytes) : Prop where
  bytes : log = header ++ (walTxnsBytes prim superblock.fileId txns ++ rest)
  length : header.length = walHeaderSize
  damaged : header.any (· ≠ 0) = false ∨ walHeaderCrcOk prim header = false
  nonempty : txns ≠ []
  continues : Continues prim superblock dataKey ((superblock.checkpointLsn + 1) % 2 ^ 64)
    superblock.nextPageId txns
  stop : walStep prim superblock dataKey .v5
    (scanEnd ((superblock.checkpointLsn + 1) % 2 ^ 64) superblock.nextPageId txns).1
    (scanEnd ((superblock.checkpointLsn + 1) % 2 ^ 64) superblock.nextPageId txns).2 rest = .stop

/-- The open fails and leaves the log, or it recovers every transaction of it. -/
def KeepsCommitted (prim : Primitives) (password : Option Bytes) (disk : FileDisk)
    (file wal : FileInode) (superblock : Superblock) (txns : List WalTxn) : Prop :=
  (∃ error after, (pagerOpen prim password).run exec disk = (.error error, after) ∧
    after.names .wal = some wal ∧ after.bytes wal = disk.bytes wal) ∨
  (∃ handle after last, (pagerOpen prim password).run exec disk = (.ok handle, after) ∧
    txns.getLast? = some last ∧ handle.currentLsn = last.txnId ∧
    (txns.foldl Contents.apply (fileContents superblock (disk.bytes file))).Within
      (fileContents handle.superblock.toSuperblock (after.bytes file)))

lemma DamagedLog.long (h : DamagedLog prim superblock dataKey header txns rest log) :
    walHeaderSize < log.length := by
  have hcount := length_le_walTxnsBytes prim superblock.fileId txns
  have hpositive := List.length_pos_iff.mpr h.nonempty
  rw [h.bytes, length_append, length_append, h.length]
  omega

/-- The frames of a log with a damaged header tell how to read it. -/
lemma DamagedLog.recovers (h : DamagedLog prim superblock dataKey header txns rest log)
    (hid : superblock.fileId.length = 16) (hpresent : header.any (· ≠ 0) = true) :
    walRecoverTxns prim superblock dataKey log = .ok (txns, false) := by
  have hcrc : walHeaderCrcOk prim header = false := by
    rcases h.damaged with hzero | hcrc
    · rw [hzero] at hpresent
      cases hpresent
    · exact hcrc
  have hclassify : walClassify prim superblock dataKey log = .ok .v5 := by
    have hcontinues := h.continues
    have hnonempty := h.nonempty
    rw [h.bytes]
    cases hcontinues with
    | nil => exact absurd rfl hnonempty
    | cons fits others =>
      rw [walTxnsBytes, flatMap_cons, append_assoc]
      exact walClassify_damaged hid h.length hpresent hcrc fits _
  have hbody : log.drop walHeaderSize = walTxnsBytes prim superblock.fileId txns ++ rest := by
    rw [h.bytes]
    exact drop_left' h.length
  have hfuel : txns.length ≤ log.length := by
    refine le_trans (length_le_walTxnsBytes prim superblock.fileId txns) ?_
    rw [h.bytes, length_append, length_append]
    omega
  rw [walRecoverTxns, hclassify, hbody]
  exact congrArg Except.ok (walScan_txns hid h.continues h.stop hfuel)

/-- A log over the limit is refused. -/
lemma run_walRecoverAll_large (base : Superblock) (hpageSize : pageSizeValid base.pageSize = true)
    (hgeometry : pageGeometryValid base.nextPageId base.pageSize = true)
    (hname : disk.names .wal = some wal) (hhigh : walMaxBytes < (disk.bytes wal).length) :
    (walRecoverAll prim file base dataKey).run exec disk = (.error .corrupt, disk) := by
  rw [walRecoverAll, hpageSize, hgeometry]
  simp only [Bool.not_true, Bool.false_eq_true, if_false, run_bind, run_attempt,
    run_fileOpenExisting hname, resume_ok, run_fileSize, if_pos hhigh, run_fail]

/-- No multiple of the frame size of the first log versions has a commit magic
behind it. -/
def NoLegacyCommit (pageSize : Nat) (body : Bytes) : Prop :=
  ∀ count, 0 < count →
    field 0 4 (body.drop (count * FrameFormat.legacy.frameSize pageSize)) ≠ walCommitMagic

lemma walLegacyProbe_stop {expected targetNext : Nat} {body : Bytes}
    (hnone : NoLegacyCommit superblock.pageSize body) {remaining count : Nat} (hcount : 0 < count) :
    walLegacyProbe prim superblock dataKey expected targetNext body remaining count = .stop := by
  induction remaining generalizing count with
  | zero => rfl
  | succ remaining ih =>
    simp only [walLegacyProbe, if_pos (hnone count hcount)]
    exact ih (Nat.succ_pos count)

/-- Behind a header of zeros an encrypted database reads frames of the first log
versions, and finds none. -/
lemma walRecoverTxns_zero (hzero : walHeaderPresent log = false) (hkey : dataKey.isSome = true)
    (hnone : NoLegacyCommit superblock.pageSize (log.drop walHeaderSize)) :
    walRecoverTxns prim superblock dataKey log = .ok ([], false) := by
  obtain ⟨key, rfl⟩ := Option.isSome_iff_exists.mp hkey
  have hclassify : walClassify prim superblock (some key) log = .ok .legacy := by
    simp [walClassify, hzero]
  have hstep : ∀ expected targetNext, walStep prim superblock (some key) .legacy expected
      targetNext (log.drop walHeaderSize) = .stop := by
    intro expected targetNext
    simp only [walStep, walLegacyStep]
    split
    · rfl
    · exact walLegacyProbe_stop hnone Nat.one_pos
  rw [walRecoverTxns, hclassify]
  cases hlength : log.length with
  | zero => rfl
  | succ fuel => simp [bind, Except.bind, walScan, hstep]

lemma walLegacyHeader_zero {size : Nat} (hzero : header.any (· ≠ 0) = false)
    (hlength : header.length = walHeaderSize) :
    walLegacyHeader prim superblock size header = .ok .skip := by
  have hall : header = List.replicate walHeaderSize 0 := by
    rw [← hlength, eq_replicate_iff]
    refine ⟨rfl, ?_⟩
    intro byte hbyte
    simpa using List.any_eq_false.mp hzero byte hbyte
  have hmagic : field 0 4 header ≠ walMagic := by
    rw [hall]
    decide
  simp only [walLegacyHeader, if_pos hmagic]

section

variable (h : AtRest prim password disk file wal unlocked) (hlog : DamagedLog prim
  unlocked.base unlocked.dataKey header txns rest (disk.bytes wal))

include h

/-- An open with a log over the limit is refused. -/
lemma run_pagerOpen_large (hlarge : walMaxBytes < (disk.bytes wal).length) :
    ∃ error after, (pagerOpen prim password).run exec disk = (.error error, after) ∧
      OnlyTouches file disk after := by
  obtain ⟨healed, hopen, htouches, hmirrored, -, -⟩ := run_pagerOpen_mirrored h
  have hname : healed.names .wal = some wal := by rw [htouches.names, h.log]
  rw [← htouches.bytes h.distinct] at hlarge
  refine ⟨.corrupt, healed, ?_, htouches⟩
  rw [hopen, pagerOpenRecover, run_bind, pagerRecoverWal, run_bind, run_walRecoverAll_large _
    hmirrored.pageSize hmirrored.geometry hname hlarge]
  rfl

/-- Opening a database whose log holds transactions fails and leaves the log, or it ends
behind them. -/
lemma run_pagerOpen_replayed (hlow : walHeaderSize < (disk.bytes wal).length)
    (hscan : walRecoverTxns prim unlocked.base unlocked.dataKey (disk.bytes wal) =
      .ok (txns, false))
    (hcontinues : Continues prim unlocked.base unlocked.dataKey
      ((unlocked.base.checkpointLsn + 1) % 2 ^ 64) unlocked.base.nextPageId txns)
    (hnonempty : txns ≠ []) :
    (∃ error after, (pagerOpen prim password).run exec disk = (.error error, after) ∧
      OnlyTouches file disk after) ∨
    ∃ handle after, (pagerOpen prim password).run exec disk = (.ok handle, after) ∧
      handle.currentLsn = (WalRecovery.behind unlocked.base txns).lastLsn ∧
      (txns.foldl Contents.apply (fileContents unlocked.base (disk.bytes file))).Within
        (fileContents handle.superblock.toSuperblock (after.bytes file)) := by
  rcases Nat.lt_or_ge walMaxBytes (disk.bytes wal).length with hlarge | hhigh
  · exact .inl (run_pagerOpen_large h hlarge)
  obtain ⟨healed, hopen, htouches, hmirrored, hkeeps, hauth⟩ := run_pagerOpen_mirrored h
  have hname : healed.names .wal = some wal := by rw [htouches.names, h.log]
  rw [← htouches.bytes h.distinct] at hhigh hlow hscan
  have hnew := hcontinues.ids_new hmirrored.sized.checkpointLsn
  rcases run_pagerRecoverWal_txns file hmirrored.pageSize hmirrored.geometry hname hlow hhigh
      hscan hnew hnonempty with ⟨-, replayed, hreplay, honly, hwritten⟩ |
        ⟨-, error, after, hfail, honly⟩
  · have hmirroredReplayed : Mirrored prim (replayed.bytes file) unlocked.result.superblock := by
      rw [hwritten]
      exact hmirrored.writeTxns
    have hnotLog : replayed.names .wal ≠ some file := by
      rw [honly.names, hname]
      exact fun heq => h.distinct (Option.some.inj heq)
    rcases run_pagerOpenRecover_outcome hreplay hmirroredReplayed hauth h.sound.length
        (lt_behind_lastLsn hnew hnonempty)
        (fun hgeometry => hcontinues.behind_fits hnonempty hgeometry) hnotLog with
      ⟨error, after, hrun, hafter⟩ | ⟨handle, after, hrun, hlsn, hcontents⟩
    · exact .inl ⟨error, after, by rw [hopen, hrun], htouches.trans (honly.trans hafter)⟩
    · refine .inr ⟨handle, after, by rw [hopen, hrun], hlsn, ?_⟩
      rw [hcontents, fileContents_advance, hwritten]
      exact ((fileContents_within_keepsPages _ hkeeps).foldl_apply txns).trans
        (foldl_apply_within_writeTxns hcontinues rfl)
  · refine .inl ⟨error, after, ?_, htouches.trans honly⟩
    rw [hopen, pagerOpenRecover, run_bind, hfail, resume_error]

/-- A plaintext database refuses a log under a header of zeros. -/
lemma run_pagerOpen_corrupt (hplain : unlocked.dataKey = none)
    (hlow : walHeaderSize < (disk.bytes wal).length) (hhigh : (disk.bytes wal).length ≤ walMaxBytes)
    (hzero : walHeaderPresent (disk.bytes wal) = false) :
    ∃ after, (pagerOpen prim password).run exec disk = (.error .corrupt, after) ∧
      OnlyTouches file disk after := by
  obtain ⟨healed, hopen, htouches, hmirrored, -, -⟩ := run_pagerOpen_mirrored h
  have hname : healed.names .wal = some wal := by rw [htouches.names, h.log]
  rw [← htouches.bytes h.distinct] at hlow hhigh hzero
  refine ⟨healed, ?_, htouches⟩
  rw [hopen, pagerOpenRecover, run_bind, pagerRecoverWal, run_bind, run_walRecoverAll_log _
    hmirrored.pageSize hmirrored.geometry hname hlow hhigh, walReplay, run_bind, run_fromExcept,
    walRecoverTxns, hplain, walClassify_zero hzero]
  rfl

/-- An open that fails in the replay leaves the log. -/
lemma keepsCommitted_of_error {error : SdbError} {after : FileDisk}
    (hrun : (pagerOpen prim password).run exec disk = (.error error, after))
    (honly : OnlyTouches file disk after) :
    KeepsCommitted prim password disk file wal unlocked.base txns := by
  refine .inl ⟨error, after, hrun, ?_, honly.bytes h.distinct⟩
  rw [honly.names]
  exact h.log

include hlog in
/-- A plaintext database refuses a header of zeros, and a header that fails its
checksum is not needed. -/
lemma keepsCommitted_of_plain_or_present
    (hcase : unlocked.dataKey = none ∨ header.any (· ≠ 0) = true) :
    KeepsCommitted prim password disk file wal unlocked.base txns := by
  obtain ⟨_, -, -, hmirrored, -⟩ := run_pagerOpen_mirrored h
  by_cases hpresent : header.any (· ≠ 0) = true
  · rcases run_pagerOpen_replayed h hlog.long (hlog.recovers hmirrored.sized.fileId hpresent)
        hlog.continues hlog.nonempty with ⟨error, after, hrun, honly⟩ |
          ⟨handle, after, hrun, hlsn, hcontents⟩
    · exact keepsCommitted_of_error h hrun honly
    · obtain ⟨last, hlast⟩ := Option.isSome_iff_exists.mp (List.getLast?_isSome.mpr hlog.nonempty)
      refine .inr ⟨handle, after, last, hrun, hlast, ?_, hcontents⟩
      rw [hlsn, WalRecovery.behind, hlast]
  · have hplain : unlocked.dataKey = none := hcase.resolve_right hpresent
    rcases Nat.lt_or_ge walMaxBytes (disk.bytes wal).length with hlarge | hhigh
    · obtain ⟨error, after, hrun, honly⟩ := run_pagerOpen_large h hlarge
      exact keepsCommitted_of_error h hrun honly
    have hzero : walHeaderPresent (disk.bytes wal) = false := by
      rw [hlog.bytes, walHeaderPresent, take_left' hlog.length]
      simpa using hpresent
    obtain ⟨after, hrun, honly⟩ := run_pagerOpen_corrupt h hplain hlog.long hhigh hzero
    exact keepsCommitted_of_error h hrun honly

/-- Unlocking gives a key exactly where a password is given. -/
lemma AtRest.dataKey_isSome : unlocked.dataKey.isSome = password.isSome := by
  obtain ⟨result, -, hunlock⟩ := h.superblock
  unfold unlock at hunlock
  split at hunlock
  · split at hunlock
    · cases hunlock
    · cases hunlock
    · rw [except_bind_eq_ok] at hunlock
      obtain ⟨dataKey, -, hunlock⟩ := hunlock
      split at hunlock
      · rw [except_bind_eq_ok] at hunlock
        obtain ⟨authentic, -, hunlock⟩ := hunlock
        obtain rfl := Except.ok.inj hunlock
        rfl
      · obtain rfl := Except.ok.inj hunlock
        rfl
  · rw [guard_eq_ok] at hunlock
    obtain ⟨hpassword, hunlock⟩ := hunlock
    obtain rfl := Except.ok.inj hunlock
    simpa using hpassword

variable (hkey : unlocked.dataKey.isSome = true) (hzero : header.any (· ≠ 0) = false)
  (hnone : NoLegacyCommit unlocked.base.pageSize ((disk.bytes wal).drop walHeaderSize))
  (hsealed : unlocked.legacyUpgradePending = false) (hhigh : (disk.bytes wal).length ≤ walMaxBytes)
  (hsize : canonicalSize unlocked.base.nextPageId unlocked.base.pageSize ≤
    (disk.bytes file).length)

include hlog hkey hzero hnone hsealed hhigh hsize

/-- The log of an encrypted database under a header of zeros is taken for empty,
and cleared. -/
lemma run_pagerOpen_zero_header :
    ∃ after, (pagerOpen prim password).run exec disk =
      (.ok (openHandle file unlocked.result.superblock unlocked.dataKey), after) := by
  have htake : (disk.bytes wal).take walHeaderSize = header := by
    rw [hlog.bytes]
    exact take_left' hlog.length
  have hpresent : walHeaderPresent (disk.bytes wal) = false := by
    rw [walHeaderPresent, htake, hzero]
  have hquiet : QuietLog prim unlocked.base unlocked.dataKey (disk.bytes wal) :=
    { size := hhigh
      scan := fun _ => walRecoverTxns_zero hpresent hkey hnone
      legacy := by
        intro _
        rw [htake]
        exact walLegacyHeader_zero hzero hlog.length }
  obtain ⟨after, hrun, -⟩ := run_pagerOpen_quiet h hsealed hsize hquiet
  exact ⟨after, hrun⟩

lemma not_keepsCommitted_of_zero :
    ¬KeepsCommitted prim password disk file wal unlocked.base txns := by
  obtain ⟨after, hopen⟩ := run_pagerOpen_zero_header h hlog hkey hzero hnone hsealed hhigh hsize
  obtain ⟨_, _, _, hmirrored, _⟩ := run_pagerOpen_mirrored h
  rintro (⟨error, failed, hrun, -⟩ | ⟨handle, done, last, hrun, hlast, hlsn, -⟩)
  · rw [hopen] at hrun
    cases (Prod.mk.inj hrun).1
  · rw [hopen] at hrun
    obtain rfl := Except.ok.inj (Prod.mk.inj hrun).1
    -- the handle is at the checkpoint, which is behind every transaction
    have hnew := hlog.continues.ids_new hmirrored.sized.checkpointLsn last
      (mem_of_getLast? hlast)
    exact absurd hlsn hnew.ne

end

/-- Damage to the header of the log loses no committed transaction if the database
is plaintext or the header is not all zero; a header of zeros over the log of an
encrypted database loses them all. -/
theorem pagerOpen_damaged_header (h : AtRest prim password disk file wal unlocked)
    (hlog : DamagedLog prim unlocked.result.superblock.toSuperblock unlocked.dataKey header txns
      rest (disk.bytes wal)) : (password = none ∨ header.any (· ≠ 0) = true →
      KeepsCommitted prim password disk file wal unlocked.result.superblock.toSuperblock txns) ∧
    (NoLegacyCommit unlocked.result.superblock.pageSize ((disk.bytes wal).drop walHeaderSize) →
      unlocked.legacyUpgradePending = false → (disk.bytes wal).length ≤ walMaxBytes →
      canonicalSize unlocked.result.superblock.nextPageId unlocked.result.superblock.pageSize ≤
        (disk.bytes file).length →
      KeepsCommitted prim password disk file wal unlocked.result.superblock.toSuperblock txns →
      password = none ∨ header.any (· ≠ 0) = true) := by
  have hkey := h.dataKey_isSome
  constructor
  · intro hcase
    apply keepsCommitted_of_plain_or_present h hlog
    refine hcase.imp_left ?_
    rintro rfl
    simpa using hkey
  · intro hnone hsealed hhigh hsize hkept
    by_contra hcase
    rw [not_or] at hcase
    refine not_keepsCommitted_of_zero h hlog ?_ (by simpa using hcase.2) hnone hsealed hhigh hsize
      hkept
    rw [hkey]
    exact Option.isSome_iff_ne_none.mpr hcase.1

end Damage

section Sample

/-- An encrypted database without pages. -/
def sealedSuperblock : SuperblockV1 :=
  { pageSize := 4096, generation := 1, checkpointLsn := 0, rootPage := 0, freelistPage := 0
    nextPageId := 1, fileId := List.replicate 16 5, flags := 3, salt := List.replicate 16 9
    keyWrapId := 1, kdfIterations := 600000, wrappedKey := List.replicate 32 7
    keyWrapTag := List.replicate 16 1 }

def sealedKey : Bytes := List.replicate 32 7

def sealedSlot : Bytes :=
  (encodeSlot .sample sealedSuperblock (some sealedKey)).toOption.getD []

def sealedContent : Bytes := sealedSlot ++ (sealedSlot ++ [])

def sealedPage : Bytes :=
  (encryptedPageEncode .sample sealedSuperblock.fileId sealedKey (List.replicate 24 0) 4096 .data 1
    1 [1, 2, 3]).toOption.getD []

/-- The transaction that adds the first page. -/
def sealedTxn : WalTxn :=
  { txnId := 1, pages := [⟨1, sealedPage⟩], nextPageId := 2, freelistPage := 0 }

def sealedLog (header : Bytes) : Bytes :=
  header ++ (walTxnsBytes .sample sealedSuperblock.fileId [sealedTxn] ++ [])

def sealedUnlocked : Unlocked :=
  { result := { superblock := sealedSuperblock, selectedSlot := .first, validMirrorCount := 2 }
    dataKey := some sealedKey, legacyUpgradePending := false }

lemma sealed_atRest (log : Bytes) : AtRest .sample (some [1]) (restDisk sealedContent log)
    databaseInode walInode sealedUnlocked := by
  have hsized : sealedSuperblock.Sized := by constructor <;> decide
  have hslot : encodeSlot .sample sealedSuperblock (some sealedKey) = .ok sealedSlot :=
    eq_ok_getD [] (by decide +kernel)
  exact atRest_restDisk log (mirrored_encodeSlot [] hsized hslot).read (by decide +kernel)
    (by decide +kernel)

lemma sealedTxn_fits :
    sealedTxn.Fits .sample sealedSuperblock.toSuperblock (some sealedKey) 1 1 where
  txnId := rfl
  positive := by decide
  txnId_lt := by decide
  nonempty := by simp [sealedTxn]
  count := by simp [sealedTxn, walMaxRecords]
  nextPageId := by decide
  nextPageId_lt := by decide
  freelist := .inl rfl
  pages := by
    intro page hpage
    obtain rfl := List.mem_singleton.mp hpage
    have hencode : encryptedPageEncode .sample sealedSuperblock.fileId sealedKey
        (List.replicate 24 0) 4096 .data 1 1 [1, 2, 3] = .ok sealedPage :=
      eq_ok_getD [] (by decide +kernel)
    exact WalPage.valid_of_encryptedPageEncode length_replicate (by decide) (by decide)
      (by decide) hencode
  distinct := by simp [sealedTxn]

lemma sealed_damaged (header : Bytes) (hlength : header.length = walHeaderSize)
    (hdamaged : header.any (· ≠ 0) = false ∨ walHeaderCrcOk .sample header = false) :
    DamagedLog .sample sealedSuperblock.toSuperblock (some sealedKey) header [sealedTxn] []
      (sealedLog header) where
  bytes := rfl
  length := hlength
  damaged := hdamaged
  nonempty := by simp
  continues := .cons sealedTxn_fits .nil
  stop := walStep_short (by decide)

/-- A header of zeros over the log of an encrypted database: the open succeeds and
the committed transaction is gone. -/
theorem sealed_zero_header_forgets :
    AtRest .sample (some [1]) (restDisk sealedContent (sealedLog (List.replicate 64 0)))
        databaseInode walInode sealedUnlocked ∧
      DamagedLog .sample sealedSuperblock.toSuperblock (some sealedKey) (List.replicate 64 0)
        [sealedTxn] [] (sealedLog (List.replicate 64 0)) ∧ ¬KeepsCommitted .sample (some [1])
        (restDisk sealedContent (sealedLog (List.replicate 64 0))) databaseInode walInode
        sealedSuperblock.toSuperblock [sealedTxn] := by
  have hlog := sealed_damaged (List.replicate 64 0) (by decide) (Or.inl (by decide))
  have hrest := sealed_atRest (sealedLog (List.replicate 64 0))
  refine ⟨hrest, hlog, ?_⟩
  have hlength : ((sealedLog (List.replicate 64 0)).drop walHeaderSize).length = 4180 := by
    decide +kernel
  apply not_keepsCommitted_of_zero hrest hlog rfl (by decide)
  · -- one frame of the old size ends inside the commit record, two lie behind the log
    intro count hcount
    rcases Nat.lt_or_ge 1 count with hmany | hone
    · have hbehind : 4180 ≤ count * FrameFormat.legacy.frameSize 4096 := by
        simp only [FrameFormat.frameSize, FrameFormat.headerSize]
        omega
      change field 0 4 (((sealedLog (List.replicate 64 0)).drop walHeaderSize).drop
        (count * FrameFormat.legacy.frameSize 4096)) ≠ _
      rw [List.drop_eq_nil_of_le (by rw [hlength]; exact hbehind)]
      decide
    · obtain rfl : count = 1 := by omega
      decide +kernel
  · rfl
  · decide +kernel
  · decide +kernel

/-- A header that fails its checksum over the same log. -/
theorem sealed_broken_header_keeps : walHeaderCrcOk .sample (1 :: List.replicate 63 0) = false ∧
      KeepsCommitted .sample (some [1])
        (restDisk sealedContent (sealedLog (1 :: List.replicate 63 0))) databaseInode walInode
        sealedSuperblock.toSuperblock [sealedTxn] := by
  have hcrc : walHeaderCrcOk .sample (1 :: List.replicate 63 0) = false := by decide +kernel
  exact ⟨hcrc, (pagerOpen_damaged_header (sealed_atRest _)
    (sealed_damaged _ (by decide) (Or.inr hcrc))).1 (Or.inr (by decide))⟩

end Sample

end ShibaDb
