/-
A crash during the first append to the log of a plaintext database: every sector
of the append may be missing.  The header and the start of the first frame share
the first sector, so it decides whether the log can be read at all.
-/
import ShibaDb.Pager.WalIdentity

namespace ShibaDb

open CallProgram FileSystem LittleEndian Fallible List

/-- Bytes of which a sector is there or zero. -/
def tornSectors (written : Nat → Bool) : (count sector : Nat) → Bytes → Bytes
  | 0, _, _ => []
  | count + 1, sector, bytes =>
    (if written sector then bytes.take 512 else List.replicate (min 512 bytes.length) 0) ++
      tornSectors written count (sector + 1) (bytes.drop 512)

/-- What a crash leaves of an append: the sectors that were written, and zeros, up
to some size. -/
def tornAppend (append : Bytes) (written : Nat → Bool) (size : Nat) : Bytes :=
  tornSectors written (append.length / 512 + 1) 0 (append.take size)

section Torn

variable {append : Bytes} {written : Nat → Bool} {size : Nat} {count : Nat}

lemma tornSectors_length (count sector : Nat) (bytes : Bytes) :
    (tornSectors written count sector bytes).length = min (512 * count) bytes.length := by
  induction count generalizing sector bytes with
  | zero => simp [tornSectors]
  | succ count ih =>
    have hfirst : (if written sector then bytes.take 512
        else List.replicate (min 512 bytes.length) 0).length = min 512 bytes.length := by
      split <;> simp
    rw [tornSectors, length_append, hfirst, ih, length_drop]
    omega

@[simp] lemma tornAppend_length :
    (tornAppend append written size).length = min size append.length := by
  rw [tornAppend, tornSectors_length, length_take]
  omega

/-- The start of torn bytes is that of the first sector. -/
lemma take_tornSectors {length : Nat} (hlength : length ≤ 512) (bytes : Bytes) :
    (tornSectors written (count + 1) 0 bytes).take length = (if written 0 then bytes.take 512
        else List.replicate (min 512 bytes.length) 0).take length := by
  rw [tornSectors, take_append]
  have hrest : (tornSectors written count (0 + 1) (bytes.drop 512)).take
      (length - (if written 0 then bytes.take 512
        else List.replicate (min 512 bytes.length) 0).length) = [] := by
    rw [take_eq_nil_iff]
    have hfirst : (if written 0 then bytes.take 512
        else List.replicate (min 512 bytes.length) 0).length = min 512 bytes.length := by
      split <;> simp
    rw [hfirst]
    by_cases hshort : bytes.length < length
    · right
      rw [← length_eq_zero_iff, tornSectors_length, length_drop]
      omega
    · left
      omega
  rw [hrest, append_nil]

/-- The first sector is all there, or all zero. -/
lemma take_tornAppend_written (hcount : count ≤ 512) (hwritten : written 0 = true) :
    (tornAppend append written size).take count = (append.take size).take count := by
  rw [tornAppend, take_tornSectors hcount, if_pos hwritten, take_take, min_eq_left hcount]

lemma take_tornAppend_zero (hcount : count ≤ 512) (hwritten : written 0 = false) :
    ((tornAppend append written size).take count).any (· ≠ 0) = false := by
  rw [tornAppend, take_tornSectors hcount, hwritten, if_neg Bool.false_ne_true, take_replicate]
  simp

end Torn

section Append

variable {prim : Primitives} {base target : Superblock} {pages : List WalPage} {append : Bytes}

/-- The first transaction behind the checkpoint of `base`, with the counters of
`target`. -/
def firstTxn (base target : Superblock) (pages : List WalPage) : WalTxn :=
  { txnId := base.checkpointLsn + 1, pages, nextPageId := target.nextPageId
    freelistPage := target.freelistPage }

/-- What `sdb_wal_encode_txn` makes of the first transaction of an empty log. -/
structure FirstAppend (prim : Primitives) (base target : Superblock) (pages : List WalPage)
    (append : Bytes) : Prop where
  encode : ∃ tail, walEncodeTxn prim target walHeaderSize (base.checkpointLsn + 1) pages =
    .ok (append, 0, tail)
  pageSize : target.pageSize = base.pageSize
  fileId : target.fileId = base.fileId
  nextPageId : base.nextPageId ≤ target.nextPageId
  valid : superblockValid target = true
  sizes : ∀ page ∈ pages, page.bytes.length = base.pageSize

/-- The append is the header and the bytes of a transaction recovery accepts. -/
lemma FirstAppend.layout (h : FirstAppend prim base target pages append)
    (hid : base.fileId.length = 16) :
    (firstTxn base target pages).Fits prim base none (base.checkpointLsn + 1) base.nextPageId ∧
      append = walHeader prim target (base.checkpointLsn + 1) pages.length ++
        (firstTxn base target pages).bytes prim base.fileId ∧ append.length ≤ walMaxBytes := by
  obtain ⟨tail, hencode⟩ := h.encode
  simp only [walEncodeTxn, guard_eq_ok, if_true] at hencode
  obtain ⟨hargs, hroom, hpages, hresult⟩ := hencode
  have happend := (Prod.mk.inj (Except.ok.inj hresult)).1
  simp only [Bool.or_eq_true, decide_eq_true_eq, not_or] at hargs
  obtain ⟨⟨hpositive, hcount⟩, hlimit⟩ := hargs
  have hvalid := h.valid
  simp only [superblockValid, Bool.and_eq_true, decide_eq_true_eq] at hvalid
  obtain ⟨⟨⟨⟨-, hgeometry⟩, -⟩, hfreelist⟩, -⟩ := hvalid
  have hnext : target.nextPageId < 2 ^ 64 := pageGeometryValid_lt hgeometry
  obtain ⟨hall, hnodup⟩ :=
    walPagesValid_pages h.pageSize h.sizes (by simpa using hpages)
  have hnonempty : pages ≠ [] := fun hnil => hcount (by rw [hnil]; rfl)
  have htxnId : base.checkpointLsn + 1 < 2 ^ 64 := by
    obtain ⟨page, hpage⟩ := exists_mem_of_ne_nil pages hnonempty
    obtain ⟨view, hview, hlsn, -⟩ := (hall page hpage).1.decodes
    rw [← hlsn]
    exact pageDecode_lsn_lt hview
  have hfits : (firstTxn base target pages).Fits prim base none (base.checkpointLsn + 1)
      base.nextPageId :=
    { txnId := rfl
      positive := Nat.succ_pos _
      txnId_lt := htxnId
      nonempty := hnonempty
      count := Nat.not_lt.mp hlimit
      nextPageId := h.nextPageId
      nextPageId_lt := hnext
      freelist := .inr hfreelist
      pages := fun page hpage => (hall page hpage).1
      distinct := hnodup }
  rw [h.fileId] at happend
  refine ⟨hfits, happend.symm, ?_⟩
  have hheader : (walHeader prim target (base.checkpointLsn + 1) pages.length).length =
      walHeaderSize := walHeader_length (by rw [h.fileId]; exact hid)
  have hbody := WalTxn.bytes_length hid hfits
  change ((firstTxn base target pages).bytes prim base.fileId).length =
    pages.length * FrameFormat.v5.frameSize base.pageSize + walCommitSize at hbody
  rw [← happend, length_append, hheader]
  change walHeaderSize + ((firstTxn base target pages).bytes prim base.fileId).length ≤ _
  rw [hbody, Nat.mul_comm, ← h.pageSize]
  omega

end Append

section Scan

variable {prim : Primitives} {base : Superblock} {txn : WalTxn} {expected targetNext : Nat}

/-- The checksums tell what is left of the frames and of the commit record from
what was written. -/
structure CrcDetects (prim : Primitives) (base : Superblock) (txn : WalTxn) (body : Bytes) :
    Prop where
  frames : body.take (txn.frames base.fileId).length ≠ txn.frames base.fileId →
    prim.crc32 (body.take (txn.frames base.fileId).length) ≠ prim.crc32 (txn.frames base.fileId)
  commit : body.drop (txn.frames base.fileId).length ≠
      walEncodeCommitRec prim txn.commitRec (prim.crc32 (txn.frames base.fileId)).toNat →
    ∀ rec runningCrc, walDecodeCommitRec prim (body.drop (txn.frames base.fileId).length) ≠
      .ok (rec, runningCrc)

/-- What is left of a torn transaction stops the scan. -/
lemma walStep_torn (hid : base.fileId.length = 16)
    (hfits : txn.Fits prim base none expected targetNext) {body : Bytes}
    (hlength : body.length ≤ (txn.bytes prim base.fileId).length)
    (hstart : 24 ≤ body.length → field 20 4 body = field 20 4 (txn.bytes prim base.fileId))
    (hcrc : CrcDetects prim base txn body) (hne : body ≠ txn.bytes prim base.fileId) :
    walStep prim base none .v5 expected targetNext body = .stop := by
  by_cases hshort : body.length < FrameFormat.v5.frameSize base.pageSize + walCommitSize
  · exact walStep_short hshort
  have hlayout := hfits.layout hid []
  have hcount : read (field 20 4 body) = txn.pages.length := by
    have hlong : 24 ≤ body.length := by
      simp only [FrameFormat.frameSize, FrameFormat.headerSize] at hshort
      omega
    rw [hstart hlong]
    have hcountField := hlayout.count
    rwa [append_nil] at hcountField
  have hframes := WalTxn.frames_length hid hfits.page_size
  have hbytes := WalTxn.bytes_length hid hfits
  simp only [walStep, walSelfDescribingStep, if_neg hshort, hcount]
  split
  · rfl
  rename_i hroom
  simp only [Bool.or_eq_true, decide_eq_true_eq, not_or, not_lt] at hroom
  have hfull : body.length = (txn.bytes prim base.fileId).length := by
    have hfit := hroom.2
    rw [Nat.le_div_iff_mul_le (frameSize_pos _ _)] at hfit
    simp only [FrameFormat.frameSize, FrameFormat.headerSize] at hshort
    omega
  rw [← hframes]
  have hcommitLength : (body.drop (txn.frames base.fileId).length).length = walCommitSize := by
    rw [length_drop, hfull, WalTxn.bytes, length_append, walEncodeCommitRec_length]
    omega
  rw [take_of_length_le hcommitLength.le]
  split
  · rfl
  rename_i rec runningCrc hdecode
  have hcommit : body.drop (txn.frames base.fileId).length =
      walEncodeCommitRec prim txn.commitRec (prim.crc32 (txn.frames base.fileId)).toNat := by
    by_contra hdiffers
    exact hcrc.commit hdiffers rec runningCrc hdecode
  -- the record is the one that was written, so the frames are not
  have hdiffers : body.take (txn.frames base.fileId).length ≠ txn.frames base.fileId := by
    intro hsame
    apply hne
    rw [← take_append_drop (txn.frames base.fileId).length body, hsame, hcommit, WalTxn.bytes]
  have hchecksum := hcrc.frames hdiffers
  have hroundTrip : walDecodeCommitRec prim (walEncodeCommitRec prim txn.commitRec
      (prim.crc32 (txn.frames base.fileId)).toNat ++ []) =
        .ok (txn.commitRec, (prim.crc32 (txn.frames base.fileId)).toNat) :=
    walDecodeCommitRec_encode hfits.sized (UInt32.toNat_lt _) []
  rw [append_nil] at hroundTrip
  rw [hcommit, hroundTrip] at hdecode
  obtain ⟨-, hrunning⟩ := Prod.mk.inj (Except.ok.inj hdecode)
  have hmismatch : (prim.crc32 (body.take (txn.frames base.fileId).length)).toNat ≠ runningCrc := by
    rw [← hrunning]
    exact fun heq => hchecksum (UInt32.toNat_inj.mp heq)
  simp [hmismatch]

end Scan

section Open

variable {prim : Primitives} {file wal : FileInode} {disk : FileDisk} {unlocked : Unlocked}
  {target : Superblock} {pages : List WalPage} {append : Bytes} {written : Nat → Bool} {size : Nat}
  {base : Superblock} {txn : WalTxn} {complete : Prop}

/-- The open succeeds: in the state before the transaction, or in the one behind it
when the append is complete. -/
def OpensAfterTear (prim : Primitives) (disk : FileDisk) (file : FileInode) (base : Superblock)
    (txn : WalTxn) (complete : Prop) : Prop :=
  ∃ handle after, (pagerOpen prim none).run exec disk = (.ok handle, after) ∧
    ((¬complete ∧ handle.currentLsn = base.checkpointLsn ∧
      (fileContents base (disk.bytes file)).Within
        (fileContents handle.superblock.toSuperblock (after.bytes file))) ∨
    (complete ∧ handle.currentLsn = txn.txnId ∧
      ((fileContents base (disk.bytes file)).apply txn).Within
        (fileContents handle.superblock.toSuperblock (after.bytes file))))

lemma not_opensAfterTear_of_error {error : SdbError} {after : FileDisk}
    (h : (pagerOpen prim none).run exec disk = (.error error, after)) :
    ¬OpensAfterTear prim disk file base txn complete := by
  rintro ⟨handle, opened, hrun, -⟩
  rw [h] at hrun
  cases (Prod.mk.inj hrun).1

lemma opensAfterTear_of_quiet (h : AtRest prim none disk file wal unlocked)
    (hsize : canonicalSize unlocked.base.nextPageId unlocked.base.pageSize ≤
      (disk.bytes file).length)
    (hquiet : QuietLog prim unlocked.base none (disk.bytes wal)) (hcomplete : ¬complete) :
    OpensAfterTear prim disk file unlocked.base txn complete := by
  have hkey : unlocked.dataKey = none := by simpa using h.dataKey_isSome
  obtain ⟨after, hrun, hcontents⟩ :=
    run_pagerOpen_quiet h h.plain hsize (by rw [hkey]; exact hquiet)
  refine ⟨_, after, hrun, .inl ⟨hcomplete, rfl, ?_⟩⟩
  rw [← hcontents]
  exact Contents.Within.refl _

lemma walLegacyHeader_current (hid : target.fileId.length = 16) (txnId pageCount logSize : Nat) :
    walLegacyHeader prim base logSize (walHeader prim target txnId pageCount) = .ok .skip := by
  obtain ⟨hmagic, hversion, -⟩ := walHeader_fields hid prim txnId pageCount []
  rw [append_nil] at hmagic hversion
  simp [walLegacyHeader, hmagic, read_field_write hversion (by decide)]

/-- A log of the database in which the scan finds nothing. -/
lemma quietLog_walHeader {log rest : Bytes} {dataKey : Option Bytes} {txnId pageCount : Nat}
    (hid : target.fileId.length = 16) (hlog : log = walHeader prim target txnId pageCount ++ rest)
    (hsize : log.length ≤ walMaxBytes)
    (hscan : walRecoverTxns prim base dataKey log = .ok ([], false)) :
    QuietLog prim base dataKey log where
  size := hsize
  scan _ := hscan
  legacy _ := by
    rw [hlog, take_walHeader hid]
    exact walLegacyHeader_current hid ..

/-- With the first sector, the log is the header and what is left of the transaction. -/
lemma FirstAppend.torn (hfirst : FirstAppend prim base target pages append)
    (hid : base.fileId.length = 16) (hwritten : written 0 = true) (hlong : walHeaderSize < size) :
    ∃ body, tornAppend append written size =
        walHeader prim target (base.checkpointLsn + 1) pages.length ++ body ∧
      body = (tornAppend append written size).drop walHeaderSize ∧
      body.length ≤ ((firstTxn base target pages).bytes prim base.fileId).length ∧
      (24 ≤ body.length → field 20 4 body =
        field 20 4 ((firstTxn base target pages).bytes prim base.fileId)) := by
  obtain ⟨-, happend, -⟩ := hfirst.layout hid
  have hheader : (walHeader prim target (base.checkpointLsn + 1) pages.length).length =
      walHeaderSize := walHeader_length (by rw [hfirst.fileId]; exact hid)
  have htake : (tornAppend append written size).take walHeaderSize =
      walHeader prim target (base.checkpointLsn + 1) pages.length := by
    rw [take_tornAppend_written (by decide) hwritten, take_take, min_eq_left hlong.le, happend,
      take_left' hheader]
  refine ⟨(tornAppend append written size).drop walHeaderSize, ?_, rfl, ?_, ?_⟩
  · rw [← htake, take_append_drop]
  · rw [length_drop, tornAppend_length, happend, length_append, hheader]
    omega
  · intro hstart
    have hfield : ∀ bytes : Bytes, field 20 4 (bytes.drop walHeaderSize) =
        ((bytes.take 88).drop 84) := by
      intro bytes
      rw [field, drop_drop, drop_take]
      rfl
    have hsize : 88 ≤ size := by
      rw [length_drop, tornAppend_length, walHeaderSize] at hstart
      omega
    have hbody : (firstTxn base target pages).bytes prim base.fileId =
        append.drop walHeaderSize := by
      rw [happend, drop_left' hheader]
    rw [hbody, hfield, hfield, take_tornAppend_written (by decide) hwritten, take_take,
      min_eq_left hsize]

/-- A plaintext database after a crash in the first append to its log, whose pages lie
in the range of a file. -/
structure TornFirst (prim : Primitives) (disk : FileDisk) (file wal : FileInode)
    (unlocked : Unlocked) (target : Superblock) (pages : List WalPage) (append : Bytes)
    (written : Nat → Bool) (size : Nat) : Prop where
  atRest : AtRest prim none disk file wal unlocked
  sized : canonicalSize unlocked.result.superblock.nextPageId
    unlocked.result.superblock.pageSize ≤ (disk.bytes file).length
  first : FirstAppend prim unlocked.result.superblock.toSuperblock target pages append
  limit : canonicalSize target.nextPageId unlocked.result.superblock.pageSize ≤ maxOffset
  log : disk.bytes wal = tornAppend append written size
  crc : CrcDetects prim unlocked.result.superblock.toSuperblock
    (firstTxn unlocked.result.superblock.toSuperblock target pages)
    ((disk.bytes wal).drop walHeaderSize)

section

variable (h : TornFirst prim disk file wal unlocked target pages append written size)

include h

lemma TornFirst.fileId : unlocked.result.superblock.fileId.length = 16 := by
  obtain ⟨_, _, _, hmirrored, _⟩ := run_pagerOpen_mirrored h.atRest
  exact hmirrored.sized.fileId

lemma TornFirst.pageSize : pageSizeValid unlocked.base.pageSize = true := by
  obtain ⟨_, _, _, hmirrored, _⟩ := run_pagerOpen_mirrored h.atRest
  exact hmirrored.pageSize

lemma TornFirst.expected : (unlocked.base.checkpointLsn + 1) % 2 ^ 64 =
    unlocked.base.checkpointLsn + 1 :=
  Nat.mod_eq_of_lt (h.first.layout h.fileId).1.txnId_lt

lemma TornFirst.dataKey : unlocked.dataKey = none := by
  simpa using h.atRest.dataKey_isSome

lemma TornFirst.high : (disk.bytes wal).length ≤ walMaxBytes := by
  rw [h.log, tornAppend_length]
  exact le_trans (Nat.min_le_right _ _) (h.first.layout h.fileId).2.2

lemma TornFirst.header_lt : walHeaderSize < append.length := by
  obtain ⟨hfits, happend, -⟩ := h.first.layout h.fileId
  have hlayout := (hfits.layout h.fileId []).long
  rw [append_nil, walCommitSize] at hlayout
  rw [happend, length_append, walHeader_length (by rw [h.first.fileId]; exact h.fileId)]
  omega

/-- Less than a header is no log. -/
lemma TornFirst.opens_short (hshort : size ≤ walHeaderSize) : disk.bytes wal ≠ append ∧
    OpensAfterTear prim disk file unlocked.base (firstTxn unlocked.base target pages)
      (disk.bytes wal = append) := by
  have hlarge := h.header_lt
  have hlength : (disk.bytes wal).length ≤ walHeaderSize := by
    rw [h.log, tornAppend_length]
    omega
  have hincomplete : disk.bytes wal ≠ append := by
    intro heq
    rw [heq] at hlength
    omega
  have hquiet : QuietLog prim unlocked.base none (disk.bytes wal) :=
    { size := h.high
      scan := fun hlow => absurd hlow (Nat.not_lt.mpr hlength)
      legacy := by
        intro hlow
        rw [walLegacyCommitSize] at hlow
        omega }
  exact ⟨hincomplete, opensAfterTear_of_quiet h.atRest h.sized hquiet hincomplete⟩

lemma TornFirst.low (hlong : walHeaderSize < size) : walHeaderSize < (disk.bytes wal).length := by
  have hlarge := h.header_lt
  rw [h.log, tornAppend_length]
  omega

/-- Without the first sector the log is refused. -/
lemma TornFirst.refused (hlong : walHeaderSize < size) (hwritten : written 0 = false) :
    ¬OpensAfterTear prim disk file unlocked.base txn complete := by
  have hzero : walHeaderPresent (disk.bytes wal) = false := by
    rw [h.log]
    exact take_tornAppend_zero (by decide) hwritten
  obtain ⟨after, hrun, -⟩ := run_pagerOpen_corrupt h.atRest h.dataKey (h.low hlong) h.high hzero
  exact not_opensAfterTear_of_error hrun

/-- With the first sector an incomplete transaction is not there. -/
lemma TornFirst.opens_torn (hlong : walHeaderSize < size) (hwritten : written 0 = true)
    (hincomplete : disk.bytes wal ≠ append) :
    OpensAfterTear prim disk file unlocked.base (firstTxn unlocked.base target pages)
      (disk.bytes wal = append) := by
  have hid := h.fileId
  obtain ⟨hfits, happend, -⟩ := h.first.layout hid
  have htargetId : target.fileId.length = 16 := by rw [h.first.fileId]; exact hid
  obtain ⟨body, hbytes, hdrop, hbodyLength, hstart⟩ := h.first.torn hid hwritten hlong
  rw [← h.log] at hbytes hdrop
  have hne : body ≠ (firstTxn unlocked.base target pages).bytes prim
      unlocked.base.fileId := by
    rintro rfl
    exact hincomplete (hbytes.trans happend.symm)
  have hcrc := h.crc
  rw [← hdrop] at hcrc
  have hstep := walStep_torn hid hfits hbodyLength hstart hcrc hne
  have hnothing : walRecoverTxns prim unlocked.base none (disk.bytes wal) = .ok ([], false) := by
    rw [hbytes]
    refine walRecoverTxns_walHeader htargetId h.first.pageSize h.first.fileId h.pageSize .nil ?_
    rw [scanEnd, h.expected]
    exact hstep
  exact opensAfterTear_of_quiet h.atRest h.sized
    (quietLog_walHeader htargetId hbytes h.high hnothing) hincomplete

/-- A complete append is recovered where the superblock can be advanced. -/
lemma TornFirst.opens_complete (hcomplete : disk.bytes wal = append) :
    OpensAfterTear prim disk file unlocked.base
        (firstTxn unlocked.base target pages) (disk.bytes wal = append) ↔
      unlocked.base.generation < uint64Max ∧
        canonicalSize target.nextPageId unlocked.base.pageSize ≤
          (writePages unlocked.base.pageSize (disk.bytes file) pages).length := by
  have hid := h.fileId
  obtain ⟨hfits, happend, -⟩ := h.first.layout hid
  have hcontinues : Continues prim unlocked.base none ((unlocked.base.checkpointLsn + 1) % 2 ^ 64)
      unlocked.base.nextPageId [firstTxn unlocked.base target pages] := by
    rw [h.expected]
    exact .cons hfits .nil
  have hscan : walRecoverTxns prim unlocked.base none (disk.bytes wal) =
      .ok ([firstTxn unlocked.base target pages], false) := by
    have hbody : (firstTxn unlocked.base target pages).bytes prim
        unlocked.base.fileId =
          walTxnsBytes prim unlocked.base.fileId [firstTxn unlocked.base target pages] ++ [] := by
      simp [walTxnsBytes]
    rw [hcomplete, happend, hbody]
    exact walRecoverTxns_walHeader (h.first.fileId ▸ hid) h.first.pageSize h.first.fileId
      h.pageSize hcontinues (walStep_short (by simp [walCommitSize]))
  have hgeometry : pageGeometryValid target.nextPageId unlocked.base.pageSize = true := by
    rw [← h.first.pageSize]
    exact (geometry_of_superblockValid h.first.valid).2
  have hlow : walHeaderSize < (disk.bytes wal).length := by
    rw [hcomplete]
    exact h.header_lt
  rw [← h.dataKey] at hscan hcontinues
  obtain ⟨hsucceeds, hfails⟩ := run_pagerOpen_behind h.atRest h.atRest.plain hlow
    h.high hscan hcontinues (by simp) hgeometry h.limit (le_trans (Nat.le_add_right _ _) h.sized)
  constructor
  · intro hopens
    by_contra hcannot
    obtain ⟨error, after, hrun⟩ := hfails hcannot
    exact not_opensAfterTear_of_error hrun hopens
  · intro hcan
    obtain ⟨after, hrun, hcontents⟩ := hsucceeds hcan
    exact ⟨_, after, hrun, .inr ⟨hcomplete, rfl, hcontents⟩⟩

end

/-- A torn first append leaves a plaintext database that opens, in the state before
the transaction or behind it, if at most a header of it is there or its first sector;
and a complete one if the generation can be bumped and the data file then reaches its
page counter. -/
theorem pagerOpen_torn_append
    (h : TornFirst prim disk file wal unlocked target pages append written size) :
    OpensAfterTear prim disk file unlocked.result.superblock.toSuperblock
        (firstTxn unlocked.result.superblock.toSuperblock target pages) (disk.bytes wal = append) ↔
      (size ≤ walHeaderSize ∨ written 0 = true) ∧
        (disk.bytes wal = append → unlocked.result.superblock.generation < uint64Max ∧
          canonicalSize target.nextPageId unlocked.result.superblock.pageSize ≤
            (writePages unlocked.result.superblock.pageSize (disk.bytes file) pages).length) := by
  rcases Nat.lt_or_ge walHeaderSize size with hlong | hshort
  · by_cases hwritten : written 0 = true
    · by_cases hcomplete : disk.bytes wal = append
      · rw [h.opens_complete hcomplete]
        exact ⟨fun hcan => ⟨Or.inr hwritten, fun _ => hcan⟩, fun hcan => hcan.2 hcomplete⟩
      · exact ⟨fun _ => ⟨Or.inr hwritten, fun heq => absurd heq hcomplete⟩,
          fun _ => h.opens_torn hlong hwritten hcomplete⟩
    · constructor
      · exact fun hopens => absurd hopens (h.refused hlong (by simpa using hwritten))
      · rintro ⟨hsmall | hfirst, -⟩
        · exact absurd hsmall (Nat.not_le.mpr hlong)
        · exact absurd hfirst hwritten
  · obtain ⟨hincomplete, hopens⟩ := h.opens_short hshort
    exact ⟨fun _ => ⟨Or.inl hshort, fun heq => absurd heq hincomplete⟩, fun _ => hopens⟩

end Open

section Sample

/-- The first transaction of the plaintext database: a new image of its page. -/
def plainPages : List WalPage := [⟨1, plainPage 1 [9]⟩]

def plainAppend : Bytes :=
  walHeader .sample plainSuperblock.toSuperblock 1 1 ++
    (firstTxn plainSuperblock.toSuperblock plainSuperblock.toSuperblock plainPages).bytes .sample
      plainSuperblock.fileId

lemma plain_firstAppend : FirstAppend .sample plainSuperblock.toSuperblock
    plainSuperblock.toSuperblock plainPages plainAppend where
  encode := by
    have hpage : pageEncode .sample 4096 (.plain .data) 1 1 [9] = .ok (plainPage 1 [9]) :=
      eq_ok_getD [] (by decide +kernel)
    obtain ⟨-, hdecode⟩ := pageDecode_of_pageEncode (by decide) hpage
    have hvalid : walPagesValid .sample plainSuperblock.toSuperblock 1 [] plainPages = true := by
      simp only [walPagesValid, plainPages]
      rw [show pageDecode .sample plainSuperblock.pageSize 1 (plainPage 1 [9]) = _ from hdecode]
      decide
    refine ⟨4244, ?_⟩
    simp only [walEncodeTxn, guard_eq_ok, if_true]
    refine ⟨by decide, by decide, ?_, rfl⟩
    rw [show plainSuperblock.checkpointLsn + 1 = 1 from rfl, hvalid]
    decide
  pageSize := rfl
  fileId := rfl
  nextPageId := le_rfl
  valid := by decide
  sizes := by
    have hpage : pageEncode .sample 4096 (.plain .data) 1 1 [9] = .ok (plainPage 1 [9]) :=
      eq_ok_getD [] (by decide +kernel)
    intro page hmem
    obtain rfl := List.mem_singleton.mp hmem
    exact (pageDecode_of_pageEncode (by decide) hpage).1

/-- The sectors behind the first one reached the medium, the first one did not: the
database cannot be opened any more. -/
theorem plain_torn_header_refused : TornFirst .sample
        (restDisk plainContent (tornAppend plainAppend (fun sector => sector ≠ 0) 4244))
        databaseInode walInode plainUnlocked plainSuperblock.toSuperblock plainPages plainAppend
        (fun sector => sector ≠ 0) 4244 ∧ ¬OpensAfterTear .sample
        (restDisk plainContent (tornAppend plainAppend (fun sector => sector ≠ 0) 4244))
        databaseInode plainSuperblock.toSuperblock
        (firstTxn plainSuperblock.toSuperblock plainSuperblock.toSuperblock plainPages)
        (tornAppend plainAppend (fun sector => sector ≠ 0) 4244 = plainAppend) := by
  have htorn : TornFirst .sample
      (restDisk plainContent (tornAppend plainAppend (fun sector => sector ≠ 0) 4244))
      databaseInode walInode plainUnlocked plainSuperblock.toSuperblock plainPages plainAppend
      (fun sector => sector ≠ 0) 4244 :=
    { atRest := plain_atRest _
      sized := by decide +kernel
      first := plain_firstAppend
      limit := by decide
      log := restDisk_wal _ _
      crc :=
        { frames := fun _ => by decide +kernel
          commit := fun hne => absurd (by decide +kernel) hne } }
  exact ⟨htorn, htorn.refused (by decide) rfl⟩

/-- Only a hundred bytes reached the medium. -/
theorem pagerOpen_torn_append_hundred :
    OpensAfterTear .sample (restDisk plainContent (tornAppend plainAppend (fun _ => true) 100))
      databaseInode plainSuperblock.toSuperblock
      (firstTxn plainSuperblock.toSuperblock plainSuperblock.toSuperblock plainPages)
      (tornAppend plainAppend (fun _ => true) 100 = plainAppend) := by
  have hlarge : 4136 ≤ ((firstTxn plainSuperblock.toSuperblock plainSuperblock.toSuperblock
      plainPages).frames plainSuperblock.fileId).length := by decide +kernel
  have hbody : ((tornAppend plainAppend (fun _ => true) 100).drop walHeaderSize).length ≤ 4136 := by
    rw [List.length_drop, tornAppend_length]
    omega
  have htorn : TornFirst .sample
      (restDisk plainContent (tornAppend plainAppend (fun _ => true) 100))
      databaseInode walInode plainUnlocked plainSuperblock.toSuperblock plainPages plainAppend
      (fun _ => true) 100 :=
    { atRest := plain_atRest _
      sized := by decide +kernel
      first := plain_firstAppend
      limit := by decide
      log := restDisk_wal _ _
      crc :=
        { frames := fun _ => by decide +kernel
          commit := by
            intro _ rec runningCrc
            rw [restDisk_wal, List.drop_eq_nil_of_le]
            · simp [walDecodeCommitRec, walCommitSize]
            · exact le_trans hbody hlarge } }
  have hincomplete : (restDisk plainContent (tornAppend plainAppend (fun _ => true) 100)).bytes
      walInode ≠ plainAppend := by
    intro hcomplete
    have hlength := congrArg List.length hcomplete
    have happend : plainAppend.length = 4244 := by decide +kernel
    rw [restDisk_wal, tornAppend_length, happend] at hlength
    cases hlength
  have hopens := (pagerOpen_torn_append htorn).mpr
    ⟨Or.inr rfl, fun hcomplete => absurd hcomplete hincomplete⟩
  rw [restDisk_wal] at hopens
  exact hopens

end Sample

end ShibaDb
