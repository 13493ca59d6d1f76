/-
A log written by `sdb_wal_encode_txn` and cut anywhere: recovery writes the frames
of the transactions that are complete, in order, and nothing else, as long as their
pages lie where a file can be written.
-/
import ShibaDb.Pager.TornAppend

namespace ShibaDb

open CallProgram FileSystem LittleEndian Fallible ByteFile List

/-- The superblock a commit hands to the encoder: the counters are those of the
transaction. -/
def Superblock.target (superblock : Superblock) (txn : WalTxn) : Superblock :=
  { superblock with nextPageId := txn.nextPageId, freelistPage := txn.freelistPage }

/-- The log after each of the transactions was encoded at the tail the one before
it left. -/
def walEncodeTxns (prim : Primitives) (superblock : Superblock) :
    (tail : Nat) → (log : Bytes) → List WalTxn → Except SdbError Bytes
  | _, log, [] => .ok log
  | tail, log, txn :: txns => do
      let (buffer, offset, next) ←
        walEncodeTxn prim (superblock.target txn) tail txn.txnId txn.pages
      walEncodeTxns prim superblock next (writeAt log offset buffer) txns

/-- Transactions `last + 1`, `last + 2`, ... with page images of the size of a page
and counters that do not shrink. -/
def Succeed (pageSize : Nat) : (last nextPageId : Nat) → List WalTxn → Prop
  | _, _, [] => True
  | last, nextPageId, txn :: txns =>
    txn.txnId = last + 1 ∧ nextPageId ≤ txn.nextPageId ∧
      pageGeometryValid txn.nextPageId pageSize = true ∧
      txn.freelistPage.toNat < txn.nextPageId ∧
      (∀ page ∈ txn.pages, page.bytes.length = pageSize) ∧
      Succeed pageSize txn.txnId txn.nextPageId txns

/-- Where a transaction that begins at `tail` ends. -/
def WalTxn.finish (pageSize tail : Nat) (txn : WalTxn) : Nat :=
  tail + FrameFormat.v5.frameSize pageSize * txn.pages.length + walCommitSize

/-- The transactions from `tail` on whose commit record lies before `cut`. -/
def completeTxns (pageSize cut : Nat) : (tail : Nat) → List WalTxn → List WalTxn
  | _, [] => []
  | tail, txn :: txns =>
    if txn.finish pageSize tail ≤ cut then
      txn :: completeTxns pageSize cut (txn.finish pageSize tail) txns
    else []

section Cut

variable {prim : Primitives} {superblock : Superblock} {dataKey : Option Bytes}
  {expected targetNext : Nat} {txns : List WalTxn}

lemma WalTxn.finish_eq {txn : WalTxn} (hid : superblock.fileId.length = 16)
    (hfits : txn.Fits prim superblock dataKey expected targetNext) (tail : Nat) :
    txn.finish superblock.pageSize tail = tail + (txn.bytes prim superblock.fileId).length := by
  rw [WalTxn.bytes_length hid hfits, WalTxn.finish, Nat.mul_comm, Nat.add_assoc]

lemma completeTxns_subset {pageSize cut tail : Nat} :
    ∀ txn ∈ completeTxns pageSize cut tail txns, txn ∈ txns := by
  induction txns generalizing tail with
  | nil => simp [completeTxns]
  | cons head txns ih =>
    intro txn hmem
    rw [completeTxns] at hmem
    split at hmem
    · rcases List.mem_cons.mp hmem with rfl | hmem
      · exact mem_cons_self
      · exact mem_cons_of_mem _ (ih txn hmem)
    · cases hmem

/-- A cut log is its complete transactions and a rest at which the scan stops. -/
lemma walTxnsBytes_take (hid : superblock.fileId.length = 16)
    (hcontinues : Continues prim superblock dataKey expected targetNext txns) (tail room : Nat) :
    ∃ rest, (walTxnsBytes prim superblock.fileId txns).take room =
        walTxnsBytes prim superblock.fileId
          (completeTxns superblock.pageSize (tail + room) tail txns) ++ rest ∧
      Continues prim superblock dataKey expected targetNext
        (completeTxns superblock.pageSize (tail + room) tail txns) ∧ ∀ expected targetNext,
        walStep prim superblock dataKey .v5 expected targetNext rest = .stop := by
  induction hcontinues generalizing tail room with
  | nil =>
    refine ⟨[], by simp [walTxnsBytes, completeTxns], Continues.nil, ?_⟩
    intro expected targetNext
    apply walStep_short
    simp [walCommitSize]
  | @cons expected targetNext txn txns fits _ ih =>
    have hfinish := WalTxn.finish_eq hid fits tail
    rw [walTxnsBytes, flatMap_cons, ← walTxnsBytes, take_append, completeTxns]
    by_cases hcomplete : txn.finish superblock.pageSize tail ≤ tail + room
    · -- the whole transaction is there; the rest of the room is for those behind it
      obtain ⟨rest, hrest, hcontinues, hstop⟩ := ih (txn.finish superblock.pageSize tail)
        (room - (txn.bytes prim superblock.fileId).length)
      have hroom : txn.finish superblock.pageSize tail +
          (room - (txn.bytes prim superblock.fileId).length) = tail + room := by omega
      rw [hroom] at hrest hcontinues
      refine ⟨rest, ?_, ?_, hstop⟩
      · rw [if_pos hcomplete, hrest, take_of_length_le (by omega), walTxnsBytes,
          walTxnsBytes, flatMap_cons, append_assoc]
      · rw [if_pos hcomplete]
        exact Continues.cons fits hcontinues
    · refine ⟨(txn.bytes prim superblock.fileId).take room, ?_, ?_, ?_⟩
      · have hnone : room - (txn.bytes prim superblock.fileId).length = 0 := by omega
        rw [if_neg hcomplete, hnone, take_zero, append_nil]
        rfl
      · rw [if_neg hcomplete]
        exact Continues.nil
      · intro expected targetNext
        exact walStep_txn_cut hid fits (by omega)

end Cut

section Encode

variable {prim : Primitives} {superblock : Superblock} {txn : WalTxn} {txns : List WalTxn}
  {last nextPageId : Nat} {log : Bytes}

/-- What `sdb_wal_encode_txn` accepts is a transaction recovery accepts. -/
lemma fits_of_walEncodeTxn {tail : Nat} {result : Bytes × Nat × Nat}
    (hsucceed : Succeed superblock.pageSize last nextPageId (txn :: txns))
    (h : walEncodeTxn prim (superblock.target txn) tail txn.txnId txn.pages = .ok result) :
    txn.Fits prim superblock none (last + 1) nextPageId ∧
      txn.finish superblock.pageSize tail ≤ walMaxBytes ∧
      result.2.2 = txn.finish superblock.pageSize tail ∧
      result.2.1 = (if tail = walHeaderSize then 0 else tail) ∧
      result.1 = (if tail = walHeaderSize then
        walHeader prim (superblock.target txn) txn.txnId txn.pages.length else []) ++
          txn.bytes prim superblock.fileId := by
  obtain ⟨htxnId, hnext, hgeometry, hfreelist, hsizes, -⟩ := hsucceed
  simp only [walEncodeTxn, Fallible.guard_eq_ok] at h
  obtain ⟨hargs, hroom, hpages, hresult⟩ := h
  simp only [Bool.or_eq_true, decide_eq_true_eq, not_or] at hargs
  obtain ⟨⟨hpositive, hcount⟩, hlimit⟩ := hargs
  obtain ⟨hall, hnodup⟩ := walPagesValid_pages
    (show (superblock.target txn).pageSize = superblock.pageSize from rfl) hsizes
    (by simpa using hpages)
  have hnonempty : txn.pages ≠ [] := fun hnil => hcount (by rw [hnil]; rfl)
  have hlt : txn.txnId < 2 ^ 64 := by
    obtain ⟨page, hpage⟩ := exists_mem_of_ne_nil txn.pages hnonempty
    obtain ⟨view, hview, hlsn, -⟩ := (hall page hpage).1.decodes
    rw [← hlsn]
    exact pageDecode_lsn_lt hview
  have hfits : txn.Fits prim superblock none (last + 1) nextPageId :=
    { txnId := htxnId
      positive := Nat.pos_of_ne_zero hpositive
      txnId_lt := hlt
      nonempty := hnonempty
      count := Nat.not_lt.mp hlimit
      nextPageId := hnext
      nextPageId_lt := pageGeometryValid_lt hgeometry
      freelist := .inr hfreelist
      pages := fun page hpage => (hall page hpage).1
      distinct := hnodup }
  refine ⟨hfits, Nat.not_lt.mp hroom, ?_⟩
  by_cases htail : tail = walHeaderSize
  · rw [if_pos htail] at hresult ⊢
    rw [if_pos htail]
    obtain rfl := Except.ok.inj hresult
    exact ⟨rfl, rfl, rfl⟩
  · rw [if_neg htail] at hresult ⊢
    rw [if_neg htail]
    obtain rfl := Except.ok.inj hresult
    exact ⟨rfl, rfl, rfl⟩

/-- Behind the first transaction the encoder appends. -/
lemma walEncodeTxns_behind (hid : superblock.fileId.length = 16) {start : Bytes}
    (hsucceed : Succeed superblock.pageSize last nextPageId txns)
    (hbehind : walHeaderSize < start.length) (hbound : start.length ≤ walMaxBytes)
    (h : walEncodeTxns prim superblock start.length start txns = .ok log) :
    log = start ++ walTxnsBytes prim superblock.fileId txns ∧ log.length ≤ walMaxBytes ∧
      Continues prim superblock none ((last + 1) % 2 ^ 64) nextPageId txns := by
  induction txns generalizing start last nextPageId with
  | nil =>
    obtain rfl := Except.ok.inj h
    exact ⟨by simp [walTxnsBytes], hbound, Continues.nil⟩
  | cons txn txns ih =>
    simp only [walEncodeTxns] at h
    obtain ⟨⟨buffer, offset, next⟩, hencode, hrest⟩ := Fallible.except_bind_eq_ok.mp h
    obtain ⟨hfits, hmax, hnext, hoffset, hbuffer⟩ := fits_of_walEncodeTxn hsucceed hencode
    rw [if_neg hbehind.ne'] at hoffset hbuffer
    rw [nil_append] at hbuffer
    obtain rfl : buffer = txn.bytes prim superblock.fileId := hbuffer
    obtain rfl : offset = start.length := hoffset
    obtain rfl : next = txn.finish superblock.pageSize start.length := hnext
    have hfinish := WalTxn.finish_eq hid hfits start.length
    simp only [writeAt_end] at hrest
    rw [hfinish, ← length_append] at hrest hmax
    obtain ⟨hlog, hlength, hcontinues⟩ := ih hsucceed.2.2.2.2.2
      (by rw [length_append]; omega) hmax hrest
    refine ⟨?_, hlength, ?_⟩
    · rw [hlog, append_assoc, walTxnsBytes, walTxnsBytes, flatMap_cons]
    · have hexpected : (last + 1) % 2 ^ 64 = last + 1 :=
        Nat.mod_eq_of_lt (hfits.txnId ▸ hfits.txnId_lt)
      rw [hexpected]
      exact Continues.cons hfits hcontinues

section

variable (hid : superblock.fileId.length = 16) (hsucceed : Succeed superblock.pageSize last
  nextPageId (txn :: txns)) (h : walEncodeTxns prim superblock walHeaderSize [] (txn :: txns) =
  .ok log)

include hid hsucceed h

/-- The log of at least one transaction: the header and the transactions. -/
lemma walEncodeTxns_log :
    log = walHeader prim (superblock.target txn) txn.txnId txn.pages.length ++
        walTxnsBytes prim superblock.fileId (txn :: txns) ∧ log.length ≤ walMaxBytes ∧
      Continues prim superblock none ((last + 1) % 2 ^ 64) nextPageId (txn :: txns) := by
  simp only [walEncodeTxns] at h
  obtain ⟨⟨buffer, offset, next⟩, hencode, hrest⟩ := Fallible.except_bind_eq_ok.mp h
  obtain ⟨hfits, hmax, hnext, hoffset, hbuffer⟩ := fits_of_walEncodeTxn hsucceed hencode
  rw [if_pos rfl] at hoffset hbuffer
  have hheader : (walHeader prim (superblock.target txn) txn.txnId txn.pages.length).length =
      walHeaderSize := walHeader_length hid
  have hlength : buffer.length = txn.finish superblock.pageSize walHeaderSize := by
    rw [WalTxn.finish_eq hid hfits, ← hheader, ← length_append]
    exact congrArg List.length hbuffer
  obtain rfl : offset = 0 := hoffset
  obtain rfl : next = buffer.length := hnext.trans hlength.symm
  have hwrite : writeAt [] 0 buffer = buffer := writeAt_end [] buffer
  simp only [hwrite] at hrest
  have hlong : walHeaderSize < buffer.length := by
    rw [hlength, WalTxn.finish, walCommitSize]
    omega
  obtain ⟨hlog, hmaxLog, hcontinues⟩ := walEncodeTxns_behind hid hsucceed.2.2.2.2.2 hlong
    (hlength ▸ hmax) hrest
  refine ⟨?_, hmaxLog, ?_⟩
  · rw [hlog, show buffer = _ from hbuffer, append_assoc, walTxnsBytes, walTxnsBytes,
      flatMap_cons]
  · have hexpected : (last + 1) % 2 ^ 64 = last + 1 :=
      Nat.mod_eq_of_lt (hfits.txnId ▸ hfits.txnId_lt)
    rw [hexpected]
    exact Continues.cons hfits hcontinues

lemma walHeaderSize_lt_walEncodeTxns :
    walHeaderSize < log.length := by
  obtain ⟨rfl, -, -⟩ := walEncodeTxns_log hid hsucceed h
  have hheader : (walHeader prim (superblock.target txn) txn.txnId txn.pages.length).length =
      walHeaderSize := walHeader_length hid
  have hbody := length_le_walTxnsBytes prim superblock.fileId (txn :: txns)
  rw [length_cons] at hbody
  rw [length_append, hheader]
  omega

end

lemma Succeed.last_lt {pageSize : Nat} (h : Succeed pageSize last nextPageId txns) :
    ∀ txn ∈ txns, last < txn.txnId ∧ pageGeometryValid txn.nextPageId pageSize = true := by
  induction txns generalizing last nextPageId with
  | nil => simp
  | cons txn txns ih =>
    obtain ⟨htxnId, -, hgeometry, -, -, hrest⟩ := h
    intro other hother
    rcases List.mem_cons.mp hother with rfl | hother
    · exact ⟨by omega, hgeometry⟩
    · obtain ⟨hlt, hvalid⟩ := ih hrest other hother
      exact ⟨by omega, hvalid⟩

end Encode

section Recover

variable {prim : Primitives} {superblock : Superblock} {txns : List WalTxn} {log : Bytes}
  {disk : FileDisk} {database wal : FileInode}

lemma completeTxns_header {cut : Nat} (hcut : cut ≤ walHeaderSize) :
    completeTxns superblock.pageSize cut walHeaderSize txns = [] := by
  cases txns with
  | nil => rfl
  | cons txn txns =>
    rw [completeTxns, if_neg]
    rw [WalTxn.finish, walCommitSize]
    omega

/-- What the scan takes from a cut log. -/
lemma walRecoverTxns_take (hid : superblock.fileId.length = 16)
    (hpageSize : pageSizeValid superblock.pageSize = true)
    (hsucceed : Succeed superblock.pageSize superblock.checkpointLsn superblock.nextPageId txns)
    (hlog : walEncodeTxns prim superblock walHeaderSize [] txns = .ok log) {cut : Nat}
    (hcut : walHeaderSize < cut) (hlong : walHeaderSize < log.length) :
    walRecoverTxns prim superblock none (log.take cut) =
        .ok (completeTxns superblock.pageSize cut walHeaderSize txns, false) ∧
      ∀ txn ∈ completeTxns superblock.pageSize cut walHeaderSize txns, ∀ page ∈ txn.pages,
        walApplyValid prim superblock.pageSize txn.txnId txn.nextPageId page = true := by
  cases txns with
  | nil =>
    obtain rfl := Except.ok.inj hlog
    simp at hlong
  | cons txn txns =>
    obtain ⟨rfl, -, hcontinues⟩ := walEncodeTxns_log hid hsucceed hlog
    have hheader : (walHeader prim (superblock.target txn) txn.txnId txn.pages.length).length =
        walHeaderSize := walHeader_length hid
    obtain ⟨rest, hrest, hcomplete, hstop⟩ :=
      walTxnsBytes_take hid hcontinues walHeaderSize (cut - walHeaderSize)
    rw [Nat.add_sub_cancel' hcut.le] at hrest hcomplete
    constructor
    · rw [take_append, hheader, take_of_length_le (by omega), hrest]
      refine walRecoverTxns_walHeader ?_ ?_ ?_ hpageSize hcomplete (hstop _ _)
      · exact hid
      · rfl
      · rfl
    · intro other hother page hpage
      obtain ⟨_, _, hfits⟩ := hcomplete.mem_fits hother
      exact walApplyValid_of_valid (hfits.pages page hpage) le_rfl
        (hsucceed.last_lt other (completeTxns_subset other hother)).2

lemma walEncodeTxns_length (hid : superblock.fileId.length = 16)
    (hsucceed : Succeed superblock.pageSize superblock.checkpointLsn superblock.nextPageId txns)
    (hlog : walEncodeTxns prim superblock walHeaderSize [] txns = .ok log) :
    log.length ≤ walMaxBytes := by
  cases txns with
  | nil =>
    obtain rfl := Except.ok.inj hlog
    exact Nat.zero_le _
  | cons txn txns => exact (walEncodeTxns_log hid hsucceed hlog).2.1

/-- The file takes a write at the place of the page. -/
def PageReachable (pageSize : Nat) (page : WalPage) : Prop :=
  pageOffset pageSize page.pageId ≤ maxOffset

instance PageReachable.decidable (pageSize : Nat) (page : WalPage) :
    Decidable (PageReachable pageSize page) :=
  inferInstanceAs (Decidable (_ ≤ _))

/-- Every page of the transactions has a place in the file. -/
def FileHolds (pageSize : Nat) (txns : List WalTxn) : Prop :=
  ∀ txn ∈ txns, ∀ page ∈ txn.pages, PageReachable pageSize page

/-- Where all pages pass the checks, those that cannot be written are too far out. -/
lemma StopsAt.invalidArgument {before : List WalTxn} {txn : WalTxn} {error : SdbError}
    (h : StopsAt prim superblock txns before txn error)
    (hvalid : ∀ txn ∈ txns, ∀ page ∈ txn.pages,
      walApplyValid prim superblock.pageSize txn.txnId txn.nextPageId page = true) :
    error = .invalidArgument := by
  have hstatus := h.status
  rw [WalTxn.applyStatus] at hstatus
  split at hstatus
  · cases hstatus
  · rename_i page hfind
    rw [← Except.error.inj hstatus, WalTxn.refusal, if_pos]
    exact hvalid txn (h.split.subset (by simp)) page (mem_of_find?_eq_some hfind)

section

variable (hid : superblock.fileId.length = 16) (hvalid : superblockValid superblock = true)
  (hsucceed : Succeed superblock.pageSize superblock.checkpointLsn superblock.nextPageId txns)
  (hlog : walEncodeTxns prim superblock walHeaderSize [] txns = .ok log) (cut : Nat)
  (hname : disk.names .wal = some wal) (hbytes : disk.bytes wal = log.take cut)

include hid hvalid hsucceed hlog hname hbytes

/-- How recovery of a cut log ends. -/
lemma run_walRecoverAll_take :
    (FileHolds superblock.pageSize (completeTxns superblock.pageSize cut walHeaderSize txns) ∧
      (walRecoverAll prim database superblock none).run exec disk =
        (.ok (.behind superblock (completeTxns superblock.pageSize cut walHeaderSize txns)),
          replayed database superblock.pageSize disk
            (completeTxns superblock.pageSize cut walHeaderSize txns))) ∨
    (¬FileHolds superblock.pageSize (completeTxns superblock.pageSize cut walHeaderSize txns) ∧
      ∃ after, (walRecoverAll prim database superblock none).run exec disk =
        (.error .invalidArgument, after)) := by
  simp only [superblockValid, Bool.and_eq_true] at hvalid
  obtain ⟨⟨⟨⟨hpageSize, hgeometry⟩, -⟩, -⟩, -⟩ := hvalid
  have hlength : (disk.bytes wal).length = min cut log.length := by rw [hbytes, List.length_take]
  by_cases hshort : (disk.bytes wal).length ≤ walHeaderSize
  · -- not even a header and a byte: nothing is complete
    have hnone : completeTxns superblock.pageSize cut walHeaderSize txns = [] := by
      cases txns with
      | nil => rfl
      | cons txn txns =>
        have hlong := walHeaderSize_lt_walEncodeTxns hid hsucceed hlog
        apply completeTxns_header
        omega
    rw [run_walRecoverAll_short superblock hpageSize hgeometry hname hshort, hnone]
    exact .inl ⟨by simp [FileHolds], rfl⟩
  · have hcut : walHeaderSize < cut := by omega
    have hlong : walHeaderSize < log.length := by omega
    obtain ⟨hscan, happly⟩ := walRecoverTxns_take hid hpageSize hsucceed hlog hcut hlong
    have hmax := walEncodeTxns_length hid hsucceed hlog
    have hnew : ∀ txn ∈ completeTxns superblock.pageSize cut walHeaderSize txns,
        superblock.checkpointLsn < txn.txnId :=
      fun txn hmem => (hsucceed.last_lt txn (completeTxns_subset txn hmem)).1
    have hholds : TxnsWritable prim superblock.pageSize
        (completeTxns superblock.pageSize cut walHeaderSize txns) ↔
          FileHolds superblock.pageSize
            (completeTxns superblock.pageSize cut walHeaderSize txns) := by
      refine forall₂_congr fun txn hmem => forall₂_congr fun page hpage => ?_
      simp [WalTxn.writable, happly txn hmem page hpage, PageReachable]
    rw [run_walRecoverAll_log superblock hpageSize hgeometry hname (by omega) (by omega), hbytes]
    rcases run_walReplay database disk hscan hnew with
      ⟨hwritable, hrun⟩ | ⟨hfar, before, txn, error, after, hstops, hrun⟩
    · exact .inl ⟨hholds.mp hwritable, hrun⟩
    · rw [hstops.invalidArgument happly] at hrun
      exact .inr ⟨fun h => hfar (hholds.mpr h), after, hrun⟩

/-- Whatever is left of a log, recovery writes the frames of the transactions that
are complete, in order, and reports the last of them; if one of their pages lies
behind the largest offset of a file it fails. -/
theorem walRecoverAll_take :
    (FileHolds superblock.pageSize (completeTxns superblock.pageSize cut walHeaderSize txns) →
      (walRecoverAll prim database superblock none).run exec disk =
        (.ok (.behind superblock (completeTxns superblock.pageSize cut walHeaderSize txns)),
          replayed database superblock.pageSize disk
            (completeTxns superblock.pageSize cut walHeaderSize txns))) ∧
    (¬FileHolds superblock.pageSize (completeTxns superblock.pageSize cut walHeaderSize txns) →
      ∃ after, (walRecoverAll prim database superblock none).run exec disk =
        (.error .invalidArgument, after)) := by
  rcases run_walRecoverAll_take hid hvalid hsucceed hlog cut hname hbytes with
    ⟨hholds, hrun⟩ | ⟨hfar, hrun⟩
  · exact ⟨fun _ => hrun, fun hfar => absurd hholds hfar⟩
  · exact ⟨fun hholds => absurd hholds hfar, fun _ => hrun⟩

end

/-- The log of one transaction, complete. -/
theorem walRecoverAll_take_plain :
    (walRecoverAll .sample databaseInode plainSuperblock.toSuperblock none).run exec
        (restDisk plainContent plainAppend) =
      (.ok { lastLsn := 1, nextPageId := 2, freelistPage := 0, replayed := true },
        replayed databaseInode 4096 (restDisk plainContent plainAppend)
          [⟨1, plainPages, 2, 0⟩]) := by
  have hlog : walEncodeTxns .sample plainSuperblock.toSuperblock walHeaderSize []
      [⟨1, plainPages, 2, 0⟩] = .ok plainAppend := by
    obtain ⟨tail, hencode⟩ := plain_firstAppend.encode
    have hencode' : walEncodeTxn .sample (plainSuperblock.toSuperblock.target
        ⟨1, plainPages, 2, 0⟩) walHeaderSize 1 plainPages = .ok (plainAppend, 0, tail) := hencode
    have hwrite : writeAt [] 0 plainAppend = plainAppend := writeAt_end [] _
    simp only [walEncodeTxns, hencode']
    exact congrArg Except.ok hwrite
  have hsucceed : Succeed plainSuperblock.pageSize plainSuperblock.checkpointLsn
      plainSuperblock.nextPageId [⟨1, plainPages, 2, 0⟩] :=
    ⟨rfl, le_rfl, by decide, by decide, plain_firstAppend.sizes, trivial⟩
  refine (walRecoverAll_take (by decide) (by decide) hsucceed hlog 4244 rfl
    (by rw [restDisk_wal, List.take_of_length_le (by decide +kernel)])).1 ?_
  intro txn htxn page hpage
  obtain rfl := List.mem_singleton.mp htxn
  obtain rfl := List.mem_singleton.mp hpage
  decide

/-- An image of a page far out. -/
def farPage (pageId : PageId) : Bytes :=
  (pageEncode .sample 4096 (.plain .data) pageId 1 [9]).toOption.getD []

/-- The page has a byte offset of 64 bits, but none the file takes. -/
def farTxn : WalTxn :=
  { txnId := 1, pages := [⟨UInt64.ofNat (2 ^ 51), farPage (UInt64.ofNat (2 ^ 51))⟩]
    nextPageId := 2 ^ 51 + 1, freelistPage := 0 }

def farLog : Bytes :=
  (walEncodeTxns .sample plainSuperblock.toSuperblock walHeaderSize [] [farTxn]).toOption.getD []

/-- A transaction that can be encoded and whose counters are valid is refused. -/
theorem walRecoverAll_refuses_far : superblockValid plainSuperblock.toSuperblock = true ∧
    Succeed plainSuperblock.pageSize plainSuperblock.checkpointLsn plainSuperblock.nextPageId
      [farTxn] ∧
    walEncodeTxns .sample plainSuperblock.toSuperblock walHeaderSize [] [farTxn] = .ok farLog ∧
    ∃ after, (walRecoverAll .sample databaseInode plainSuperblock.toSuperblock none).run exec
      (restDisk plainContent farLog) = (.error .invalidArgument, after) := by
  have hlog : walEncodeTxns .sample plainSuperblock.toSuperblock walHeaderSize [] [farTxn] =
      .ok farLog := eq_ok_getD [] (by decide +kernel)
  have hsize : ∀ page ∈ farTxn.pages, page.bytes.length = plainSuperblock.pageSize := by
    decide +kernel
  have hsucceed : Succeed plainSuperblock.pageSize plainSuperblock.checkpointLsn
      plainSuperblock.nextPageId [farTxn] :=
    ⟨rfl, by decide, by decide, by decide, hsize, trivial⟩
  refine ⟨by decide, hsucceed, hlog, ?_⟩
  have hbytes : (restDisk plainContent farLog).bytes walInode = farLog.take 4244 := by
    rw [restDisk_wal, List.take_of_length_le (by decide +kernel)]
  rcases run_walRecoverAll_take (by decide) (by decide) hsucceed hlog 4244 rfl hbytes with
    ⟨hholds, -⟩ | ⟨-, hrun⟩
  · have hfar := hholds farTxn mem_cons_self _ mem_cons_self
    exact absurd hfar (by decide)
  · exact hrun

end Recover

end ShibaDb
