/-
What recovery accepts, whatever bytes a log has: each transaction lies in the log with
its commit record, it continues the log, and its pages are ones recovery takes.
-/
import ShibaDb.Wal.Replay
import ShibaDb.Wal.Scan

namespace ShibaDb

open LittleEndian Fallible List

section Steps

variable {prim : Primitives} {superblock : Superblock} {dataKey : Option Bytes}
  {format : FrameFormat} {expected targetNext : Nat} {body rest : Bytes} {rec : WalCommitRec}
  {txn : WalTxn}

/-- The bytes start with an intact transaction that continues the log.  Self-describing
frames state their count; in the first layout the first commit magic behind whole
frames ends the transaction, and its page counter must have a place. -/
structure HoldsTxn (prim : Primitives) (superblock : Superblock) (dataKey : Option Bytes)
    (format : FrameFormat) (expected targetNext : Nat) (body : Bytes) (rec : WalCommitRec) :
    Prop where
  count : format ≠ .legacy → read (field 20 4 body) = rec.frameCount
  geometry : format = .legacy → pageGeometryValid rec.nextPageId superblock.pageSize = true
  probe : format = .legacy → ∀ k < rec.frameCount, 0 < k →
    field 0 4 (body.drop (k * format.frameSize superblock.pageSize)) ≠ walCommitMagic
  positive : rec.frameCount ≠ 0
  limit : rec.frameCount ≤ walMaxRecords
  room : rec.frameCount * format.frameSize superblock.pageSize + walCommitSize ≤ body.length
  commit : walDecodeCommitRec prim
    ((body.drop (rec.frameCount * format.frameSize superblock.pageSize)).take walCommitSize) =
      .ok (rec, (prim.crc32 (body.take
        (rec.frameCount * format.frameSize superblock.pageSize))).toNat)
  txnId : rec.txnId = expected
  nextPageId : targetNext ≤ rec.nextPageId
  freelist : freelistHeadValid rec = true
  frames : walValidateFrames prim superblock dataKey format rec.txnId rec.nextPageId
    rec.frameCount rec.frameCount 0 [] body = true

/-- The pages of a transaction with the given commit record. -/
def txnOf (superblock : Superblock) (format : FrameFormat) (body : Bytes) (rec : WalCommitRec) :
    WalTxn :=
  { txnId := rec.txnId
    pages := framePages format superblock.pageSize rec.frameCount body
    nextPageId := rec.nextPageId
    freelistPage := rec.freelistPage }

lemma frameSize_pos (format : FrameFormat) (pageSize : Nat) : 0 < format.frameSize pageSize := by
  cases format <;> simp [FrameFormat.frameSize, FrameFormat.headerSize]

lemma magic_of_walDecodeCommitRec {bytes : Bytes} {runningCrc : Nat}
    (h : walDecodeCommitRec prim (bytes.take walCommitSize) = .ok (rec, runningCrc)) :
    field 0 4 bytes = walCommitMagic := by
  simp only [walDecodeCommitRec, guard_eq_ok, Bool.or_eq_true, decide_eq_true_eq, not_or,
    not_not] at h
  have hmagic := h.2.1.1.1
  rwa [field, drop_zero, take_take, min_eq_left (by decide : 4 ≤ walCommitSize)] at hmagic

/-- The probe passes over frames without the commit magic. -/
lemma walLegacyProbe_skip {skipped remaining k : Nat}
    (h : ∀ j < k + skipped, k ≤ j →
      field 0 4 (body.drop (j * FrameFormat.legacy.frameSize superblock.pageSize)) ≠
        walCommitMagic) :
    walLegacyProbe prim superblock dataKey expected targetNext body (skipped + remaining) k =
      walLegacyProbe prim superblock dataKey expected targetNext body remaining (k + skipped) := by
  induction skipped generalizing k with
  | zero => rw [Nat.zero_add, Nat.add_zero]
  | succ skipped ih =>
    rw [Nat.add_right_comm, walLegacyProbe, if_pos (h k (by omega) le_rfl), ih, Nat.add_assoc,
      Nat.add_comm 1]
    intro j hlt hle
    exact h j (by omega) (by omega)

section

variable (h : HoldsTxn prim superblock dataKey format expected targetNext body rec)

include h

lemma HoldsTxn.fit :
    rec.frameCount ≤ (body.length - walCommitSize) / format.frameSize superblock.pageSize := by
  have hroom := h.room
  rw [Nat.le_div_iff_mul_le (frameSize_pos _ _)]
  omega

lemma HoldsTxn.long : ¬body.length < format.frameSize superblock.pageSize + walCommitSize := by
  have hroom := h.room
  have hmul := Nat.mul_le_mul_right (format.frameSize superblock.pageSize)
    (Nat.pos_of_ne_zero h.positive)
  rw [Nat.one_mul] at hmul
  omega

/-- The scan accepts such a transaction. -/
lemma HoldsTxn.step : walStep prim superblock dataKey format expected targetNext body =
      .accept (txnOf superblock format body rec)
        ((body.drop (rec.frameCount * format.frameSize superblock.pageSize)).drop
          walCommitSize) := by
  have hself : format ≠ .legacy →
      walSelfDescribingStep prim superblock dataKey format expected targetNext body =
        .accept (txnOf superblock format body rec)
          ((body.drop (rec.frameCount * format.frameSize superblock.pageSize)).drop
            walCommitSize) := by
    intro hformat
    simp only [walSelfDescribingStep, if_neg h.long, h.count hformat, h.commit, acceptFrames,
      h.frames, h.txnId.symm]
    simp [h.positive, Nat.not_lt.mpr h.limit, Nat.not_lt.mpr h.fit, Nat.not_lt.mpr h.nextPageId,
      h.freelist, txnOf]
  cases format with
  | legacy =>
    have hcount : min ((body.length - walCommitSize) /
        FrameFormat.legacy.frameSize superblock.pageSize) walMaxRecords =
          rec.frameCount - 1 + (min ((body.length - walCommitSize) /
            FrameFormat.legacy.frameSize superblock.pageSize) walMaxRecords -
              rec.frameCount + 1) := by
      have hmin := le_min h.fit h.limit
      have hpositive := h.positive
      omega
    have hreached : 1 + (rec.frameCount - 1) = rec.frameCount :=
      Nat.add_sub_cancel' (Nat.pos_of_ne_zero h.positive)
    simp only [walStep, walLegacyStep, if_neg h.long]
    rw [hcount, walLegacyProbe_skip, hreached, walLegacyProbe]
    · simp only [h.commit, magic_of_walDecodeCommitRec h.commit, acceptFrames, h.frames,
        h.txnId.symm]
      simp [h.geometry rfl, Nat.not_lt.mpr h.nextPageId, h.freelist, txnOf]
    · intro j hlt hle
      exact h.probe rfl j (by omega) hle
  | v4 => exact hself (by decide)
  | v5 => exact hself (by decide)

end

/-- What is left of a round that ends in `acceptFrames`. -/
lemma acceptFrames_eq_accept {count : Nat} {after : Bytes}
    (h : acceptFrames prim superblock dataKey format rec count body after = .accept txn rest) :
    walValidateFrames prim superblock dataKey format rec.txnId rec.nextPageId count count 0 []
        body = true ∧
      txn = { txnId := rec.txnId, pages := framePages format superblock.pageSize count body
              nextPageId := rec.nextPageId, freelistPage := rec.freelistPage } ∧
      rest = after := by
  rw [acceptFrames] at h
  split at h
  · rename_i hframes
    obtain ⟨htxn, hrest⟩ := ScanStep.accept.inj h
    exact ⟨hframes, htxn.symm, hrest.symm⟩
  · cases h

/-- A round over self-describing frames accepts only such a transaction. -/
lemma holdsTxn_of_selfDescribing (hformat : format ≠ .legacy)
    (h : walSelfDescribingStep prim superblock dataKey format expected targetNext body =
      .accept txn rest) :
    ∃ rec, HoldsTxn prim superblock dataKey format expected targetNext body rec ∧
      txn = txnOf superblock format body rec ∧ rest <:+ body := by
  simp only [walSelfDescribingStep] at h
  split at h
  · cases h
  rename_i hlong
  split at h
  · cases h
  rename_i hcount
  simp only [Bool.or_eq_true, decide_eq_true_eq, not_or] at hcount
  split at h
  · cases h
  rename_i rec runningCrc hcommit
  split at h
  · cases h
  rename_i hchecks
  simp only [Bool.or_eq_true, decide_eq_true_eq, not_or, not_not, Bool.not_eq_true',
    Bool.not_eq_false] at hchecks
  obtain ⟨⟨⟨⟨hframeCount, hcrc⟩, hid⟩, hnext⟩, hfreelist⟩ := hchecks
  rw [← hframeCount] at hcount hcommit hcrc h
  obtain ⟨hframes, htxn, rfl⟩ := acceptFrames_eq_accept h
  have hfit := Nat.not_lt.mp hcount.2
  rw [Nat.le_div_iff_mul_le (frameSize_pos _ _)] at hfit
  refine ⟨rec, ?_, htxn, (drop_suffix _ _).trans (drop_suffix _ _)⟩
  exact
    { count := fun _ => hframeCount.symm
      geometry := fun hlegacy => absurd hlegacy hformat
      probe := fun hlegacy => absurd hlegacy hformat
      positive := hcount.1.1
      limit := Nat.not_lt.mp hcount.1.2
      room := by omega
      commit := by rw [hcrc]; exact hcommit
      txnId := hid
      nextPageId := Nat.not_lt.mp hnext
      freelist := hfreelist
      frames := hframes }

/-- The probe accepts only such a transaction; `k` counts the frames it has passed. -/
lemma holdsTxn_of_probe {remaining k : Nat} (hk : 0 < k)
    (hlimit : k + remaining ≤ walMaxRecords + 1)
    (hroom : (k + remaining - 1) * FrameFormat.legacy.frameSize superblock.pageSize +
      walCommitSize ≤ body.length)
    (hpassed : ∀ j < k, 0 < j →
      field 0 4 (body.drop (j * FrameFormat.legacy.frameSize superblock.pageSize)) ≠
        walCommitMagic)
    (h : walLegacyProbe prim superblock dataKey expected targetNext body remaining k =
      .accept txn rest) :
    ∃ rec, HoldsTxn prim superblock dataKey .legacy expected targetNext body rec ∧
      txn = txnOf superblock .legacy body rec ∧ rest <:+ body := by
  induction remaining generalizing k with
  | zero => cases h
  | succ remaining ih =>
    simp only [walLegacyProbe] at h
    split at h
    · rename_i hmagic
      refine ih (Nat.succ_pos k) (by omega) ?_ ?_ h
      · rwa [show k + 1 + remaining - 1 = k + (remaining + 1) - 1 by omega]
      · intro j hlt hpos
        rcases Nat.lt_succ_iff_lt_or_eq.mp hlt with hlt | rfl
        · exact hpassed j hlt hpos
        · exact hmagic
    split at h
    · cases h
    rename_i rec runningCrc hcommit
    split at h
    · cases h
    rename_i hchecks
    simp only [Bool.or_eq_true, decide_eq_true_eq, not_or, not_not, Bool.not_eq_true',
      Bool.not_eq_false] at hchecks
    obtain ⟨⟨⟨⟨⟨rfl, hcrc⟩, hid⟩, hgeometry⟩, hnext⟩, hfreelist⟩ := hchecks
    obtain ⟨hframes, htxn, rfl⟩ := acceptFrames_eq_accept h
    have hmul : rec.frameCount * FrameFormat.legacy.frameSize superblock.pageSize ≤
        (rec.frameCount + (remaining + 1) - 1) * FrameFormat.legacy.frameSize superblock.pageSize :=
      Nat.mul_le_mul_right _ (by omega)
    refine ⟨rec, ?_, htxn, (drop_suffix _ _).trans (drop_suffix _ _)⟩
    exact
      { count := fun hformat => absurd rfl hformat
        geometry := fun _ => hgeometry
        probe := fun _ => hpassed
        positive := hk.ne'
        limit := by omega
        room := by omega
        commit := by rw [hcrc]; exact hcommit
        txnId := hid
        nextPageId := Nat.not_lt.mp hnext
        freelist := hfreelist
        frames := hframes }

/-- The scan accepts only intact transactions that continue the log. -/
lemma holdsTxn_of_step
    (h : walStep prim superblock dataKey format expected targetNext body = .accept txn rest) :
    ∃ rec, HoldsTxn prim superblock dataKey format expected targetNext body rec ∧
      txn = txnOf superblock format body rec ∧ rest <:+ body := by
  cases format with
  | legacy =>
    simp only [walStep, walLegacyStep] at h
    split at h
    · cases h
    rename_i hlong
    apply holdsTxn_of_probe Nat.one_pos _ _ _ h
    · omega
    · have hcount : min ((body.length - walCommitSize) /
          FrameFormat.legacy.frameSize superblock.pageSize) walMaxRecords *
            FrameFormat.legacy.frameSize superblock.pageSize ≤ body.length - walCommitSize :=
        le_trans (Nat.mul_le_mul_right _ (min_le_left _ _)) (Nat.div_mul_le_self _ _)
      rw [Nat.add_sub_cancel_left]
      omega
    · intro j hlt hpos
      omega
  | v4 => exact holdsTxn_of_selfDescribing (by decide) h
  | v5 => exact holdsTxn_of_selfDescribing (by decide) h

lemma walScan_accept {fuel : Nat}
    (h : walStep prim superblock dataKey format expected targetNext body = .accept txn rest) :
    walScan prim superblock dataKey format (fuel + 1) expected targetNext body =
      (txn :: (walScan prim superblock dataKey format fuel ((txn.txnId + 1) % 2 ^ 64)
        txn.nextPageId rest).1, (walScan prim superblock dataKey format fuel
          ((txn.txnId + 1) % 2 ^ 64) txn.nextPageId rest).2) := by
  rw [walScan, h]

end Steps

section Frames

variable {prim : Primitives} {superblock : Superblock} {dataKey : Option Bytes}
  {format : FrameFormat} {txnId nextPageId count index : Nat} {seen : List PageId} {bytes : Bytes}

@[simp] lemma framePages_length (format : FrameFormat) (pageSize count : Nat) (bytes : Bytes) :
    (framePages format pageSize count bytes).length = count := by
  induction count generalizing bytes with
  | zero => rfl
  | succ count ih => rw [framePages, length_cons, ih]

/-- A frame that passes the checks carries a page recovery takes. -/
lemma valid_of_walFrameValid (hroom : format.frameSize superblock.pageSize ≤ bytes.length)
    (h : walFrameValid prim superblock dataKey format txnId nextPageId count index seen bytes =
      true) :
    (framePage format superblock.pageSize bytes).Valid prim superblock dataKey txnId nextPageId ∧
      (framePage format superblock.pageSize bytes).pageId ∉ seen := by
  simp only [walFrameValid, Bool.and_eq_true, decide_eq_true_eq] at h
  obtain ⟨⟨⟨⟨-, hnonzero⟩, hbounded⟩, hunseen⟩, hdecode⟩ := h
  split at hdecode
  · cases hdecode
  rename_i view hview
  simp only [Bool.and_eq_true, decide_eq_true_eq] at hdecode
  refine ⟨⟨hnonzero, hbounded, field_length hroom, view, hview, hdecode⟩, ?_⟩
  simpa using hunseen

/-- The frames of a transaction carry distinct pages, none of them seen before. -/
lemma distinct_of_walValidateFrames {remaining : Nat}
    (h : walValidateFrames prim superblock dataKey format txnId nextPageId count remaining index
      seen bytes = true) :
    (∀ page ∈ framePages format superblock.pageSize remaining bytes, page.pageId ∉ seen) ∧
      ((framePages format superblock.pageSize remaining bytes).map (·.pageId)).Nodup := by
  induction remaining generalizing index seen bytes with
  | zero => simp [framePages]
  | succ remaining ih =>
    rw [walValidateFrames, Bool.and_eq_true] at h
    obtain ⟨hfirst, hframes⟩ := h
    obtain ⟨hrest, hdistinct⟩ := ih hframes
    simp only [walFrameValid, Bool.and_eq_true] at hfirst
    have hunseen : (framePage format superblock.pageSize bytes).pageId ∉ seen := by
      simpa using hfirst.1.2
    rw [framePages]
    constructor
    · intro page hpage
      rcases List.mem_cons.mp hpage with rfl | hpage
      · exact hunseen
      · exact fun hmem => hrest page hpage (mem_cons_of_mem _ hmem)
    · rw [map_cons, nodup_cons]
      refine ⟨?_, hdistinct⟩
      intro hmem
      obtain ⟨page, hpage, hid⟩ := List.mem_map.mp hmem
      apply hrest page hpage
      rw [hid]
      exact mem_cons_self

/-- The frames of a transaction carry pages recovery takes, each once. -/
lemma valid_of_walValidateFrames {remaining : Nat}
    (hroom : remaining * format.frameSize superblock.pageSize ≤ bytes.length)
    (h : walValidateFrames prim superblock dataKey format txnId nextPageId count remaining index
      seen bytes = true) : (∀ page ∈ framePages format superblock.pageSize remaining bytes,
      page.Valid prim superblock dataKey txnId nextPageId ∧ page.pageId ∉ seen) ∧
      ((framePages format superblock.pageSize remaining bytes).map (·.pageId)).Nodup := by
  obtain ⟨hunseen, hdistinct⟩ := distinct_of_walValidateFrames h
  refine ⟨fun page hpage => ⟨?_, hunseen page hpage⟩, hdistinct⟩
  clear hunseen hdistinct
  induction remaining generalizing index seen bytes with
  | zero => cases hpage
  | succ remaining ih =>
    rw [walValidateFrames, Bool.and_eq_true] at h
    rw [Nat.add_mul, Nat.one_mul] at hroom
    rcases List.mem_cons.mp hpage with rfl | hpage
    · exact (valid_of_walFrameValid (by omega) h.1).1
    · exact ih (by rw [length_drop]; omega) h.2 hpage

lemma walDecodeCommitRec_sized {rec : WalCommitRec} {runningCrc : Nat}
    (h : walDecodeCommitRec prim bytes = .ok (rec, runningCrc)) : rec.Sized := by
  simp only [walDecodeCommitRec, guard_eq_ok] at h
  obtain ⟨-, -, -, h⟩ := h
  obtain ⟨rfl, -⟩ := Prod.mk.inj (Except.ok.inj h)
  exact ⟨read_field_lt 8 8 bytes, read_field_lt 16 4 bytes, read_field_lt 20 8 bytes⟩

end Frames

section Continue

variable {prim : Primitives} {superblock : Superblock} {dataKey : Option Bytes}
  {format : FrameFormat} {expected targetNext : Nat} {bytes rest : Bytes} {rec : WalCommitRec}
  {txn : WalTxn} {txns : List WalTxn}

/-- A commit record and frames that pass the checks make a transaction that
continues the log. -/
lemma WalCommitRec.Sized.fits (hsized : rec.Sized) (hpositive : 0 < rec.txnId)
    (hcount : rec.frameCount ≠ 0) (hlimit : rec.frameCount ≤ walMaxRecords)
    (hroom : rec.frameCount * format.frameSize superblock.pageSize ≤ bytes.length)
    (hnext : targetNext ≤ rec.nextPageId) (hfreelist : freelistHeadValid rec = true)
    (hframes : walValidateFrames prim superblock dataKey format rec.txnId rec.nextPageId
      rec.frameCount rec.frameCount 0 [] bytes = true) :
    (txnOf superblock format bytes rec).Fits prim superblock dataKey rec.txnId targetNext := by
  obtain ⟨hpages, hdistinct⟩ := valid_of_walValidateFrames hroom hframes
  constructor
  · rfl
  · exact hpositive
  · exact hsized.txnId
  · intro hnil
    exact hcount ((framePages_length ..).symm.trans (congrArg List.length hnil))
  · exact le_of_eq_of_le (framePages_length ..) hlimit
  · exact hnext
  · exact hsized.nextPageId
  · exact (freelistHeadValid_iff rec).mp hfreelist
  · exact fun page hpage => (hpages page hpage).1
  · exact hdistinct

lemma HoldsTxn.valid (h : HoldsTxn prim superblock dataKey format expected targetNext bytes rec) :
    ∀ page ∈ (txnOf superblock format bytes rec).pages,
      page.Valid prim superblock dataKey rec.txnId rec.nextPageId := by
  have hroom := h.room
  exact fun page hpage => ((valid_of_walValidateFrames (by omega) h.frames).1 page hpage).1

lemma walLegacyTarget_eq_ok {nextPageId : Nat} {freelistPage : PageId}
    (h : walLegacyTarget superblock bytes = .ok (nextPageId, freelistPage)) :
    (nextPageId = superblock.nextPageId ∧ freelistPage = superblock.freelistPage) ∨
      (superblock.nextPageId ≤ nextPageId ∧ freelistPage.toNat < nextPageId ∧
        pageGeometryValid nextPageId superblock.pageSize = true ∧ nextPageId < 2 ^ 64) := by
  unfold walLegacyTarget at h
  split at h
  · split at h
    · obtain ⟨rfl, rfl⟩ := Prod.mk.inj (Except.ok.inj h)
      exact .inl ⟨rfl, rfl⟩
    · cases h
  · dsimp only at h
    split at h
    · rename_i hchecks
      simp only [Bool.and_eq_true, decide_eq_true_eq] at hchecks
      obtain ⟨rfl, rfl⟩ := Prod.mk.inj (Except.ok.inj h)
      exact .inr ⟨hchecks.1.2, hchecks.2, hchecks.1.1.2, read_field_lt 40 8 bytes⟩
    · cases h

/-- What the header of a log of the first two versions says of its one transaction. -/
def legacyRec (bytes : Bytes) (target : Nat × PageId) : WalCommitRec :=
  { txnId := read (field 8 8 bytes)
    frameCount := read (field 20 4 bytes)
    nextPageId := target.1
    freelistPage := target.2 }

/-- The transaction of a log of the first two versions is the one its header states. -/
lemma walLegacyRecord_eq_some
    (h : walLegacyRecord prim superblock dataKey bytes = .ok (some txn)) :
    ∃ target, walLegacyHeaderSealed prim bytes = true ∧
      walLegacyTarget superblock bytes = .ok target ∧
      walLegacyCountFits superblock bytes.length bytes = true ∧
      (legacyRec bytes target).txnId ≠ 0 ∧
      walValidateFrames prim superblock dataKey .legacy (legacyRec bytes target).txnId target.1
        (legacyRec bytes target).frameCount (legacyRec bytes target).frameCount 0 []
        (bytes.drop walHeaderSize) = true ∧
      txn = txnOf superblock .legacy (bytes.drop walHeaderSize) (legacyRec bytes target) := by
  unfold walLegacyRecord at h
  split at h
  · cases h
  split at h
  · cases h
  rename_i hheader
  simp only [Bool.or_eq_true, Bool.not_eq_true', not_or, Bool.not_eq_false] at hheader
  obtain ⟨⟨nextPageId, freelistPage⟩, htarget, h⟩ := except_bind_eq_ok.mp h
  dsimp only at h
  split at h
  · cases h
  rename_i hchecks
  simp only [Bool.or_eq_true, decide_eq_true_eq, not_or, Bool.not_eq_true', Bool.not_eq_false]
    at hchecks
  obtain ⟨⟨hcount, hpositive⟩, -⟩ := hchecks
  split at h
  · rename_i hframes
    obtain rfl := Option.some.inj (Except.ok.inj h)
    exact ⟨_, hheader.1, htarget, hcount, hpositive, hframes, rfl⟩
  · cases h

/-- The record of a log of the first two versions is a transaction of its own id. -/
lemma fits_of_walLegacyRecord (hnext : superblock.nextPageId < 2 ^ 64)
    (hfreelist : superblock.freelistPage = 0 ∨
      superblock.freelistPage.toNat < superblock.nextPageId)
    (h : walLegacyRecord prim superblock dataKey bytes = .ok (some txn)) :
    txn.Fits prim superblock dataKey txn.txnId superblock.nextPageId := by
  obtain ⟨target, -, htarget, hfits, hpositive, hframes, rfl⟩ := walLegacyRecord_eq_some h
  simp only [walLegacyCountFits, Bool.and_eq_true, decide_eq_true_eq] at hfits
  obtain ⟨⟨hcount, hlimit⟩, hsize⟩ := hfits
  rw [walExpectedSize] at hsize
  have hroom : read (field 20 4 bytes) * FrameFormat.legacy.frameSize superblock.pageSize ≤
      (bytes.drop walHeaderSize).length := by
    rw [length_drop, ← hsize, Nat.mul_comm]
    omega
  have htargets : superblock.nextPageId ≤ target.1 ∧ target.1 < 2 ^ 64 ∧
      (target.2 = 0 ∨ target.2.toNat < target.1) := by
    rcases walLegacyTarget_eq_ok htarget with ⟨hsame, hhead⟩ | ⟨hle, hlt, -, hbound⟩
    · rw [hsame, hhead]
      exact ⟨le_rfl, hnext, hfreelist⟩
    · exact ⟨hle, hbound, .inr hlt⟩
  have hsized : (legacyRec bytes target).Sized :=
    ⟨read_field_lt 8 8 bytes, read_field_lt 20 4 bytes, htargets.2.1⟩
  exact hsized.fits (Nat.pos_of_ne_zero hpositive) hcount hlimit hroom htargets.1
    ((freelistHeadValid_iff _).mpr htargets.2.2) hframes

end Continue

end ShibaDb
