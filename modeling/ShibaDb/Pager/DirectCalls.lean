/-
The calls that change the superblock outside a transaction: a new password, and the
direct allocation and release of a page.  Each publishes its superblock in the two
slots and reports an update that breaks off, but none asks for recovery then.
-/
import ShibaDb.Lib.FaultPlan
import ShibaDb.Pager.Coherence
import ShibaDb.Pager.MirrorForgery
import ShibaDb.Pager.PageBinding
import ShibaDb.Pager.SlotAtomicity

namespace ShibaDb

open CallProgram FileSystem LittleEndian Fallible ByteFile Option

/-- The buffers a call asks for: to read a page, to write one, and for the plain image
of an encrypted one. -/
structure PageMemory where
  read : Bool
  written : Bool
  scratch : Bool

/-- What a call comes to: its status and the pager behind it. -/
abbrev Outcome (α : Type) := Except SdbError α × PagerSession

namespace PagerSession

/-- `sdb_pager_store_superblock`. -/
def storeSuperblock (prim : Primitives) (pager : PagerSession) (next : SuperblockV1) :
    FileM (Outcome Unit) := do
  match ← (fileStoreSuperblock prim pager.file next pager.dataKey).attempt with
  | .error error => pure (.error error, pager)
  | .ok _ => pure (.ok (), { pager with superblock := next })

/-- `sdb_pager_write`: the page in its place in the data file, and in the cache. -/
def pagerWrite (prim : Primitives) (pager : PagerSession) (memory : PageMemory) (nonce : Nonce)
    (lsn : Nat) (page : TxnPage) : FileM (Outcome Unit) := do
  if !pager.isOpen || pager.needsRecovery || pager.transactionActive || page.pageId = 0
      || page.pageId.toNat ≥ pager.superblock.nextPageId then
    pure (.error .invalidArgument, pager)
  else
    match pagerOffset pager.superblock.pageSize page.pageId with
    | .error error => pure (.error error, pager)
    | .ok offset =>
      if !memory.written then pure (.error .outOfMemory, pager)
      else
        match pager.txnEncodePage prim pager.superblock.fileId lsn nonce page with
        | .error error => pure (.error error, pager)
        | .ok bytes =>
          match ← (fileWriteFull pager.file offset bytes >>= fun _ =>
              fileSync pager.file).attempt with
          | .error error => pure (.error error, pager)
          | .ok _ => pure (.ok (),
              { pager with
                cache := pager.txnCachePage prim lsn memory.scratch pager.cache page bytes })

/-- Publish the superblock a call has prepared, and go on where that succeeds. -/
def publish {α : Type} (prim : Primitives) (prepared : FileM (Outcome SuperblockV1))
    (finish : SuperblockV1 → PagerSession → FileM (Outcome α)) : FileM (Outcome α) := do
  match ← prepared with
  | (.error error, pager) => pure (.error error, pager)
  | (.ok next, pager) =>
    match ← pager.storeSuperblock prim next with
    | (.error error, pager) => pure (.error error, pager)
    | (.ok _, pager) => finish next pager

section Password

/-- The superblock under a new password. -/
def rotateNext (prim : Primitives) (pager : PagerSession) (password : Bytes)
    (iterations : Nat) : Except SdbError SuperblockV1 :=
  if !pager.isOpen || pager.transactionActive || pager.needsRecovery || pager.walIndex ≠ []
      || password.length = 0 || iterations < minKdfIterations || maxKdfIterations < iterations
      || pager.superblock.keyWrapId = uint32Max then .error .invalidArgument
  else
    match pager.dataKey with
    | none => .error .invalidArgument
    | some dataKey => do
        let generation ← generationBump pager.superblock.generation
        keyWrap prim
          { pager.superblock with
            keyWrapId := pager.superblock.keyWrapId + 1, kdfIterations := iterations, generation }
          password dataKey

/-- `sdb_pager_rotate_password`. -/
def rotatePassword (prim : Primitives) (pager : PagerSession) (password : Bytes)
    (iterations : Nat) : FileM (Outcome Unit) :=
  publish prim (pure (pager.rotateNext prim password iterations, pager))
    fun _ pager => pure (.ok (), pager)

end Password

section Allocate

/-- The freelist without its first page. -/
def freelistRest (superblock : SuperblockV1) (view : ImageView) : Except SdbError SuperblockV1 :=
  if view.type ≠ .plain .free || view.payload.length ≠ 8 then .error .corrupt
  else
    let nextFree : PageId := UInt64.ofNat (LittleEndian.read view.payload)
    if nextFree.toNat ≥ superblock.nextPageId || nextFree = superblock.freelistPage then
      .error .corrupt
    else .ok { superblock with freelistPage := nextFree }

/-- Take the first page of the freelist. -/
def takeFree (prim : Primitives) (pager : PagerSession) (memory : PageMemory) :
    FileM (Outcome SuperblockV1) := do
  if !memory.read then pure (.error .outOfMemory, pager)
  else
    let outcome ← pager.pagerRead prim pager.superblock.freelistPage
      (List.replicate pager.superblock.pageSize 0)
    pure (outcome.result >>= freelistRest pager.superblock, outcome.pager)

/-- Make room for one more page at the end of the data file. -/
def takeNew (pager : PagerSession) : FileM (Outcome SuperblockV1) := do
  let superblock := pager.superblock
  if superblock.nextPageId = uint64Max then pure (.error .overflow, pager)
  else
    match pagerOffset superblock.pageSize (UInt64.ofNat superblock.nextPageId) with
    | .error error => pure (.error error, pager)
    | .ok offset =>
      if offset > uint64Max - superblock.pageSize then pure (.error .overflow, pager)
      else
        match ← (fileResizeTo pager.file (offset + superblock.pageSize) >>= fun _ =>
            fileSync pager.file).attempt with
        | .error error => pure (.error error, pager)
        | .ok _ => pure (.ok { superblock with nextPageId := superblock.nextPageId + 1 }, pager)

/-- Take a page: a free one where there is one. -/
def takePage (prim : Primitives) (pager : PagerSession) (memory : PageMemory) :
    FileM (Outcome SuperblockV1) :=
  if pager.superblock.freelistPage ≠ 0 then pager.takeFree prim memory else pager.takeNew

/-- The superblock with the new generation. -/
def bumped (superblock : SuperblockV1) : Except SdbError SuperblockV1 := do
  let generation ← generationBump superblock.generation
  .ok { superblock with generation }

/-- The part of `sdb_pager_allocate` before the superblock is published. -/
def allocateNext (prim : Primitives) (pager : PagerSession) (memory : PageMemory) :
    FileM (Outcome SuperblockV1) := do
  if !pager.isOpen || pager.needsRecovery || pager.transactionActive then
    pure (.error .invalidArgument, pager)
  else
    let (taken, pager) ← pager.takePage prim memory
    pure (taken >>= bumped, pager)

/-- The page an allocation takes. -/
def allocatedPage (superblock : SuperblockV1) : PageId :=
  if superblock.freelistPage ≠ 0 then superblock.freelistPage
  else UInt64.ofNat superblock.nextPageId

/-- `sdb_pager_allocate`. -/
def pagerAllocate (prim : Primitives) (pager : PagerSession) (memory : PageMemory)
    (nonce : Nonce) : FileM (Outcome PageId) :=
  let pageId := allocatedPage pager.superblock
  publish prim (pager.allocateNext prim memory) fun next pager => do
    let (status, pager) ← pager.pagerWrite prim memory nonce next.generation
      { pageId, type := .data, payload := [] }
    pure (status.map fun _ => pageId, pager)

end Allocate

section Free

/-- The part of `sdb_pager_free` before the superblock is published: the page becomes
the head of the freelist. -/
def freeNext (prim : Primitives) (pager : PagerSession) (memory : PageMemory) (nonce : Nonce)
    (pageId : PageId) : FileM (Outcome SuperblockV1) := do
  if !pager.isOpen || pager.needsRecovery || pager.transactionActive || pageId = 0
      || pageId.toNat ≥ pager.superblock.nextPageId then pure (.error .invalidArgument, pager)
  else if !memory.read then pure (.error .outOfMemory, pager)
  else
    let outcome ← pager.pagerRead prim pageId (List.replicate pager.superblock.pageSize 0)
    let pager := outcome.pager
    match outcome.result with
    | .error error => pure (.error error, pager)
    | .ok view =>
      if view.type = .plain .free then pure (.error .invalidArgument, pager)
      else
        match bumped pager.superblock with
        | .error error => pure (.error error, pager)
        | .ok next =>
          let (status, pager) ← pager.pagerWrite prim memory nonce next.generation
            { pageId, type := .free, payload := write 8 next.freelistPage.toNat }
          pure (status.map fun _ => { next with freelistPage := pageId }, pager)

/-- `sdb_pager_free`. -/
def pagerFree (prim : Primitives) (pager : PagerSession) (memory : PageMemory) (nonce : Nonce)
    (pageId : PageId) : FileM (Outcome Unit) :=
  publish prim (pager.freeNext prim memory nonce pageId) fun _ pager => pure (.ok (), pager)

end Free

end PagerSession

section Planned

variable {disk : FileDisk} {plan : FaultPlan} {request : FileCall} {file : FileInode}

lemma run_fileCall_works (h : plan 0 = none) : (fileCall request).run execPlanned (disk, plan) =
      (((fileCall request).run exec disk).1, ((fileCall request).run exec disk).2, plan.rest) := by
  simp only [fileCall, run_bind, run_request, execPlanned_works h, resume_ok]
  cases (exec request disk).1 <;> rfl

lemma run_fileCall_fails {left : Bytes} (h : plan 0 = some left) :
    (fileCall request).run execPlanned (disk, plan) =
      (.error .io, interrupted request left disk, plan.rest) := by
  simp only [fileCall, run_bind, run_request, execPlanned_fails h, resume_ok]
  rfl

@[simp] lemma run_fromExcept_planned {α : Type} (result : Except SdbError α) :
    (fromExcept result).run execPlanned (disk, plan) = (result, disk, plan) := by
  cases result <;> rfl

lemma run_fileWriteFull_planned {offset : Nat} (hoffset : offset ≤ maxOffset) (file : FileInode)
    (data : Bytes) (disk : FileDisk) (plan : FaultPlan) :
    (fileWriteFull file offset data).run execPlanned (disk, plan) =
      (if plan 0 = none then .ok () else .error .io, disk.editFile file (.write offset
          (((plan 0).map fun left => left.take data.length).getD data)), plan.rest) := by
  cases hplan : plan 0 with
  | none =>
    have hworks : (fileCall (.writeFull file offset data)).run exec disk =
        (.ok (), disk.editFile file (.write offset data)) := run_fileWriteFull hoffset
    rw [fileWriteFull, run_fileCall_works hplan, hworks]
    rfl
  | some left =>
    rw [fileWriteFull, run_fileCall_fails hplan]
    rfl

lemma run_fileSync_planned (file : FileInode) (disk : FileDisk) (plan : FaultPlan) :
    (fileSync file).run execPlanned (disk, plan) = (if plan 0 = none then .ok () else .error .io,
        if plan 0 = none then disk.syncFile file else disk, plan.rest) := by
  cases hplan : plan 0 with
  | none =>
    rw [fileSync, run_fileCall_works hplan]
    rfl
  | some left =>
    rw [fileSync, run_fileCall_fails hplan]
    rfl

/-- A write and its sync: all of it, or a part and an error. -/
lemma run_writeSync_planned {offset : Nat} (hoffset : offset ≤ maxOffset) (file : FileInode)
    (bytes : Bytes) (disk : FileDisk) (plan : FaultPlan) :
    ∃ result after plan' data, (fileWriteFull file offset bytes >>= fun _ =>
        fileSync file).run execPlanned (disk, plan) = (result, after, plan') ∧
      after.bytes file = writeAt (disk.bytes file) offset data ∧ data.length ≤ bytes.length ∧
      ((result = .ok () ∧ data = bytes ∧ plan 0 = none ∧ plan 1 = none) ∨
        (∃ error, result = .error error) ∧ (plan 0 ≠ none ∨ plan 1 ≠ none)) := by
  rw [run_bind, run_fileWriteFull_planned hoffset]
  cases hwrite : plan 0 with
  | some left =>
    exact ⟨_, _, _, _, rfl, editFile_bytes _, by simp, .inr ⟨⟨_, rfl⟩, .inl (by simp)⟩⟩
  | none =>
    rw [if_pos rfl, resume_ok, run_fileSync_planned, map_none, getD_none]
    refine ⟨_, _, _, bytes, rfl, ?_, le_rfl, ?_⟩
    · split
      · rw [syncFile_bytes]
        exact editFile_bytes _
      · exact editFile_bytes _
    · cases hsync : plan 1 with
      | none => exact .inl ⟨if_pos hsync, rfl, rfl, rfl⟩
      | some left => exact .inr ⟨⟨.io, if_neg (by simp [hsync])⟩, .inr (by simp)⟩

end Planned

section NextOpen

variable {prim : Primitives} {password dataKey : Option Bytes} {content : Bytes} {slot : Slot}
  {loaded other : LoadedSlot} {superblock : SuperblockV1} {current : SuperblockReadResult}

/-- The next open with the password works with this superblock and this key. -/
def OpensWith (prim : Primitives) (password : Option Bytes) (content : Bytes)
    (superblock : SuperblockV1) (dataKey : Option Bytes) : Prop :=
  ∃ unlocked, openSelect prim password content = .ok unlocked ∧
    unlocked.result.superblock = superblock ∧ unlocked.dataKey = dataKey

/-- The password gives the key; a plain database has neither. -/
def Unlocks (prim : Primitives) (superblock : SuperblockV1) (password dataKey : Option Bytes) :
    Prop :=
  (superblock.encrypted = false ∧ password = none ∧ dataKey = none) ∨
    ∃ secret key, password = some secret ∧ dataKey = some key ∧
      keyUnwrap prim superblock secret = .ok key

/-- The tag of the slot is right, where its header has one. -/
def Tagged (prim : Primitives) (dataKey : Option Bytes) (loaded : LoadedSlot) : Prop :=
  loaded.superblock.headerAuth = true → ∀ key, dataKey = some key →
    slotAuthTagMatches prim loaded.bytes key = true

/-- The newer slot is unlocked, and then passed over for the tag it lacks. -/
def PassedOver (prim : Primitives) (password dataKey : Option Bytes) (superblock : SuperblockV1)
    (other : LoadedSlot) : Prop :=
  superblock.generation < other.superblock.generation ∧ superblock.headerAuth = true ∧
    other.superblock.headerAuth = true ∧ ∃ secret key, password = some secret ∧
      dataKey = some key ∧ keyUnwrap prim other.superblock secret = .ok key ∧
      slotAuthTagMatches prim other.bytes key = false

/-- The peer slot beats the selected one: it is newer, or as new and different, and it is
not passed over. -/
def Overtakes (prim : Primitives) (password dataKey : Option Bytes)
    (current : SuperblockReadResult) (content : Bytes) : Prop :=
  ∃ other, slotAt prim content current.selectedSlot.peer = some other ∧
    current.superblock.generation ≤ other.superblock.generation ∧
    other.superblock ≠ current.superblock ∧
    ¬PassedOver prim password dataKey current.superblock other

lemma openSelect_eq (h : readSuperblock prim content = .ok current) :
    openSelect prim password content = unlock prim password content current := by
  rw [openSelect, h]
  rfl

lemma authenticMirror_eq {key : Bytes} (hslot : slotAt prim content slot = some loaded)
    (hsealed : loaded.superblock.headerAuth = true)
    (htag : slotAuthTagMatches prim loaded.bytes key = true) :
    authenticMirror prim key content slot = some loaded := by
  simp [authenticMirror, hslot, authenticSlot, hsealed, htag]

/-- A slot that is selected before and after the key is known. -/
lemma opensWith_of_peer (hslot : slotAt prim content slot = some loaded)
    (htag : Tagged prim dataKey loaded) (hunlocks : Unlocks prim loaded.superblock password dataKey)
    (hpeer : ∀ other, slotAt prim content slot.peer = some other →
      other.superblock.generation < loaded.superblock.generation ∨
        other.superblock = loaded.superblock) :
    OpensWith prim password content loaded.superblock dataKey := by
  obtain ⟨result, hread, hsame⟩ := selectMirror_of_peer hslot hpeer
  rw [OpensWith, openSelect_eq hread]
  rcases hunlocks with ⟨hplain, rfl, rfl⟩ | ⟨secret, key, rfl, rfl, hunwrap⟩
  · have hunlock : unlock prim none content result =
        .ok { result, dataKey := none, legacyUpgradePending := false } := by
      simp [unlock, hsame.symm ▸ hplain]
    rw [hunlock]
    exact ⟨_, rfl, hsame, rfl⟩
  rw [← hsame] at hunwrap
  by_cases hsealed : result.superblock.headerAuth = true
  · have hmine : authenticMirror prim key content slot = some loaded :=
      authenticMirror_eq hslot (hsame ▸ hsealed) (htag (hsame ▸ hsealed) key rfl)
    obtain ⟨second, hsecond, hsecondSame⟩ := selectMirror_of_peer hmine fun other hother =>
      hpeer other (authenticSlot_eq_some hother).1
    rw [unlock_sealed hsealed hunwrap, readAuthenticSuperblock_eq, hsecond]
    exact ⟨_, rfl, hsecondSame, rfl⟩
  · rw [unlock_unsealed hsealed hunwrap]
    exact ⟨_, rfl, hsame, rfl⟩

/-- Behind a newer peer a slot is found only where that one is passed over. -/
lemma opensWith_iff_passedOver (hslot : slotAt prim content slot = some loaded)
    (htag : Tagged prim dataKey loaded) (hother : slotAt prim content slot.peer = some other)
    (hnewer : loaded.superblock.generation < other.superblock.generation) :
    OpensWith prim password content loaded.superblock dataKey ↔
      PassedOver prim password dataKey loaded.superblock other := by
  obtain ⟨first, hread, hfirst⟩ : ∃ first, readSuperblock prim content = .ok first ∧
      first.superblock = other.superblock := ⟨_, selectMirror_older hslot hother hnewer, rfl⟩
  rw [OpensWith, openSelect_eq hread, PassedOver, ← hfirst]
  rw [← hfirst] at hnewer
  constructor
  · rintro ⟨unlocked, hunlock, hsame, rfl⟩
    rcases unlock_eq_ok hunlock with ⟨-, -, rfl⟩ | ⟨secret, key, rfl, hunwrap, hkey, hsecond⟩
    · exact absurd (congrArg (·.generation) hsame) hnewer.ne'
    split_ifs at hsecond with hsealed
    · rw [readAuthenticSuperblock_eq] at hsecond
      obtain ⟨chosen, hauthentic, hchosen⟩ := selectMirror_eq_ok hsecond
      rw [hsame] at hchosen
      refine ⟨hnewer, ?_, hsealed, secret, key, rfl, hkey, hunwrap, ?_⟩
      · rw [← hchosen]
        exact (authenticSlot_eq_some hauthentic).2.1
      · refine Bool.eq_false_iff.mpr fun htagged => ?_
        have hle := le_of_selectMirror (authenticMirror_eq hother (hfirst ▸ hsealed) htagged)
          hsecond
        rw [hsame, ← hfirst] at hle
        exact hle.not_gt hnewer
    · rw [hsecond] at hsame
      exact absurd (congrArg (·.generation) hsame) hnewer.ne'
  · rintro ⟨-, hmine, hsealed, secret, key, rfl, rfl, hunwrap, hwrong⟩
    have hgone : authenticMirror prim key content slot.peer = none := by
      simp [authenticMirror, hother, authenticSlot, hwrong]
    rw [unlock_sealed hsealed hunwrap, readAuthenticSuperblock_eq,
      selectMirror_alone (authenticMirror_eq hslot hmine (htag hmine key rfl)) hgone]
    exact ⟨_, rfl, rfl, rfl⟩

/-- Where the selected slot is untouched, the peer decides what the next open selects. -/
lemma opensWith_iff (hslot : slotAt prim content current.selectedSlot = some loaded)
    (hloaded : loaded.superblock = current.superblock) (htag : Tagged prim dataKey loaded)
    (hunlocks : Unlocks prim current.superblock password dataKey) :
    OpensWith prim password content current.superblock dataKey ↔
      ¬Overtakes prim password dataKey current content := by
  simp only [Overtakes, ← hloaded] at hunlocks ⊢
  by_cases hahead : ∃ other, slotAt prim content current.selectedSlot.peer = some other ∧
    loaded.superblock.generation ≤ other.superblock.generation ∧
      other.superblock ≠ loaded.superblock
  · obtain ⟨other, hother, hle, hdiffers⟩ := hahead
    simp only [hother, Option.some.injEq, exists_eq_left', hle, ne_eq, hdiffers, not_false_eq_true,
      true_and, not_not]
    rcases hle.eq_or_lt with heq | hlt
    · refine iff_of_false ?_ fun hpassed => hpassed.1.ne heq
      rintro ⟨unlocked, hselect, -⟩
      rw [openSelect, show readSuperblock prim content = _ from
        selectMirror_split hslot hother heq.symm hdiffers] at hselect
      cases hselect
    · exact opensWith_iff_passedOver hslot htag hother hlt
  · refine iff_of_true (opensWith_of_peer hslot htag hunlocks fun other hother => ?_) ?_
    · by_contra hbeaten
      rw [not_or, not_lt] at hbeaten
      exact hahead ⟨other, hother, hbeaten⟩
    · rintro ⟨other, hother, hle, hdiffers, -⟩
      exact hahead ⟨other, hother, hle, hdiffers⟩

/-- Once a slot holds a newer superblock the old one is not selected again, whatever
becomes of the slot that held it. -/
lemma not_opensWith_of_newer (hslot : slotAt prim content slot = some other)
    (htag : Tagged prim dataKey other)
    (hnewer : superblock.generation < other.superblock.generation)
    (hflags : other.superblock.flags = superblock.flags) :
    ¬OpensWith prim password content superblock dataKey := by
  rintro ⟨unlocked, hselect, rfl, rfl⟩
  obtain ⟨first, hread, hunlock⟩ := except_bind_eq_ok.mp hselect
  have hfirst := le_of_selectMirror hslot hread
  rcases unlock_eq_ok hunlock with ⟨-, -, rfl⟩ | ⟨secret, key, -, -, hkey, hsecond⟩
  · exact hnewer.not_ge hfirst
  split_ifs at hsecond with hsealed
  · rw [readAuthenticSuperblock_eq] at hsecond
    obtain ⟨chosen, hauthentic, hchosen⟩ := selectMirror_eq_ok hsecond
    have hchosenSealed := (authenticSlot_eq_some hauthentic).2.1
    have hotherSealed : other.superblock.headerAuth = true := by
      rwa [hchosen, SuperblockV1.headerAuth, ← hflags] at hchosenSealed
    have hmine := authenticMirror_eq hslot hotherSealed (htag hotherSealed key hkey)
    exact hnewer.not_ge (le_of_selectMirror hmine hsecond)
  · exact hnewer.not_ge (hsecond ▸ hfirst)

/-- An open with the password selects this slot, by its generation and by its tag. -/
structure SlotSelected (prim : Primitives) (password dataKey : Option Bytes) (content : Bytes)
    (current : SuperblockReadResult) : Prop where
  read : readSuperblock prim content = .ok current
  tagged : ∀ loaded, slotAt prim content current.selectedSlot = some loaded →
    Tagged prim dataKey loaded
  unlocks : Unlocks prim current.superblock password dataKey

lemma SlotSelected.opens (h : SlotSelected prim password dataKey content current) :
    OpensWith prim password content current.superblock dataKey := by
  obtain ⟨loaded, hslot, hloaded⟩ := readSuperblock_eq_ok h.read
  rw [← hloaded]
  refine opensWith_of_peer hslot (h.tagged loaded hslot) (hloaded ▸ h.unlocks)
    fun other hother => ?_
  rcases (hloaded ▸ le_of_selectMirror hother h.read).lt_or_eq with hlt | heq
  · exact .inl hlt
  · refine .inr (by_contra fun hdiffers => ?_)
    cases h.read.symm.trans (selectMirror_split hslot hother heq hdiffers)

end NextOpen

section Update

variable {prim : Primitives} {file : FileInode} {disk : FileDisk} {plan : FaultPlan}
  {next : SuperblockV1} {current : SuperblockReadResult} {password dataKey : Option Bytes}
  {content encoded : Bytes} {slot : Slot}

/-- The file with a peer slot whose write broke off. -/
def withPeer (current : SuperblockReadResult) (left content : Bytes) : Bytes :=
  writeAt content current.selectedSlot.peer.offset (left.take superblockSlotSize)

/-- The update breaks off when the peer slot is already ahead of the selected one: the
first two calls, which read the slots, work, the write of the peer works or leaves a slot
that is ahead, and it or one of the three calls behind it fails. -/
def UpdateBroken (prim : Primitives) (password dataKey : Option Bytes)
    (current : SuperblockReadResult) (content : Bytes) (plan : FaultPlan) : Prop :=
  plan 0 = none ∧ plan 1 = none ∧
    ((∃ left, plan 2 = some left ∧
        Overtakes prim password dataKey current (withPeer current left content)) ∨
      plan 2 = none ∧ (plan 3 ≠ none ∨ plan 4 ≠ none ∨ plan 5 ≠ none))

lemma slotAt_writeAt_peer {loaded : LoadedSlot} {data : Bytes}
    (hlength : data.length ≤ superblockSlotSize) (h : slotAt prim content slot = some loaded) :
    slotAt prim (writeAt content slot.peer.offset data) slot = some loaded := by
  obtain ⟨hread, hslot⟩ := slotAt_eq_some h
  have hend := readAt_eq_some_iff.mp ⟨_, hread⟩
  refine slotAt_of_readAt ?_ hslot
  rw [readAt_writeAt_disjoint _ hend]
  · exact hread
  · cases slot with
    | first => exact .inl (by simp [Slot.offset, Slot.peer])
    | second => exact .inr (by simpa [Slot.offset, Slot.peer] using hlength)

lemma tagged_encodeSlot (hsized : next.Sized)
    (hencode : encodeSlot prim next (slotKey next dataKey) = .ok encoded) :
    Tagged prim dataKey { bytes := encoded, superblock := next } := by
  rintro hsealed key rfl
  rw [slotKey, if_pos hsealed] at hencode
  exact slotAuthTagMatches_encodeSlot hsized hsealed hencode

lemma run_readSlot_planned (prim : Primitives) (file : FileInode) (disk : FileDisk)
    (plan : FaultPlan) (slot : Slot) :
    ∃ bytes, ((fileReadFull file slot.offset superblockSlotSize).attempt).run execPlanned
        (disk, plan) = (.ok bytes, disk, plan.rest) ∧ (plan 0 = none → bytes ≠ .error .io ∧
        loadedSlot prim bytes = slotAt prim (disk.bytes file) slot) ∧
      (plan 0 ≠ none → bytes = .error .io) := by
  cases hplan : plan 0 with
  | none =>
    obtain ⟨bytes, hread, hio, hloaded⟩ := run_readSlot prim file disk slot
    rw [run_attempt] at hread
    obtain ⟨hbytes, hdisk⟩ := Prod.mk.inj hread
    rw [run_attempt, fileReadFull, run_fileCall_works hplan]
    refine ⟨bytes, ?_, fun _ => ⟨hio, hloaded⟩, fun hne => absurd rfl hne⟩
    rw [← hbytes]
    exact congrArg (fun after => (_, after, plan.rest)) hdisk
  | some left =>
    rw [run_attempt, fileReadFull, run_fileCall_fails hplan]
    exact ⟨_, rfl, fun hnone => (by cases hnone), fun _ => rfl⟩

/-- The two reads of an update tell what is selected, unless one of them fails. -/
lemma run_superblockStoreReadFile_planned :
    (superblockStoreReadFile prim file).run execPlanned (disk, plan) =
      (if plan 0 = none ∧ plan 1 = none then readSuperblock prim (disk.bytes file)
        else .error .io, disk, plan.rest.rest) := by
  obtain ⟨first, hfirst, hfirstWorks, hfirstFails⟩ :=
    run_readSlot_planned prim file disk plan .first
  obtain ⟨second, hsecond, hsecondWorks, hsecondFails⟩ :=
    run_readSlot_planned prim file disk plan.rest .second
  rw [superblockStoreReadFile, run_bind, superblockLoadSlots, run_bind, hfirst, resume_ok, run_bind,
    hsecond, resume_ok]
  by_cases hplan : plan 0 = none ∧ plan 1 = none
  · obtain ⟨hfirstIo, hfirstLoaded⟩ := hfirstWorks hplan.1
    obtain ⟨hsecondIo, hsecondLoaded⟩ := hsecondWorks hplan.2
    rw [if_pos hplan]
    simp only [hfirstIo, hsecondIo, decide_false, Bool.or_false, Bool.false_eq_true, if_false,
      run_pure, resume_ok, hfirstLoaded, hsecondLoaded]
    cases hselect : readSuperblock prim (disk.bytes file) with
    | ok result => rw [show selectMirror _ _ = _ from hselect]; rfl
    | error error => rw [show selectMirror _ _ = _ from hselect]; rfl
  · have hio : first = .error .io ∨ second = .error .io := by
      rcases not_and_or.mp hplan with hne | hne
      · exact .inl (hfirstFails hne)
      · exact .inr (hsecondFails hne)
    rw [if_neg hplan, if_pos (by simpa using hio), run_fail, resume_error]

/-- What is left of an update behind the write of the peer: a failure leaves the peer. -/
lemma run_updateSelected (plan : FaultPlan) (hlength : encoded.length = superblockSlotSize)
    (hencoded : slotSuperblock prim encoded = some next)
    (hslots : dataOffset ≤ (disk.bytes file).length)
    (hpeer : slotAt prim (disk.bytes file) slot.peer =
      some { bytes := encoded, superblock := next }) :
    ∃ result after plan', (fileSync file >>= fun _ => fileWriteFull file slot.offset encoded >>=
        fun _ => fileSync file).run execPlanned (disk, plan) = (result, after, plan') ∧
      dataOffset ≤ (after.bytes file).length ∧
      slotAt prim (after.bytes file) slot.peer = some { bytes := encoded, superblock := next } ∧
      ((result = .ok () ∧ slotAt prim (after.bytes file) slot =
          some { bytes := encoded, superblock := next } ∧
          plan 0 = none ∧ plan 1 = none ∧ plan 2 = none) ∨
        (∃ error, result = .error error) ∧ (plan 0 ≠ none ∨ plan 1 ≠ none ∨ plan 2 ≠ none)) := by
  rw [run_bind, run_fileSync_planned]
  cases hfirst : plan 0 with
  | some left => exact ⟨_, _, _, rfl, hslots, hpeer, .inr ⟨⟨_, rfl⟩, .inl (by simp)⟩⟩
  | none =>
    rw [if_pos rfl, if_pos rfl, resume_ok]
    obtain ⟨result, after, plan', data, hrun, hbytes, hdata, hend⟩ :=
      run_writeSync_planned slot.offset_le file encoded (disk.syncFile file) plan.rest
    -- whatever the write leaves in the slot, the peer is beside it
    have hkept := slotAt_writeAt_peer (hdata.trans hlength.le) hpeer
    rw [syncFile_bytes] at hbytes
    rw [Slot.peer_peer, ← hbytes] at hkept
    refine ⟨result, after, plan', hrun, ?_, hkept, ?_⟩
    · rw [hbytes]
      exact hslots.trans (length_le_writeAt ..)
    · rcases hend with ⟨hok, rfl, hsecond, hthird⟩ | ⟨herror, hfault⟩
      · refine .inl ⟨hok, ?_, rfl, hsecond, hthird⟩
        rw [hbytes]
        exact slotAt_write_same hlength hencoded
      · exact .inr ⟨herror, .inr hfault⟩

/-- An update whose checks pass publishes the superblock, or it fails and the old one is
selected exactly if it broke off early enough. -/
lemma update_planned (plan : FaultPlan) (hsized : next.Sized)
    (hencode : encodeSlot prim next (slotKey next dataKey) = .ok encoded)
    (hcurrent : SlotSelected prim password dataKey (disk.bytes file) current)
    (hvalid : superblockUpdateValid next current.superblock = true)
    (hflags : next.flags = current.superblock.flags)
    (hslots : dataOffset ≤ (disk.bytes file).length) :
    ∃ result after plan', (superblockStoreUpdateFile prim file next (slotKey next dataKey)).run
        execPlanned (disk, plan) = (result, after, plan') ∧ dataOffset ≤ (after.bytes file).length ∧
      ((result = .ok () ∧ (∀ slot, slotAt prim (after.bytes file) slot =
            some { bytes := encoded, superblock := next }) ∧
          ¬UpdateBroken prim password dataKey current (disk.bytes file) plan) ∨
        (∃ error, result = .error error) ∧
          (OpensWith prim password (after.bytes file) current.superblock dataKey ↔
            ¬UpdateBroken prim password dataKey current (disk.bytes file) plan)) := by
  have hlength := encodeSlot_length hsized hencode
  have hencoded := slotSuperblock_encodeSlot hsized hencode
  obtain ⟨loaded, hslot, hloaded⟩ := readSuperblock_eq_ok hcurrent.read
  have hnewer : current.superblock.generation < next.generation := by
    simp only [superblockUpdateValid, Bool.and_eq_true, decide_eq_true_eq] at hvalid
    exact hvalid.1.1.1.1.1
  rw [superblockStoreUpdateFile, run_bind, run_fromExcept_planned, hencode, resume_ok, run_bind,
    run_superblockStoreReadFile_planned]
  by_cases hreads : plan 0 = none ∧ plan 1 = none
  swap
  · refine ⟨_, _, _, by rw [if_neg hreads, resume_error], hslots, .inr ⟨⟨_, rfl⟩, ?_⟩⟩
    exact iff_of_true hcurrent.opens fun hbroken => hreads ⟨hbroken.1, hbroken.2.1⟩
  rw [if_pos hreads, hcurrent.read, resume_ok]
  simp only [hvalid, Bool.not_true, Bool.false_eq_true, if_false]
  rw [run_bind, run_fileWriteFull_planned (Slot.offset_le _)]
  simp only [FaultPlan.rest_apply, Nat.zero_add, Nat.reduceAdd]
  cases hpeer : plan 2 with
  | some left =>
    -- the peer has the bytes the write left, the selected slot is as it was
    have hkept : slotAt prim (withPeer current left (disk.bytes file)) current.selectedSlot =
        some loaded := slotAt_writeAt_peer (by simp) hslot
    refine ⟨_, _, _, rfl, ?_, .inr ⟨⟨_, rfl⟩, ?_⟩⟩
    · rw [editFile_bytes]
      exact hslots.trans (length_le_writeAt ..)
    · rw [editFile_bytes, map_some, getD_some, hlength]
      refine (opensWith_iff hkept hloaded (hcurrent.tagged loaded hslot)
        hcurrent.unlocks).trans (not_congr ?_)
      constructor
      · exact fun hovertakes => ⟨hreads.1, hreads.2, .inl ⟨left, hpeer, hovertakes⟩⟩
      · rintro ⟨-, -, ⟨other, hother, hovertakes⟩ | ⟨hnone, -⟩⟩
        · obtain rfl := Option.some.inj (hpeer.symm.trans hother)
          exact hovertakes
        · cases hpeer.symm.trans hnone
  | none =>
    -- from here on the peer holds the new superblock
    rw [if_pos rfl, map_none, getD_none, resume_ok]
    have hwritten : slotAt prim ((disk.editFile file
        (.write current.selectedSlot.peer.offset encoded)).bytes file)
          current.selectedSlot.peer = some { bytes := encoded, superblock := next } := by
      rw [editFile_bytes]
      exact slotAt_write_same hlength hencoded
    have hlong : dataOffset ≤ ((disk.editFile file
        (.write current.selectedSlot.peer.offset encoded)).bytes file).length := by
      rw [editFile_bytes]
      exact hslots.trans (length_le_writeAt ..)
    obtain ⟨result, after, plan', hrun, hafter, hother, hend⟩ :=
      run_updateSelected plan.rest.rest.rest hlength hencoded hlong hwritten
    refine ⟨result, after, plan', hrun, hafter, ?_⟩
    rcases hend with ⟨hok, hselected, hthird, hfourth, hfifth⟩ | ⟨herror, hfault⟩
    · refine .inl ⟨hok, fun slot => ?_, ?_⟩
      · rcases slot_cases slot current.selectedSlot with rfl | rfl
        · exact hselected
        · exact hother
      · rintro ⟨-, -, ⟨left, hleft, -⟩ | ⟨-, hfault⟩⟩
        · cases hpeer.symm.trans hleft
        · rcases hfault with hfault | hfault | hfault
          · exact hfault hthird
          · exact hfault hfourth
          · exact hfault hfifth
    · refine .inr ⟨herror, iff_of_false ?_ ?_⟩
      · exact not_opensWith_of_newer hother (tagged_encodeSlot hsized hencode) hnewer hflags
      · exact not_not.mpr ⟨hreads.1, hreads.2, .inr ⟨hpeer, hfault⟩⟩

end Update

section Slots

/-- The slots are as they were. -/
structure SlotsKept (before after : Bytes) : Prop where
  slots : dataOffset ≤ after.length
  same : ∀ slot : Slot, readAt after slot.offset superblockSlotSize =
    readAt before slot.offset superblockSlotSize

variable {content before after : Bytes} {prim : Primitives}

lemma slot_end_le (slot : Slot) : slot.offset + superblockSlotSize ≤ dataOffset := by
  cases slot <;> decide

lemma SlotsKept.refl (h : dataOffset ≤ content.length) : SlotsKept content content :=
  ⟨h, fun _ => rfl⟩

lemma SlotsKept.trans {middle : Bytes} (h : SlotsKept before middle)
    (h' : SlotsKept middle after) : SlotsKept before after :=
  ⟨h'.slots, fun slot => (h'.same slot).trans (h.same slot)⟩

lemma SlotsKept.slotAt (h : SlotsKept before after) (slot : Slot) :
    slotAt prim after slot = slotAt prim before slot := by
  simp only [ShibaDb.slotAt, h.same]

lemma slotsKept_writeAt {offset : Nat} (h : dataOffset ≤ content.length)
    (hoffset : dataOffset ≤ offset) (data : Bytes) :
    SlotsKept content (writeAt content offset data) := by
  refine ⟨h.trans (length_le_writeAt ..), fun slot => ?_⟩
  have hend := slot_end_le slot
  exact readAt_writeAt_before (hend.trans hoffset) (hend.trans h)

lemma slotsKept_resize {size : Nat} (h : dataOffset ≤ content.length)
    (hsize : dataOffset ≤ size) : SlotsKept content (resize content size) := by
  refine ⟨by rwa [resize_length], fun slot => ?_⟩
  have hend := slot_end_le slot
  exact readAt_resize (hend.trans hsize) (hend.trans h)

/-- A call that leaves the slots alone, whether it works or fails. -/
def KeepsSlots (file : FileInode) (request : FileCall) : Prop :=
  ∀ disk : FileDisk, dataOffset ≤ (disk.bytes file).length →
    SlotsKept (disk.bytes file) ((exec request disk).2.bytes file) ∧
    ∀ left, SlotsKept (disk.bytes file) ((interrupted request left disk).bytes file)

lemma keepsSlots_writeFull {file : FileInode} {offset : Nat} (hoffset : dataOffset ≤ offset)
    (data : Bytes) : KeepsSlots file (.writeFull file offset data) := by
  refine fun disk hslots => ⟨?_, fun left => ?_⟩
  · by_cases hfar : maxOffset < offset
    · simpa [exec, hfar] using SlotsKept.refl hslots
    · simpa [exec, hfar, editFile_bytes, Edit.apply] using slotsKept_writeAt hslots hoffset data
  · rw [interrupted, editFile_bytes]
    exact slotsKept_writeAt hslots hoffset _

lemma keepsSlots_resize {file : FileInode} {size : Nat} (hsize : dataOffset ≤ size) :
    KeepsSlots file (.resize file size) := by
  refine fun disk hslots => ⟨?_, fun left => SlotsKept.refl hslots⟩
  by_cases hfar : maxOffset < size
  · simpa [exec, hfar] using SlotsKept.refl hslots
  · simpa [exec, hfar, editFile_bytes, Edit.apply] using slotsKept_resize hslots hsize

lemma keepsSlots_sync (file : FileInode) : KeepsSlots file (.sync file) := by
  refine fun disk hslots => ⟨?_, fun left => SlotsKept.refl hslots⟩
  simpa [exec, syncFile_bytes] using SlotsKept.refl hslots

lemma KeepsSlots.run {file : FileInode} {request : FileCall} (h : KeepsSlots file request)
    {disk : FileDisk} (hslots : dataOffset ≤ (disk.bytes file).length) (plan : FaultPlan) :
    ∃ result after plan', (fileCall request).run execPlanned (disk, plan) =
        (result, after, plan') ∧ SlotsKept (disk.bytes file) (after.bytes file) := by
  cases hplan : plan 0 with
  | none =>
    have hdisk : ((fileCall request).run exec disk).2 = (exec request disk).2 := by
      simp only [fileCall, run_bind, run_request, resume_ok]
      cases (exec request disk).1 <;> rfl
    rw [run_fileCall_works hplan, hdisk]
    exact ⟨_, _, _, rfl, (h disk hslots).1⟩
  | some left =>
    rw [run_fileCall_fails hplan]
    exact ⟨_, _, _, rfl, (h disk hslots).2 left⟩

end Slots

section Parts

variable {prim : Primitives} {pager : PagerSession} {disk : FileDisk} {plan : FaultPlan}

/-- A read changes nothing but the cache. -/
lemma run_pagerRead_planned (prim : Primitives) (pager : PagerSession) (disk : FileDisk)
    (plan : FaultPlan) (pageId : PageId) (buffer : Bytes) :
    ∃ outcome cache plan', (pager.pagerRead prim pageId buffer).run execPlanned (disk, plan) =
        (.ok outcome, disk, plan') ∧ outcome.pager = pager.withCache cache := by
  have hmeets : (pager.pagerRead prim pageId buffer).Meets faulty
      (fun outcome after => after = disk ∧ ∃ cache, outcome.pager = pager.withCache cache)
      (fun _ _ => False) disk :=
    PagerSession.meets_pagerRead (fun _ => ⟨rfl, _, rfl⟩) (fun _ _ _ _ => ⟨rfl, _, rfl⟩)
      (fun _ _ _ => ⟨rfl, _, rfl⟩) (fun _ _ _ _ _ => ⟨rfl, _, rfl⟩)
  rcases hrun : (pager.pagerRead prim pageId buffer).run execPlanned (disk, plan) with
    ⟨result, after, plan'⟩
  obtain ⟨hok, hbad⟩ := hmeets.finishes (finishes_of_planned hrun)
  cases result with
  | error error => exact (hbad error rfl).elim
  | ok outcome =>
    obtain ⟨rfl, cache, hcache⟩ := hok outcome rfl
    exact ⟨outcome, cache, plan', rfl, hcache⟩

/-- The program leaves the slots, of the pager it changes the cache only, and a result it
comes to is a good one. -/
def Leaves {α : Type} (pager : PagerSession) (program : FileM (Outcome α)) (good : α → Prop) :
    Prop :=
  ∀ disk plan, dataOffset ≤ (disk.bytes pager.file).length →
    ∃ result cache after plan', program.run execPlanned (disk, plan) =
        (.ok (result, pager.withCache cache), after, plan') ∧
      SlotsKept (disk.bytes pager.file) (after.bytes pager.file) ∧
      ∀ value, result = .ok value → good value

variable {α β : Type} {good : α → Prop} {better : β → Prop}

lemma Leaves.pure {result : Except SdbError α} (h : ∀ value, result = .ok value → good value) :
    Leaves pager (pure (result, pager)) good :=
  fun _ _ hslots => ⟨result, pager.cache, _, _, rfl, SlotsKept.refl hslots, h⟩

lemma Leaves.refused (error : SdbError) : Leaves pager (Pure.pure (.error error, pager)) good :=
  Leaves.pure fun value hvalue => (by cases hvalue)

lemma Leaves.mono {program : FileM (Outcome α)} {weaker : α → Prop}
    (h : Leaves pager program good) (hweaker : ∀ value, good value → weaker value) :
    Leaves pager program weaker := by
  intro disk plan hslots
  obtain ⟨result, cache, after, plan', hrun, hkept, hgood⟩ := h disk plan hslots
  exact ⟨result, cache, after, plan', hrun, hkept, fun value hvalue =>
    hweaker value (hgood value hvalue)⟩

lemma Leaves.bind {program : FileM (Outcome α)} {next : Outcome α → FileM (Outcome β)}
    (h : Leaves pager program good)
    (hnext : ∀ result cache, (∀ value, result = .ok value → good value) →
      Leaves (pager.withCache cache) (next (result, pager.withCache cache)) better) :
    Leaves pager (program >>= next) better := by
  intro disk plan hslots
  obtain ⟨result, cache, middle, plan₁, hrun, hkept, hgood⟩ := h disk plan hslots
  obtain ⟨result', cache', after, plan₂, hrun', hkept', hbetter⟩ :=
    hnext result cache hgood middle plan₁ hkept.slots
  refine ⟨result', cache', after, plan₂, ?_, hkept.trans hkept', hbetter⟩
  rw [run_bind, hrun, resume_ok, hrun']
  rfl

lemma leaves_pagerRead (prim : Primitives) (pager : PagerSession) (pageId : PageId)
    (buffer : Bytes) {next : PagerReadResult → FileM (Outcome β)}
    (hnext : ∀ outcome cache, outcome.pager = pager.withCache cache →
      Leaves (pager.withCache cache) (next outcome) better) :
    Leaves pager (pager.pagerRead prim pageId buffer >>= next) better := by
  intro disk plan hslots
  obtain ⟨outcome, cache, plan₁, hrun, houtcome⟩ :=
    run_pagerRead_planned prim pager disk plan pageId buffer
  obtain ⟨result, cache', after, plan₂, hrun', hkept⟩ :=
    hnext outcome cache houtcome disk plan₁ hslots
  refine ⟨result, cache', after, plan₂, ?_, hkept⟩
  rw [run_bind, hrun, resume_ok, hrun']
  rfl

/-- A call and its sync, and what the function makes of their status. -/
lemma KeepsSlots.leaves {request : FileCall} (h : KeepsSlots pager.file request)
    {next : Except SdbError Unit → FileM (Outcome α)}
    (hnext : ∀ status, ∃ result cache, next status = Pure.pure (result, pager.withCache cache) ∧
      ∀ value, result = .ok value → good value) :
    Leaves pager ((fileCall request >>= fun _ => fileSync pager.file).attempt >>= next) good := by
  intro disk plan hslots
  obtain ⟨called, middle, plan₁, hcalled, hkept⟩ := h.run hslots plan
  obtain ⟨status, after, plan₂, hrun, hkept'⟩ : ∃ status after plan₂,
      (fileCall request >>= fun _ => fileSync pager.file).run execPlanned (disk, plan) =
        (status, after, plan₂) ∧ SlotsKept (disk.bytes pager.file) (after.bytes pager.file) := by
    rw [run_bind, hcalled]
    cases called with
    | error error => exact ⟨_, _, _, rfl, hkept⟩
    | ok value =>
      obtain ⟨status, after, plan₂, hsync, hkept'⟩ :=
        (keepsSlots_sync pager.file).run hkept.slots plan₁
      exact ⟨status, after, plan₂, hsync, hkept.trans hkept'⟩
  obtain ⟨result, cache, hresult, hgood⟩ := hnext status
  refine ⟨result, cache, after, plan₂, ?_, hkept', hgood⟩
  rw [run_bind, run_attempt, hrun, resume_ok, hresult]
  rfl

/-- A page write touches neither the slots nor the superblock. -/
lemma leaves_pagerWrite (prim : Primitives) (pager : PagerSession) (memory : PageMemory)
    (nonce : Nonce) (lsn : Nat) (page : TxnPage) :
    Leaves pager (pager.pagerWrite prim memory nonce lsn page) fun _ => True := by
  unfold PagerSession.pagerWrite
  split
  · exact Leaves.refused _
  cases hoffset : pagerOffset pager.superblock.pageSize page.pageId with
  | error error => exact Leaves.refused error
  | ok offset =>
    simp only
    split
    · exact Leaves.refused _
    cases hencode : pager.txnEncodePage prim pager.superblock.fileId lsn nonce page with
    | error error => exact Leaves.refused error
    | ok bytes =>
      have hbehind : dataOffset ≤ offset := by
        rw [pagerOffset_eq_ok hoffset]
        exact dataOffset_le_pageOffset ..
      refine (keepsSlots_writeFull hbehind bytes).leaves fun status => ?_
      cases status with
      | error error => exact ⟨_, pager.cache, rfl, fun _ _ => trivial⟩
      | ok value => exact ⟨_, _, rfl, fun _ _ => trivial⟩

end Parts

section Publication

variable {prim : Primitives} {pager : PagerSession} {disk : FileDisk} {plan : FaultPlan}
  {α : Type} {prepared : FileM (Outcome SuperblockV1)}
  {finish : SuperblockV1 → PagerSession → FileM (Outcome α)}

/-- No transaction waits in the log, and an open with the password finds the superblock
and the key of the pager. -/
structure UpToDate (prim : Primitives) (password : Option Bytes) (pager : PagerSession)
    (disk : FileDisk) : Prop where
  index : pager.walIndex = []
  selected : ∃ current, current.superblock = pager.superblock ∧
    SlotSelected prim password pager.dataKey (disk.bytes pager.file) current
  slots : dataOffset ≤ (disk.bytes pager.file).length
  key : ∀ key, pager.dataKey = some key → key.length = 32

/-- The next open finds the superblock of the pager, or the pager asks for recovery. -/
def Fenced (prim : Primitives) (password : Option Bytes) (pager : PagerSession)
    (disk : FileDisk) : Prop :=
  pager.needsRecovery = true ∨
    OpensWith prim password (disk.bytes pager.file) pager.superblock pager.dataKey

/-- A superblock that may follow the one of the pager, under the password `renewed`. -/
structure Succeeds (prim : Primitives) (renewed : Option Bytes) (pager : PagerSession)
    (next : SuperblockV1) : Prop where
  inService : pager.needsRecovery = false
  sized : next.Sized
  valid : superblockUpdateValid next pager.superblock = true
  flags : next.flags = pager.superblock.flags
  unlocks : Unlocks prim next renewed pager.dataKey

/-- The update of the slots breaks off when the peer slot is already ahead of the selected
one. -/
def StoreBroken (prim : Primitives) (password : Option Bytes) (pager : PagerSession)
    (next : SuperblockV1) (disk : FileDisk) (plan : FaultPlan) : Prop :=
  ∃ encoded current, encodeSlot prim next (slotKey next pager.dataKey) = .ok encoded ∧
    readSuperblock prim (disk.bytes pager.file) = .ok current ∧
    UpdateBroken prim password pager.dataKey current (disk.bytes pager.file) plan

/-- The call gets as far as its update, and that breaks off. -/
def BreaksOff (prim : Primitives) (password : Option Bytes)
    (prepared : FileM (Outcome SuperblockV1)) (disk : FileDisk) (plan : FaultPlan) : Prop :=
  ∃ next pager middle plan',
    prepared.run execPlanned (disk, plan) = (.ok (.ok next, pager), middle, plan') ∧
    StoreBroken prim password pager next middle plan'

variable {password renewed : Option Bytes}

lemma UpToDate.withCache {content : FileDisk} (h : UpToDate prim password pager disk)
    (hkept : SlotsKept (disk.bytes pager.file) (content.bytes pager.file)) (cache : PageCache) :
    UpToDate prim password (pager.withCache cache) content := by
  obtain ⟨current, hsuperblock, hcurrent⟩ := h.selected
  refine ⟨h.index, ⟨current, hsuperblock, ?_, fun loaded hloaded => ?_, hcurrent.unlocks⟩,
    hkept.slots, h.key⟩
  · rw [PagerSession.withCache, readSuperblock, hkept.slotAt, hkept.slotAt]
    exact hcurrent.read
  · rw [PagerSession.withCache, hkept.slotAt] at hloaded
    exact hcurrent.tagged loaded hloaded

lemma UpToDate.fenced (h : UpToDate prim password pager disk) :
    Fenced prim password pager disk := by
  obtain ⟨current, hsuperblock, hcurrent⟩ := h.selected
  exact .inr (hsuperblock ▸ hcurrent.opens)

lemma storeSuperblock_planned {next : SuperblockV1} (plan : FaultPlan)
    (hdate : UpToDate prim password pager disk) (hnext : Succeeds prim renewed pager next) :
    ∃ result pager' after plan', (pager.storeSuperblock prim next).run execPlanned
        (disk, plan) = (.ok (result, pager'), after, plan') ∧
      pager'.dataKey = pager.dataKey ∧ ((result = .ok () ∧ UpToDate prim renewed pager' after ∧
          ¬StoreBroken prim password pager next disk plan) ∨
        (∃ error, result = .error error) ∧ (Fenced prim password pager' after ↔
          ¬StoreBroken prim password pager next disk plan)) := by
  obtain ⟨current, hsuperblock, hcurrent⟩ := hdate.selected
  have hvalid := hnext.valid
  have hflags := hnext.flags
  rw [← hsuperblock] at hvalid hflags
  rw [PagerSession.storeSuperblock, run_bind, run_attempt]
  cases hencode : encodeSlot prim next (slotKey next pager.dataKey) with
  | error refused =>
    rw [fileStoreSuperblock, superblockStoreUpdateFile, run_bind, run_fromExcept_planned, hencode,
      resume_error, resume_ok]
    refine ⟨_, _, _, _, rfl, rfl, .inr ⟨⟨_, rfl⟩, iff_of_true hdate.fenced ?_⟩⟩
    rintro ⟨_, _, hencoded, -⟩
    cases hencode.symm.trans hencoded
  | ok encoded =>
    have hbroken : StoreBroken prim password pager next disk plan ↔
        UpdateBroken prim password pager.dataKey current (disk.bytes pager.file) plan := by
      constructor
      · rintro ⟨_, _, -, hother, hbroken⟩
        obtain rfl := Except.ok.inj (hcurrent.read.symm.trans hother)
        exact hbroken
      · exact fun hbroken => ⟨encoded, current, hencode, hcurrent.read, hbroken⟩
    obtain ⟨status, after, plan', hrun, hslots, hend⟩ :=
      update_planned plan hnext.sized hencode hcurrent hvalid hflags hdate.slots
    rw [fileStoreSuperblock, hrun, resume_ok, hbroken]
    rcases hend with ⟨rfl, hstored, hunbroken⟩ | ⟨⟨error, rfl⟩, hopens⟩
    · have hread : readSuperblock prim (after.bytes pager.file) = _ :=
        selectMirror_same (hstored .first) (hstored .second) rfl
      refine ⟨_, _, _, _, rfl, rfl, .inl ⟨rfl, ⟨hdate.index, ⟨_, rfl, hread,
        fun loaded hloaded => ?_, hnext.unlocks⟩, hslots, hdate.key⟩, hunbroken⟩⟩
      obtain rfl := Option.some.inj ((hstored _).symm.trans hloaded)
      exact tagged_encodeSlot hnext.sized hencode
    · refine ⟨_, _, _, _, rfl, rfl, .inr ⟨⟨error, rfl⟩, ?_⟩⟩
      rw [Fenced, hnext.inService, ← hsuperblock, ← hopens]
      simp

/-- What a call comes to: a pager that is up to date, or an error, which is fenced
exactly if the update did not break off. -/
lemma publish_planned (hprepares : Leaves pager prepared (Succeeds prim renewed pager))
    (hcompletes : ∀ next pager, Leaves pager (finish next pager) fun _ => True)
    (hkept : renewed = password ∨
      ∀ next pager, ∃ value, finish next pager = pure (.ok value, pager))
    (hdate : UpToDate prim password pager disk) : ∃ result pager' after plan',
      (PagerSession.publish prim prepared finish).run execPlanned (disk, plan) =
        (.ok (result, pager'), after, plan') ∧
      pager'.dataKey = pager.dataKey ∧
      ((UpToDate prim renewed pager' after ∧ ¬BreaksOff prim password prepared disk plan ∧
          ((∃ error, result = .error error) → renewed = password)) ∨
        (∃ error, result = .error error) ∧ (Fenced prim password pager' after ↔
          ¬BreaksOff prim password prepared disk plan)) := by
  obtain ⟨result, cache, middle, plan₁, hprepared, hslots, hnext⟩ :=
    hprepares disk plan hdate.slots
  have hmiddle := hdate.withCache hslots cache
  rw [PagerSession.publish, run_bind, hprepared, resume_ok]
  cases result with
  | error error =>
    refine ⟨_, _, _, _, rfl, rfl, .inr ⟨⟨_, rfl⟩, iff_of_true hmiddle.fenced ?_⟩⟩
    rintro ⟨_, _, _, _, hreached, -⟩
    rw [hprepared] at hreached
    cases hreached
  | ok next =>
    have hbreaks : BreaksOff prim password prepared disk plan ↔
        StoreBroken prim password (pager.withCache cache) next middle plan₁ := by
      constructor
      · rintro ⟨_, _, _, _, hreached, hbroken⟩
        rw [hprepared] at hreached
        obtain ⟨hready, hworld⟩ := Prod.mk.inj hreached
        obtain ⟨hsame, rfl⟩ := Prod.mk.inj (Except.ok.inj hready)
        obtain rfl := Except.ok.inj hsame
        obtain ⟨rfl, rfl⟩ := Prod.mk.inj hworld
        exact hbroken
      · exact fun hbroken => ⟨next, _, _, _, hprepared, hbroken⟩
    obtain ⟨hinService, hsized, hvalid, hflags, hunlocks⟩ := hnext next rfl
    have hnext' : Succeeds prim renewed (pager.withCache cache) next :=
      ⟨hinService, hsized, hvalid, hflags, hunlocks⟩
    obtain ⟨status, stored, after, plan₂, hstore, hkey, hend⟩ :=
      storeSuperblock_planned plan₁ hmiddle hnext'
    simp only
    rw [run_bind, hstore, resume_ok, hbreaks]
    rcases hend with ⟨rfl, hstored, hunbroken⟩ | ⟨⟨error, rfl⟩, hfenced⟩
    · obtain ⟨final, cache', last, plan₃, hfinish, hlast, -⟩ :=
        hcompletes next stored after plan₂ hstored.slots
      refine ⟨_, _, _, _, hfinish, hkey, .inl ⟨hstored.withCache hlast cache', hunbroken, ?_⟩⟩
      rintro ⟨error, rfl⟩
      refine hkept.resolve_right fun hdone => ?_
      obtain ⟨value, hvalue⟩ := hdone next stored
      rw [hvalue] at hfinish
      cases hfinish
    · exact ⟨_, _, _, _, rfl, hkey, .inr ⟨⟨error, rfl⟩, hfenced⟩⟩

end Publication

section Calls

variable {prim : Primitives} {pager : PagerSession}

lemma generationBump_eq_ok {generation next : Nat} (h : generationBump generation = .ok next) :
    next = generation + 1 := by
  simp only [generationBump, guard_eq_ok] at h
  exact (Except.ok.inj h.2).symm

lemma bumped_eq_ok {superblock next : SuperblockV1}
    (h : PagerSession.bumped superblock = .ok next) :
    ∃ generation, generationBump superblock.generation = .ok generation ∧
      next = { superblock with generation } := by
  obtain ⟨generation, hbump, hnext⟩ := except_bind_eq_ok.mp h
  exact ⟨generation, hbump, (Except.ok.inj hnext).symm⟩

variable {password : Option Bytes}

/-- A new password makes a superblock that may follow. -/
lemma succeeds_rotateNext {renewed : Bytes} {iterations : Nat} {next : SuperblockV1}
    (hsized : pager.superblock.Sized) (hkey : ∀ key, pager.dataKey = some key → key.length = 32)
    (h : pager.rotateNext prim renewed iterations = .ok next) :
    Succeeds prim (some renewed) pager next := by
  simp only [PagerSession.rotateNext, guard_eq_ok] at h
  obtain ⟨hguard, hnext⟩ := h
  simp only [Bool.or_eq_true, decide_eq_true_eq, not_or, Bool.not_eq_true] at hguard
  obtain ⟨⟨⟨⟨⟨⟨⟨-, -⟩, hservice⟩, -⟩, -⟩, -⟩, hiterations⟩, hwrapId⟩ := hguard
  cases hdata : pager.dataKey with
  | none => rw [hdata] at hnext; cases hnext
  | some dataKey =>
    rw [hdata] at hnext
    obtain ⟨generation, hbump, hwrap⟩ := except_bind_eq_ok.mp hnext
    have hunwrap := keyUnwrap_keyWrap hwrap
    obtain ⟨wrappedKey, keyWrapTag, hwrapped, htag, rfl⟩ := keyWrap_eq_ok hwrap
    have hlimit : maxKdfIterations < 2 ^ 32 := by decide
    refine ⟨hservice, ?_, ?_, rfl, .inr ⟨renewed, dataKey, rfl, hdata, hunwrap⟩⟩
    · exact {
        generation := generationBump_lt hsized.generation hbump
        checkpointLsn := hsized.checkpointLsn
        keyWrapId := by
          have hlt := hsized.keyWrapId
          simp only [uint32Max] at hwrapId
          simp only
          omega
        kdfIterations := Nat.lt_of_le_of_lt (Nat.not_lt.mp hiterations) hlimit
        salt := hsized.salt
        fileId := hsized.fileId
        wrappedKey := hwrapped.trans (hkey dataKey hdata)
        keyWrapTag := htag }
    · simp [superblockUpdateValid, generationBump_eq_ok hbump, SuperblockV1.encrypted]

/-- So do a new head of the freelist and a page more in the file, under the old password. -/
lemma succeeds_renewed {freelistPage : PageId} {nextPageId generation : Nat}
    (hsized : pager.superblock.Sized)
    (hunlocks : Unlocks prim pager.superblock password pager.dataKey)
    (hservice : pager.needsRecovery = false) (hpages : pager.superblock.nextPageId ≤ nextPageId)
    (hbump : generationBump pager.superblock.generation = .ok generation) :
    Succeeds prim password pager
      { pager.superblock with freelistPage, nextPageId, generation } where
  inService := hservice
  sized := { hsized with generation := generationBump_lt hsized.generation hbump }
  valid := by
    simp [superblockUpdateValid, generationBump_eq_ok hbump, SuperblockV1.encrypted, hpages]
  flags := rfl
  unlocks := hunlocks

lemma leaves_takeFree (memory : PageMemory) : Leaves pager (pager.takeFree prim memory)
      fun taken => ∃ freelistPage, taken = { pager.superblock with freelistPage } := by
  unfold PagerSession.takeFree
  split
  · exact Leaves.refused _
  · refine leaves_pagerRead prim pager _ _ fun outcome cache houtcome => ?_
    rw [houtcome]
    refine Leaves.pure fun taken htaken => ?_
    obtain ⟨view, -, hrest⟩ := except_bind_eq_ok.mp htaken
    simp only [PagerSession.freelistRest, guard_eq_ok] at hrest
    exact ⟨_, (Except.ok.inj hrest.2.2).symm⟩

lemma leaves_takeNew : Leaves pager pager.takeNew fun taken =>
      taken = { pager.superblock with nextPageId := pager.superblock.nextPageId + 1 } := by
  unfold PagerSession.takeNew
  simp only
  split
  · exact Leaves.refused _
  cases hoffset : pagerOffset pager.superblock.pageSize
      (UInt64.ofNat pager.superblock.nextPageId) with
  | error error => exact Leaves.refused error
  | ok offset =>
    simp only
    split
    · exact Leaves.refused _
    have hbehind : dataOffset ≤ offset + pager.superblock.pageSize := by
      rw [pagerOffset_eq_ok hoffset]
      exact (dataOffset_le_pageOffset ..).trans (Nat.le_add_right ..)
    refine (keepsSlots_resize hbehind).leaves fun status => ?_
    cases status with
    | error error => exact ⟨_, pager.cache, rfl, fun value hvalue => (by cases hvalue)⟩
    | ok value => exact ⟨_, pager.cache, rfl, fun value hvalue => (Except.ok.inj hvalue).symm⟩

lemma leaves_takePage (memory : PageMemory) :
    Leaves pager (pager.takePage prim memory) fun taken =>
      ∃ freelistPage nextPageId, pager.superblock.nextPageId ≤ nextPageId ∧
        taken = { pager.superblock with freelistPage, nextPageId } := by
  unfold PagerSession.takePage
  split
  · refine (leaves_takeFree memory).mono ?_
    rintro _ ⟨freelistPage, rfl⟩
    exact ⟨freelistPage, _, le_refl _, rfl⟩
  · refine leaves_takeNew.mono ?_
    rintro _ rfl
    exact ⟨_, _, Nat.le_succ _, rfl⟩

/-- An allocation prepares a superblock that may follow. -/
lemma leaves_allocateNext (memory : PageMemory) (hsized : pager.superblock.Sized)
    (hunlocks : Unlocks prim pager.superblock password pager.dataKey) :
    Leaves pager (pager.allocateNext prim memory) (Succeeds prim password pager) := by
  unfold PagerSession.allocateNext
  split
  · exact Leaves.refused _
  rename_i hguard
  simp only [Bool.or_eq_true, not_or, Bool.not_eq_true] at hguard
  obtain ⟨⟨-, hservice⟩, -⟩ := hguard
  refine (leaves_takePage memory).bind fun result cache htaken => ?_
  refine Leaves.pure fun next hnext => ?_
  obtain ⟨taken, rfl, hbumped⟩ := except_bind_eq_ok.mp hnext
  obtain ⟨freelistPage, nextPageId, hpages, rfl⟩ := htaken taken rfl
  obtain ⟨generation, hbump, rfl⟩ := bumped_eq_ok hbumped
  exact succeeds_renewed hsized hunlocks hservice hpages hbump

/-- So does the release of a page. -/
lemma leaves_freeNext (memory : PageMemory) (nonce : Nonce) (pageId : PageId)
    (hsized : pager.superblock.Sized)
    (hunlocks : Unlocks prim pager.superblock password pager.dataKey) :
    Leaves pager (pager.freeNext prim memory nonce pageId) (Succeeds prim password pager) := by
  unfold PagerSession.freeNext
  split
  · exact Leaves.refused _
  rename_i hguard
  simp only [Bool.or_eq_true, not_or, Bool.not_eq_true] at hguard
  obtain ⟨⟨⟨⟨-, hservice⟩, -⟩, -⟩, -⟩ := hguard
  split
  · exact Leaves.refused _
  refine leaves_pagerRead prim pager _ _ fun outcome cache houtcome => ?_
  simp only [houtcome]
  cases outcome.result with
  | error error => exact Leaves.refused error
  | ok view =>
    simp only
    split
    · exact Leaves.refused _
    cases hbumped : PagerSession.bumped (pager.withCache cache).superblock with
    | error error => exact Leaves.refused error
    | ok next =>
      obtain ⟨generation, hbump, rfl⟩ := bumped_eq_ok hbumped
      refine Leaves.bind (leaves_pagerWrite _ _ _ _ _ _) fun status cache' _ => ?_
      refine Leaves.pure fun next hnext => ?_
      cases status with
      | error error => cases hnext
      | ok value =>
        obtain rfl := Except.ok.inj hnext
        exact succeeds_renewed hsized hunlocks hservice (le_refl _) hbump

/-- The calls that publish a superblock of their own. -/
inductive DirectCall where
  | rotatePassword (password : Bytes) (iterations : Nat)
  | allocate
  | free (pageId : PageId)

namespace DirectCall

variable {call : DirectCall} {memory : PageMemory} {nonce : Nonce} {disk : FileDisk}
  {plan : FaultPlan}

/-- What the call reports on success. -/
abbrev Value : DirectCall → Type
  | .rotatePassword _ _ => Unit
  | .allocate => PageId
  | .free _ => Unit

/-- The part of the call before it publishes. -/
def prepared (prim : Primitives) (pager : PagerSession) (memory : PageMemory) (nonce : Nonce) :
    DirectCall → FileM (Outcome SuperblockV1)
  | .rotatePassword password iterations =>
    pure (pager.rotateNext prim password iterations, pager)
  | .allocate => pager.allocateNext prim memory
  | .free pageId => pager.freeNext prim memory nonce pageId

def program (prim : Primitives) (pager : PagerSession) (memory : PageMemory) (nonce : Nonce) :
    (call : DirectCall) → FileM (Outcome call.Value)
  | .rotatePassword password iterations => pager.rotatePassword prim password iterations
  | .allocate => pager.pagerAllocate prim memory nonce
  | .free pageId => pager.pagerFree prim memory nonce pageId

/-- The password behind the call. -/
def renewed (password : Option Bytes) : DirectCall → Option Bytes
  | .rotatePassword renewed _ => some renewed
  | .allocate => password
  | .free _ => password

/-- Whatever fails, a call ends with a pager that is up to date, or it reports an error,
which is fenced exactly if its update did not break off. -/
lemma run_planned (call : DirectCall) (memory : PageMemory) (nonce : Nonce) (plan : FaultPlan)
    (hdate : UpToDate prim password pager disk) : ∃ result pager' after plan',
      (call.program prim pager memory nonce).run execPlanned (disk, plan) =
        (.ok (result, pager'), after, plan') ∧ pager'.dataKey = pager.dataKey ∧
      ((UpToDate prim (call.renewed password) pager' after ∧
          ¬BreaksOff prim password (call.prepared prim pager memory nonce) disk plan ∧
          ((∃ error, result = .error error) → call.renewed password = password)) ∨
        (∃ error, result = .error error) ∧ (Fenced prim password pager' after ↔
          ¬BreaksOff prim password (call.prepared prim pager memory nonce) disk plan)) := by
  obtain ⟨current, hsuperblock, hcurrent⟩ := hdate.selected
  have hsized : pager.superblock.Sized := hsuperblock ▸ sized_of_readSuperblock hcurrent.read
  have hunlocks : Unlocks prim pager.superblock password pager.dataKey :=
    hsuperblock ▸ hcurrent.unlocks
  -- only a rotation changes the password, and it has nothing left to fail behind its update
  cases call with
  | rotatePassword renewed iterations =>
    refine publish_planned (Leaves.pure fun next hnext => ?_) (fun next pager => ?_)
      (.inr fun next pager => ⟨(), rfl⟩) hdate
    · exact succeeds_rotateNext hsized hdate.key hnext
    · exact Leaves.pure fun _ _ => trivial
  | allocate =>
    refine publish_planned (leaves_allocateNext memory hsized hunlocks) (fun next pager => ?_)
      (.inl rfl) hdate
    refine Leaves.bind (leaves_pagerWrite _ _ _ _ _ _) fun status cache _ => ?_
    exact Leaves.pure fun _ _ => trivial
  | free pageId =>
    refine publish_planned (leaves_freeNext memory nonce pageId hsized hunlocks)
      (fun next pager => ?_) (.inl rfl) hdate
    exact Leaves.pure fun _ _ => trivial

/-- After a rotation that reports success the new password opens the file, with the
superblock of the pager and the key in use before, and no password opens it that does not
unwrap that superblock. -/
theorem rotated_password_opens {old renewed : Bytes} {iterations : Nat} {pager' : PagerSession}
    {after : FileDisk} {plan' : FaultPlan} (hdate : UpToDate prim (some old) pager disk)
    (hrun : (pager.rotatePassword prim renewed iterations).run execPlanned (disk, plan) =
      (.ok (.ok (), pager'), after, plan')) :
    OpensWith prim (some renewed) (after.bytes pager'.file) pager'.superblock pager.dataKey ∧
      ∀ secret unlocked, openSelect prim (some secret) (after.bytes pager'.file) = .ok unlocked →
        ∃ key, keyUnwrap prim pager'.superblock secret = .ok key := by
  obtain ⟨result, ended, last, plan₁, hplanned, hkey, hend⟩ :=
    (DirectCall.rotatePassword renewed iterations).run_planned ⟨true, true, true⟩
      ⟨List.replicate 24 0, rfl⟩ plan hdate
  obtain ⟨hpager, hworld⟩ := Prod.mk.inj (hrun.symm.trans hplanned)
  obtain ⟨rfl, rfl⟩ := Prod.mk.inj (Except.ok.inj hpager)
  obtain ⟨rfl, -⟩ := Prod.mk.inj hworld
  rcases hend with ⟨hended, -⟩ | ⟨⟨_, hfailed⟩, -⟩
  swap
  · cases hfailed
  obtain ⟨current, hsuperblock, hcurrent⟩ := hended.selected
  rw [← hsuperblock, ← hkey]
  refine ⟨hcurrent.opens, fun secret unlocked hselect => ?_⟩
  rw [openSelect_eq hcurrent.read] at hselect
  rcases unlock_eq_ok hselect with ⟨-, hnone, -⟩ | ⟨_, key, hsecret, hunwrap, -⟩
  · cases hnone
  · exact ⟨key, Option.some.inj hsecret ▸ hunwrap⟩

end DirectCall

end Calls

section Sample

/-- The tag of `Primitives.keyed`, which depends on all there is. -/
def keyedTag (key nonce aad plaintext : Bytes) : Bytes :=
  List.replicate 16 ((key ++ (nonce ++ (aad ++ plaintext))).foldl
    (fun sum byte => sum * 31 + byte + 1) 7)

/-- Primitives whose tags depend on the key and what is authenticated, and whose wrapping
key on the password. -/
def Primitives.keyed : Primitives where
  crc32 := Primitives.sample.crc32
  hmacSha256 := Primitives.sample.hmacSha256
  hmacSha256_length := Primitives.sample.hmacSha256_length
  pbkdf2 password salt _ := password ++ salt
  encrypt key nonce aad plaintext := (plaintext, keyedTag key nonce aad plaintext)
  decrypt key nonce aad ciphertext tag :=
    if tag = keyedTag key nonce aad ciphertext then some ciphertext else none
  ciphertext_length _ _ _ _ := rfl
  tag_length _ _ _ _ := List.length_replicate
  decrypt_encrypt _ _ _ _ := if_pos rfl
  plaintext_length _ _ _ ciphertext tag plaintext h := by
    rw [Option.ite_none_right_eq_some] at h
    rw [Option.some.inj h.2]

/-- The superblock with the key wrapped under the password. -/
def keyedWrap (superblock : SuperblockV1) (password : Bytes) : SuperblockV1 :=
  (keyWrap .keyed superblock password boundKey).toOption.getD superblock

/-- An encrypted database without pages, under the password `[1]`. -/
def keyedSuperblock : SuperblockV1 := keyedWrap { boundPager.superblock with nextPageId := 1 } [1]

def keyedSlot : Bytes :=
  (encodeSlot .keyed keyedSuperblock (some boundKey)).toOption.getD []

def keyedPager : PagerSession := { boundPager with superblock := keyedSuperblock }

def keyedDisk : FileDisk := { boundDisk with files := fun _ => ⟨keyedSlot ++ keyedSlot, []⟩ }

lemma keyed_upToDate : UpToDate .keyed (some [1]) keyedPager keyedDisk where
  index := rfl
  selected := by
    refine ⟨{ superblock := keyedSuperblock, selectedSlot := .first, validMirrorCount := 2 }, rfl,
      by decide +kernel, fun loaded hloaded => ?_,
      .inr ⟨[1], boundKey, rfl, rfl, by decide +kernel⟩⟩
    have htag : ((slotAt .keyed (keyedDisk.bytes keyedPager.file) .first).all fun loaded =>
        slotAuthTagMatches .keyed loaded.bytes boundKey) = true := by decide +kernel
    rw [hloaded] at htag
    rintro - key hkey
    obtain rfl := Option.some.inj hkey
    exact htag
  slots := by decide +kernel
  key := by
    intro key hkey
    rw [← Option.some.inj hkey]
    rfl

/-- What a run leaves beside its result. -/
lemma exists_rest {α β γ : Type} {run : α × β × γ} {result : α} (h : run.1 = result) :
    ∃ after plan, run = (result, after, plan) :=
  ⟨run.2.1, run.2.2, h ▸ rfl⟩

/-- The superblock under the password `[2]`. -/
def rotatedSuperblock : SuperblockV1 :=
  keyedWrap { keyedSuperblock with generation := 2, keyWrapId := 2 } [2]

/-- A rotation that works leaves the file to the new password. -/
theorem rotated_password_opens_keyed : ∃ after plan' pager',
      (keyedPager.rotatePassword .keyed [2] 600000).run execPlanned (keyedDisk, fun _ => none) =
        (.ok (.ok (), pager'), after, plan') ∧
      OpensWith .keyed (some [2]) (after.bytes pager'.file) rotatedSuperblock (some boundKey) ∧
      ∀ unlocked, openSelect .keyed (some [1]) (after.bytes pager'.file) ≠ .ok unlocked := by
  have hresult : ((keyedPager.rotatePassword .keyed [2] 600000).run execPlanned
      (keyedDisk, fun _ => none)).1 =
        .ok (.ok (), { keyedPager with superblock := rotatedSuperblock }) := by decide +kernel
  obtain ⟨after, plan', hrun⟩ := exists_rest hresult
  obtain ⟨hopens, honly⟩ := DirectCall.rotated_password_opens keyed_upToDate hrun
  refine ⟨after, plan', _, hrun, hopens, fun unlocked hselect => ?_⟩
  obtain ⟨key, hunwrap⟩ := honly [1] unlocked hselect
  have hrefused : keyUnwrap .keyed rotatedSuperblock [1] = .error .authentication := by
    decide +kernel
  cases hrefused.symm.trans hunwrap

end Sample

end ShibaDb
