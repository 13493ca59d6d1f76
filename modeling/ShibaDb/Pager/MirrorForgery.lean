/-
The two selections in an open of an encrypted database.  The first takes any slot
whose checksum is right and decides whose key fields are used; only the second asks
for the tag of the header.
-/
import ShibaDb.Pager.HeaderDamage

namespace ShibaDb

open CallProgram FileSystem LittleEndian

/-- Who knows the password: the data key, and the superblocks sealed with it. -/
structure KeyHolder where
  password : Bytes
  dataKey : Bytes
  wrote : SuperblockV1 → Prop

/-- The superblock an open works with, as a function of the data file. -/
def openSelect (prim : Primitives) (password : Option Bytes) (content : Bytes) :
    Except SdbError Unlocked := do
  let result ← readSuperblock prim content
  unlock prim password content result

/-- Nobody else makes a tag or wraps a key: what an ideal MAC and an ideal cipher
grant against someone who writes slots without the password. -/
structure KeyHolder.Unforged (holder : KeyHolder) (prim : Primitives) (content : Bytes) : Prop where
  tag : ∀ slot loaded, slotAt prim content slot = some loaded →
    loaded.superblock.headerAuth = true →
    slotAuthTagMatches prim loaded.bytes holder.dataKey = true → holder.wrote loaded.superblock
  wrap : ∀ slot loaded key, slotAt prim content slot = some loaded →
    keyUnwrap prim loaded.superblock holder.password = .ok key → key = holder.dataKey

/-- A slot as the key holder left it. -/
structure KeyHolder.Intact (holder : KeyHolder) (prim : Primitives) (content : Bytes) (slot : Slot)
    (superblock : SuperblockV1) : Prop where
  sized : superblock.Sized
  sealed : superblock.headerAuth = true
  unwraps : keyUnwrap prim superblock holder.password = .ok holder.dataKey
  stored : ∃ bytes, encodeSlot prim superblock (some holder.dataKey) = .ok bytes ∧
    HoldsSlot content slot bytes

/-- A superblock that comes from the intact slot, or from the other one with its tag. -/
def KeyHolder.Genuine (holder : KeyHolder) (prim : Primitives) (content : Bytes) (slot : Slot)
    (superblock used : SuperblockV1) : Prop :=
  used = superblock ∨ ∃ other, used = other.superblock ∧
    authenticSlot prim holder.dataKey (slotAt prim content slot.peer) = some other

/-- The open works with a superblock the key holder wrote, no older than the one of the
intact slot.  The flags and key fields it goes by until then are genuine too, and it takes
nothing from the other slot unless that one authenticates. -/
def KeyHolder.Selects (holder : KeyHolder) (prim : Primitives) (content : Bytes) (slot : Slot)
    (superblock : SuperblockV1) : Prop :=
  ∃ first unlocked, readSuperblock prim content = .ok first ∧
    unlock prim (some holder.password) content first = .ok unlocked ∧
    holder.Genuine prim content slot superblock first.superblock ∧
    holder.wrote unlocked.result.superblock ∧
    superblock.generation ≤ unlocked.result.superblock.generation ∧
    unlocked.dataKey = some holder.dataKey ∧ unlocked.legacyUpgradePending = false ∧
    (authenticSlot prim holder.dataKey (slotAt prim content slot.peer) = none →
      unlocked.result = { superblock, selectedSlot := slot, validMirrorCount := 1 })

/-- The other slot cannot turn the first selection away: it is not valid, it is older,
it holds the same superblock, or it is newer, has the tag and unwraps. -/
def KeyHolder.Harmless (holder : KeyHolder) (prim : Primitives) (content : Bytes) (slot : Slot)
    (superblock : SuperblockV1) : Prop :=
  ∀ other, slotAt prim content slot.peer = some other →
    other.superblock.generation < superblock.generation ∨ other.superblock = superblock ∨
      superblock.generation < other.superblock.generation ∧
        authenticSlot prim holder.dataKey (some other) = some other ∧
        keyUnwrap prim other.superblock holder.password = .ok holder.dataKey

section Selections

variable {prim : Primitives} {holder : KeyHolder} {content : Bytes} {slot : Slot}
  {superblock : SuperblockV1} {other : LoadedSlot} {key : Bytes} {result : SuperblockReadResult}

/-- An open stops where its selection fails. -/
lemma run_pagerOpen_refused {password : Option Bytes} {disk : FileDisk} {file : FileInode}
    {error : SdbError} (hname : disk.names .database = some file)
    (h : openSelect prim password (disk.bytes file) = .error error) :
    (pagerOpen prim password).run exec disk = (.error error, disk) := by
  rw [pagerOpen, run_bind, run_fileOpenExisting hname, resume_ok, run_bind,
    run_superblockStoreReadFile]
  unfold openSelect at h
  cases hread : readSuperblock prim (disk.bytes file) with
  | error refused =>
    rw [hread] at h
    rw [resume_error, Except.error.inj h]
  | ok result =>
    rw [hread] at h
    rw [resume_ok, run_bind, run_pagerUnlock, show unlock prim password _ result = _ from h,
      resume_error]

/-- Only an encrypted database has an authenticated header. -/
lemma encrypted_of_unwrap {password : Bytes} (h : keyUnwrap prim superblock password = .ok key) :
    superblock.encrypted = true ∧ password ≠ [] := by
  simp only [keyUnwrap, Fallible.guard_eq_ok] at h
  have hvalid := h.1
  simp only [keyArgumentsValid, Bool.not_eq_true', Bool.not_eq_false, Bool.and_eq_true,
    decide_eq_true_eq] at hvalid
  refine ⟨hvalid.1.1.1.2, ?_⟩
  rintro rfl
  exact absurd rfl hvalid.1.1.1.1

/-- With its key at hand an authenticated database is selected by the tags. -/
lemma unlock_sealed {password : Bytes} (hsealed : result.superblock.headerAuth = true)
    (hunwrap : keyUnwrap prim result.superblock password = .ok key) :
    unlock prim (some password) content result =
      (readAuthenticSuperblock prim key content).map fun result =>
        { result, dataKey := some key, legacyUpgradePending := false } := by
  obtain ⟨hencrypted, hpassword⟩ := encrypted_of_unwrap hunwrap
  obtain ⟨byte, rest, rfl⟩ := List.exists_cons_of_ne_nil hpassword
  simp only [unlock, hencrypted, if_true, hunwrap, hsealed, bind, Except.bind]
  cases readAuthenticSuperblock prim key content <;> rfl

/-- Where the header calls itself unauthenticated it is used as it is. -/
lemma unlock_unsealed {password : Bytes} (hsealed : ¬result.superblock.headerAuth = true)
    (hunwrap : keyUnwrap prim result.superblock password = .ok key) :
    unlock prim (some password) content result =
      .ok { result, dataKey := some key, legacyUpgradePending := true } := by
  obtain ⟨hencrypted, hpassword⟩ := encrypted_of_unwrap hunwrap
  obtain ⟨byte, rest, rfl⟩ := List.exists_cons_of_ne_nil hpassword
  simp only [unlock, hencrypted, if_true, hunwrap, hsealed, bind, Except.bind]
  rfl

lemma KeyHolder.Intact.loads (hintact : holder.Intact prim content slot superblock) :
    ∃ bytes, slotAt prim content slot = some { bytes, superblock } ∧
      authenticSlot prim holder.dataKey (slotAt prim content slot) =
        some { bytes, superblock } := by
  obtain ⟨bytes, hencode, hholds⟩ := hintact.stored
  have hslot := slotAt_of_readAt hholds (slotSuperblock_encodeSlot hintact.sized hencode)
  refine ⟨bytes, hslot, ?_⟩
  rw [hslot, authenticSlot, Option.filter_eq_some_iff]
  refine ⟨rfl, ?_⟩
  simp [hintact.sealed, slotAuthTagMatches_encodeSlot hintact.sized hintact.sealed hencode]

section

variable (hintact : holder.Intact prim content slot superblock) (hunforged : holder.Unforged prim
  content)

include hintact hunforged

/-- Among the authentic mirrors the intact slot or a newer one is selected. -/
lemma KeyHolder.Intact.reads
    (hpeer : ∀ other, slotAt prim content slot.peer = some other →
      other.superblock.generation ≠ superblock.generation ∨ other.superblock = superblock) :
    ∃ result, readAuthenticSuperblock prim holder.dataKey content = .ok result ∧
      holder.wrote result.superblock ∧ superblock.generation ≤ result.superblock.generation ∧
      (authenticSlot prim holder.dataKey (slotAt prim content slot.peer) = none →
        result = { superblock, selectedSlot := slot, validMirrorCount := 1 }) := by
  obtain ⟨bytes, hslot, hauthentic⟩ := hintact.loads
  have hwrote : holder.wrote superblock := by
    obtain ⟨hloaded, hsealed, htag⟩ := authenticSlot_eq_some hauthentic
    exact hunforged.tag slot _ hloaded hsealed htag
  have hmine : authenticMirror prim holder.dataKey content slot = some { bytes, superblock } :=
    hauthentic
  rw [readAuthenticSuperblock_eq]
  cases hother : authenticMirror prim holder.dataKey content slot.peer with
  | none =>
    exact ⟨_, selectMirror_alone hmine hother, hwrote, le_rfl, fun _ => rfl⟩
  | some other =>
    obtain ⟨hloaded, hsealed, htag⟩ := authenticSlot_eq_some hother
    have hnot : authenticMirror prim holder.dataKey content slot.peer ≠ none := by simp [hother]
    rcases lt_trichotomy other.superblock.generation superblock.generation with
      hlt | heq | hgt
    · exact ⟨_, selectMirror_newer hmine hother hlt, hwrote, le_rfl, fun hnone =>
        absurd hnone hnot⟩
    · have hsame := (hpeer other hloaded).resolve_left (not_not.mpr heq)
      exact ⟨_, selectMirror_same hmine hother hsame, hwrote, le_rfl, fun hnone =>
        absurd hnone hnot⟩
    · exact ⟨_, selectMirror_older hmine hother hgt, hunforged.tag _ other hloaded hsealed htag,
        hgt.le, fun hnone => absurd hnone hnot⟩

/-- A first selection with a genuine header that unwraps leads to the second. -/
lemma KeyHolder.Intact.selects_of_unwrap (hread : readSuperblock prim content = .ok result)
    (hgenuine : holder.Genuine prim content slot superblock result.superblock)
    (hsealed : result.superblock.headerAuth = true)
    (hunwrap : keyUnwrap prim result.superblock holder.password = .ok holder.dataKey)
    (hpeer : ∀ other, slotAt prim content slot.peer = some other →
      other.superblock.generation ≠ superblock.generation ∨ other.superblock = superblock) :
    holder.Selects prim content slot superblock := by
  obtain ⟨authentic, hauthentic, hwrote, hgeneration, halone⟩ := hintact.reads hunforged hpeer
  have hunlock : unlock prim (some holder.password) content result = .ok
      { result := authentic, dataKey := some holder.dataKey, legacyUpgradePending := false } := by
    rw [unlock_sealed hsealed hunwrap, hauthentic]
    rfl
  exact ⟨result, _, hread, hunlock, hgenuine, hwrote, hgeneration, rfl, rfl, halone⟩

lemma KeyHolder.Intact.selects_of_harmless
    (hharmless : holder.Harmless prim content slot superblock) :
    holder.Selects prim content slot superblock := by
  obtain ⟨bytes, hslot, -⟩ := hintact.loads
  by_cases hnewer : ∃ other, slotAt prim content slot.peer = some other ∧
    superblock.generation < other.superblock.generation
  · obtain ⟨other, hother, hgt⟩ := hnewer
    obtain ⟨-, hauthentic, hunwrap⟩ := ((hharmless other hother).resolve_left
      hgt.not_gt).resolve_left fun hsame => hgt.ne' (by rw [hsame])
    refine hintact.selects_of_unwrap hunforged (selectMirror_older hslot hother hgt)
      (.inr ⟨other, rfl, hother ▸ hauthentic⟩) (authenticSlot_eq_some hauthentic).2.1 hunwrap ?_
    intro loaded hloaded
    obtain rfl := Option.some.inj (hother.symm.trans hloaded)
    exact .inl hgt.ne'
  · have hpeer : ∀ other, slotAt prim content slot.peer = some other →
        other.superblock.generation < superblock.generation ∨ other.superblock = superblock := by
      intro other hother
      rcases hharmless other hother with hlt | hsame | ⟨hgt, -⟩
      · exact .inl hlt
      · exact .inr hsame
      · exact absurd ⟨other, hother, hgt⟩ hnewer
    obtain ⟨result, hread, hsame⟩ := selectMirror_of_peer hslot hpeer
    refine hintact.selects_of_unwrap hunforged hread (.inl hsame) (hsame ▸ hintact.sealed)
      (hsame ▸ hintact.unwraps) fun other hother => ?_
    exact (hpeer other hother).imp_left ne_of_lt

end

/-- With one slot intact an open goes by what the key holder wrote exactly if the other
slot is harmless to the selection that comes before the authentication. -/
theorem authenticated_selection_iff (hintact : holder.Intact prim content slot superblock)
    (hunforged : holder.Unforged prim content) :
    holder.Selects prim content slot superblock ↔ holder.Harmless prim content slot superblock := by
  refine ⟨fun hselects other hother => ?_, hintact.selects_of_harmless hunforged⟩
  obtain ⟨first, unlocked, hread, hunlock, hgenuine, -, -, hkey, -⟩ := hselects
  obtain ⟨bytes, hslot, -⟩ := hintact.loads
  rcases lt_trichotomy other.superblock.generation superblock.generation with hlt | heq | hgt
  · exact .inl hlt
  · refine .inr (.inl ?_)
    by_contra hdiffer
    cases hread.symm.trans (selectMirror_split hslot hother heq hdiffer)
  · -- the first selection is the other slot, so that one has to be genuine
    obtain rfl := Except.ok.inj (hread.symm.trans (selectMirror_older hslot hother hgt))
    rcases unlock_eq_ok hunlock with ⟨-, hnone, -⟩ | ⟨secret, key, hsecret, hunwrap, hkey', -⟩
    · cases hnone
    obtain rfl := Option.some.inj hsecret
    obtain rfl := Option.some.inj (hkey'.symm.trans hkey)
    rcases hgenuine with hsame | ⟨loaded, -, hauthentic⟩
    · exact absurd (congrArg (·.generation) hsame) hgt.ne'
    · rw [hother] at hauthentic
      obtain rfl := Option.some.inj (authenticSlot_eq_some hauthentic).1
      exact .inr (.inr ⟨hgt, hauthentic, hunwrap⟩)

end Selections

section Sample

def sealedHolder : KeyHolder :=
  { password := [1], dataKey := sealedKey, wrote := (· = sealedSuperblock) }

/-- A slot made without the key: a header with its checksum, and no tag. -/
def forgedSlot (superblock : SuperblockV1) : Bytes :=
  superblockHeader .sample superblock ++
    List.replicate (superblockSlotSize - superblockHeaderSize) 0

/-- The slot of the key holder and a forged one. -/
def forgedContent (superblock : SuperblockV1) : Bytes :=
  sealedSlot ++ (forgedSlot superblock ++ [])

lemma sealed_intact (superblock : SuperblockV1) :
    sealedHolder.Intact .sample (forgedContent superblock) .first sealedSuperblock := by
  have hsized : sealedSuperblock.Sized := by constructor <;> decide
  have hencode : encodeSlot .sample sealedSuperblock (some sealedKey) = .ok sealedSlot :=
    Fallible.eq_ok_getD [] (by decide +kernel)
  have hlength := encodeSlot_length hsized hencode
  refine ⟨hsized, by decide, by decide +kernel, sealedSlot, hencode, ?_⟩
  rw [HoldsSlot, ByteFile.readAt, if_pos]
  · rw [Slot.offset, forgedContent, field_head _ hlength]
  · simp only [forgedContent, List.length_append, hlength, Slot.offset]
    omega

lemma forged_slotAt {superblock : SuperblockV1} (hsized : superblock.Sized)
    (hslot : slotSuperblock .sample (forgedSlot superblock) = some superblock) :
    slotAt .sample (forgedContent superblock) .second =
      some { bytes := forgedSlot superblock, superblock } := by
  have hlength : sealedSlot.length = superblockSlotSize := by decide +kernel
  have hforged : (forgedSlot superblock).length = superblockSlotSize := by
    rw [forgedSlot, List.length_append, superblockHeader_length hsized, List.length_replicate]
    rfl
  refine slotAt_of_readAt ?_ hslot
  rw [ByteFile.readAt, if_pos]
  · rw [Slot.offset, forgedContent, field_skip _ hlength.le, hlength, Nat.sub_self,
      field_head _ hforged]
  · simp only [forgedContent, List.length_append, hlength, hforged, Slot.offset]
    omega

/-- Nobody forged a tag in such a file. -/
lemma forged_unforged {superblock : SuperblockV1} (hsized : superblock.Sized)
    (hslot : slotSuperblock .sample (forgedSlot superblock) = some superblock)
    (htag : slotAuthTagMatches .sample (forgedSlot superblock) sealedKey = false)
    (hwrap : ∀ key, keyUnwrap .sample superblock [1] = .ok key → key = sealedKey) :
    sealedHolder.Unforged .sample (forgedContent superblock) := by
  obtain ⟨bytes, hfirst, -⟩ := (sealed_intact superblock).loads
  have hsecond := forged_slotAt hsized hslot
  refine ⟨?_, ?_⟩
  · intro slot loaded hloaded hsealed hmatches
    cases slot with
    | first =>
      obtain rfl := Option.some.inj (hfirst.symm.trans hloaded)
      rfl
    | second =>
      obtain rfl := Option.some.inj (hsecond.symm.trans hloaded)
      exact absurd (htag.symm.trans hmatches) (by decide)
  · intro slot loaded key hloaded hunwrap
    cases slot with
    | first =>
      obtain rfl := Option.some.inj (hfirst.symm.trans hloaded)
      exact (Except.ok.inj ((sealed_intact superblock).unwraps.symm.trans hunwrap)).symm
    | second =>
      obtain rfl := Option.some.inj (hsecond.symm.trans hloaded)
      exact hwrap key hunwrap

/-- A copy of the header without its tag is passed over. -/
theorem authenticated_selection_iff_untagged :
    sealedHolder.Selects .sample (forgedContent sealedSuperblock) .first sealedSuperblock := by
  have hsized : sealedSuperblock.Sized := by constructor <;> decide
  have hslot : slotSuperblock .sample (forgedSlot sealedSuperblock) = some sealedSuperblock := by
    decide +kernel
  have hunwrap : keyUnwrap .sample sealedSuperblock [1] = .ok sealedKey := by decide +kernel
  refine (authenticated_selection_iff (sealed_intact _) (forged_unforged hsized hslot
    (by decide +kernel) fun key hkey => (Except.ok.inj (hunwrap.symm.trans hkey)).symm)).mpr ?_
  intro other hother
  obtain rfl := Option.some.inj ((forged_slotAt hsized hslot).symm.trans hother)
  exact .inr (.inl rfl)

/-- A newer header with a key nobody wrapped. -/
def strangeSuperblock : SuperblockV1 :=
  { sealedSuperblock with generation := 2, keyWrapTag := List.replicate 16 2 }

/-- A newer header with the holder's key fields and other pages. -/
def copiedSuperblock : SuperblockV1 := { sealedSuperblock with generation := 2, nextPageId := 9 }

/-- The intact slot does not help: a newer slot with other key fields makes the open fail,
and one that copies them is the one whose key is unwrapped. -/
theorem forged_slot_selected :
    (sealedHolder.Intact .sample (forgedContent strangeSuperblock) .first sealedSuperblock ∧
      sealedHolder.Unforged .sample (forgedContent strangeSuperblock) ∧
      (pagerOpen .sample (some [1])).run exec (restDisk (forgedContent strangeSuperblock) []) =
        (.error .authentication, restDisk (forgedContent strangeSuperblock) [])) ∧
    sealedHolder.Intact .sample (forgedContent copiedSuperblock) .first sealedSuperblock ∧
      sealedHolder.Unforged .sample (forgedContent copiedSuperblock) ∧
      readSuperblock .sample (forgedContent copiedSuperblock) =
        .ok { superblock := copiedSuperblock, selectedSlot := .second, validMirrorCount := 2 } ∧
      ¬sealedHolder.Selects .sample (forgedContent copiedSuperblock) .first sealedSuperblock := by
  have hstrange : keyUnwrap .sample strangeSuperblock [1] = .error .authentication := by
    decide +kernel
  have hunwrap : keyUnwrap .sample copiedSuperblock [1] = .ok sealedKey := by decide +kernel
  have hsized : copiedSuperblock.Sized := by constructor <;> decide
  have hslot : slotSuperblock .sample (forgedSlot copiedSuperblock) = some copiedSuperblock := by
    decide +kernel
  have htag : slotAuthTagMatches .sample (forgedSlot copiedSuperblock) sealedKey = false := by
    decide +kernel
  have hread : readSuperblock .sample (forgedContent copiedSuperblock) =
      .ok { superblock := copiedSuperblock, selectedSlot := .second, validMirrorCount := 2 } := by
    obtain ⟨bytes, hfirst, -⟩ := (sealed_intact copiedSuperblock).loads
    exact selectMirror_older hfirst (forged_slotAt hsized hslot) Nat.one_lt_two
  refine ⟨⟨sealed_intact _, ?_, ?_⟩, sealed_intact _, ?_, hread, ?_⟩
  · refine forged_unforged (by constructor <;> decide) (by decide +kernel) (by decide +kernel) ?_
    intro key hkey
    cases hstrange.symm.trans hkey
  · exact run_pagerOpen_refused rfl (by decide +kernel)
  · exact forged_unforged hsized hslot htag fun key hkey =>
      (Except.ok.inj (hunwrap.symm.trans hkey)).symm
  · rintro ⟨first, unlocked, hfirst, -, hgenuine, -⟩
    obtain rfl := Except.ok.inj (hread.symm.trans hfirst)
    rcases hgenuine with hsame | ⟨other, -, hauthentic⟩
    · cases hsame
    · obtain ⟨hother, -, hmatches⟩ := authenticSlot_eq_some hauthentic
      obtain rfl := Option.some.inj ((forged_slotAt hsized hslot).symm.trans hother)
      cases htag.symm.trans hmatches

end Sample

end ShibaDb
