/-
The data key of an encrypted database, wrapped under a key derived from the
password and bound to the identity fields of the superblock.
-/
import ShibaDb.Pager.SuperblockCodec

namespace ShibaDb

open LittleEndian

variable {prim : Primitives} {superblock : SuperblockV1} {password dataKey : Bytes}

def keyWrapNonce (superblock : SuperblockV1) : Bytes :=
  superblock.fileId ++ write 8 superblock.keyWrapId

def keyWrapAad (superblock : SuperblockV1) : Bytes :=
  superblock.fileId ++ (superblock.salt ++ (write 4 superblock.pageSize ++
    (write 4 superblock.flags ++ (write 4 superblock.keyWrapId ++
      write 4 superblock.kdfIterations))))

def keyArgumentsValid (superblock : SuperblockV1) (password : Bytes) : Bool :=
  password.length ≠ 0 && superblock.encrypted && superblock.keyWrapId ≠ 0
    && minKdfIterations ≤ superblock.kdfIterations
    && superblock.kdfIterations ≤ maxKdfIterations

/-- `sdb_key_wrap`: the superblock with the wrapped key and its tag. -/
def keyWrap (prim : Primitives) (superblock : SuperblockV1) (password dataKey : Bytes) :
    Except SdbError SuperblockV1 :=
  if !keyArgumentsValid superblock password then .error .invalidArgument
  else
    let wrappingKey := prim.pbkdf2 password superblock.salt superblock.kdfIterations
    let wrapped := prim.encrypt wrappingKey (keyWrapNonce superblock) (keyWrapAad superblock)
      dataKey
    .ok { superblock with wrappedKey := wrapped.1, keyWrapTag := wrapped.2 }

def keyUnwrap (prim : Primitives) (superblock : SuperblockV1) (password : Bytes) :
    Except SdbError Bytes :=
  if !keyArgumentsValid superblock password then .error .invalidArgument
  else
    let wrappingKey := prim.pbkdf2 password superblock.salt superblock.kdfIterations
    match prim.decrypt wrappingKey (keyWrapNonce superblock) (keyWrapAad superblock)
        superblock.wrappedKey superblock.keyWrapTag with
    | none => .error .authentication
    | some dataKey => .ok dataKey

/-- Wrapping changes the wrapped key and its tag only. -/
lemma keyWrap_eq_ok {wrapped : SuperblockV1}
    (h : keyWrap prim superblock password dataKey = .ok wrapped) :
    ∃ wrappedKey keyWrapTag, wrappedKey.length = dataKey.length ∧ keyWrapTag.length = 16 ∧
      wrapped = { superblock with wrappedKey, keyWrapTag } := by
  unfold keyWrap at h
  split at h
  · cases h
  · obtain rfl := Except.ok.inj h
    exact ⟨_, _, prim.ciphertext_length .., prim.tag_length .., rfl⟩

/-- An unwrapped key is as long as the wrapped one. -/
lemma keyUnwrap_length (h : keyUnwrap prim superblock password = .ok dataKey) :
    dataKey.length = superblock.wrappedKey.length := by
  simp only [keyUnwrap, Fallible.guard_eq_ok] at h
  obtain ⟨-, h⟩ := h
  split at h
  · cases h
  · rename_i hdecrypt
    obtain rfl := Except.ok.inj h
    exact prim.plaintext_length _ _ _ _ _ _ hdecrypt

/-- A wrapped key unwraps under the same password. -/
lemma keyUnwrap_keyWrap {wrapped : SuperblockV1}
    (h : keyWrap prim superblock password dataKey = .ok wrapped) :
    keyUnwrap prim wrapped password = .ok dataKey := by
  unfold keyWrap at h
  split at h
  · cases h
  · rename_i hvalid
    rw [← Except.ok.inj h]
    simp only [keyArgumentsValid, SuperblockV1.encrypted] at hvalid
    simp only [keyUnwrap, keyArgumentsValid, SuperblockV1.encrypted, if_neg hvalid, keyWrapNonce,
      keyWrapAad, prim.decrypt_encrypt]

end ShibaDb
