/-
The primitives of the formats, from the code that computes them: the CRC-32 of the
headers, HMAC-SHA256, the key derivation and XChaCha20-Poly1305.  What the page and
superblock formats assume of their primitives is proved here of these.
-/
import ShibaDb.Crypto.ChaCha
import ShibaDb.Crypto.Sha256
import ShibaDb.Pager.Checksum

namespace ShibaDb

open ChaCha

/-- The cipher of the code, continued beyond the size it refuses by the identity under a
zero tag: no page and no key comes near that size. -/
def sealMessage (avx2 : Bool) (key nonce aad plaintext : Bytes) : Bytes × Bytes :=
  match xchacha20poly1305Encrypt avx2 key nonce aad plaintext with
  | .ok sealed => sealed
  | .error _ => (plaintext, List.replicate 16 0)

def openMessage (avx2 : Bool) (key nonce aad ciphertext tag : Bytes) : Option Bytes :=
  match xchacha20poly1305Decrypt avx2 key nonce aad ciphertext tag with
  | .ok plaintext => some plaintext
  | .error .invalidArgument => if tag = List.replicate 16 0 then some ciphertext else none
  | .error _ => none

section Message

variable {avx2 : Bool} {key nonce aad plaintext ciphertext tag : Bytes}

lemma sealMessage_eq (hsize : plaintext.length ≤ messageMax) :
    sealMessage avx2 key nonce aad plaintext =
      (streamXor key nonce plaintext,
        messageTag key nonce aad (streamXor key nonce plaintext)) := by
  rw [sealMessage, xchacha20poly1305Encrypt_eq avx2 hsize]

lemma sealMessage_eq_of_lt (hsize : messageMax < plaintext.length) :
    sealMessage avx2 key nonce aad plaintext = (plaintext, List.replicate 16 0) := by
  rw [sealMessage, xchacha20poly1305Encrypt, if_pos hsize]

lemma openMessage_eq (hsize : ciphertext.length ≤ messageMax) :
    openMessage avx2 key nonce aad ciphertext tag =
      if constantTimeEqual (messageTag key nonce aad ciphertext) tag 16 then
        some (streamXor key nonce ciphertext)
      else none := by
  rw [openMessage, xchacha20poly1305Decrypt_eq avx2 tag hsize]
  cases constantTimeEqual (messageTag key nonce aad ciphertext) tag 16 <;> rfl

lemma openMessage_eq_of_lt (hsize : messageMax < ciphertext.length) :
    openMessage avx2 key nonce aad ciphertext tag =
      if tag = List.replicate 16 0 then some ciphertext else none := by
  rw [openMessage, xchacha20poly1305Decrypt, if_pos hsize]

lemma length_sealMessage : (sealMessage avx2 key nonce aad plaintext).1.length = plaintext.length ∧
    (sealMessage avx2 key nonce aad plaintext).2.length = 16 := by
  rcases Nat.lt_or_ge messageMax plaintext.length with hsize | hsize
  · rw [sealMessage_eq_of_lt hsize]
    exact ⟨rfl, List.length_replicate⟩
  · rw [sealMessage_eq hsize]
    exact ⟨length_streamXor plaintext, length_messageTag _⟩

lemma openMessage_sealMessage :
    openMessage avx2 key nonce aad (sealMessage avx2 key nonce aad plaintext).1
      (sealMessage avx2 key nonce aad plaintext).2 = some plaintext := by
  rcases Nat.lt_or_ge messageMax plaintext.length with hsize | hsize
  · rw [sealMessage_eq_of_lt hsize, openMessage_eq_of_lt hsize, if_pos rfl]
  · rw [sealMessage_eq hsize, openMessage_eq ((length_streamXor plaintext).trans_le hsize),
      constantTimeEqual_self, if_pos rfl, streamXor_streamXor]

lemma length_openMessage (h : openMessage avx2 key nonce aad ciphertext tag = some plaintext) :
    plaintext.length = ciphertext.length := by
  rcases Nat.lt_or_ge messageMax ciphertext.length with hsize | hsize
  · rw [openMessage_eq_of_lt hsize, Option.ite_none_right_eq_some] at h
    rw [Option.some.inj h.2]
  · rw [openMessage_eq hsize, Option.ite_none_right_eq_some] at h
    rw [← Option.some.inj h.2, length_streamXor]

end Message

/-- The primitives of the source, on a processor with or without the vector code. -/
def Primitives.source (cpu : Sha256Cpu) (avx2 : Bool) : Primitives where
  crc32 bytes := ⟨Checksum.crc32 bytes⟩
  hmacSha256 := ShibaDb.hmacSha256 cpu
  hmacSha256_length := length_hmacSha256 cpu
  pbkdf2 := pbkdf2HmacSha256 cpu
  encrypt := sealMessage avx2
  decrypt := openMessage avx2
  ciphertext_length _ _ _ _ := length_sealMessage.1
  tag_length _ _ _ _ := length_sealMessage.2
  decrypt_encrypt _ _ _ _ := openMessage_sealMessage
  plaintext_length _ _ _ _ _ _ := length_openMessage

/-- The checksum field is read as zeros without a copy of the header. -/
lemma crc32ZeroedRange_source (cpu : Sha256Cpu) (avx2 : Bool) {bytes : Bytes} {offset size : Nat}
    (hrange : offset + size ≤ bytes.length) :
    crc32ZeroedRange (Primitives.source cpu avx2) bytes offset size =
      (Checksum.crc32ZeroedRange bytes offset size).toNat := by
  rw [Checksum.crc32ZeroedRange_of_le hrange]
  rfl

end ShibaDb
