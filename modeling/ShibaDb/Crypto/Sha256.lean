/-
`sha256.c`: SHA-256 over a message that arrives in pieces.  The context keeps the bytes
that do not fill a block yet; the last step pads what is left.  Whatever the pieces are,
the digest is the compression function iterated over the padded message.
-/
import ShibaDb.Lib.BlockStream
import ShibaDb.Status

namespace ShibaDb

open LittleEndian BlockStream List

/-- `sdb_sha256_constants`. -/
def sha256Constants : Array UInt32 := #[
  0x428a2f98, 0x71374491, 0xb5c0fbcf, 0xe9b5dba5, 0x3956c25b, 0x59f111f1, 0x923f82a4, 0xab1c5ed5,
  0xd807aa98, 0x12835b01, 0x243185be, 0x550c7dc3, 0x72be5d74, 0x80deb1fe, 0x9bdc06a7, 0xc19bf174,
  0xe49b69c1, 0xefbe4786, 0x0fc19dc6, 0x240ca1cc, 0x2de92c6f, 0x4a7484aa, 0x5cb0a9dc, 0x76f988da,
  0x983e5152, 0xa831c66d, 0xb00327c8, 0xbf597fc7, 0xc6e00bf3, 0xd5a79147, 0x06ca6351, 0x14292967,
  0x27b70a85, 0x2e1b2138, 0x4d2c6dfc, 0x53380d13, 0x650a7354, 0x766a0abb, 0x81c2c92e, 0x92722c85,
  0xa2bfe8a1, 0xa81a664b, 0xc24b8b70, 0xc76c51a3, 0xd192e819, 0xd6990624, 0xf40e3585, 0x106aa070,
  0x19a4c116, 0x1e376c08, 0x2748774c, 0x34b0bcb5, 0x391c0cb3, 0x4ed8aa4a, 0x5b9cca4f, 0x682e6ff3,
  0x748f82ee, 0x78a5636f, 0x84c87814, 0x8cc70208, 0x90befffa, 0xa4506ceb, 0xbef9a3f7, 0xc67178f2]

def rotr32 (value amount : UInt32) : UInt32 := (value >>> amount) ||| (value <<< (32 - amount))

def readU32Be (input : Bytes) : UInt32 :=
  ((input.getD 0 0).toUInt32 <<< 24) ||| ((input.getD 1 0).toUInt32 <<< 16)
    ||| ((input.getD 2 0).toUInt32 <<< 8) ||| (input.getD 3 0).toUInt32

def writeU32Be (value : UInt32) : Bytes :=
  [(value >>> 24).toUInt8, (value >>> 16).toUInt8, (value >>> 8).toUInt8, value.toUInt8]

/-- The eight words of the state. -/
structure Sha256Words where
  (a b c d e f g h : UInt32)
  deriving DecidableEq, Repr

/-- One step of the message schedule. -/
def sha256Extend (schedule : Array UInt32) (index : Nat) : Array UInt32 :=
  let s0 := rotr32 schedule[index - 15]! 7 ^^^ rotr32 schedule[index - 15]! 18
    ^^^ (schedule[index - 15]! >>> 3)
  let s1 := rotr32 schedule[index - 2]! 17 ^^^ rotr32 schedule[index - 2]! 19
    ^^^ (schedule[index - 2]! >>> 10)
  schedule.push (schedule[index - 16]! + s0 + schedule[index - 7]! + s1)

def sha256Schedule (block : Bytes) : Array UInt32 :=
  (List.range' 16 48).foldl sha256Extend
    ((Array.range 16).map fun index => readU32Be (field (index * 4) 4 block))

/-- One round. -/
def sha256Round (schedule : Array UInt32) (words : Sha256Words) (index : Nat) : Sha256Words :=
  let sum1 := rotr32 words.e 6 ^^^ rotr32 words.e 11 ^^^ rotr32 words.e 25
  let choose := (words.e &&& words.f) ^^^ (~~~words.e &&& words.g)
  let temporary1 := words.h + sum1 + choose + sha256Constants[index]! + schedule[index]!
  let sum0 := rotr32 words.a 2 ^^^ rotr32 words.a 13 ^^^ rotr32 words.a 22
  let majority := (words.a &&& words.b) ^^^ (words.a &&& words.c) ^^^ (words.b &&& words.c)
  let temporary2 := sum0 + majority
  { a := temporary1 + temporary2, b := words.a, c := words.b, d := words.c
    e := words.d + temporary1, f := words.e, g := words.f, h := words.g }

/-- `sdb_sha256_transform_scalar`. -/
def sha256TransformScalar (state : Sha256Words) (block : Bytes) : Sha256Words :=
  let last := (List.range 64).foldl (sha256Round (sha256Schedule block)) state
  { a := state.a + last.a, b := state.b + last.b, c := state.c + last.c, d := state.d + last.d
    e := state.e + last.e, f := state.f + last.f, g := state.g + last.g, h := state.h + last.h }

/-- What the processor offers for SHA-256: two features, and the kernel that needs them. -/
structure Sha256Cpu where
  sha : Bool
  sse41 : Bool
  shani : Sha256Words → Bytes → Sha256Words

/-- `sdb_sha256_transform`. -/
def sha256Transform (cpu : Sha256Cpu) : Sha256Words → Bytes → Sha256Words :=
  if cpu.sha && cpu.sse41 then cpu.shani else sha256TransformScalar

/-- `sdb_sha256_context`; the buffer is the part of it that is filled. -/
structure Sha256Context where
  state : Sha256Words
  bitCount : UInt64
  buffer : Bytes
  deriving DecidableEq, Repr

def sha256Initial : Sha256Words :=
  { a := 0x6a09e667, b := 0xbb67ae85, c := 0x3c6ef372, d := 0xa54ff53a
    e := 0x510e527f, f := 0x9b05688c, g := 0x1f83d9ab, h := 0x5be0cd19 }

def sha256Init : Sha256Context := { state := sha256Initial, bitCount := 0, buffer := [] }

/-- One turn of the loop of `sdb_sha256_update`: take what the block has room for. -/
def sha256Take (cpu : Sha256Cpu) (context : Sha256Context) (piece : Bytes) : Sha256Context :=
  let buffer := context.buffer ++ piece
  let bitCount := context.bitCount + UInt64.ofNat piece.length * 8
  if buffer.length = 64 then
    { state := sha256Transform cpu context.state buffer, bitCount, buffer := [] }
  else { context with bitCount, buffer }

def sha256UpdateLoop (cpu : Sha256Cpu) : Nat → Sha256Context → Bytes → Sha256Context
  | 0, context, _ => context
  | fuel + 1, context, data =>
    if data.length = 0 then context
    else
      let take := min data.length (64 - context.buffer.length)
      sha256UpdateLoop cpu fuel (sha256Take cpu context (data.take take)) (data.drop take)

/-- `sdb_sha256_update`: every turn of the loop takes a byte at least. -/
def sha256Update (cpu : Sha256Cpu) (context : Sha256Context) (data : Bytes) : Sha256Context :=
  sha256UpdateLoop cpu data.length context data

def sha256Digest (state : Sha256Words) : Bytes :=
  [state.a, state.b, state.c, state.d, state.e, state.f, state.g, state.h].flatMap writeU32Be

/-- `sdb_sha256_final`. -/
def sha256Final (cpu : Sha256Cpu) (context : Sha256Context) : Bytes :=
  let buffer := context.buffer ++ [0x80]
  let (state, buffer) :=
    if buffer.length > 56 then
      -- no room for the length: it goes into a block of its own
      (sha256Transform cpu context.state (buffer ++ List.replicate (64 - buffer.length) 0), [])
    else (context.state, buffer)
  let block := buffer ++ List.replicate (56 - buffer.length) 0
    ++ (write 8 context.bitCount.toNat).reverse
  sha256Digest (sha256Transform cpu state block)

/-- `sdb_sha256`. -/
def sha256 (cpu : Sha256Cpu) (data : Bytes) : Bytes :=
  sha256Final cpu (if data.length ≠ 0 then sha256Update cpu sha256Init data else sha256Init)

/-- What is appended to a message of this length: a one bit, zeros to the last eight bytes
of a block, and the number of bits. -/
def sha256Padding (length : Nat) : Bytes :=
  0x80 :: (List.replicate ((119 - length % 64) % 64) 0 ++ (write 8 (8 * length)).reverse)

/-- The digest by its definition: the padded message, block after block. -/
def sha256Padded (cpu : Sha256Cpu) (message : Bytes) : Bytes :=
  sha256Digest ((blocks 64 (message ++ sha256Padding message.length)).foldl
    (sha256Transform cpu) sha256Initial)

section Streaming

variable {cpu : Sha256Cpu} {context : Sha256Context} {message : Bytes}

/-- The context has taken in the message. -/
structure Sha256Took (cpu : Sha256Cpu) (message : Bytes) (context : Sha256Context) : Prop where
  absorbed : Absorbed (sha256Transform cpu) 64 sha256Initial message context.state context.buffer
  counted : context.bitCount = UInt64.ofNat (8 * message.length)

lemma sha256Took_init : Sha256Took cpu [] sha256Init :=
  ⟨Absorbed.nil (by decide), rfl⟩

section

variable (h : Sha256Took cpu message context)

include h

lemma Sha256Took.take (piece : Bytes)
    (hpiece : context.buffer.length + piece.length ≤ 64) :
    Sha256Took cpu (message ++ piece) (sha256Take cpu context piece) := by
  have hcount : context.bitCount + UInt64.ofNat piece.length * 8 =
      UInt64.ofNat (8 * (message ++ piece).length) := by
    rw [h.counted, length_append, Nat.mul_add, UInt64.ofNat_add, Nat.mul_comm 8 piece.length,
      UInt64.ofNat_mul piece.length]
    rfl
  unfold sha256Take
  simp only
  split
  · next hfull => exact ⟨h.absorbed.fill hfull, hcount⟩
  · next hfull =>
      refine ⟨h.absorbed.wait ?_, hcount⟩
      rw [length_append] at hfull ⊢
      omega

/-- The loop takes in the data whole: no turn of it stalls. -/
lemma Sha256Took.updateLoop {fuel : Nat} {data : Bytes}
    (hfuel : data.length ≤ fuel) :
    Sha256Took cpu (message ++ data) (sha256UpdateLoop cpu fuel context data) := by
  induction fuel generalizing message context data with
  | zero =>
    obtain rfl := List.length_eq_zero_iff.mp (Nat.le_zero.mp hfuel)
    rwa [append_nil]
  | succ fuel ih =>
    unfold sha256UpdateLoop
    split
    · next hempty =>
        obtain rfl := List.length_eq_zero_iff.mp hempty
        rwa [append_nil]
    · next hdata =>
        have hroom := h.absorbed.short
        have htaken := h.take (data.take (min data.length (64 - context.buffer.length)))
          (by rw [length_take]; omega)
        have hleft : (data.drop (min data.length (64 - context.buffer.length))).length ≤ fuel := by
          rw [length_drop]
          omega
        have hrest := ih htaken hleft
        rwa [append_assoc, take_append_drop] at hrest

lemma Sha256Took.update (data : Bytes) :
    Sha256Took cpu (message ++ data) (sha256Update cpu context data) :=
  h.updateLoop (le_refl _)

lemma Sha256Took.updates (pieces : List Bytes) :
    Sha256Took cpu (message ++ pieces.flatten) (pieces.foldl (sha256Update cpu) context) := by
  induction pieces generalizing message context with
  | nil => rwa [flatten_nil, append_nil]
  | cons piece pieces ih =>
    rw [flatten_cons, ← append_assoc]
    exact ih (h.update piece)

lemma write_bitCount :
    write 8 context.bitCount.toNat = write 8 (8 * message.length) := by
  rw [h.counted, UInt64.toNat_ofNat', ← write_mod 8 (8 * message.length)]
  rfl

/-- The last block, or the last two, are what the padding makes of the rest. -/
lemma Sha256Took.final :
    sha256Final cpu context = sha256Padded cpu message := by
  have hlength := h.absorbed.length_mod
  have hshort := h.absorbed.short
  have hone : (context.buffer ++ [0x80]).length = context.buffer.length + 1 := length_append
  unfold sha256Final sha256Padded
  rw [write_bitCount h]
  generalize hbits : (write 8 (8 * message.length)).reverse = bits
  have height : bits.length = 8 := by rw [← hbits, length_reverse, write_length]
  simp only [hone]
  by_cases hroom : context.buffer.length + 1 > 56
  · -- the one bit and zeros fill the block, and the length has the next one
    have hpadding : sha256Padding message.length =
        [0x80] ++ List.replicate (63 - context.buffer.length) 0 ++
          (List.replicate 56 0 ++ bits) := by
      have hzeros : (119 - context.buffer.length) % 64 = 63 - context.buffer.length + 56 := by omega
      rw [sha256Padding, hlength, hbits, hzeros, replicate_add]
      simp
    have hfirst := h.absorbed.fill
      (show (context.buffer ++ ([0x80] ++ List.replicate (63 - context.buffer.length) 0)).length
        = 64 by simp; omega)
    have hlast := hfirst.fill
      (show ([] ++ (List.replicate 56 0 ++ bits)).length = 64 by simp [height])
    rw [hpadding, ← append_assoc, ← hlast.state_eq]
    simp only [if_pos hroom, Nat.reduceSubDiff, append_assoc, nil_append,
      length_nil, Nat.sub_zero]
  · have hpadding : sha256Padding message.length =
        [0x80] ++ List.replicate (55 - context.buffer.length) 0 ++ bits := by
      have hzeros : (119 - context.buffer.length) % 64 = 55 - context.buffer.length := by omega
      rw [sha256Padding, hlength, hbits, hzeros]
      rfl
    have hlast := h.absorbed.fill
      (show (context.buffer ++ ([0x80] ++ List.replicate (55 - context.buffer.length) 0 ++
        bits)).length = 64 by simp [height]; omega)
    rw [hpadding, ← hlast.state_eq]
    simp only [if_neg hroom, hone, Nat.reduceSubDiff, append_assoc]

end

/-- However the message is divided, the digest is that of the padded message; and so is the
digest of the message in one piece. -/
theorem sha256_streaming (cpu : Sha256Cpu) (pieces : List Bytes) :
    sha256Final cpu (pieces.foldl (sha256Update cpu) sha256Init) = sha256Padded cpu pieces.flatten ∧
      sha256 cpu pieces.flatten = sha256Padded cpu pieces.flatten := by
  refine ⟨(sha256Took_init.updates pieces).final, ?_⟩
  unfold sha256
  split
  · exact (sha256Took_init.update pieces.flatten).final
  · next hempty =>
      rw [List.length_eq_zero_iff.mp (not_not.mp hempty)]
      exact sha256Took_init.final

end Streaming

section Keyed

/-- `sdb_hmac_sha256`. -/
def hmacSha256 (cpu : Sha256Cpu) (key data : Bytes) : Bytes :=
  let normalized :=
    if key.length > 64 then sha256 cpu key ++ List.replicate 32 0
    else key ++ List.replicate (64 - key.length) 0
  let context := sha256Update cpu sha256Init (normalized.map (· ^^^ 0x36))
  let context := if data.length ≠ 0 then sha256Update cpu context data else context
  let innerHash := sha256Final cpu context
  let context := sha256Update cpu sha256Init (normalized.map (· ^^^ 0x5c))
  sha256Final cpu (sha256Update cpu context innerHash)

/-- The turns of the inner loop of `sdb_pbkdf2_hmac_sha256`. -/
def pbkdf2Rounds (cpu : Sha256Cpu) (password : Bytes) : Nat → Bytes → Bytes → Bytes
  | 0, _, result => result
  | turns + 1, u, result =>
    let u := hmacSha256 cpu password u
    pbkdf2Rounds cpu password turns u (List.zipWith (· ^^^ ·) result u)

/-- `sdb_pbkdf2_hmac_sha256` for the 32 bytes its callers ask for: one block. -/
def pbkdf2HmacSha256 (cpu : Sha256Cpu) (password salt : Bytes) (iterations : Nat) : Bytes :=
  let u := hmacSha256 cpu password (salt ++ writeU32Be 1)
  pbkdf2Rounds cpu password (iterations - 1) u u

lemma length_sha256Digest (state : Sha256Words) : (sha256Digest state).length = 32 := rfl

lemma length_hmacSha256 (cpu : Sha256Cpu) (key data : Bytes) :
    (hmacSha256 cpu key data).length = 32 :=
  length_sha256Digest _

end Keyed

section Vector

/-- A processor without the extensions. -/
def plainCpu : Sha256Cpu := { sha := false, sse41 := false, shani := sha256TransformScalar }

example : sha256 plainCpu [0x61, 0x62, 0x63] =
    [0xba, 0x78, 0x16, 0xbf, 0x8f, 0x01, 0xcf, 0xea, 0x41, 0x41, 0x40, 0xde, 0x5d, 0xae, 0x22, 0x23,
     0xb0, 0x03, 0x61, 0xa3, 0x96, 0x17, 0x7a, 0x9c, 0xb4, 0x10, 0xff, 0x61, 0xf2, 0x00, 0x15, 0xad]
    := by decide +kernel

end Vector

end ShibaDb
