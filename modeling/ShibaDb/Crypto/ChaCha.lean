/-
`xchacha20poly1305.c` and `chacha_avx2.c`: the stream cipher block by block and eight
blocks at a time, and the authenticated encryption on top of it.  A register of the
vector code holds one word of eight states; every lane of it computes what the scalar
code does with the counter of the lane.
-/
import ShibaDb.Crypto.Poly1305

namespace ShibaDb

namespace ChaCha

open LittleEndian

/-- The operations of a round. -/
structure WordOps (W : Type) where
  add : W → W → W
  xor : W → W → W
  rotl : W → UInt32 → W

section Rounds

variable {V W : Type}

/-- `sdb_chacha_quarter`, and `SDB_QR` on registers. -/
def quarter (ops : WordOps W) (a b c d : W) : W × W × W × W :=
  let a := ops.add a b
  let d := ops.rotl (ops.xor d a) 16
  let c := ops.add c d
  let b := ops.rotl (ops.xor b c) 12
  let a := ops.add a b
  let d := ops.rotl (ops.xor d a) 8
  let c := ops.add c d
  let b := ops.rotl (ops.xor b c) 7
  (a, b, c, d)

def quarterAt (ops : WordOps W) (a b c d : Fin 16) (state : Vector W 16) : Vector W 16 :=
  let (x, y, z, w) := quarter ops state[a] state[b] state[c] state[d]
  (((state.set a x).set b y).set c z).set d w

/-- Four columns and four diagonals. -/
def doubleRound (ops : WordOps W) (state : Vector W 16) : Vector W 16 :=
  quarterAt ops 3 4 9 14 <| quarterAt ops 2 7 8 13 <| quarterAt ops 1 6 11 12 <|
    quarterAt ops 0 5 10 15 <| quarterAt ops 3 7 11 15 <| quarterAt ops 2 6 10 14 <|
      quarterAt ops 1 5 9 13 <| quarterAt ops 0 4 8 12 state

/-- `sdb_chacha_rounds`. -/
def rounds (ops : WordOps W) (state : Vector W 16) : Vector W 16 := (doubleRound ops)^[10] state

/-- A map from words to words that the operations agree with. -/
structure Simulates (ops : WordOps V) (ops' : WordOps W) (f : V → W) : Prop where
  add : ∀ x y, f (ops.add x y) = ops'.add (f x) (f y)
  xor : ∀ x y, f (ops.xor x y) = ops'.xor (f x) (f y)
  rotl : ∀ x amount, f (ops.rotl x amount) = ops'.rotl (f x) amount

variable {ops : WordOps V} {ops' : WordOps W} {f : V → W}

lemma Simulates.quarterAt (h : Simulates ops ops' f) (a b c d : Fin 16) (state : Vector V 16) :
    (quarterAt ops a b c d state).map f = ChaCha.quarterAt ops' a b c d (state.map f) := by
  simp only [ChaCha.quarterAt, quarter, Vector.map_set, h.add, h.xor, h.rotl, Fin.getElem_fin,
    Vector.getElem_map]

lemma Simulates.rounds (h : Simulates ops ops' f) (state : Vector V 16) :
    (rounds ops state).map f = ChaCha.rounds ops' (state.map f) := by
  have hround : ∀ state : Vector V 16,
      (doubleRound ops state).map f = doubleRound ops' (state.map f) := by
    intro state
    simp only [doubleRound, h.quarterAt]
  exact (Function.Semiconj.iterate_right hround 10) state

end Rounds

section Scalar

def rotl32 (value amount : UInt32) : UInt32 := (value <<< amount) ||| (value >>> (32 - amount))

def scalarOps : WordOps UInt32 := ⟨(· + ·), (· ^^^ ·), rotl32⟩

def readWord (index : Nat) (bytes : Bytes) : UInt32 :=
  UInt32.ofNat (read (field (index * 4) 4 bytes))

/-- `sdb_chacha_state`. -/
def chachaState (key : Bytes) (counter : UInt32) (nonce : Bytes) : Vector UInt32 16 :=
  #v[0x61707865, 0x3320646e, 0x79622d32, 0x6b206574, readWord 0 key, readWord 1 key,
    readWord 2 key, readWord 3 key, readWord 4 key, readWord 5 key, readWord 6 key, readWord 7 key,
    counter, readWord 0 nonce, readWord 1 nonce, readWord 2 nonce]

/-- `sdb_chacha_block`. -/
def chachaBlock (key : Bytes) (counter : UInt32) (nonce : Bytes) : Bytes :=
  let initial := chachaState key counter nonce
  (Vector.zipWith (· + ·) (rounds scalarOps initial) initial).toList.flatMap
    fun word => write 4 word.toNat

/-- `sdb_hchacha20`. -/
def hchacha20 (key nonce : Bytes) : Bytes :=
  let state := rounds scalarOps (chachaState key (readWord 0 nonce) (nonce.drop 4))
  [state[0], state[1], state[2], state[3], state[12], state[13], state[14], state[15]].flatMap
    fun word => write 4 word.toNat

def xorBytes (input keystream : Bytes) : Bytes := List.zipWith (· ^^^ ·) input keystream

/-- The scalar loop of `sdb_chacha_xor`: the counter of every block and what the block
makes of the input. -/
def scalarXor (key nonce : Bytes) (counter : UInt32) (input : Bytes) : List (UInt32 × Bytes) :=
  if input.length = 0 then []
  else
    (counter, xorBytes (input.take 64) (chachaBlock key counter nonce)) ::
      scalarXor key nonce (counter + 1) (input.drop 64)
termination_by input.length
decreasing_by
  rw [List.length_drop]
  omega

end Scalar

section Vectors

/-- A register of eight words. -/
abbrev Lanes := Fin 8 → UInt32

def mm256Set1 (word : UInt32) : Lanes := fun _ => word
def mm256Add (x y : Lanes) : Lanes := fun lane => x lane + y lane
def mm256Xor (x y : Lanes) : Lanes := fun lane => x lane ^^^ y lane
def mm256Or (x y : Lanes) : Lanes := fun lane => x lane ||| y lane
def mm256Slli (x : Lanes) (amount : UInt32) : Lanes := fun lane => x lane <<< amount
def mm256Srli (x : Lanes) (amount : UInt32) : Lanes := fun lane => x lane >>> amount

/-- `SDB_ROTV`. -/
def rotv (x : Lanes) (amount : UInt32) : Lanes :=
  mm256Or (mm256Slli x amount) (mm256Srli x (32 - amount))

def vectorOps : WordOps Lanes := ⟨mm256Add, mm256Xor, rotv⟩

/-- The registers `init` of a group. -/
def chacha8State (key : Bytes) (counter : UInt32) (nonce : Bytes) : Vector Lanes 16 :=
  #v[mm256Set1 0x61707865, mm256Set1 0x3320646e, mm256Set1 0x79622d32, mm256Set1 0x6b206574,
    mm256Set1 (readWord 0 key), mm256Set1 (readWord 1 key), mm256Set1 (readWord 2 key),
    mm256Set1 (readWord 3 key), mm256Set1 (readWord 4 key), mm256Set1 (readWord 5 key),
    mm256Set1 (readWord 6 key), mm256Set1 (readWord 7 key),
    mm256Add (mm256Set1 counter) fun lane => UInt32.ofNat lane,
    mm256Set1 (readWord 0 nonce), mm256Set1 (readWord 1 nonce), mm256Set1 (readWord 2 nonce)]

/-- The eight blocks of keystream of a group, one in each lane. -/
def chacha8Block (key : Bytes) (counter : UInt32) (nonce : Bytes) (lane : Fin 8) : Bytes :=
  let initial := chacha8State key counter nonce
  (Vector.zipWith mm256Add (rounds vectorOps initial) initial).toList.flatMap
    fun words => write 4 (words lane).toNat

/-- `sdb_chacha8_xor`. -/
def chacha8Xor (key nonce : Bytes) : (groups : Nat) → UInt32 → Bytes → List (UInt32 × Bytes)
  | 0, _, _ => []
  | groups + 1, counter, input =>
    ((List.finRange 8).map fun lane =>
      ((chacha8State key counter nonce)[12] lane,
        xorBytes (field (64 * lane) 64 input) (chacha8Block key counter nonce lane))) ++
      chacha8Xor key nonce groups (counter + 8) (input.drop 512)

/-- The blocks of `sdb_chacha_xor`. -/
def chachaBlocks (avx2 : Bool) (key nonce : Bytes) (counter : UInt32) (input : Bytes) :
    List (UInt32 × Bytes) :=
  if input.length ≥ 512 && avx2 then
    let groups := input.length / 512
    chacha8Xor key nonce groups counter input ++
      scalarXor key nonce (counter + UInt32.ofNat (groups * 8)) (input.drop (groups * 512))
  else scalarXor key nonce counter input

/-- `sdb_chacha_xor`. -/
def chachaXor (avx2 : Bool) (key nonce : Bytes) (counter : UInt32) (input : Bytes) : Bytes :=
  (chachaBlocks avx2 key nonce counter input).flatMap Prod.snd

end Vectors

section Paths

variable {key nonce : Bytes}

/-- A lane of the group's registers is the state of its block. -/
lemma lane_state (counter : UInt32) (lane : Fin 8) :
    (chacha8State key counter nonce).map (fun words => words lane) =
      chachaState key (counter + UInt32.ofNat lane) nonce := by
  simp [chacha8State, chachaState, mm256Set1, mm256Add]

lemma lane_simulates (lane : Fin 8) :
    Simulates vectorOps scalarOps fun words : Lanes => words lane :=
  ⟨fun _ _ => rfl, fun _ _ => rfl, fun _ _ => rfl⟩

lemma chacha8Block_eq (counter : UInt32) (lane : Fin 8) :
    chacha8Block key counter nonce lane = chachaBlock key (counter + UInt32.ofNat lane) nonce := by
  have hsum : ∀ x y : Vector Lanes 16,
      (Vector.zipWith mm256Add x y).map (fun words => words lane) =
        Vector.zipWith (· + ·) (x.map fun words => words lane) (y.map fun words => words lane) := by
    intro x y
    ext index hindex
    simp [mm256Add]
  simp only [chacha8Block, chachaBlock]
  rw [← lane_state, ← (lane_simulates lane).rounds, ← hsum, Vector.toList_map, List.flatMap_map]

/-- Blocks of the scalar loop, taken off the front. -/
lemma scalarXor_blocks (counter : UInt32) {input : Bytes} {count : Nat}
    (hcount : 64 * count ≤ input.length) : scalarXor key nonce counter input =
      ((List.range count).map fun index =>
        (counter + UInt32.ofNat index,
          xorBytes (field (64 * index) 64 input)
            (chachaBlock key (counter + UInt32.ofNat index) nonce))) ++
        scalarXor key nonce (counter + UInt32.ofNat count) (input.drop (64 * count)) := by
  induction count with
  | zero => simp
  | succ count ih =>
    have hmore : (input.drop (64 * count)).length ≠ 0 := by
      rw [List.length_drop]
      omega
    rw [ih (by omega), List.range_succ, List.map_append, List.append_assoc]
    conv_lhs => rw [scalarXor, if_neg hmore]
    rw [List.map_singleton, List.singleton_append, List.drop_drop, UInt32.add_assoc,
      ← UInt32.ofNat_one, ← UInt32.ofNat_add]
    rfl

/-- The groups of the vector code are blocks of the scalar loop. -/
lemma chacha8Xor_append (groups : Nat) (counter : UInt32) {input : Bytes}
    (hgroups : groups * 512 ≤ input.length) : chacha8Xor key nonce groups counter input ++
        scalarXor key nonce (counter + UInt32.ofNat (groups * 8)) (input.drop (groups * 512)) =
      scalarXor key nonce counter input := by
  induction groups generalizing counter input with
  | zero => simp [chacha8Xor]
  | succ groups ih =>
    have hfirst : 64 * 8 ≤ input.length := by omega
    have hrest : groups * 512 ≤ (input.drop (64 * 8)).length := by
      rw [List.length_drop]
      apply Nat.le_sub_of_add_le
      omega
    have hcount : 8 + groups * 8 = (groups + 1) * 8 := by ring
    have hbytes : 64 * 8 + groups * 512 = (groups + 1) * 512 := by ring
    have hlanes : ((List.finRange 8).map fun lane : Fin 8 =>
        ((chacha8State key counter nonce)[12] lane,
          xorBytes (field (64 * lane) 64 input) (chacha8Block key counter nonce lane))) =
        (List.range 8).map fun index => (counter + UInt32.ofNat index,
          xorBytes (field (64 * index) 64 input)
            (chachaBlock key (counter + UInt32.ofNat index) nonce)) := by
      rw [← List.map_coe_finRange_eq_range, List.map_map]
      apply List.map_congr_left
      intro lane _
      have hcounter : (chacha8State key counter nonce)[12] lane = counter + UInt32.ofNat lane :=
        rfl
      rw [chacha8Block_eq, hcounter, Function.comp_apply]
    rw [scalarXor_blocks counter hfirst, ← ih (counter + UInt32.ofNat 8) hrest, List.drop_drop,
      UInt32.add_assoc, ← UInt32.ofNat_add, hcount, hbytes, ← hlanes, ← List.append_assoc]
    rfl

/-- Both paths make the blocks of the scalar loop, with its counters. -/
lemma chachaBlocks_eq (avx2 : Bool) (counter : UInt32) (input : Bytes) :
    chachaBlocks avx2 key nonce counter input = scalarXor key nonce counter input := by
  unfold chachaBlocks
  split
  · exact chacha8Xor_append _ counter (Nat.div_mul_le_self ..)
  · rfl

end Paths

section Stream

variable {key nonce : Bytes} {input : Bytes}

lemma length_chachaBlock (counter : UInt32) : (chachaBlock key counter nonce).length = 64 := by
  simp only [chachaBlock, List.length_flatMap, write_length, List.map_const', List.sum_replicate,
    Vector.length_toList, smul_eq_mul]

/-- RFC 8439, section 2.3.2. -/
example : (chachaBlock ((List.range 32).map UInt8.ofNat) 1
      [0, 0, 0, 9, 0, 0, 0, 74, 0, 0, 0, 0]).take 16 =
    [0x10, 0xf1, 0xe7, 0xe4, 0xd1, 0x3b, 0x59, 0x15, 0x50, 0x0f, 0xdd, 0x1f, 0xa3, 0x20, 0x71,
      0xc4] := by decide +kernel

lemma xorBytes_xorBytes {keystream : Bytes} (hlength : input.length ≤ keystream.length) :
    xorBytes (xorBytes input keystream) keystream = input := by
  induction input generalizing keystream with
  | nil => rfl
  | cons byte input ih =>
    cases keystream with
    | nil => exact absurd hlength (Nat.not_succ_le_zero _)
    | cons mask keystream =>
      have hrest := ih (Nat.le_of_succ_le_succ hlength)
      simp only [xorBytes, List.zipWith_cons_cons, UInt8.xor_assoc, UInt8.xor_self,
        UInt8.xor_zero] at hrest ⊢
      rw [hrest]

/-- The output of a loop that is not over begins with its first block. -/
lemma scalarXor_output (counter : UInt32) (hinput : input.length ≠ 0) :
    (scalarXor key nonce counter input).flatMap Prod.snd =
      xorBytes (input.take 64) (chachaBlock key counter nonce) ++
        (scalarXor key nonce (counter + 1) (input.drop 64)).flatMap Prod.snd := by
  rw [scalarXor, if_neg hinput, List.flatMap_cons]

lemma length_xorBytes_block (counter : UInt32) (input : Bytes) :
    (xorBytes (input.take 64) (chachaBlock key counter nonce)).length = min 64 input.length := by
  rw [xorBytes, List.length_zipWith, length_chachaBlock, List.length_take]
  omega

lemma length_scalarXor (counter : UInt32) (input : Bytes) :
    ((scalarXor key nonce counter input).flatMap Prod.snd).length = input.length := by
  fun_induction scalarXor key nonce counter input with
  | case1 counter input hempty => exact hempty.symm
  | case2 counter input hmore ih =>
    rw [List.flatMap_cons, List.length_append, ih, length_xorBytes_block, List.length_drop]
    omega

/-- The second pass with the counter of the first gives the input back. -/
lemma scalarXor_scalarXor (counter : UInt32) (input : Bytes) :
    (scalarXor key nonce counter ((scalarXor key nonce counter input).flatMap Prod.snd)).flatMap
      Prod.snd = input := by
  fun_induction scalarXor key nonce counter input with
  | case1 counter input hempty =>
    rw [List.flatMap_nil, scalarXor, if_pos List.length_nil, List.flatMap_nil,
      List.eq_nil_of_length_eq_zero hempty]
  | case2 counter input hmore ih =>
    rw [List.flatMap_cons]
    have hfront := @length_xorBytes_block key nonce counter input
    have hrest := @length_scalarXor key nonce (counter + 1) (input.drop 64)
    have hblock : xorBytes (xorBytes (input.take 64) (chachaBlock key counter nonce))
        (chachaBlock key counter nonce) = input.take 64 := by
      apply xorBytes_xorBytes
      rw [length_chachaBlock]
      exact List.length_take_le ..
    generalize xorBytes (input.take 64) (chachaBlock key counter nonce) = front at *
    generalize (scalarXor key nonce (counter + 1) (input.drop 64)).flatMap Prod.snd = rest at *
    -- the first output is a whole block unless it is the last
    have hcut : (front ++ rest).take 64 = front ∧ (front ++ rest).drop 64 = rest := by
      by_cases hlong : 64 ≤ input.length
      · rw [Nat.min_eq_left hlong] at hfront
        exact ⟨List.take_left' hfront, List.drop_left' hfront⟩
      · rw [List.length_drop, Nat.sub_eq_zero_of_le (by omega)] at hrest
        rw [List.eq_nil_of_length_eq_zero hrest, List.append_nil]
        exact ⟨List.take_of_length_le (by omega), List.drop_of_length_le (by omega)⟩
    have hsome : (front ++ rest).length ≠ 0 := by
      rw [List.length_append]
      omega
    rw [scalarXor_output counter hsome, hcut.1, hcut.2, hblock, ih, List.take_append_drop]

lemma counter_of_mem_scalarXor {counter : UInt32} {entry : UInt32 × Bytes}
    (hentry : entry ∈ scalarXor key nonce counter input) :
    ∃ index, 64 * index < input.length ∧ entry.1 = counter + UInt32.ofNat index := by
  fun_induction scalarXor key nonce counter input with
  | case1 => exact absurd hentry List.not_mem_nil
  | case2 counter input hmore ih =>
    rcases List.mem_cons.mp hentry with rfl | hrest
    · exact ⟨0, Nat.pos_of_ne_zero hmore, (UInt32.add_zero _).symm⟩
    · obtain ⟨index, hindex, hcounter⟩ := ih hrest
      rw [List.length_drop] at hindex
      refine ⟨index + 1, by omega, ?_⟩
      rw [hcounter, UInt32.add_assoc, UInt32.ofNat_add, UInt32.add_comm 1]
      rfl

end Stream

section Aead

open Poly1305

/-- `sdb_poly1305_pad16`. -/
def poly1305Pad16 (context : Context) (size : Nat) : Context :=
  let remainder := size % 16
  if remainder ≠ 0 then update wrapping context (List.replicate (16 - remainder) 0) else context

/-- `sdb_aead_tag`. -/
def aeadTag (polyKey aad ciphertext : Bytes) : Bytes :=
  let context := init polyKey
  let context := if aad.length ≠ 0 then update wrapping context aad else context
  let context := poly1305Pad16 context aad.length
  let context := if ciphertext.length ≠ 0 then update wrapping context ciphertext else context
  let context := poly1305Pad16 context ciphertext.length
  let lengths := write 8 aad.length ++ write 8 ciphertext.length
  final wrapping (update wrapping context lengths)

/-- `sdb_constant_time_equal`. -/
def constantTimeEqual (left right : Bytes) (size : Nat) : Bool :=
  ((xorBytes (left.take size) (right.take size)).foldl (· ||| ·) 0) == 0

/-- `sdb_xchacha_setup`: the subkey and the nonce of the inner cipher. -/
def xchachaSetup (key nonce : Bytes) : Bytes × Bytes :=
  (hchacha20 key nonce, List.replicate 4 0 ++ field 16 8 nonce)

/-- The largest size that is not refused. -/
def messageMax : Nat := (uint32Max - 1) * 64

/-- `sdb_xchacha20poly1305_encrypt`, with the ciphertext and the tag. -/
def xchacha20poly1305Encrypt (avx2 : Bool) (key nonce aad plaintext : Bytes) :
    Except SdbError (Bytes × Bytes) :=
  if plaintext.length > messageMax then .error .invalidArgument
  else
    let (subkey, ietfNonce) := xchachaSetup key nonce
    let firstBlock := chachaBlock subkey 0 ietfNonce
    let ciphertext :=
      if plaintext.length ≠ 0 then chachaXor avx2 subkey ietfNonce 1 plaintext else []
    .ok (ciphertext, aeadTag firstBlock aad ciphertext)

/-- `sdb_xchacha20poly1305_decrypt`. -/
def xchacha20poly1305Decrypt (avx2 : Bool) (key nonce aad ciphertext tag : Bytes) :
    Except SdbError Bytes :=
  if ciphertext.length > messageMax then .error .invalidArgument
  else
    let (subkey, ietfNonce) := xchachaSetup key nonce
    let firstBlock := chachaBlock subkey 0 ietfNonce
    let expected := aeadTag firstBlock aad ciphertext
    if !constantTimeEqual expected tag 16 then .error .corrupt
    else
      .ok (if ciphertext.length ≠ 0 then chachaXor avx2 subkey ietfNonce 1 ciphertext else [])

lemma constantTimeEqual_self (bytes : Bytes) (size : Nat) :
    constantTimeEqual bytes bytes size = true := by
  have hzero : ∀ bytes : Bytes, (xorBytes bytes bytes).foldl (· ||| ·) 0 = 0 := by
    intro bytes
    induction bytes with
    | nil => rfl
    | cons byte bytes ih =>
      rw [xorBytes, List.zipWith_cons_cons, List.foldl_cons, UInt8.xor_self, UInt8.or_self]
      exact ih
  rw [constantTimeEqual, hzero, beq_self_eq_true]

/-- The cipher of a direction, whether the message is empty or not. -/
lemma message_eq (avx2 : Bool) (key nonce message : Bytes) :
    (if message.length ≠ 0 then chachaXor avx2 key nonce 1 message else []) =
      (scalarXor key nonce 1 message).flatMap Prod.snd := by
  rw [chachaXor, chachaBlocks_eq]
  split
  case isTrue => rfl
  case isFalse hempty => rw [scalarXor, if_pos (not_not.mp hempty), List.flatMap_nil]

/-- The key stream over a message: the cipher in both directions. -/
def streamXor (key nonce message : Bytes) : Bytes :=
  (scalarXor (xchachaSetup key nonce).1 (xchachaSetup key nonce).2 1 message).flatMap Prod.snd

/-- The tag of a ciphertext. -/
def messageTag (key nonce aad ciphertext : Bytes) : Bytes :=
  aeadTag (chachaBlock (xchachaSetup key nonce).1 0 (xchachaSetup key nonce).2) aad ciphertext

section Message

variable {key nonce aad : Bytes}

lemma length_streamXor (message : Bytes) : (streamXor key nonce message).length = message.length :=
  length_scalarXor 1 message

lemma streamXor_streamXor (message : Bytes) :
    streamXor key nonce (streamXor key nonce message) = message :=
  scalarXor_scalarXor 1 message

lemma length_messageTag (ciphertext : Bytes) :
    (messageTag key nonce aad ciphertext).length = 16 := rfl

lemma xchacha20poly1305Encrypt_eq (avx2 : Bool) {plaintext : Bytes}
    (hsize : plaintext.length ≤ messageMax) :
    xchacha20poly1305Encrypt avx2 key nonce aad plaintext =
      .ok (streamXor key nonce plaintext,
        messageTag key nonce aad (streamXor key nonce plaintext)) := by
  simp only [xchacha20poly1305Encrypt, message_eq]
  rw [if_neg (Nat.not_lt.mpr hsize)]
  rfl

lemma xchacha20poly1305Decrypt_eq (avx2 : Bool) {ciphertext : Bytes} (tag : Bytes)
    (hsize : ciphertext.length ≤ messageMax) :
    xchacha20poly1305Decrypt avx2 key nonce aad ciphertext tag =
      if constantTimeEqual (messageTag key nonce aad ciphertext) tag 16 then
        .ok (streamXor key nonce ciphertext)
      else .error .corrupt := by
  simp only [xchacha20poly1305Decrypt, message_eq]
  rw [if_neg (Nat.not_lt.mpr hsize)]
  cases hequal : constantTimeEqual (messageTag key nonce aad ciphertext) tag 16 with
  | true => exact if_neg (by rw [← messageTag, hequal]; decide)
  | false => exact if_pos (by rw [← messageTag, hequal]; decide)

end Message

/-- From counter 1, a message of an admissible size does not come back to the block of the
authenticator. -/
lemma counter_ne_zero {avx2 : Bool} {key nonce message : Bytes}
    (hsize : message.length ≤ messageMax) {entry : UInt32 × Bytes}
    (hentry : entry ∈ chachaBlocks avx2 key nonce 1 message) : entry.1 ≠ 0 := by
  rw [chachaBlocks_eq] at hentry
  obtain ⟨index, hindex, hcounter⟩ := counter_of_mem_scalarXor hentry
  have hbound : index + 1 < 2 ^ 32 := by
    unfold messageMax uint32Max at hsize
    omega
  intro hzero
  have hvalue : (1 + UInt32.ofNat index).toNat = 0 := by
    rw [← hcounter, hzero]
    rfl
  rw [UInt32.toNat_add, UInt32.toNat_ofNat'] at hvalue
  change (1 + index % 2 ^ 32) % 2 ^ 32 = 0 at hvalue
  omega

/-- The vector code computes the scalar cipher, and what is encrypted on one path decrypts on
any path. -/
theorem decrypt_encrypt_paths :
    (∀ (avx2 : Bool) (key nonce : Bytes) (counter : UInt32) (input : Bytes),
      chachaXor avx2 key nonce counter input =
        (scalarXor key nonce counter input).flatMap Prod.snd) ∧
    ∀ (encrypting decrypting : Bool) (key nonce aad plaintext : Bytes),
      plaintext.length ≤ messageMax → ∃ ciphertext tag,
        xchacha20poly1305Encrypt encrypting key nonce aad plaintext = .ok (ciphertext, tag) ∧
        xchacha20poly1305Decrypt decrypting key nonce aad ciphertext tag = .ok plaintext ∧
        (∀ entry ∈ chachaBlocks encrypting (xchachaSetup key nonce).1 (xchachaSetup key nonce).2 1
          plaintext, entry.1 ≠ 0) ∧
        ∀ entry ∈ chachaBlocks decrypting (xchachaSetup key nonce).1 (xchachaSetup key nonce).2 1
          ciphertext, entry.1 ≠ 0 := by
  constructor
  · intro avx2 key nonce counter input
    rw [chachaXor, chachaBlocks_eq]
  · intro encrypting decrypting key nonce aad plaintext hsize
    have hadmitted : (streamXor key nonce plaintext).length ≤ messageMax :=
      (length_streamXor plaintext).trans_le hsize
    refine ⟨_, _, xchacha20poly1305Encrypt_eq encrypting hsize, ?_,
      fun entry => counter_ne_zero hsize, fun entry => counter_ne_zero hadmitted⟩
    rw [xchacha20poly1305Decrypt_eq decrypting _ hadmitted, constantTimeEqual_self,
      streamXor_streamXor]
    rfl

/-- A message of a group and a part, encrypted with the vector code and decrypted without. -/
theorem decrypt_encrypt_paths_group : ∃ ciphertext tag,
      xchacha20poly1305Encrypt true (List.replicate 32 7) (List.replicate 24 9) [1]
        (List.replicate 600 5) = .ok (ciphertext, tag) ∧
      xchacha20poly1305Decrypt false (List.replicate 32 7) (List.replicate 24 9) [1] ciphertext
        tag = .ok (List.replicate 600 5) := by
  have hsize : (List.replicate 600 (5 : UInt8)).length ≤ messageMax := by
    rw [List.length_replicate]
    decide
  obtain ⟨ciphertext, tag, hencrypt, hdecrypt, -⟩ := decrypt_encrypt_paths.2 true false
    (List.replicate 32 7) (List.replicate 24 9) [1] (List.replicate 600 5) hsize
  exact ⟨ciphertext, tag, hencrypt, hdecrypt⟩

end Aead

end ChaCha

end ShibaDb
