/-
The one-time authenticator of `xchacha20poly1305.c`.  The accumulator is kept in five
limbs of twenty-six bits that are reduced in part only; the registers are natural
numbers, and how a register of a width holds a result is a parameter, so that the same
text is the machine's and the exact computation.
-/
import ShibaDb.Lib.BlockStream
import ShibaDb.Status

namespace ShibaDb

namespace Poly1305

open LittleEndian BlockStream List

/-- How a register of this many bits holds a result. -/
abbrev Arith := (width value : Nat) → Nat

/-- Unsigned registers of C. -/
def wrapping : Arith := fun width value => value % 2 ^ width

/-- Registers without a width. -/
def exact : Arith := fun _ value => value

/-- A result that fits is held; nothing is said of one that does not. -/
def Arith.Holds (arith : Arith) : Prop :=
  ∀ width value, value < 2 ^ width → arith width value = value

/-- Five limbs, the lowest first. -/
structure Limbs where
  (l0 l1 l2 l3 l4 : Nat)
  deriving DecidableEq, Repr

/-- `sdb_poly1305`; the buffer is the part of it that is filled. -/
structure Context where
  r : Limbs
  h : Limbs
  pad : Nat × Nat × Nat × Nat
  buffer : Bytes
  deriving DecidableEq, Repr

def readU32Le (offset : Nat) (bytes : Bytes) : Nat := read (field offset 4 bytes)

/-- `sdb_poly1305_init`. -/
def init (key : Bytes) : Context where
  r := ⟨readU32Le 0 key &&& 0x3ffffff, (readU32Le 3 key >>> 2) &&& 0x3ffff03,
    (readU32Le 6 key >>> 4) &&& 0x3ffc0ff, (readU32Le 9 key >>> 6) &&& 0x3f03fff,
    (readU32Le 12 key >>> 8) &&& 0x00fffff⟩
  h := ⟨0, 0, 0, 0, 0⟩
  pad := (readU32Le 16 key, readU32Le 20 key, readU32Le 24 key, readU32Le 28 key)
  buffer := []

section Blocks

/-- A sum of five products in 64 bits. -/
def dot (arith : Arith) (h : Limbs) (a0 a1 a2 a3 a4 : Nat) : Nat :=
  arith 64 (arith 64 (arith 64 (arith 64 (arith 64 (h.l0 * a0) + arith 64 (h.l1 * a1))
    + arith 64 (h.l2 * a2)) + arith 64 (h.l3 * a3)) + arith 64 (h.l4 * a4))

/-- The limbs of a block added to the accumulator. -/
def addBlock (arith : Arith) (h : Limbs) (message : Bytes) (highBit : Nat) : Limbs :=
  ⟨arith 32 (h.l0 + (readU32Le 0 message &&& 0x3ffffff)),
    arith 32 (h.l1 + ((readU32Le 3 message >>> 2) &&& 0x3ffffff)),
    arith 32 (h.l2 + ((readU32Le 6 message >>> 4) &&& 0x3ffffff)),
    arith 32 (h.l3 + ((readU32Le 9 message >>> 6) &&& 0x3ffffff)),
    arith 32 (h.l4 + ((readU32Le 12 message >>> 8) ||| highBit))⟩

/-- The five 64-bit sums of the product with the key. -/
def multiply (arith : Arith) (r h : Limbs) : Limbs :=
  let s1 := arith 32 (r.l1 * 5)
  let s2 := arith 32 (r.l2 * 5)
  let s3 := arith 32 (r.l3 * 5)
  let s4 := arith 32 (r.l4 * 5)
  ⟨dot arith h r.l0 s4 s3 s2 s1, dot arith h r.l1 r.l0 s4 s3 s2, dot arith h r.l2 r.l1 r.l0 s4 s3,
    dot arith h r.l3 r.l2 r.l1 r.l0 s4, dot arith h r.l4 r.l3 r.l2 r.l1 r.l0⟩

/-- The carries of a block; `(uint32_t)d & 0x3ffffff` drops what the carry holds. -/
def carryBlock (arith : Arith) (d : Limbs) : Limbs :=
  let carry := arith 32 (d.l0 >>> 26)
  let h0 := d.l0 % 2 ^ 32 &&& 0x3ffffff
  let d1 := arith 64 (d.l1 + carry)
  let carry := arith 32 (d1 >>> 26)
  let h1 := d1 % 2 ^ 32 &&& 0x3ffffff
  let d2 := arith 64 (d.l2 + carry)
  let carry := arith 32 (d2 >>> 26)
  let h2 := d2 % 2 ^ 32 &&& 0x3ffffff
  let d3 := arith 64 (d.l3 + carry)
  let carry := arith 32 (d3 >>> 26)
  let h3 := d3 % 2 ^ 32 &&& 0x3ffffff
  let d4 := arith 64 (d.l4 + carry)
  let carry := arith 32 (d4 >>> 26)
  let h4 := d4 % 2 ^ 32 &&& 0x3ffffff
  let h0 := arith 32 (h0 + arith 32 (carry * 5))
  let carry := h0 >>> 26
  ⟨h0 &&& 0x3ffffff, arith 32 (h1 + carry), h2, h3, h4⟩

/-- One turn of the loop of `sdb_poly1305_blocks`. -/
def block (arith : Arith) (r : Limbs) (highBit : Nat) (h : Limbs) (message : Bytes) : Limbs :=
  carryBlock arith (multiply arith r (addBlock arith h message highBit))

/-- `sdb_poly1305_blocks`. -/
def absorbBlocks (arith : Arith) (r : Limbs) (highBit : Nat) (h : Limbs) (message : Bytes) :
    Limbs :=
  (blocks 16 message).foldl (block arith r highBit) h

end Blocks

section Update

/-- The first part of `sdb_poly1305_update`: fill the block that is begun. -/
def fillBuffer (arith : Arith) (context : Context) (message : Bytes) : Context × Bytes :=
  if context.buffer.length ≠ 0 then
    let take := min message.length (16 - context.buffer.length)
    let buffer := context.buffer ++ message.take take
    if buffer.length = 16 then
      ({ context with h := absorbBlocks arith context.r (1 <<< 24) context.h buffer, buffer := [] },
        message.drop take)
    else ({ context with buffer }, message.drop take)
  else (context, message)

/-- `sdb_poly1305_update`. -/
def update (arith : Arith) (context : Context) (message : Bytes) : Context :=
  let (context, message) := fillBuffer arith context message
  let fullSize := message.length - message.length % 16
  let context :=
    if message.length ≥ 16 then
      { context with
        h := absorbBlocks arith context.r (1 <<< 24) context.h (message.take fullSize) }
    else context
  let message := message.drop fullSize
  if message.length ≠ 0 then { context with buffer := message } else context

end Update

section Final

/-- The carries of `sdb_poly1305_final`. -/
def carryFinal (arith : Arith) (h : Limbs) : Limbs :=
  let carry := h.l1 >>> 26
  let h1 := h.l1 &&& 0x3ffffff
  let h2 := arith 32 (h.l2 + carry)
  let carry := h2 >>> 26
  let h2 := h2 &&& 0x3ffffff
  let h3 := arith 32 (h.l3 + carry)
  let carry := h3 >>> 26
  let h3 := h3 &&& 0x3ffffff
  let h4 := arith 32 (h.l4 + carry)
  let carry := h4 >>> 26
  let h4 := h4 &&& 0x3ffffff
  let h0 := arith 32 (h.l0 + arith 32 (carry * 5))
  let carry := h0 >>> 26
  ⟨h0 &&& 0x3ffffff, arith 32 (h1 + carry), h2, h3, h4⟩

/-- The accumulator or the accumulator less `2 ^ 130 - 5`, without a branch: `g4` and the
mask are meant to pass zero. -/
def select (arith : Arith) (h : Limbs) : Limbs :=
  let g0 := arith 32 (h.l0 + 5)
  let carry := g0 >>> 26
  let g0 := g0 &&& 0x3ffffff
  let g1 := arith 32 (h.l1 + carry)
  let carry := g1 >>> 26
  let g1 := g1 &&& 0x3ffffff
  let g2 := arith 32 (h.l2 + carry)
  let carry := g2 >>> 26
  let g2 := g2 &&& 0x3ffffff
  let g3 := arith 32 (h.l3 + carry)
  let carry := g3 >>> 26
  let g3 := g3 &&& 0x3ffffff
  let g4 := (arith 32 (h.l4 + carry) + (2 ^ 32 - 1 <<< 26)) % 2 ^ 32
  let mask := (g4 >>> 31 + (2 ^ 32 - 1)) % 2 ^ 32
  let keep := mask ^^^ 0xffffffff
  ⟨(h.l0 &&& keep) ||| (g0 &&& mask), (h.l1 &&& keep) ||| (g1 &&& mask),
    (h.l2 &&& keep) ||| (g2 &&& mask), (h.l3 &&& keep) ||| (g3 &&& mask),
    (h.l4 &&& keep) ||| (g4 &&& mask)⟩

/-- The accumulator in words of 32 bits and the sum with the pad; the bits a shift to the
left loses are in the word above. -/
def addPad (arith : Arith) (h : Limbs) (pad : Nat × Nat × Nat × Nat) : Bytes :=
  let f0 := arith 64 ((h.l0 ||| h.l1 <<< 26 % 2 ^ 32) + pad.1)
  let f1 := arith 64 (arith 64 ((h.l1 >>> 6 ||| h.l2 <<< 20 % 2 ^ 32) + pad.2.1) + f0 >>> 32)
  let f2 := arith 64 (arith 64 ((h.l2 >>> 12 ||| h.l3 <<< 14 % 2 ^ 32) + pad.2.2.1) + f1 >>> 32)
  let f3 := arith 64 (arith 64 ((h.l3 >>> 18 ||| h.l4 <<< 8 % 2 ^ 32) + pad.2.2.2) + f2 >>> 32)
  write 4 f0 ++ (write 4 f1 ++ (write 4 f2 ++ write 4 f3))

/-- `sdb_poly1305_final`. -/
def final (arith : Arith) (context : Context) : Bytes :=
  let h :=
    if context.buffer.length ≠ 0 then
      absorbBlocks arith context.r 0 context.h
        (context.buffer ++ [1] ++ List.replicate (16 - (context.buffer.length + 1)) 0)
    else context.h
  addPad arith (select arith (carryFinal arith h)) context.pad

end Final

/-- The tag of a message that comes in pieces. -/
def tag (arith : Arith) (key : Bytes) (pieces : List Bytes) : Bytes :=
  final arith (pieces.foldl (update arith) (init key))

section Exact

variable {arith : Arith} {r h d : Limbs} {message : Bytes} {bit : Nat}

lemma wrapping_holds : wrapping.Holds := fun _ _ hlt => Nat.mod_eq_of_lt hlt

lemma exact_holds : exact.Holds := fun _ _ _ => rfl

lemma and_mask (value : Nat) : value &&& 0x3ffffff = value % 2 ^ 26 :=
  Nat.and_two_pow_sub_one_eq_mod value 26

/-- The number the limbs stand for. -/
def Limbs.value (limbs : Limbs) : Nat :=
  limbs.l0 + 2 ^ 26 * limbs.l1 + 2 ^ 52 * limbs.l2 + 2 ^ 78 * limbs.l3 + 2 ^ 104 * limbs.l4

def Limbs.Below (limbs : Limbs) (bound : Nat) : Prop :=
  limbs.l0 < bound ∧ limbs.l1 < bound ∧ limbs.l2 < bound ∧ limbs.l3 < bound ∧ limbs.l4 < bound

/-- What a block leaves: the second limb may be a little too large. -/
structure Limbs.Reduced (limbs : Limbs) : Prop where
  l0 : limbs.l0 < 2 ^ 26
  l1 : limbs.l1 < 2 ^ 26 + 2 ^ 6
  l2 : limbs.l2 < 2 ^ 26
  l3 : limbs.l3 < 2 ^ 26
  l4 : limbs.l4 < 2 ^ 26

/-- The modulus. -/
def prime : Nat := 2 ^ 130 - 5

lemma products_lt {a : Limbs} {bound factor : Nat} (hh : h.Below bound) (ha : a.Below factor) :
    h.l0 * a.l0 + h.l1 * a.l1 + h.l2 * a.l2 + h.l3 * a.l3 + h.l4 * a.l4 < 5 * (bound * factor) := by
  obtain ⟨hh0, hh1, hh2, hh3, hh4⟩ := hh
  obtain ⟨ha0, ha1, ha2, ha3, ha4⟩ := ha
  have hp0 := Nat.mul_lt_mul'' hh0 ha0
  have hp1 := Nat.mul_lt_mul'' hh1 ha1
  have hp2 := Nat.mul_lt_mul'' hh2 ha2
  have hp3 := Nat.mul_lt_mul'' hh3 ha3
  have hp4 := Nat.mul_lt_mul'' hh4 ha4
  omega

section

variable (harith : arith.Holds)

include harith

lemma dot_eq (hh : h.Below (2 ^ 27 + 2 ^ 7)) {a0 a1 a2 a3 a4 : Nat}
    (ha : (Limbs.mk a0 a1 a2 a3 a4).Below (5 * 2 ^ 26)) :
    dot arith h a0 a1 a2 a3 a4 = h.l0 * a0 + h.l1 * a1 + h.l2 * a2 + h.l3 * a3 + h.l4 * a4 := by
  have hsum := products_lt hh ha
  simp only at hsum
  simp (disch := omega) only [dot, harith _ _]

lemma carryBlock_exact (hd : d.Below (13 * 2 ^ 54)) (hd4 : d.l4 < 3 * 2 ^ 54) :
    carryBlock arith d = carryBlock exact d := by
  obtain ⟨hd0, hd1, hd2, hd3, -⟩ := hd
  simp (disch := omega) only [carryBlock, exact, Nat.shiftRight_eq_div_pow, and_mask, harith _ _]

lemma carryFinal_exact (hh : h.Reduced) :
    carryFinal arith h = carryFinal exact h := by
  obtain ⟨h0, h1, h2, h3, h4⟩ := hh
  simp (disch := omega) only [carryFinal, exact, Nat.shiftRight_eq_div_pow, and_mask, harith _ _]

lemma multiply_eq (hr : r.Below (2 ^ 26)) (hh : h.Below (2 ^ 27 + 2 ^ 7)) :
    multiply arith r h =
      ⟨h.l0 * r.l0 + h.l1 * (r.l4 * 5) + h.l2 * (r.l3 * 5) + h.l3 * (r.l2 * 5) + h.l4 * (r.l1 * 5),
        h.l0 * r.l1 + h.l1 * r.l0 + h.l2 * (r.l4 * 5) + h.l3 * (r.l3 * 5) + h.l4 * (r.l2 * 5),
        h.l0 * r.l2 + h.l1 * r.l1 + h.l2 * r.l0 + h.l3 * (r.l4 * 5) + h.l4 * (r.l3 * 5),
        h.l0 * r.l3 + h.l1 * r.l2 + h.l2 * r.l1 + h.l3 * r.l0 + h.l4 * (r.l4 * 5),
        h.l0 * r.l4 + h.l1 * r.l3 + h.l2 * r.l2 + h.l3 * r.l1 + h.l4 * r.l0⟩ := by
  obtain ⟨hr0, hr1, hr2, hr3, hr4⟩ := hr
  have hs1 := harith 32 (r.l1 * 5) (by omega)
  have hs2 := harith 32 (r.l2 * 5) (by omega)
  have hs3 := harith 32 (r.l3 * 5) (by omega)
  have hs4 := harith 32 (r.l4 * 5) (by omega)
  simp only [multiply, hs1, hs2, hs3, hs4]
  congr 1
  all_goals
    apply dot_eq harith hh
    simp only [Limbs.Below]
    omega

/-- The product modulo the prime: `2 ^ 130` is 5. -/
lemma multiply_value (hr : r.Below (2 ^ 26))
    (hh : h.Below (2 ^ 27 + 2 ^ 7)) :
    (multiply arith r h).value ≡ h.value * r.value [MOD prime] := by
  have hfold : (multiply arith r h).value + prime * (h.l1 * r.l4 + h.l2 * r.l3 + h.l3 * r.l2 +
      h.l4 * r.l1 + 2 ^ 26 * (h.l2 * r.l4 + h.l3 * r.l3 + h.l4 * r.l2) +
      2 ^ 52 * (h.l3 * r.l4 + h.l4 * r.l3) + 2 ^ 78 * (h.l4 * r.l4)) = h.value * r.value := by
    rw [multiply_eq harith hr hh]
    simp only [Limbs.value, prime]
    norm_num
    ring
  rw [← hfold]
  exact (Nat.add_mul_mod_self_left _ _ _).symm

lemma multiply_below (hr : r.Below (2 ^ 26))
    (hh : h.Below (2 ^ 27 + 2 ^ 7)) :
    (multiply arith r h).Below (13 * 2 ^ 54) ∧ (multiply arith r h).l4 < 3 * 2 ^ 54 := by
  have hsum : ∀ a : Limbs, a.Below (5 * 2 ^ 26) →
      h.l0 * a.l0 + h.l1 * a.l1 + h.l2 * a.l2 + h.l3 * a.l3 + h.l4 * a.l4 < 13 * 2 ^ 54 :=
    fun a ha => (products_lt hh ha).trans_le (by norm_num)
  have hlast := products_lt hh (show (Limbs.mk r.l4 r.l3 r.l2 r.l1 r.l0).Below (2 ^ 26) from
    ⟨hr.2.2.2.2, hr.2.2.2.1, hr.2.2.1, hr.2.1, hr.1⟩)
  rw [multiply_eq harith hr hh]
  obtain ⟨hr0, hr1, hr2, hr3, hr4⟩ := hr
  refine ⟨⟨hsum ⟨r.l0, r.l4 * 5, r.l3 * 5, r.l2 * 5, r.l1 * 5⟩ ?_,
    hsum ⟨r.l1, r.l0, r.l4 * 5, r.l3 * 5, r.l2 * 5⟩ ?_,
    hsum ⟨r.l2, r.l1, r.l0, r.l4 * 5, r.l3 * 5⟩ ?_, hsum ⟨r.l3, r.l2, r.l1, r.l0, r.l4 * 5⟩ ?_,
    hsum ⟨r.l4, r.l3, r.l2, r.l1, r.l0⟩ ?_⟩, hlast.trans_le (by norm_num)⟩
  all_goals
    simp only [Limbs.Below]
    omega

end

lemma carryBlock_reduced (hd : d.Below (13 * 2 ^ 54)) (hd4 : d.l4 < 3 * 2 ^ 54) :
    (carryBlock exact d).Reduced := by
  obtain ⟨hd0, hd1, hd2, hd3, -⟩ := hd
  simp only [carryBlock, exact, Nat.shiftRight_eq_div_pow, and_mask]
  constructor <;> simp only <;> omega

/-- What the last carry stands for is taken off, and five times the carry put on. -/
lemma carryBlock_value (d : Limbs) : (carryBlock exact d).value ≡ d.value [MOD prime] := by
  have hfold : d.value = (carryBlock exact d).value + prime *
      ((d.l4 + (d.l3 + (d.l2 + (d.l1 + d.l0 / 2 ^ 26) / 2 ^ 26) / 2 ^ 26) / 2 ^ 26) / 2 ^ 26) := by
    simp only [carryBlock, exact, Nat.shiftRight_eq_div_pow, and_mask, Limbs.value, prime]
    omega
  rw [hfold]
  exact (Nat.add_mul_mod_self_left _ _ _).symm

lemma or_high {value : Nat} (hvalue : value < 2 ^ 24) (bit : Nat) :
    value ||| 2 ^ 24 * bit = value + 2 ^ 24 * bit := by
  rw [Nat.or_comm, ← Nat.two_pow_add_eq_or_of_lt hvalue, Nat.add_comm]

section

variable (harith : arith.Holds) (hh : h.Reduced) (hmessage : message.length = 16) (hbit : bit ≤ 1)

include harith hh hmessage hbit

/-- The limbs of a block are the digits of its number. -/
lemma addBlock_eq : addBlock arith h message (2 ^ 24 * bit) =
      ⟨h.l0 + read message % 2 ^ 26, h.l1 + read message / 2 ^ 26 % 2 ^ 26,
        h.l2 + read message / 2 ^ 52 % 2 ^ 26, h.l3 + read message / 2 ^ 78 % 2 ^ 26,
        h.l4 + (read message / 2 ^ 104 + 2 ^ 24 * bit)⟩ := by
  obtain ⟨h0, h1, h2, h3, h4⟩ := hh
  have hlt := read_lt message
  rw [hmessage] at hlt
  have hhigh := or_high (show read message / 2 ^ 104 < 2 ^ 24 by omega) bit
  have hd0 : readU32Le 0 message &&& 0x3ffffff = read message % 2 ^ 26 := by
    rw [and_mask, readU32Le, read_field]
    omega
  have hd1 : (readU32Le 3 message >>> 2) &&& 0x3ffffff = read message / 2 ^ 26 % 2 ^ 26 := by
    rw [and_mask, readU32Le, read_field, Nat.shiftRight_eq_div_pow]
    omega
  have hd2 : (readU32Le 6 message >>> 4) &&& 0x3ffffff = read message / 2 ^ 52 % 2 ^ 26 := by
    rw [and_mask, readU32Le, read_field, Nat.shiftRight_eq_div_pow]
    omega
  have hd3 : (readU32Le 9 message >>> 6) &&& 0x3ffffff = read message / 2 ^ 78 % 2 ^ 26 := by
    rw [and_mask, readU32Le, read_field, Nat.shiftRight_eq_div_pow]
    omega
  have hd4 : readU32Le 12 message >>> 8 = read message / 2 ^ 104 := by
    rw [readU32Le, read_field, Nat.shiftRight_eq_div_pow]
    omega
  simp (disch := omega) only [addBlock, hd0, hd1, hd2, hd3, hd4, hhigh, harith _ _]

lemma addBlock_below : (addBlock arith h message (2 ^ 24 * bit)).Below (2 ^ 27 + 2 ^ 7) := by
  have hlt := read_lt message
  rw [hmessage] at hlt
  rw [addBlock_eq harith hh hmessage hbit]
  obtain ⟨h0, h1, h2, h3, h4⟩ := hh
  simp only [Limbs.Below]
  omega

lemma addBlock_value :
    (addBlock arith h message (2 ^ 24 * bit)).value = h.value + (read message + 2 ^ 128 * bit) := by
  rw [addBlock_eq harith hh hmessage hbit]
  simp only [Limbs.value]
  omega

end

/-- One block: nothing is lost, the limbs stay small, and the accumulator is the sum times
the key. -/
lemma block_spec (harith : arith.Holds) (hr : r.Below (2 ^ 26)) (hh : h.Reduced)
    (hmessage : message.length = 16) (hbit : bit ≤ 1) :
    block arith r (2 ^ 24 * bit) h message = block exact r (2 ^ 24 * bit) h message ∧
      (block exact r (2 ^ 24 * bit) h message).Reduced ∧
      (block exact r (2 ^ 24 * bit) h message).value ≡
        (h.value + (read message + 2 ^ 128 * bit)) * r.value [MOD prime] := by
  have hadd : addBlock arith h message (2 ^ 24 * bit) =
      addBlock exact h message (2 ^ 24 * bit) := by
    rw [addBlock_eq harith hh hmessage hbit, addBlock_eq exact_holds hh hmessage hbit]
  have hbelow := addBlock_below exact_holds hh hmessage hbit
  obtain ⟨hproduct, hproduct4⟩ := multiply_below exact_holds hr hbelow
  have hmultiply : multiply arith r (addBlock exact h message (2 ^ 24 * bit)) =
      multiply exact r (addBlock exact h message (2 ^ 24 * bit)) := by
    rw [multiply_eq harith hr hbelow, multiply_eq exact_holds hr hbelow]
  refine ⟨?_, carryBlock_reduced hproduct hproduct4, ?_⟩
  · rw [block, hadd, hmultiply, carryBlock_exact harith hproduct hproduct4, block]
  · rw [← addBlock_value exact_holds hh hmessage hbit]
    exact (carryBlock_value _).trans (multiply_value exact_holds hr hbelow)

lemma carryFinal_value (h : Limbs) : (carryFinal exact h).value ≡ h.value [MOD prime] := by
  have hfold : h.value = (carryFinal exact h).value + prime *
      ((h.l4 + (h.l3 + (h.l2 + h.l1 / 2 ^ 26) / 2 ^ 26) / 2 ^ 26) / 2 ^ 26) := by
    simp only [carryFinal, exact, Nat.shiftRight_eq_div_pow, and_mask, Limbs.value, prime]
    omega
  rw [hfold]
  exact (Nat.add_mul_mod_self_left _ _ _).symm

/-- The carries end in range: the last one moves the second limb only if the first carry
has emptied it. -/
lemma carryFinal_below (hh : h.Reduced) : (carryFinal exact h).Below (2 ^ 26) := by
  obtain ⟨h0, h1, h2, h3, h4⟩ := hh
  simp only [carryFinal, exact, Nat.shiftRight_eq_div_pow, and_mask, Limbs.Below]
  omega

lemma select_exact (harith : arith.Holds) (hh : h.Below (2 ^ 26)) :
    select arith h = select exact h := by
  obtain ⟨h0, h1, h2, h3, h4⟩ := hh
  simp (disch := omega) only [select, exact, Nat.shiftRight_eq_div_pow, and_mask, harith _ _]

lemma and_ones {value : Nat} (hvalue : value < 2 ^ 32) : value &&& 0xffffffff = value :=
  (Nat.and_two_pow_sub_one_eq_mod value 32).trans (Nat.mod_eq_of_lt hvalue)

/-- The selection is the remainder: the accumulator plus five reaches `2 ^ 130` exactly if
the accumulator reaches the prime. -/
lemma select_value (hh : h.Below (2 ^ 26)) :
    (select exact h).Below (2 ^ 26) ∧ (select exact h).value = h.value % prime := by
  obtain ⟨h0, h1, h2, h3, h4⟩ := hh
  have hshift : 1 <<< 26 = 2 ^ 26 := rfl
  simp only [select, exact, Nat.shiftRight_eq_div_pow, and_mask, hshift]
  generalize hc0 : (h.l0 + 5) / 2 ^ 26 = c0
  generalize hc1 : (h.l1 + c0) / 2 ^ 26 = c1
  generalize hc2 : (h.l2 + c1) / 2 ^ 26 = c2
  generalize hc3 : (h.l3 + c2) / 2 ^ 26 = c3
  by_cases htop : h.l4 + c3 < 2 ^ 26
  · have hmask :
        ((h.l4 + c3 + (2 ^ 32 - 2 ^ 26)) % 2 ^ 32 / 2 ^ 31 + (2 ^ 32 - 1)) % 2 ^ 32 = 0 := by
      omega
    have hlt : h.value < prime := by
      simp only [Limbs.value, prime]
      omega
    rw [Nat.mod_eq_of_lt hlt]
    simp (disch := omega) only [hmask, Nat.zero_xor, Nat.and_zero, Nat.or_zero, and_ones,
      Limbs.Below, Limbs.value]
    exact ⟨⟨h0, h1, h2, h3, h4⟩, trivial⟩
  · have hmask : ((h.l4 + c3 + (2 ^ 32 - 2 ^ 26)) % 2 ^ 32 / 2 ^ 31 + (2 ^ 32 - 1)) % 2 ^ 32 =
        0xffffffff := by
      omega
    have hge : prime ≤ h.value := by
      simp only [Limbs.value, prime]
      omega
    have hlt : h.value - prime < prime := by
      simp only [Limbs.value, prime]
      omega
    rw [Nat.mod_eq_sub_mod hge, Nat.mod_eq_of_lt hlt]
    simp (disch := omega) only [hmask, Nat.xor_self, Nat.and_zero, Nat.zero_or, and_ones,
      Limbs.Below, Limbs.value, prime]
    omega

lemma or_shift {value shift : Nat} (hvalue : value < 2 ^ shift) (hshift : shift ≤ 32)
    (high : Nat) : value ||| high <<< shift % 2 ^ 32 = value + high <<< shift % 2 ^ 32 := by
  have hpow : 2 ^ 32 = 2 ^ (32 - shift) * 2 ^ shift := by
    rw [← Nat.pow_add, Nat.sub_add_cancel hshift]
  have hmod : high <<< shift % 2 ^ 32 = 2 ^ shift * (high % 2 ^ (32 - shift)) := by
    rw [Nat.shiftLeft_eq, hpow, Nat.mul_mod_mul_right, Nat.mul_comm]
  rw [hmod, Nat.or_comm, ← Nat.two_pow_add_eq_or_of_lt hvalue, Nat.add_comm]

lemma write_word {first second : Nat} (h : first % 2 ^ 32 = second % 2 ^ 32) :
    write 4 first = write 4 second := by
  rw [← write_mod 4 first, ← write_mod 4 second]
  exact congrArg (write 4) h

lemma write_words (value : Nat) : write 16 value = write 4 value ++ (write 4 (value / 2 ^ 32) ++
    (write 4 (value / 2 ^ 64) ++ write 4 (value / 2 ^ 96))) := by
  rw [show 16 = 4 + (4 + (4 + 4)) from rfl, write_add, write_add, write_add, Nat.div_div_eq_div_mul,
    Nat.div_div_eq_div_mul]
  rfl

/-- The words of the sum with the pad, modulo `2 ^ 128`. -/
lemma addPad_eq (harith : arith.Holds) (hh : h.Below (2 ^ 26)) {p0 p1 p2 p3 : Nat}
    (h0 : p0 < 2 ^ 32) (h1 : p1 < 2 ^ 32) (h2 : p2 < 2 ^ 32) (h3 : p3 < 2 ^ 32) :
    addPad arith h (p0, p1, p2, p3) =
      write 16 ((h.value + (p0 + 2 ^ 32 * p1 + 2 ^ 64 * p2 + 2 ^ 96 * p3)) % 2 ^ 128) := by
  obtain ⟨hh0, hh1, hh2, hh3, hh4⟩ := hh
  have hw0 := or_shift hh0 (by decide) h.l1
  have hw1 := or_shift (show h.l1 >>> 6 < 2 ^ 20 by rw [Nat.shiftRight_eq_div_pow]; omega)
    (by decide) h.l2
  have hw2 := or_shift (show h.l2 >>> 12 < 2 ^ 14 by rw [Nat.shiftRight_eq_div_pow]; omega)
    (by decide) h.l3
  have hw3 := or_shift (show h.l3 >>> 18 < 2 ^ 8 by rw [Nat.shiftRight_eq_div_pow]; omega)
    (by decide) h.l4
  simp only [addPad, hw0, hw1, hw2, hw3]
  clear hw0 hw1 hw2 hw3
  simp only [Nat.shiftRight_eq_div_pow, Nat.shiftLeft_eq]
  -- the words of the accumulator, then the carries from word to word
  have hwords : (h.l0 + h.l1 * 2 ^ 26 % 2 ^ 32) + 2 ^ 32 * (h.l1 / 2 ^ 6 + h.l2 * 2 ^ 20 % 2 ^ 32) +
      2 ^ 64 * (h.l2 / 2 ^ 12 + h.l3 * 2 ^ 14 % 2 ^ 32) +
      2 ^ 96 * (h.l3 / 2 ^ 18 + h.l4 * 2 ^ 8 % 2 ^ 32) + 2 ^ 128 * (h.l4 / 2 ^ 24) = h.value := by
    rw [Limbs.value]
    omega
  have hw0 : h.l0 + h.l1 * 2 ^ 26 % 2 ^ 32 < 2 ^ 32 := by omega
  have hw1 : h.l1 / 2 ^ 6 + h.l2 * 2 ^ 20 % 2 ^ 32 < 2 ^ 32 := by omega
  have hw2 : h.l2 / 2 ^ 12 + h.l3 * 2 ^ 14 % 2 ^ 32 < 2 ^ 32 := by omega
  have hw3 : h.l3 / 2 ^ 18 + h.l4 * 2 ^ 8 % 2 ^ 32 < 2 ^ 32 := by omega
  generalize h.l0 + h.l1 * 2 ^ 26 % 2 ^ 32 = w0 at *
  generalize h.l1 / 2 ^ 6 + h.l2 * 2 ^ 20 % 2 ^ 32 = w1 at *
  generalize h.l2 / 2 ^ 12 + h.l3 * 2 ^ 14 % 2 ^ 32 = w2 at *
  generalize h.l3 / 2 ^ 18 + h.l4 * 2 ^ 8 % 2 ^ 32 = w3 at *
  simp (disch := omega) only [harith _ _]
  rw [← hwords, write_words]
  congr 1
  · apply write_word
    omega
  congr 1
  · apply write_word
    omega
  congr 1
  · apply write_word
    omega
  · apply write_word
    omega

end Exact

section Key

/-- The key with the bits cleared that the limbs' masks clear. -/
def clamp (value : Nat) : Nat := value &&& 0x0ffffffc0ffffffc0ffffffc0fffffff

lemma and_split (value mask width : Nat) :
    value &&& mask = (value % 2 ^ width &&& mask % 2 ^ width) +
      2 ^ width * (value / 2 ^ width &&& mask / 2 ^ width) := by
  rw [← Nat.and_mod_two_pow, ← Nat.and_div_two_pow, Nat.mod_add_div]

lemma and_low {value low mask : Nat} (hmask : mask < 2 ^ 26) (hlow : value % 2 ^ 26 = low) :
    value &&& mask = low &&& mask := by
  have hand : value &&& mask < 2 ^ 26 := Nat.lt_of_le_of_lt Nat.and_le_right hmask
  rw [← Nat.mod_eq_of_lt hand, Nat.and_mod_two_pow, hlow, Nat.mod_eq_of_lt hmask]

lemma clamp_eq (number : Nat) : clamp number = (number % 2 ^ 26 &&& 0x3ffffff) +
    2 ^ 26 * ((number / 2 ^ 26 % 2 ^ 26 &&& 0x3ffff03) +
      2 ^ 26 * ((number / 2 ^ 26 / 2 ^ 26 % 2 ^ 26 &&& 0x3ffc0ff) +
        2 ^ 26 * ((number / 2 ^ 26 / 2 ^ 26 / 2 ^ 26 % 2 ^ 26 &&& 0x3f03fff) +
          2 ^ 26 * (number / 2 ^ 26 / 2 ^ 26 / 2 ^ 26 / 2 ^ 26 &&& 0x00fffff)))) := by
  rw [clamp, and_split number _ 26, and_split (number / 2 ^ 26) _ 26,
    and_split (number / 2 ^ 26 / 2 ^ 26) _ 26, and_split (number / 2 ^ 26 / 2 ^ 26 / 2 ^ 26) _ 26]
  rfl

/-- The limbs of the key are those of the clamped number. -/
lemma init_value (key : Bytes) : (init key).r.value = clamp (read (field 0 16 key)) := by
  have hlt := read_field_lt 0 16 key
  have h0 : readU32Le 0 key % 2 ^ 26 = read (field 0 16 key) % 2 ^ 26 := by
    rw [readU32Le, read_field, read_field]
    omega
  have h1 : readU32Le 3 key >>> 2 % 2 ^ 26 = read (field 0 16 key) / 2 ^ 26 % 2 ^ 26 := by
    rw [readU32Le, read_field, read_field, Nat.shiftRight_eq_div_pow]
    omega
  have h2 : readU32Le 6 key >>> 4 % 2 ^ 26 = read (field 0 16 key) / 2 ^ 26 / 2 ^ 26 % 2 ^ 26 := by
    rw [readU32Le, read_field, read_field, Nat.shiftRight_eq_div_pow]
    omega
  have h3 : readU32Le 9 key >>> 6 % 2 ^ 26 =
      read (field 0 16 key) / 2 ^ 26 / 2 ^ 26 / 2 ^ 26 % 2 ^ 26 := by
    rw [readU32Le, read_field, read_field, Nat.shiftRight_eq_div_pow]
    omega
  have h4 : readU32Le 12 key >>> 8 % 2 ^ 26 =
      read (field 0 16 key) / 2 ^ 26 / 2 ^ 26 / 2 ^ 26 / 2 ^ 26 := by
    rw [readU32Le, read_field, read_field, Nat.shiftRight_eq_div_pow]
    omega
  rw [clamp_eq, ← and_low (by decide) h0, ← and_low (by decide) h1, ← and_low (by decide) h2,
    ← and_low (by decide) h3, ← and_low (by decide) h4]
  simp only [init, Limbs.value]
  ring

lemma init_below (key : Bytes) : (init key).r.Below (2 ^ 26) := by
  refine ⟨?_, ?_, ?_, ?_, ?_⟩ <;> exact Nat.lt_of_le_of_lt Nat.and_le_right (by decide)

end Key

section Evaluate

variable {arith : Arith} {r h : Limbs}

/-- The blocks of the message, each with a one appended, as the coefficients of a
polynomial without a constant term, the last block the lowest. -/
def evaluate (r : Nat) (message : Bytes) : Nat :=
  ∑ index ∈ Finset.range ((message.length + 15) / 16),
    read (field (16 * index) 16 message ++ [1]) * r ^ ((message.length + 15) / 16 - index)

/-- The same by nested multiplication. -/
lemma foldl_eq_sum (r : Nat) (coefficient : Nat → Nat) (count : Nat) :
    (List.range count).foldl (fun sum index => (sum + coefficient index) * r) 0 =
      ∑ index ∈ Finset.range count, coefficient index * r ^ (count - index) := by
  induction count with
  | zero => rfl
  | succ count ih =>
    rw [range_succ, foldl_append, foldl_cons, foldl_nil, ih,
      Finset.sum_range_succ, Nat.add_mul, Finset.sum_mul, Nat.add_sub_cancel_left, pow_one]
    congr 1
    apply Finset.sum_congr rfl
    intro index hindex
    rw [Nat.succ_sub (Finset.mem_range.mp hindex).le, pow_succ, Nat.mul_assoc]

lemma foldl_modEq {first second modulus : Nat} (r : Nat) (parts : List Bytes)
    (h : first ≡ second [MOD modulus]) :
    parts.foldl (fun sum part => (sum + read (part ++ [1])) * r) first ≡
      parts.foldl (fun sum part => (sum + read (part ++ [1])) * r) second [MOD modulus] := by
  induction parts generalizing first second with
  | nil => exact h
  | cons part parts ih => exact ih ((h.add_right _).mul_right _)

/-- Full blocks: nothing is lost, and the accumulator is the nested sum. -/
lemma foldl_block_spec (harith : arith.Holds) (hr : r.Below (2 ^ 26)) (hh : h.Reduced)
    {parts : List Bytes} (hparts : ∀ part ∈ parts, part.length = 16) :
    parts.foldl (block arith r (2 ^ 24 * 1)) h = parts.foldl (block exact r (2 ^ 24 * 1)) h ∧
      (parts.foldl (block exact r (2 ^ 24 * 1)) h).Reduced ∧
      (parts.foldl (block exact r (2 ^ 24 * 1)) h).value ≡
        parts.foldl (fun sum part => (sum + read (part ++ [1])) * r.value) h.value [MOD prime] := by
  induction parts generalizing h with
  | nil => exact ⟨rfl, hh, Nat.ModEq.refl _⟩
  | cons part parts ih =>
    have hpart := hparts part mem_cons_self
    have hread : read (part ++ [1]) = read part + 2 ^ 128 * 1 := by
      rw [read_append, hpart]
      rfl
    obtain ⟨hexact, hreduced, hvalue⟩ := block_spec harith hr hh hpart (le_refl 1)
    obtain ⟨hrest, hrestReduced, hrestValue⟩ :=
      ih hreduced fun other hother => hparts other (mem_cons_of_mem _ hother)
    simp only [foldl_cons, hexact, hread]
    exact ⟨hrest, hrestReduced, hrestValue.trans (foldl_modEq _ _ hvalue)⟩

end Evaluate

section Streaming

variable {arith : Arith} {key message : Bytes} {context : Context}

/-- The context has taken in the message. -/
structure Took (arith : Arith) (key message : Bytes) (context : Context) : Prop where
  r : context.r = (init key).r
  pad : context.pad = (init key).pad
  absorbed : Absorbed (block arith (init key).r (2 ^ 24 * 1)) 16 (init key).h message context.h
    context.buffer

lemma took_init : Took arith key [] (init key) :=
  ⟨rfl, rfl, Absorbed.nil (by decide)⟩

lemma absorbBlocks_single {r h : Limbs} {highBit : Nat} {message : Bytes}
    (hmessage : message.length = 16) :
    absorbBlocks arith r highBit h message = block arith r highBit h message := by
  have hblocks := blocks_cons (by decide) hmessage []
  rw [append_nil] at hblocks
  rw [absorbBlocks, hblocks, blocks_of_short (by decide)]
  rfl

/-- The block that is begun takes the front of the piece; if the piece is longer than
that, nothing waits any more. -/
lemma Took.fillBuffer (h : Took arith key message context) (piece : Bytes) :
    ∃ front, piece = front ++ (fillBuffer arith context piece).2 ∧
      Took arith key (message ++ front) (fillBuffer arith context piece).1 ∧
      ((fillBuffer arith context piece).1.buffer = [] ∨
        (fillBuffer arith context piece).2 = []) := by
  have hshort := h.absorbed.short
  unfold Poly1305.fillBuffer
  split
  · next hbegun =>
      refine ⟨piece.take (min piece.length (16 - context.buffer.length)), ?_⟩
      simp only
      split
      · next hfull =>
          refine ⟨(take_append_drop _ _).symm, ⟨h.r, h.pad, ?_⟩, .inl rfl⟩
          rw [absorbBlocks_single hfull, h.r]
          exact h.absorbed.fill hfull
      · next hfull =>
          rw [length_append, length_take] at hfull
          refine ⟨(take_append_drop _ _).symm, ⟨h.r, h.pad, h.absorbed.wait ?_⟩, .inr ?_⟩
          · rw [length_append, length_take]
            omega
          · exact drop_of_length_le (by omega)
  · next hbegun =>
      refine ⟨[], rfl, ?_, .inl (List.length_eq_zero_iff.mp (not_not.mp hbegun))⟩
      rwa [append_nil]

lemma Took.update (h : Took arith key message context) (piece : Bytes) :
    Took arith key (message ++ piece) (update arith context piece) := by
  obtain ⟨front, hpiece, hfilled, hdone⟩ := h.fillBuffer piece
  rw [hpiece, ← append_assoc]
  unfold Poly1305.update
  rw [← hpiece]
  generalize Poly1305.fillBuffer arith context piece = filled at *
  obtain ⟨filled, rest⟩ := filled
  simp only at hfilled hdone ⊢
  rcases hdone with hbuffer | rfl
  · have habsorbed := hfilled.absorbed
    rw [hbuffer] at habsorbed
    have hnext := habsorbed.append rest
    have hblocks : (if rest.length ≥ 16 then
          { filled with
            h := absorbBlocks arith filled.r (1 <<< 24) filled.h
              (rest.take (rest.length - rest.length % 16)) }
        else filled) =
        { filled with
          h := (blocks 16 rest).foldl (block arith (init key).r (2 ^ 24 * 1)) filled.h } := by
      split
      · rw [absorbBlocks, blocks_take (by decide), hfilled.r]
        rfl
      · next hlong => rw [blocks_of_short (Nat.lt_of_not_le hlong), foldl_nil]
    rw [hblocks]
    split
    · exact ⟨hfilled.r, hfilled.pad, hnext⟩
    · next hnone =>
        refine ⟨hfilled.r, hfilled.pad, ?_⟩
        rw [List.length_eq_zero_iff.mp (not_not.mp hnone)] at hnext
        rwa [← hbuffer] at hnext
  · simpa using hfilled

lemma Took.updates (h : Took arith key message context) (pieces : List Bytes) :
    Took arith key (message ++ pieces.flatten) (pieces.foldl (Poly1305.update arith) context) := by
  induction pieces generalizing message context with
  | nil => rwa [flatten_nil, append_nil]
  | cons piece pieces ih =>
    rw [flatten_cons, ← append_assoc]
    exact ih (h.update piece)

/-- The nested sum over the blocks and the rest. -/
lemma evaluate_eq {σ : Type} {absorb : σ → Bytes → σ} {start state : σ} {rest : Bytes} (r : Nat)
    (h : Absorbed absorb 16 start message state rest) : evaluate r message = if rest.length ≠ 0 then
        ((blocks 16 message).foldl (fun sum part => (sum + read (part ++ [1])) * r) 0 +
          read (rest ++ [1])) * r
      else (blocks 16 message).foldl (fun sum part => (sum + read (part ++ [1])) * r) 0 := by
  have hmod := h.length_mod
  have hrest := h.rest_eq
  have hblocks : (blocks 16 message).foldl (fun sum part => (sum + read (part ++ [1])) * r) 0 =
      (List.range (message.length / 16)).foldl
        (fun sum index => (sum + read (field (16 * index) 16 message ++ [1])) * r) 0 := by
    simp only [blocks, foldl_map, field, Nat.mul_comm]
  rw [evaluate, ← foldl_eq_sum r fun index => read (field (16 * index) 16 message ++ [1]), hblocks]
  split
  · next hsome =>
      have hcount : (message.length + 15) / 16 = message.length / 16 + 1 := by omega
      have hlast : field (16 * (message.length / 16)) 16 message = rest := by
        rw [field, show 16 * (message.length / 16) = message.length - message.length % 16 by omega,
          ← hrest, take_of_length_le h.short.le]
      rw [hcount, range_succ, foldl_append, foldl_cons, foldl_nil, hlast]
  · next hnone =>
      have hcount : (message.length + 15) / 16 = message.length / 16 := by omega
      rw [hcount]

lemma readU32Le_lt (offset : Nat) (bytes : Bytes) : readU32Le offset bytes < 2 ^ 32 :=
  read_field_lt offset 4 bytes

lemma read_zeros (count : Nat) : read (List.replicate count 0) = 0 := by
  induction count with
  | zero => rfl
  | succ count ih => rw [replicate_succ, LittleEndian.read, ih]; rfl

lemma init_pad (key : Bytes) : read (field 16 16 key) = readU32Le 16 key +
    2 ^ 32 * readU32Le 20 key + 2 ^ 64 * readU32Le 24 key + 2 ^ 96 * readU32Le 28 key := by
  simp only [readU32Le, read_field]
  omega

/-- The number a tag writes. -/
def authenticator (key message : Bytes) : Nat :=
  (evaluate (clamp (read (field 0 16 key))) message % prime + read (field 16 16 key)) % 2 ^ 128

/-- The accumulator after the last block. -/
lemma Took.accumulated (harith : arith.Holds) (h : Took arith key message context) :
    ∃ limbs : Limbs, limbs.Reduced ∧
      limbs.value ≡ evaluate (clamp (read (field 0 16 key))) message [MOD prime] ∧
      (if context.buffer.length ≠ 0 then absorbBlocks arith context.r 0 context.h
          (context.buffer ++ [1] ++ List.replicate (16 - (context.buffer.length + 1)) 0)
      else context.h) = limbs := by
  have hr := init_below key
  have hstart : (init key).h.Reduced := by constructor <;> simp [init]
  have hshort := h.absorbed.short
  obtain ⟨parts, hparts, hmessage, hstate⟩ := h.absorbed.cut
  have hblocks : blocks 16 message = parts := by
    rw [hmessage, blocks_flatten (by decide) hparts hshort]
  obtain ⟨hexact, hreduced, hvalue⟩ := foldl_block_spec harith hr hstart hparts
  rw [evaluate_eq _ h.absorbed, ← init_value, hblocks, h.r, hstate, hexact]
  split
  · -- the rest, with a one and zeros to the end of the block
    have hpadded : (context.buffer ++ [1] ++
        List.replicate (16 - (context.buffer.length + 1)) (0 : UInt8)).length = 16 := by
      simp only [length_append, length_singleton, length_replicate]
      omega
    have hread : read (context.buffer ++ [1] ++
        List.replicate (16 - (context.buffer.length + 1)) (0 : UInt8)) =
          read (context.buffer ++ [1]) := by
      rw [read_append, read_zeros, Nat.mul_zero, Nat.add_zero]
    obtain ⟨hlast, hlastReduced, hlastValue⟩ :=
      block_spec harith hr hreduced hpadded (Nat.zero_le 1)
    rw [hread, Nat.mul_zero, Nat.add_zero] at hlastValue
    refine ⟨_, hlastReduced, hlastValue.trans ((hvalue.add_right _).mul_right _), ?_⟩
    rw [absorbBlocks_single hpadded]
    exact hlast
  · exact ⟨_, hreduced, hvalue, rfl⟩

lemma Took.final (harith : arith.Holds) (h : Took arith key message context) :
    final arith context = write 16 (authenticator key message) := by
  obtain ⟨limbs, hreduced, hvalue, hlimbs⟩ := h.accumulated harith
  have hbelow := carryFinal_below hreduced
  obtain ⟨hselected, hselect⟩ := select_value hbelow
  have hremainder : (select exact (carryFinal exact limbs)).value =
      evaluate (clamp (read (field 0 16 key))) message % prime :=
    hselect.trans ((carryFinal_value limbs).trans hvalue)
  rw [Poly1305.final, hlimbs, carryFinal_exact harith hreduced, select_exact harith hbelow, h.pad]
  simp only [init]
  rw [addPad_eq harith hselected (readU32Le_lt 16 key) (readU32Le_lt 20 key) (readU32Le_lt 24 key)
    (readU32Le_lt 28 key), hremainder, ← init_pad, authenticator]

/-- However the message is divided, no register has to hold more than its width, and the tag
is the polynomial of the blocks at the clamped key, plus the pad. -/
theorem poly1305_tag (key : Bytes) (pieces : List Bytes) :
    (∀ arith : Arith, arith.Holds → tag arith key pieces = tag exact key pieces) ∧
      tag wrapping key pieces = write 16 (authenticator key pieces.flatten) := by
  have htag : ∀ arith : Arith, arith.Holds →
      tag arith key pieces = write 16 (authenticator key pieces.flatten) := by
    intro arith harith
    have htook : Took arith key ([] ++ pieces.flatten) _ := took_init.updates pieces
    exact htook.final harith
  exact ⟨fun arith harith => (htag arith harith).trans (htag exact exact_holds).symm,
    htag wrapping wrapping_holds⟩

/-- RFC 8439, section 2.5.2. -/
example : tag wrapping
    [0x85, 0xd6, 0xbe, 0x78, 0x57, 0x55, 0x6d, 0x33, 0x7f, 0x44, 0x52, 0xfe, 0x42, 0xd5, 0x06, 0xa8,
     0x01, 0x03, 0x80, 0x8a, 0xfb, 0x0d, 0xb2, 0xfd, 0x4a, 0xbf, 0xf6, 0xaf, 0x41, 0x49, 0xf5, 0x1b]
    ["Cryptographic ".toUTF8.toList, "Forum Research Group".toUTF8.toList] =
    [0xa8, 0x06, 0x1d, 0xc1, 0x30, 0x51, 0x36, 0xc6, 0xc2, 0x2b, 0x8b, 0xaf, 0x0c, 0x01, 0x27, 0xa9]
    := by decide +kernel

/-- Registers that stop at their largest value would give the same tag. -/
theorem poly1305_tag_saturating :
    tag (fun width value => min value (2 ^ width - 1)) (List.replicate 32 255)
        [List.replicate 20 255, [], [7]] =
      tag exact (List.replicate 32 255) [List.replicate 20 255, [], [7]] :=
  (poly1305_tag (List.replicate 32 255) [List.replicate 20 255, [], [7]]).1 _
    fun _ _ hlt => Nat.min_eq_left (Nat.le_pred_of_lt hlt)

end Streaming

end Poly1305

end ShibaDb
