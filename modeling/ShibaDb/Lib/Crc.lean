/-
Reflected cyclic redundancy checks of any width, one bit at a time.  A step is linear
over exclusive or, and a state whose low bits are zero is only shifted; so the steps of a
state are those of its low bits and, fewer, those of the rest.
-/
import Mathlib

namespace Crc

variable {w : Nat} (poly : BitVec w)

def bitStep (crc : BitVec w) : BitVec w :=
  if crc.getLsbD 0 then (crc >>> 1) ^^^ poly else crc >>> 1

def bitSteps (count : Nat) (crc : BitVec w) : BitVec w := (bitStep poly)^[count] crc

/-- The next byte of the input. -/
def byteStep (crc : BitVec w) (byte : BitVec 8) : BitVec w :=
  bitSteps poly 8 (crc ^^^ byte.setWidth w)

def byteSteps (crc : BitVec w) (bytes : List (BitVec 8)) : BitVec w :=
  bytes.foldl (byteStep poly) crc

section Linear

variable {poly}

lemma bitStep_xor (left right : BitVec w) :
    bitStep poly (left ^^^ right) = bitStep poly left ^^^ bitStep poly right := by
  have hself : poly ^^^ poly = 0#w := BitVec.xor_self
  simp only [bitStep, BitVec.getLsbD_xor, BitVec.ushiftRight_xor_distrib]
  cases left.getLsbD 0 <;> cases right.getLsbD 0
  · rfl
  · exact BitVec.xor_assoc _ _ _
  · change left >>> 1 ^^^ right >>> 1 ^^^ poly = left >>> 1 ^^^ poly ^^^ right >>> 1
    ac_rfl
  · change left >>> 1 ^^^ right >>> 1 = (left >>> 1 ^^^ poly) ^^^ (right >>> 1 ^^^ poly)
    rw [BitVec.xor_assoc, BitVec.xor_comm poly, BitVec.xor_assoc, hself, BitVec.xor_zero]

lemma bitSteps_xor (count : Nat) (left right : BitVec w) : bitSteps poly count (left ^^^ right) =
      bitSteps poly count left ^^^ bitSteps poly count right := by
  induction count generalizing left right with
  | zero => rfl
  | succ count ih =>
    change bitSteps poly count (bitStep poly (left ^^^ right)) = _
    rw [bitStep_xor]
    exact ih _ _

lemma bitSteps_add (first second : Nat) (crc : BitVec w) :
    bitSteps poly (first + second) crc = bitSteps poly second (bitSteps poly first crc) := by
  rw [bitSteps, Nat.add_comm, Function.iterate_add_apply]
  rfl

lemma bitSteps_zero (count : Nat) : bitSteps poly count 0#w = 0#w := by
  have hself : bitSteps poly count (0#w ^^^ 0#w) = 0#w := by
    rw [bitSteps_xor, BitVec.xor_self]
  rwa [BitVec.xor_self] at hself

end Linear

section Shift

variable {poly} {count : Nat}

/-- A state whose low bits are zero is shifted. -/
lemma bitSteps_of_low {crc : BitVec w} (hlow : crc.toNat % 2 ^ count = 0) :
    bitSteps poly count crc = crc >>> count := by
  induction count generalizing crc with
  | zero => simp [bitSteps]
  | succ count ih =>
    have heven : crc.toNat % 2 = 0 := by
      rw [← Nat.mod_mod_of_dvd crc.toNat (Dvd.intro_left (2 ^ count) rfl), ← Nat.pow_succ, hlow]
    have hstep : bitStep poly crc = crc >>> 1 := by
      rw [bitStep, if_neg]
      simp [BitVec.getLsbD, Nat.testBit_zero, heven]
    have hrest : (crc >>> 1).toNat % 2 ^ count = 0 := by
      rw [BitVec.toNat_ushiftRight, Nat.shiftRight_one]
      rw [Nat.pow_succ, Nat.mul_comm] at hlow
      have hdiv := Nat.mod_mul (x := crc.toNat) (a := 2) (b := 2 ^ count)
      omega
    change bitSteps poly count (bitStep poly crc) = _
    rw [hstep, ih hrest, ← BitVec.shiftRight_add, Nat.add_comm]

/-- What is shifted in from the left comes down unchanged. -/
lemma bitSteps_shiftLeft {item : BitVec w} (hroom : item.toNat * 2 ^ count < 2 ^ w) :
    bitSteps poly count (item <<< count) = item := by
  have hshifted : (item <<< count).toNat = item.toNat * 2 ^ count := by
    rw [BitVec.toNat_shiftLeft, Nat.shiftLeft_eq, Nat.mod_eq_of_lt hroom]
  rw [bitSteps_of_low (by rw [hshifted, Nat.mul_mod_left])]
  apply BitVec.eq_of_toNat_eq
  rw [BitVec.toNat_ushiftRight, hshifted, Nat.shiftRight_eq_div_pow,
    Nat.mul_div_cancel _ (Nat.two_pow_pos count)]

/-- The steps of a state: of its low bits, and fewer of the rest. -/
lemma bitSteps_split (low count : Nat) (crc : BitVec w) : bitSteps poly (low + count) crc =
      bitSteps poly (low + count) (crc &&& BitVec.ofNat w (2 ^ low - 1)) ^^^
        bitSteps poly count (crc >>> low) := by
  have hparts : crc = (crc &&& BitVec.ofNat w (2 ^ low - 1)) ^^^ (crc >>> low) <<< low := by
    apply BitVec.eq_of_getLsbD_eq
    intro index hindex
    have hmask : (BitVec.ofNat w (2 ^ low - 1)).getLsbD index = decide (index < low) := by
      rw [BitVec.getLsbD_ofNat, Nat.testBit_two_pow_sub_one, decide_eq_true hindex, Bool.true_and]
    rw [BitVec.getLsbD_xor, BitVec.getLsbD_and, hmask, BitVec.getLsbD_shiftLeft,
      BitVec.getLsbD_ushiftRight]
    by_cases hlow : index < low
    · simp [hlow]
    · simp [hlow, hindex, Nat.add_sub_cancel' (not_lt.mp hlow)]
  have hroom : (crc >>> low).toNat * 2 ^ low < 2 ^ w := by
    rw [BitVec.toNat_ushiftRight, Nat.shiftRight_eq_div_pow]
    exact lt_of_le_of_lt (Nat.div_mul_le_self _ _) crc.isLt
  conv_lhs => rw [hparts]
  rw [bitSteps_xor, bitSteps_add low count ((crc >>> low) <<< low), bitSteps_shiftLeft hroom]

/-- Bits put beside each other. -/
lemma or_shiftLeft_eq_xor {low : BitVec w} (hlow : low.toNat < 2 ^ count) (high : BitVec w) :
    low ||| high <<< count = low ^^^ high <<< count := by
  apply BitVec.eq_of_getLsbD_eq
  intro index hindex
  rw [BitVec.getLsbD_or, BitVec.getLsbD_xor, BitVec.getLsbD_shiftLeft]
  by_cases hcount : index < count
  · simp [hcount]
  · have hbit : low.getLsbD index = false := Nat.testBit_lt_two_pow
      (lt_of_lt_of_le hlow (Nat.pow_le_pow_right (by decide) (not_lt.mp hcount)))
    rw [hbit, Bool.false_or, Bool.false_xor]

end Shift

section Bytes

variable {poly}

lemma byteSteps_cons (crc : BitVec w) (byte : BitVec 8) (bytes : List (BitVec 8)) :
    byteSteps poly crc (byte :: bytes) = byteSteps poly (byteStep poly crc byte) bytes := rfl

lemma byteSteps_append (crc : BitVec w) (first second : List (BitVec 8)) :
    byteSteps poly crc (first ++ second) = byteSteps poly (byteSteps poly crc first) second :=
  List.foldl_append

/-- The state and the input go through the steps apart. -/
lemma byteSteps_eq_xor (crc : BitVec w) (bytes : List (BitVec 8)) : byteSteps poly crc bytes =
      bitSteps poly (8 * bytes.length) crc ^^^ byteSteps poly 0#w bytes := by
  induction bytes generalizing crc with
  | nil => exact BitVec.xor_zero.symm
  | cons byte bytes ih =>
    rw [byteSteps_cons, byteSteps_cons, ih (byteStep poly crc byte), ih (byteStep poly 0#w byte),
      byteStep, byteStep, bitSteps_xor, BitVec.zero_xor, bitSteps_xor, BitVec.xor_assoc,
      ← bitSteps_add, List.length_cons, Nat.mul_add_one, Nat.add_comm]

/-- Bytes that are read later are added to the state at once, shifted. -/
lemma byteStep_bitSteps {count : Nat} (crc : BitVec w) (byte : BitVec 8) (hroom : count + 8 ≤ w) :
    byteStep poly (bitSteps poly count crc) byte =
      bitSteps poly (count + 8) (crc ^^^ (byte.setWidth w) <<< count) := by
  have hbyte : (byte.setWidth w).toNat * 2 ^ count < 2 ^ w := by
    have hlt : byte.toNat < 2 ^ 8 := byte.isLt
    calc (byte.setWidth w).toNat * 2 ^ count ≤ byte.toNat * 2 ^ count := by
          rw [BitVec.toNat_setWidth]
          exact Nat.mul_le_mul_right _ (Nat.mod_le _ _)
      _ < 2 ^ 8 * 2 ^ count := Nat.mul_lt_mul_of_pos_right hlt (Nat.two_pow_pos count)
      _ = 2 ^ (count + 8) := by rw [← Nat.pow_add, Nat.add_comm]
      _ ≤ 2 ^ w := Nat.pow_le_pow_right (by decide) hroom
  rw [bitSteps_add, bitSteps_xor, bitSteps_shiftLeft hbyte, byteStep]

end Bytes

end Crc
