/-
Fixed-width little-endian integers and field access in byte strings.
-/
import Mathlib

namespace LittleEndian

open List

variable {width offset : Nat} {before : Bytes}

abbrev Bytes := List UInt8

/-- The `width` least significant bytes of `value`, lowest byte first. -/
def write : Nat → Nat → Bytes
  | 0, _ => []
  | width + 1, value => UInt8.ofNat value :: write width (value / 256)

/-- The number whose little-endian digits are the given bytes. -/
def read : Bytes → Nat
  | [] => 0
  | byte :: rest => byte.toNat + 256 * read rest

@[simp]
lemma write_length (width value : Nat) : (write width value).length = width := by
  induction width generalizing value with
  | zero => rfl
  | succ width ih => simp [write, ih]

lemma read_write (width value : Nat) : read (write width value) = value % 256 ^ width := by
  induction width generalizing value with
  | zero => simp [write, read, Nat.mod_one]
  | succ width ih =>
    have hbyte : (UInt8.ofNat value).toNat = value % 256 := by simp
    rw [write, read, ih, hbyte, Nat.pow_succ, Nat.mul_comm (256 ^ width), Nat.mod_mul]

lemma read_write_of_lt {value : Nat} (hvalue : value < 256 ^ width) :
    read (write width value) = value := by
  rw [read_write, Nat.mod_eq_of_lt hvalue]

lemma read_lt (bytes : Bytes) : read bytes < 256 ^ bytes.length := by
  induction bytes with
  | nil => simp [read]
  | cons byte rest ih =>
    have hbyte : byte.toNat < 256 := byte.toNat_lt
    simp only [read, length_cons, Nat.pow_succ]
    omega

/-- The field of `width` bytes at `offset`. -/
def field (offset width : Nat) (bytes : Bytes) : Bytes :=
  (bytes.drop offset).take width

lemma field_isInfix (offset width : Nat) (bytes : Bytes) : field offset width bytes <:+: bytes :=
  ( List.take_prefix width _).isInfix.trans (List.drop_suffix offset bytes).isInfix

lemma read_field_lt (offset width : Nat) (bytes : Bytes) :
    read (field offset width bytes) < 256 ^ width := by
  refine lt_of_lt_of_le (read_lt _) (Nat.pow_le_pow_right (by decide) ?_)
  rw [field, length_take]
  exact Nat.min_le_left _ _

/-- A field behind a known part is a field of the rest. -/
lemma field_skip (rest : Bytes) (hbefore : before.length ≤ offset) :
    field offset width (before ++ rest) = field (offset - before.length) width rest := by
  simp [field, drop_append, drop_of_length_le hbefore]

lemma drop_skip {count : Nat} (rest : Bytes) (hbefore : before.length ≤ count) :
    (before ++ rest).drop count = rest.drop (count - before.length) := by
  rw [drop_append, drop_of_length_le hbefore, nil_append]

lemma take_skip {count : Nat} (rest : Bytes) (hbefore : before.length ≤ count) :
    (before ++ rest).take count = before ++ rest.take (count - before.length) := by
  rw [take_append, take_of_length_le hbefore]

lemma field_head {middle : Bytes} (after : Bytes) (hmiddle : middle.length = width) :
    field 0 width (middle ++ after) = middle := by
  simp [field, ← hmiddle]

lemma field_full {middle : Bytes} (hmiddle : middle.length = width) :
    field 0 width middle = middle := by
  simp [field, ← hmiddle]

lemma field_left (rest : Bytes) (hbefore : offset + width ≤ before.length) :
    field offset width (before ++ rest) = field offset width before := by
  have hoffset : offset ≤ before.length := by omega
  simp only [field, drop_append_of_le_length hoffset]
  exact take_append_of_le_length (by simp; omega)

lemma field_length {bytes : Bytes} (hfits : offset + width ≤ bytes.length) :
    (field offset width bytes).length = width := by
  simp only [field, length_take, length_drop]
  omega

lemma read_append (front back : Bytes) :
    read (front ++ back) = read front + 256 ^ front.length * read back := by
  induction front with
  | nil => simp [read]
  | cons byte front ih =>
    rw [cons_append, read, ih, read, length_cons, Nat.pow_succ]
    ring

lemma read_take (count : Nat) (bytes : Bytes) :
    read (bytes.take count) = read bytes % 256 ^ count := by
  by_cases hcount : count ≤ bytes.length
  · have hread := read_append (bytes.take count) (bytes.drop count)
    have hlt := read_lt (bytes.take count)
    rw [length_take_of_le hcount] at hread hlt
    rw [take_append_drop] at hread
    rw [hread, Nat.add_mul_mod_self_left, Nat.mod_eq_of_lt hlt]
  · have hlt := (read_lt bytes).trans_le
      (Nat.pow_le_pow_right (by decide) (Nat.le_of_not_le hcount))
    rw [take_of_length_le (Nat.le_of_not_le hcount), Nat.mod_eq_of_lt hlt]

lemma read_drop (count : Nat) (bytes : Bytes) :
    read (bytes.drop count) = read bytes / 256 ^ count := by
  induction count generalizing bytes with
  | zero => simp
  | succ count ih =>
    cases bytes with
    | nil => simp [read]
    | cons byte rest =>
      have hbyte := byte.toNat_lt
      rw [drop_succ_cons, ih, read, Nat.pow_succ', ← Nat.div_div_eq_div_mul]
      congr 1
      omega

/-- A field is a range of digits. -/
lemma read_field (offset width : Nat) (bytes : Bytes) :
    read (field offset width bytes) = read bytes / 256 ^ offset % 256 ^ width := by
  rw [field, read_take, read_drop]

/-- A byte string is the encoding of the number it encodes. -/
lemma write_read (bytes : Bytes) : write bytes.length (read bytes) = bytes := by
  induction bytes with
  | nil => rfl
  | cons byte rest ih =>
    have hbyte := byte.toNat_lt
    have hhead : UInt8.ofNat (byte.toNat + 256 * read rest) = byte := by
      rw [← UInt8.toNat_inj, UInt8.toNat_ofNat']
      omega
    have htail : (byte.toNat + 256 * read rest) / 256 = read rest := by omega
    rw [length_cons, read, write, hhead, htail, ih]

lemma write_mod (width value : Nat) : write width (value % 256 ^ width) = write width value := by
  have hread := write_read (write width value)
  rwa [write_length, read_write] at hread

/-- The low bytes of a number, and the others. -/
lemma write_add (low high value : Nat) :
    write (low + high) value = write low value ++ write high (value / 256 ^ low) := by
  induction low generalizing value with
  | zero => simp [write]
  | succ low ih =>
    rw [Nat.succ_add, write, ih, write, cons_append, Nat.pow_succ', Nat.div_div_eq_div_mul]

lemma write_read_field {bytes : Bytes} (hfits : offset + width ≤ bytes.length) :
    write width (read (field offset width bytes)) = field offset width bytes := by
  have hfield := write_read (field offset width bytes)
  rwa [field_length hfits] at hfield

/-- A field and what follows it. -/
lemma field_append_drop (offset width : Nat) (bytes : Bytes) :
    field offset width bytes ++ bytes.drop (offset + width) = bytes.drop offset := by
  rw [field, ← drop_drop]
  exact take_append_drop width (bytes.drop offset)

end LittleEndian
