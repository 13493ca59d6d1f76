/-
The content of a file as a byte string: reading and overwriting a range, and
setting the size.  Bytes between the old end and a later write are zero.
-/
import ShibaDb.Lib.LittleEndian

namespace ByteFile

open List

open LittleEndian (Bytes field)

/-- The content up to `offset`, with zeros where the file ends before. -/
def head (content : Bytes) (offset : Nat) : Bytes :=
  content.take offset ++ List.replicate (offset - content.length) 0

def writeAt (content : Bytes) (offset : Nat) (data : Bytes) : Bytes :=
  head content offset ++ data ++ content.drop (offset + data.length)

def resize (content : Bytes) (size : Nat) : Bytes := head content size

/-- The bytes of a range, if the file reaches its end. -/
def readAt (content : Bytes) (offset size : Nat) : Option Bytes :=
  if offset + size ≤ content.length then some (field offset size content) else none

variable {content data : Bytes} {offset size start : Nat}

@[simp] lemma head_length (content : Bytes) (offset : Nat) :
    (head content offset).length = offset := by
  simp only [head, length_append, length_take, length_replicate]
  omega

@[simp] lemma resize_length (content : Bytes) (size : Nat) :
    (resize content size).length = size := head_length content size

lemma writeAt_length (content : Bytes) (offset : Nat) (data : Bytes) :
    (writeAt content offset data).length = max content.length (offset + data.length) := by
  simp only [writeAt, length_append, head_length, length_drop]
  omega

lemma length_le_writeAt (content : Bytes) (offset : Nat) (data : Bytes) :
    content.length ≤ (writeAt content offset data).length := by
  rw [writeAt_length]
  exact le_max_left _ _

lemma head_of_le (h : offset ≤ content.length) : head content offset = content.take offset := by
  rw [head, Nat.sub_eq_zero_of_le h, replicate_zero, append_nil]

/-- A write at the end of the file appends. -/
lemma writeAt_end (content data : Bytes) :
    writeAt content content.length data = content ++ data := by
  rw [writeAt, head_of_le le_rfl, take_length,
    drop_eq_nil_of_le (Nat.le_add_right _ _), append_nil]

lemma readAt_writeAt (content : Bytes) (offset : Nat) (data : Bytes) :
    readAt (writeAt content offset data) offset data.length = some data := by
  have hlength : offset + data.length ≤ (writeAt content offset data).length := by
    rw [writeAt_length]
    exact le_max_right _ _
  rw [readAt, if_pos hlength, writeAt, append_assoc, field,
    drop_left' (head_length content offset), take_left' rfl]

/-- Bytes inside a prefix of the content that a longer content shares. -/
lemma readAt_append (h : start + size ≤ content.length) (rest : Bytes) :
    readAt (content ++ rest) start size = readAt content start size := by
  rw [readAt, readAt, if_pos h, if_pos (by rw [length_append]; omega),
    LittleEndian.field_left rest h]

section

variable (hend : start + size ≤ offset) (h : start + size ≤ content.length)

include hend h

lemma readAt_head :
    readAt (head content offset) start size = readAt content start size := by
  rcases Nat.le_total offset content.length with hle | hle
  · rw [head_of_le hle, readAt, readAt, if_pos h, if_pos (by simp; omega), field, field,
      drop_take, take_take, min_eq_left (by omega)]
  · rw [head, take_of_length_le hle]
    exact readAt_append h _

lemma readAt_resize :
    readAt (resize content offset) start size = readAt content start size :=
  readAt_head hend h

/-- A write leaves a range before it alone. -/
lemma readAt_writeAt_before :
    readAt (writeAt content offset data) start size = readAt content start size := by
  rw [writeAt, append_assoc, readAt_append (by rw [head_length]; exact hend),
    readAt_head hend h]

end

/-- A write leaves a range after it alone. -/
lemma readAt_writeAt_after (hstart : offset + data.length ≤ start)
    (h : start + size ≤ content.length) :
    readAt (writeAt content offset data) start size = readAt content start size := by
  have hlength := length_le_writeAt content offset data
  have hpre : (head content offset ++ data).length = offset + data.length := by
    rw [length_append, head_length]
  have hdrop : offset + data.length + (start - (offset + data.length)) = start := by omega
  rw [readAt, readAt, if_pos h, if_pos (by omega), writeAt, field, field,
    drop_append, drop_eq_nil_of_le (by rw [hpre]; exact hstart), nil_append,
    drop_drop, hpre, hdrop]

lemma readAt_writeAt_disjoint (hdisjoint : start + size ≤ offset ∨ offset + data.length ≤ start)
    (h : start + size ≤ content.length) :
    readAt (writeAt content offset data) start size = readAt content start size := by
  rcases hdisjoint with hend | hstart
  · exact readAt_writeAt_before hend h
  · exact readAt_writeAt_after hstart h

/-- A range inside what was written. -/
lemma readAt_writeAt_within (hstart : offset ≤ start)
    (hend : start + size ≤ offset + data.length) :
    readAt (writeAt content offset data) start size = readAt data (start - offset) size := by
  have hlength : start + size ≤ (writeAt content offset data).length := by
    rw [writeAt_length]
    exact le_max_of_le_right hend
  rw [readAt, readAt, if_pos hlength, if_pos (by omega), writeAt, append_assoc,
    LittleEndian.field_skip _ (by rw [head_length]; exact hstart), head_length,
    LittleEndian.field_left _ (by omega)]

/-- A write leaves what lies behind it alone. -/
lemma drop_writeAt (hend : offset + data.length ≤ start) :
    (writeAt content offset data).drop start = content.drop start := by
  have hpre : (head content offset ++ data).length = offset + data.length := by
    rw [length_append, head_length]
  rw [writeAt, LittleEndian.drop_skip _ (by rw [hpre]; exact hend), hpre, drop_drop]
  congr 1
  omega

/-- A range behind `start` depends only on what lies behind `start`. -/
lemma readAt_congr_drop {other : Bytes} (hstart : start ≤ offset)
    (hdrop : other.drop start = content.drop start) (hcontent : start ≤ content.length)
    (hother : start ≤ other.length) : readAt other offset size = readAt content offset size := by
  have hlength : other.length = content.length := by
    have := congrArg List.length hdrop
    simp only [length_drop] at this
    omega
  have hfield : field offset size other = field offset size content := by
    have hsplit : start + (offset - start) = offset := by omega
    rw [field, field, ← hsplit, ← drop_drop, ← drop_drop, hdrop]
  rw [readAt, readAt, hlength, hfield]

lemma readAt_all (content : Bytes) : readAt content 0 content.length = some content := by
  simp [readAt, LittleEndian.field]

lemma readAt_length {bytes : Bytes} (h : readAt content offset size = some bytes) :
    bytes.length = size := by
  unfold readAt at h
  split at h
  · rw [← Option.some.inj h]
    exact LittleEndian.field_length (by assumption)
  · simp at h

lemma readAt_eq_some_iff : (∃ bytes, readAt content offset size = some bytes) ↔
    offset + size ≤ content.length := by
  unfold readAt
  split <;> simp_all

section Span

variable {position : Nat}

end Span

end ByteFile
