/-
Messages taken in block by block.  A state absorbs the full blocks of a message as they
fill; what is left over, shorter than a block, waits for the next piece.  However the
message is divided, the state is the fold over its blocks.
-/
import Mathlib

namespace BlockStream

open List

variable {α σ : Type} {absorb : σ → List α → σ} {size : Nat} {start state : σ}
  {message rest piece : List α}

/-- The full blocks of a message. -/
def blocks (size : Nat) (message : List α) : List (List α) :=
  (List.range (message.length / size)).map fun index => (message.drop (index * size)).take size

lemma blocks_of_short (h : message.length < size) : blocks size message = [] := by
  rw [blocks, Nat.div_eq_of_lt h, range_zero, map_nil]

lemma blocks_cons {block : List α} (hsize : 0 < size) (hblock : block.length = size)
    (message : List α) : blocks size (block ++ message) = block :: blocks size message := by
  have hcount : (block ++ message).length / size = message.length / size + 1 := by
    rw [length_append, hblock, Nat.add_div_left _ hsize]
  rw [blocks, hcount, range_succ_eq_map, map_cons, map_map]
  congr 1
  · rw [Nat.zero_mul, drop_zero, ← hblock, take_left]
  · apply map_congr_left
    intro index _
    simp only [Function.comp_apply, Nat.succ_eq_add_one, Nat.add_mul, Nat.one_mul]
    rw [Nat.add_comm, ← drop_drop, ← hblock, drop_left]

lemma blocks_flatten {parts : List (List α)} (hsize : 0 < size)
    (hparts : ∀ part ∈ parts, part.length = size) (hrest : rest.length < size) :
    blocks size (parts.flatten ++ rest) = parts := by
  induction parts with
  | nil => exact blocks_of_short hrest
  | cons part parts ih =>
    rw [flatten_cons, append_assoc, blocks_cons hsize (hparts part mem_cons_self),
      ih fun other hother => hparts other (mem_cons_of_mem _ hother)]

/-- The state has absorbed the full blocks of the message, and the rest waits. -/
structure Absorbed (absorb : σ → List α → σ) (size : Nat) (start : σ) (message : List α)
    (state : σ) (rest : List α) : Prop where
  short : rest.length < size
  cut : ∃ parts : List (List α), (∀ part ∈ parts, part.length = size) ∧
    message = parts.flatten ++ rest ∧ state = parts.foldl absorb start

lemma Absorbed.nil (hsize : 0 < size) : Absorbed absorb size start [] start [] :=
  ⟨hsize, [], by simp, rfl, rfl⟩

/-- A piece that does not fill the block waits with the rest. -/
lemma Absorbed.wait (h : Absorbed absorb size start message state rest)
    (hshort : (rest ++ piece).length < size) :
    Absorbed absorb size start (message ++ piece) state (rest ++ piece) := by
  obtain ⟨parts, hparts, rfl, hstate⟩ := h.cut
  exact ⟨hshort, parts, hparts, append_assoc .., hstate⟩

/-- A piece that fills the block is absorbed with the rest. -/
lemma Absorbed.fill (h : Absorbed absorb size start message state rest)
    (hfull : (rest ++ piece).length = size) :
    Absorbed absorb size start (message ++ piece) (absorb state (rest ++ piece)) [] := by
  obtain ⟨parts, hparts, rfl, rfl⟩ := h.cut
  refine ⟨Nat.zero_lt_of_lt h.short, parts ++ [rest ++ piece], ?_, ?_, ?_⟩
  · intro part hpart
    rcases List.mem_append.mp hpart with hpart | hpart
    · exact hparts part hpart
    · rw [List.mem_singleton.mp hpart, hfull]
  · simp [append_assoc]
  · rw [foldl_append, foldl_cons, foldl_nil]

lemma length_flatten_of_length {parts : List (List α)}
    (hparts : ∀ part ∈ parts, part.length = size) : parts.flatten.length = parts.length * size := by
  rw [length_flatten, map_congr_left hparts, map_const', sum_replicate,
    smul_eq_mul]

section

variable (h : Absorbed absorb size start message state rest)

include h

lemma Absorbed.length_mod :
    message.length % size = rest.length := by
  obtain ⟨parts, hparts, rfl, -⟩ := h.cut
  rw [length_append, length_flatten_of_length hparts, Nat.add_comm,
    Nat.add_mul_mod_self_right, Nat.mod_eq_of_lt h.short]

/-- The rest is what the blocks leave of the message. -/
lemma Absorbed.rest_eq :
    rest = message.drop (message.length - message.length % size) := by
  obtain ⟨parts, hparts, rfl, -⟩ := h.cut
  rw [h.length_mod, length_append, Nat.add_sub_cancel, drop_left]

/-- The state is the fold over the blocks of the message. -/
lemma Absorbed.state_eq :
    state = (blocks size message).foldl absorb start := by
  obtain ⟨parts, hparts, rfl, rfl⟩ := h.cut
  rw [blocks_flatten (Nat.zero_lt_of_lt h.short) hparts h.short]

end

/-- Every message is cut in blocks and a rest. -/
lemma absorbed_blocks (hsize : 0 < size) (absorb : σ → List α → σ) (start : σ)
    (message : List α) : Absorbed absorb size start message
      ((blocks size message).foldl absorb start)
      (message.drop (message.length - message.length % size)) := by
  suffices hcut : ∃ state rest, Absorbed absorb size start message state rest by
    obtain ⟨state, rest, h⟩ := hcut
    rwa [← h.state_eq, ← h.rest_eq]
  -- byte by byte: each one fills the block or waits
  induction message using List.reverseRecOn with
  | nil => exact ⟨start, [], Absorbed.nil hsize⟩
  | append_singleton message last ih =>
    obtain ⟨state, rest, h⟩ := ih
    by_cases hfull : (rest ++ [last]).length = size
    · exact ⟨_, _, h.fill hfull⟩
    · have hshort := h.short
      rw [length_append, length_singleton] at hfull
      exact ⟨_, _, h.wait (by rw [length_append, length_singleton]; omega)⟩

/-- Blocks that come at once, when nothing waits. -/
lemma Absorbed.append (h : Absorbed absorb size start message state []) (piece : List α) :
    Absorbed absorb size start (message ++ piece) ((blocks size piece).foldl absorb state)
      (piece.drop (piece.length - piece.length % size)) := by
  obtain ⟨parts, hparts, rfl, rfl⟩ := h.cut
  have hpiece := absorbed_blocks h.short absorb (parts.foldl absorb start) piece
  obtain ⟨more, hmore, heq, hstate⟩ := hpiece.cut
  refine ⟨hpiece.short, parts ++ more, ?_, ?_, ?_⟩
  · intro part hpart
    exact (List.mem_append.mp hpart).elim (hparts part) (hmore part)
  · rw [append_nil, flatten_append, append_assoc, ← heq]
  · rw [hstate, foldl_append]

/-- The part a rest is cut off from has the same blocks. -/
lemma blocks_take (hsize : 0 < size) (message : List α) :
    blocks size (message.take (message.length - message.length % size)) = blocks size message := by
  have h := absorbed_blocks hsize (fun (state : Unit) _ => state) () message
  obtain ⟨parts, hparts, heq, -⟩ := h.cut
  have hfront : message.take (message.length - message.length % size) = parts.flatten ++ [] := by
    rw [append_nil]
    exact append_cancel_right ((take_append_drop _ _).trans heq)
  have hnil : ([] : List α).length < size := hsize
  have hblocks : blocks size message = parts :=
    (congrArg (blocks size) heq).trans (blocks_flatten hsize hparts h.short)
  rw [hfront, blocks_flatten hsize hparts hnil, hblocks]

end BlockStream
