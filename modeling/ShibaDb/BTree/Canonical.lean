/-
The byte strings that are nodes: a decoded node encodes to the very bytes it was
decoded from, so a payload holds nothing that its node does not show.
-/
import ShibaDb.BTree.Page

namespace ShibaDb

open LittleEndian Fallible List

section Entries

variable {kind : NodeKind} {cursor rest : Bytes} {entry : BTreeEntry}

lemma entryWellFormed_leaf : entryWellFormed .leaf entry = true ↔
    entry.key.length ≠ 0 ∧ entry.key.length ≤ uint16Max ∧ entry.rightChild = 0 ∧
      entry.value.length ≤ uint32Max := by
  simp [entryWellFormed, and_assoc]

lemma entryWellFormed_internal : entryWellFormed .internal entry = true ↔
    entry.key.length ≠ 0 ∧ entry.key.length ≤ uint16Max ∧ entry.rightChild ≠ 0 ∧
      entry.value = [] := by
  simp [entryWellFormed, and_assoc]

/-- The fixed part, the key and the value make up the cursor. -/
lemma decodeEntry_eq_ok (h : decodeEntry kind cursor = .ok (entry, rest)) :
    entryWellFormed kind entry = true ∧ encodeEntry kind entry ++ rest = cursor := by
  simp only [decodeEntry, guard_eq_ok, Bool.or_eq_true, Bool.and_eq_true,
    decide_eq_true_eq, not_or, not_and, not_not, not_lt, gt_iff_lt, ne_eq] at h
  obtain ⟨hfixed, hpos, hreserved, ⟨hkey, hvalue⟩, hchild, hresult⟩ := h
  obtain ⟨rfl, rfl⟩ := Prod.mk.inj (Except.ok.inj hresult)
  have hkeyLt := read_field_lt 0 2 cursor
  cases kind with
  | leaf =>
    simp only [entryFixedSize, reduceCtorEq, if_true, if_false] at hfixed hkey hvalue ⊢
    have hvalueLt := read_field_lt 2 4 cursor
    generalize hkeySize : read (field 0 2 cursor) = keySize at hpos hkey hvalue hkeyLt ⊢
    generalize hvalueSize : read (field 2 4 cursor) = valueSize at hvalue hvalueLt ⊢
    have hkeyLength : (field 6 keySize cursor).length = keySize := field_length (by omega)
    have hvalueLength : (field (6 + keySize) valueSize cursor).length = valueSize :=
      field_length (by omega)
    constructor
    · rw [entryWellFormed_leaf, hkeyLength, hvalueLength, uint16Max, uint32Max]
      exact ⟨hpos, by omega, rfl, by omega⟩
    · rw [encodeEntry, hkeyLength, hvalueLength, ← hkeySize, ← hvalueSize,
        write_read_field (by omega), write_read_field (by omega)]
      simp only [append_assoc, field_append_drop]
      exact (congrArg _ (field_append_drop 2 4 cursor)).trans (field_append_drop 0 2 cursor)
  | internal =>
    simp only [entryFixedSize, reduceCtorEq, if_true, if_false, forall_const, Nat.add_zero] at *
    have hchildRead : (UInt64.ofNat (read (field 4 8 cursor))).toNat = read (field 4 8 cursor) :=
      UInt64.toNat_ofNat_of_lt' (read_field_lt 4 8 cursor)
    generalize hkeySize : read (field 0 2 cursor) = keySize at hpos hkey hvalue hkeyLt ⊢
    have hkeyLength : (field 12 keySize cursor).length = keySize := field_length (by omega)
    have hzero : write 2 0 = field 2 2 cursor := by
      rw [← hreserved]
      exact write_read_field (by omega)
    constructor
    · rw [entryWellFormed_internal, hkeyLength, uint16Max]
      exact ⟨hpos, by omega, hchild, rfl⟩
    · rw [encodeEntry, hkeyLength, hchildRead, hzero, ← hkeySize, write_read_field (by omega),
        write_read_field (by omega)]
      simp only [append_assoc, field_append_drop]
      rw [field_append_drop 4 8, field_append_drop 2 2, field_append_drop 0 2, drop_zero]

lemma decodeEntries_eq_ok {count : Nat} {entries : List BTreeEntry}
    (h : decodeEntries kind count cursor = .ok (entries, rest)) :
    entries.length = count ∧ (∀ entry ∈ entries, entryWellFormed kind entry = true) ∧
      entries.flatMap (encodeEntry kind) ++ rest = cursor := by
  induction count generalizing cursor entries with
  | zero =>
    obtain ⟨rfl, rfl⟩ := Prod.mk.inj (Except.ok.inj h)
    simp
  | succ count ih =>
    simp only [decodeEntries, except_bind_eq_ok] at h
    obtain ⟨⟨first, middle⟩, hfirst, ⟨others, last⟩, hothers, h⟩ := h
    obtain ⟨rfl, rfl⟩ := Prod.mk.inj (Except.ok.inj h)
    obtain ⟨hform, hbytes⟩ := decodeEntry_eq_ok hfirst
    obtain ⟨hcount, hforms, hrest⟩ := ih hothers
    refine ⟨by rw [length_cons, hcount], ?_, ?_⟩
    · intro entry hmem
      rcases List.mem_cons.mp hmem with rfl | hmem
      · exact hform
      · exact hforms entry hmem
    · rw [flatMap_cons, append_assoc, hrest, hbytes]

/-- The largest an entry can be. -/
lemma entrySize_le (h : entryWellFormed kind entry = true) :
    entrySize kind entry ≤ 12 + uint16Max + uint32Max := by
  cases kind with
  | leaf =>
    have hform := entryWellFormed_leaf.mp h
    simp only [entrySize, entryFixedSize, if_true]
    omega
  | internal =>
    have hform := entryWellFormed_internal.mp h
    simp only [entrySize, entryFixedSize, reduceCtorEq, if_false]
    omega

lemma checkedAddSize_of_le {left right : Nat} (h : left + right ≤ uint64Max) :
    checkedAddSize left right = .ok (left + right) := if_pos h

/-- Entries that pass the checks have a size, unless it is out of range. -/
lemma encodedEntriesSize_of_forms {entries : List BTreeEntry} {previous : Option Bytes}
    {total : Nat} (hforms : ∀ entry ∈ entries, entryWellFormed kind entry = true)
    (hprevious : ∀ key ∈ previous, ∀ entry ∈ entries, key < entry.key)
    (hsorted : (entries.map BTreeEntry.key).Pairwise (· < ·))
    (hroom : total + (entries.map (entrySize kind)).sum ≤ uint64Max) :
    encodedEntriesSize kind previous entries total =
      .ok (total + (entries.map (entrySize kind)).sum) := by
  induction entries generalizing previous total with
  | nil => rfl
  | cons entry entries ih =>
    have hform := hforms entry mem_cons_self
    rw [map_cons, pairwise_cons] at hsorted
    rw [map_cons, sum_cons] at hroom ⊢
    have hless : previous.any (fun key => ByteOrder.compare key entry.key ≥ 0) = false := by
      cases previous with
      | none => rfl
      | some key =>
        have hlt := hprevious key rfl entry mem_cons_self
        rw [← ByteOrder.compare_lt_zero_iff] at hlt
        simpa using hlt
    have hsize : entryFixedSize kind + entry.key.length +
        (if kind = .leaf then entry.value.length else 0) = entrySize kind entry := rfl
    rw [encodedEntriesSize, hform, hless, checkedAddSize_of_le (by omega)]
    simp only [Bool.not_true, Bool.false_eq_true, if_false, bind, Except.bind]
    rw [checkedAddSize_of_le (by omega), hsize]
    simp only
    rw [checkedAddSize_of_le (by omega)]
    simp only
    rw [ih (fun other hother => hforms other (mem_cons_of_mem _ hother)) _ hsorted.2
      (by omega), Nat.add_assoc]
    intro key hkey other hother
    obtain rfl : entry.key = key := Option.some.inj hkey
    exact hsorted.1 other.key (mem_map_of_mem hother)

end Entries

section Nodes

variable {node : BTreeNode} {payload : Bytes}

lemma sum_entrySize_le {kind : NodeKind} {entries : List BTreeEntry}
    (hforms : ∀ entry ∈ entries, entryWellFormed kind entry = true) :
    (entries.map (entrySize kind)).sum ≤ entries.length * (12 + uint16Max + uint32Max) := by
  have hsum := sum_le_card_nsmul (entries.map (entrySize kind)) (12 + uint16Max + uint32Max)
    (by
      intro size hsize
      obtain ⟨entry, hmem, rfl⟩ := List.mem_map.mp hsize
      exact entrySize_le (hforms entry hmem))
  rwa [length_map, smul_eq_mul] at hsum

/-- A node that passes the checks has a size: it has too few entries to overflow. -/
lemma btreeNodeEncodedSize_of_encodable (h : NodeEncodable node) : btreeNodeEncodedSize node =
      .ok (btreeNodeHeaderSize + (node.entries.map (entrySize node.kind)).sum) := by
  have hsum := sum_entrySize_le h.entry
  have hcount := h.count
  have hroom : btreeNodeHeaderSize + (node.entries.map (entrySize node.kind)).sum ≤ uint64Max := by
    simp only [uint16Max, uint32Max, uint64Max, btreeNodeHeaderSize] at *
    omega
  rw [btreeNodeEncodedSize, if_neg]
  · exact encodedEntriesSize_of_forms h.entry (by simp) h.sorted hroom
  · have hleaf := h.leafFirst
    have hfirst := h.internalFirst
    have hsibling := h.internalSibling
    simp only [Bool.or_eq_true, Bool.and_eq_true, decide_eq_true_eq, not_or, not_and, not_not,
      gt_iff_lt, not_lt, ne_eq]
    exact ⟨⟨hcount, hleaf⟩, fun hkind => ⟨hfirst hkind, hsibling hkind⟩⟩

lemma nodeKindOf_eq_some {code : Nat} {kind : NodeKind} (h : nodeKindOf code = some kind) :
    code = kind.code := by
  unfold nodeKindOf at h
  split at h
  · rename_i hcode
    obtain rfl := Option.some.inj h
    exact hcode
  split at h
  · rename_i hcode
    obtain rfl := Option.some.inj h
    exact hcode
  · cases h

lemma nodeOfLink_fields (kind : NodeKind) (link : PageId) (entries : List BTreeEntry) :
    (nodeOfLink kind link entries).kind = kind ∧ (nodeOfLink kind link entries).entries = entries ∧
      nodeLink (nodeOfLink kind link entries) = link := by
  cases kind <;> exact ⟨rfl, rfl, rfl⟩

/-- What a byte string that decodes consists of. -/
lemma nodeImage_of_decode (h : btreeNodeDecode payload = .ok node) :
    NodeEncodable node ∧ nodeImage node = payload := by
  simp only [btreeNodeDecode, guard_eq_ok] at h
  obtain ⟨hlength, hmagic, h⟩ := h
  split at h
  · cases h
  rename_i kind hkind
  simp only [guard_eq_ok, except_bind_eq_ok] at h
  obtain ⟨hreserved, hlink, hroom, ⟨entries, remaining⟩, hentries, hdone, hsorted, hnode⟩ := h
  obtain rfl := Except.ok.inj hnode
  obtain ⟨hkindField, hentriesField, hlinkField⟩ := nodeOfLink_fields kind
    (UInt64.ofNat (read (field 12 8 payload))) entries
  obtain ⟨hcount, hforms, hbody⟩ := decodeEntries_eq_ok hentries
  have hcountLt := read_field_lt 6 2 payload
  have hlong : 20 ≤ payload.length := Nat.not_lt.mp hlength
  have hlinkRead : (UInt64.ofNat (read (field 12 8 payload))).toNat = read (field 12 8 payload) :=
    UInt64.toNat_ofNat_of_lt' (read_field_lt 12 8 payload)
  simp only [not_not] at hmagic hreserved hdone
  constructor
  · constructor
    · rw [hentriesField, hcount, uint16Max]
      omega
    · intro hleaf
      obtain rfl : kind = .leaf := hkindField.symm.trans hleaf
      rfl
    · intro hinternal
      obtain rfl : kind = .internal := hkindField.symm.trans hinternal
      simpa [nodeOfLink] using hlink
    · intro hinternal
      obtain rfl : kind = .internal := hkindField.symm.trans hinternal
      rfl
    · rw [hkindField, hentriesField]
      exact hforms
    · rw [hentriesField]
      apply (keysAscending_iff entries).mp
      simpa using hsorted
  · rw [hdone, append_nil] at hbody
    have hzero : write 4 0 = field 8 4 payload := by
      rw [← hreserved]
      exact write_read_field (by omega)
    rw [nodeImage, hkindField, hentriesField, hlinkField, hcount, hlinkRead, hzero, hbody,
      ← nodeKindOf_eq_some hkind, ← hmagic, write_read_field (by omega),
      write_read_field (by omega), write_read_field (by omega), btreeNodeHeaderSize]
    rw [field_append_drop 12 8, field_append_drop 8 4, field_append_drop 6 2,
      field_append_drop 4 2, field_append_drop 0 4, drop_zero]

/-- The nodes with a size and the byte strings that decode correspond one to one:
each is what the other side makes of it. -/
theorem btreeNodeCodec_bijective :
    (∀ node size, btreeNodeEncodedSize node = .ok size → ∀ outputSize, size ≤ outputSize →
      ∃ payload, btreeNodeEncode node outputSize = .ok payload ∧ payload.length = size ∧
        btreeNodeDecode payload = .ok node) ∧ (∀ payload node, btreeNodeDecode payload = .ok node →
      btreeNodeEncodedSize node = .ok payload.length ∧
      btreeNodeEncode node payload.length = .ok payload) ∧
    ∀ first second node, btreeNodeDecode first = .ok node → btreeNodeDecode second = .ok node →
      first = second := by
  refine ⟨?_, ?_, ?_⟩
  · intro node size hsize outputSize hroom
    obtain ⟨-, hlength, hdecode⟩ := btreeNodeEncode_eq_ok hsize
    refine ⟨nodeImage node, ?_, hlength, hdecode⟩
    rw [btreeNodeEncode, hsize]
    exact if_neg (Nat.not_lt.mpr hroom)
  · intro payload node hdecode
    obtain ⟨hnode, himage⟩ := nodeImage_of_decode hdecode
    have hsize : btreeNodeEncodedSize node = .ok payload.length := by
      rw [btreeNodeEncodedSize_of_encodable hnode, ← nodeImage_length, himage]
    refine ⟨hsize, ?_⟩
    rw [← himage] at hsize ⊢
    exact (btreeNodeEncode_eq_ok hsize).1
  · intro first second node hfirst hsecond
    rw [← (nodeImage_of_decode hfirst).2, (nodeImage_of_decode hsecond).2]

/-- A leaf with one row. -/
def rowLeaf : BTreeNode :=
  { kind := .leaf, rightSibling := 7, firstChild := 0
    entries := [{ key := [1], value := [2, 3], rightChild := 0 }] }

/-- An internal node with two separators. -/
def separatorNode : BTreeNode :=
  { kind := .internal, rightSibling := 0, firstChild := 3
    entries := [{ key := [4], value := [], rightChild := 5 },
      { key := [4, 0], value := [], rightChild := 6 }] }

/-- Both kinds of node: the image of each decodes to it, and no other bytes do. -/
theorem rowLeaf_encodes : ∀ node ∈ [rowLeaf, separatorNode],
    ∃ payload, btreeNodeEncode node 64 = .ok payload ∧ btreeNodeDecode payload = .ok node ∧
      btreeNodeEncodedSize node = .ok payload.length ∧
      ∀ other, btreeNodeDecode other = .ok node → other = payload := by
  have hnode : ∀ node size, btreeNodeEncodedSize node = .ok size → size ≤ 64 →
      ∃ payload, btreeNodeEncode node 64 = .ok payload ∧ btreeNodeDecode payload = .ok node ∧
        btreeNodeEncodedSize node = .ok payload.length ∧
        ∀ other, btreeNodeDecode other = .ok node → other = payload := by
    intro node size hsize hroom
    obtain ⟨hencode, hdecode, hunique⟩ := btreeNodeCodec_bijective
    obtain ⟨payload, hpayload, -, hnode⟩ := hencode node size hsize 64 hroom
    exact ⟨payload, hpayload, hnode, (hdecode payload node hnode).1,
      fun other hother => hunique other payload node hother hnode⟩
  simp only [List.mem_cons, List.not_mem_nil, or_false]
  rintro node (rfl | rfl)
  · exact hnode rowLeaf 29 rfl (by decide)
  · exact hnode separatorNode 47 rfl (by decide)

end Nodes

end ShibaDb
