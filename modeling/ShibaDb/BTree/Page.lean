/-
The on-page format of a B+tree node: `sdb_btree_node_encoded_size`,
`sdb_btree_node_encode` and `sdb_btree_node_decode`, and that decoding an
encoded node gives the node back.
-/
import ShibaDb.Status

namespace ShibaDb

open LittleEndian List

variable {size : Nat} {kind : NodeKind} {entry : BTreeEntry} {node : BTreeNode}

inductive NodeKind where
  | leaf
  | internal
  deriving DecidableEq, Repr

def NodeKind.code : NodeKind → Nat
  | leaf => 1
  | internal => 2

/-- A row of a leaf, or a separator of an internal node with the child to its
right. -/
structure BTreeEntry where
  key : Bytes
  value : Bytes
  rightChild : PageId
  deriving DecidableEq, Repr

structure BTreeNode where
  kind : NodeKind
  rightSibling : PageId
  firstChild : PageId
  entries : List BTreeEntry
  deriving DecidableEq, Repr

def btreeNodeHeaderSize : Nat := 20

def btreeMagic : Bytes := [83, 66, 84, 49]

/-- Bytes of an encoded entry in front of its key. -/
def entryFixedSize : NodeKind → Nat
  | .leaf => 6
  | .internal => 12

def minimumEntrySize : NodeKind → Nat
  | .leaf => 7
  | .internal => 13

def checkedAddSize (left right : Nat) : Except SdbError Nat :=
  if left + right ≤ uint64Max then .ok (left + right) else .error .invalidArgument

/-- The checks of one entry that do not depend on its neighbours. -/
def entryWellFormed (kind : NodeKind) (entry : BTreeEntry) : Bool :=
  entry.key.length ≠ 0 && entry.key.length ≤ uint16Max &&
    match kind with
    | .leaf => entry.rightChild = 0 && entry.value.length ≤ uint32Max
    | .internal => entry.rightChild ≠ 0 && entry.value = []

/-- The loop of `sdb_btree_node_encoded_size`: the running total after the
remaining entries, with the key of the entry before them. -/
def encodedEntriesSize (kind : NodeKind) :
    Option Bytes → List BTreeEntry → Nat → Except SdbError Nat
  | _, [], total => .ok total
  | previous, entry :: rest, total =>
    if !entryWellFormed kind entry then .error .invalidArgument
    else if previous.any (fun key => ByteOrder.compare key entry.key ≥ 0) then
      .error .invalidArgument
    else do
      let size ← checkedAddSize (entryFixedSize kind) entry.key.length
      let size ← checkedAddSize size
        (if kind = .leaf then entry.value.length else 0)
      let total ← checkedAddSize total size
      encodedEntriesSize kind (some entry.key) rest total

def btreeNodeEncodedSize (node : BTreeNode) : Except SdbError Nat :=
  if node.entries.length > uint16Max
      || (node.kind = .leaf && node.firstChild ≠ 0)
      || (node.kind = .internal && (node.firstChild = 0 || node.rightSibling ≠ 0))
  then .error .invalidArgument
  else encodedEntriesSize node.kind none node.entries btreeNodeHeaderSize

def encodeEntry (kind : NodeKind) (entry : BTreeEntry) : Bytes :=
  match kind with
  | .leaf =>
    write 2 entry.key.length ++ (write 4 entry.value.length ++
      (entry.key ++ entry.value))
  | .internal =>
    write 2 entry.key.length ++ (write 2 0 ++
      (write 8 entry.rightChild.toNat ++ entry.key))

def nodeLink (node : BTreeNode) : PageId :=
  match node.kind with
  | .leaf => node.rightSibling
  | .internal => node.firstChild

/-- The bytes `sdb_btree_node_encode` writes. -/
def nodeImage (node : BTreeNode) : Bytes :=
  btreeMagic ++ (write 2 node.kind.code ++ (write 2 node.entries.length ++
    (write 4 0 ++ (write 8 (nodeLink node).toNat ++
      node.entries.flatMap (encodeEntry node.kind)))))

def btreeNodeEncode (node : BTreeNode) (outputSize : Nat) : Except SdbError Bytes := do
  let required ← btreeNodeEncodedSize node
  if outputSize < required then .error .bufferTooSmall else .ok (nodeImage node)

/-- One pass of the entry loop of `sdb_btree_node_decode`: the entry at the
cursor and the cursor behind it. -/
def decodeEntry (kind : NodeKind) (cursor : Bytes) :
    Except SdbError (BTreeEntry × Bytes) :=
  let fixedSize := entryFixedSize kind
  let keySize := read (field 0 2 cursor)
  let valueSize := if kind = .leaf then read (field 2 4 cursor) else 0
  let rightChild : PageId :=
    if kind = .internal then UInt64.ofNat (read (field 4 8 cursor)) else 0
  if cursor.length < fixedSize then .error .corrupt
  else if keySize = 0 then .error .corrupt
  else if kind = .internal && read (field 2 2 cursor) ≠ 0 then .error .corrupt
  else if keySize > cursor.length - fixedSize
      || valueSize > cursor.length - fixedSize - keySize then .error .corrupt
  else if kind = .internal && rightChild = 0 then .error .corrupt
  else .ok ({ key := field fixedSize keySize cursor
              value := field (fixedSize + keySize) valueSize cursor
              rightChild := rightChild },
            cursor.drop (fixedSize + keySize + valueSize))

def decodeEntries (kind : NodeKind) : Nat → Bytes → Except SdbError (List BTreeEntry × Bytes)
  | 0, cursor => .ok ([], cursor)
  | count + 1, cursor => do
      let (entry, cursor) ← decodeEntry kind cursor
      let (entries, cursor) ← decodeEntries kind count cursor
      .ok (entry :: entries, cursor)

/-- The final loop of `sdb_btree_node_decode`. -/
def keysAscending : List BTreeEntry → Bool
  | first :: second :: rest =>
    ByteOrder.compare first.key second.key < 0 && keysAscending (second :: rest)
  | _ => true

def nodeKindOf (code : Nat) : Option NodeKind :=
  if code = 1 then some .leaf else if code = 2 then some .internal else none

/-- The node with the decoded header and entries; a leaf has no first child, an
internal node no right sibling. -/
def nodeOfLink (kind : NodeKind) (link : PageId) (entries : List BTreeEntry) :
    BTreeNode :=
  match kind with
  | .leaf => { kind, rightSibling := link, firstChild := 0, entries }
  | .internal => { kind, rightSibling := 0, firstChild := link, entries }

def btreeNodeDecode (payload : Bytes) : Except SdbError BTreeNode :=
  if payload.length < btreeNodeHeaderSize then .error .invalidArgument
  else if field 0 4 payload ≠ btreeMagic then .error .badMagic
  else
    match nodeKindOf (read (field 4 2 payload)) with
    | none => .error .corrupt
    | some kind =>
      let count := read (field 6 2 payload)
      let link : PageId := UInt64.ofNat (read (field 12 8 payload))
      if read (field 8 4 payload) ≠ 0 then .error .corrupt
      else if kind = .internal && link = 0 then .error .corrupt
      else if count > (payload.length - btreeNodeHeaderSize) / minimumEntrySize kind then
        .error .corrupt
      else do
        let (entries, remaining) ←
          decodeEntries kind count (payload.drop btreeNodeHeaderSize)
        if remaining ≠ [] then .error .corrupt
        else if !keysAscending entries then .error .corrupt
        else .ok (nodeOfLink kind link entries)

/-- Encoded size of one entry. -/
def entrySize (kind : NodeKind) (entry : BTreeEntry) : Nat :=
  entryFixedSize kind + entry.key.length +
    (if kind = .leaf then entry.value.length else 0)

lemma checkedAddSize_eq_ok {left right : Nat} :
    checkedAddSize left right = .ok size ↔ left + right ≤ uint64Max ∧ left + right = size := by
  unfold checkedAddSize
  split <;> simp_all

lemma encodedEntriesSize_cons_eq_ok {previous : Option Bytes} {rest : List BTreeEntry}
    {total : Nat} (hsize : encodedEntriesSize kind previous (entry :: rest) total = .ok size) :
    entryWellFormed kind entry = true ∧ (∀ key ∈ previous, key < entry.key) ∧
      encodedEntriesSize kind (some entry.key) rest (total + entrySize kind entry) = .ok size := by
  unfold encodedEntriesSize at hsize
  split at hsize
  · cases hsize
  · rename_i hform
    split at hsize
    · cases hsize
    · rename_i hprevious
      simp only [Fallible.except_bind_eq_ok, checkedAddSize_eq_ok] at hsize
      obtain ⟨_, ⟨_, rfl⟩, _, ⟨_, rfl⟩, _, ⟨_, rfl⟩, hsize⟩ := hsize
      refine ⟨by simpa using hform, ?_, hsize⟩
      intro key hkey
      rw [← ByteOrder.compare_lt_zero_iff]
      cases hkey
      simpa using hprevious

/-- What a successful size computation has checked, and the size it returns. -/
lemma encodedEntriesSize_eq_ok {previous : Option Bytes} {entries : List BTreeEntry} {total : Nat}
    (hsize : encodedEntriesSize kind previous entries total = .ok size) :
    (∀ entry ∈ entries, entryWellFormed kind entry = true) ∧
      (∀ key ∈ previous, ∀ entry ∈ entries, key < entry.key) ∧
      (entries.map BTreeEntry.key).Pairwise (· < ·) ∧
      size = total + (entries.map (entrySize kind)).sum := by
  induction entries generalizing previous total with
  | nil => simp_all [encodedEntriesSize]
  | cons entry rest ih =>
    obtain ⟨hform, hprevious, hrest⟩ := encodedEntriesSize_cons_eq_ok hsize
    obtain ⟨hforms, hkeys, hsorted, htotal⟩ := ih hrest
    refine ⟨?_, ?_, ?_, ?_⟩
    · simpa [hform] using hforms
    · intro key hkey other hother
      have hfirst := hprevious key hkey
      rcases List.mem_cons.mp hother with rfl | hother
      · exact hfirst
      · exact lt_trans hfirst (hkeys entry.key rfl other hother)
    · simpa [hsorted] using hkeys entry.key rfl
    · simp only [map_cons, sum_cons]
      omega

/-- The checks a node passes when its encoded size can be computed. -/
structure NodeEncodable (node : BTreeNode) : Prop where
  count : node.entries.length ≤ uint16Max
  leafFirst : node.kind = .leaf → node.firstChild = 0
  internalFirst : node.kind = .internal → node.firstChild ≠ 0
  internalSibling : node.kind = .internal → node.rightSibling = 0
  entry : ∀ entry ∈ node.entries, entryWellFormed node.kind entry = true
  sorted : (node.entries.map BTreeEntry.key).Pairwise (· < ·)

lemma btreeNodeEncodedSize_eq_ok (hsize : btreeNodeEncodedSize node = .ok size) :
    NodeEncodable node ∧
      size = btreeNodeHeaderSize + (node.entries.map (entrySize node.kind)).sum := by
  unfold btreeNodeEncodedSize at hsize
  split at hsize
  · cases hsize
  · rename_i hguard
    obtain ⟨hforms, _, hsorted, htotal⟩ := encodedEntriesSize_eq_ok hsize
    simp only [Bool.or_eq_true, Bool.and_eq_true, decide_eq_true_eq, not_or, not_and,
      not_lt, gt_iff_lt, ne_eq, not_not] at hguard
    obtain ⟨⟨hcount, hleaf⟩, hinternal⟩ := hguard
    exact ⟨⟨hcount, hleaf, fun h => (hinternal h).1, fun h => (hinternal h).2,
      hforms, hsorted⟩, htotal⟩

lemma encodeEntry_length : (encodeEntry kind entry).length = entrySize kind entry := by
  cases kind <;> simp [encodeEntry, entrySize, entryFixedSize] <;> omega

lemma nodeImage_length (node : BTreeNode) : (nodeImage node).length =
      btreeNodeHeaderSize + (node.entries.map (entrySize node.kind)).sum := by
  have hentries : (node.entries.flatMap (encodeEntry node.kind)).length =
      (node.entries.map (entrySize node.kind)).sum := by
    simp only [length_flatMap, encodeEntry_length]
  simp only [nodeImage, length_append, hentries, write_length, btreeMagic,
    length_cons, length_nil, btreeNodeHeaderSize]
  omega

lemma keysAscending_iff (entries : List BTreeEntry) :
    keysAscending entries = true ↔ (entries.map BTreeEntry.key).Pairwise (· < ·) := by
  induction entries with
  | nil => simp [keysAscending]
  | cons first rest ih =>
    cases rest with
    | nil => simp [keysAscending]
    | cons second rest =>
      simp only [keysAscending, Bool.and_eq_true, decide_eq_true_eq,
        ByteOrder.compare_lt_zero_iff, ih, map_cons, pairwise_cons,
        mem_cons, forall_eq_or_imp]
      constructor
      · rintro ⟨hlt, hsecond, hrest⟩
        exact ⟨⟨hlt, fun key hkey => lt_trans hlt (hsecond key hkey)⟩, hsecond, hrest⟩
      · rintro ⟨⟨hlt, _⟩, hsecond, hrest⟩
        exact ⟨hlt, hsecond, hrest⟩

/-- An entry decodes from its fixed part, key and value, whatever follows. -/
lemma decodeEntry_append {fixed key value : Bytes} {rightChild : PageId} (after : Bytes)
    (hfixed : fixed.length = entryFixedSize kind) (hpos : key ≠ [])
    (hkey : read (field 0 2 fixed) = key.length)
    (hvalue : (if kind = .leaf then read (field 2 4 fixed) else 0) = value.length)
    (hchild : (if kind = .internal then UInt64.ofNat (read (field 4 8 fixed)) else 0) = rightChild)
    (hinternal : kind = .internal → read (field 2 2 fixed) = 0 ∧ rightChild ≠ 0) :
    decodeEntry kind (fixed ++ (key ++ (value ++ after))) =
      .ok ({ key, value, rightChild }, after) := by
  have hsix : 6 ≤ fixed.length := by cases kind <;> simp [hfixed, entryFixedSize]
  have htwelve : kind = .internal → 12 ≤ fixed.length := by
    rintro rfl
    simp [hfixed, entryFixedSize]
  have hchild' : (if kind = .internal then
      UInt64.ofNat (read (field 4 8 (fixed ++ (key ++ (value ++ after))))) else 0) =
        rightChild := by
    rw [← hchild]
    split
    · rename_i hkind
      rw [field_left _ (htwelve hkind)]
    · rfl
  have hkeyField : field (entryFixedSize kind) key.length
      (fixed ++ (key ++ (value ++ after))) = key := by
    rw [field_skip _ hfixed.le, hfixed, Nat.sub_self, field_head _ rfl]
  have hvalueField : field (entryFixedSize kind + key.length) value.length
      (fixed ++ (key ++ (value ++ after))) = value := by
    rw [← append_assoc, field_skip _ (by simp [hfixed]), length_append, hfixed,
      Nat.sub_self, field_head _ rfl]
  have hdrop : (fixed ++ (key ++ (value ++ after))).drop
      (entryFixedSize kind + key.length + value.length) = after := by
    rw [← append_assoc, ← append_assoc]
    exact drop_left' (by simp [hfixed, Nat.add_assoc])
  have hinternal' : ¬(kind = .internal ∧
      read (field 2 2 (fixed ++ (key ++ (value ++ after)))) ≠ 0) := by
    rintro ⟨hkind, hne⟩
    rw [field_left _ (by omega)] at hne
    exact hne (hinternal hkind).1
  have hvalue' : (if kind = .leaf then
      read (field 2 4 (fixed ++ (key ++ (value ++ after)))) else 0) = value.length := by
    rw [field_left _ (by omega), hvalue]
  have hpos' : key.length ≠ 0 := by simpa using hpos
  have hlength : (fixed ++ (key ++ (value ++ after))).length =
      entryFixedSize kind + (key.length + (value.length + after.length)) := by
    simp [hfixed]
  unfold decodeEntry
  simp only [field_left _ (by omega : 0 + 2 ≤ fixed.length), hkey, hvalue', hchild',
    hlength, hkeyField, hvalueField, hdrop, Bool.and_eq_true, decide_eq_true_eq,
    Bool.or_eq_true]
  rw [if_neg (by omega), if_neg hpos', if_neg hinternal', if_neg (by omega), if_neg]
  rintro ⟨hkind, hzero⟩
  exact (hinternal hkind).2 hzero

lemma decodeEntry_encodeEntry (hform : entryWellFormed kind entry = true) (after : Bytes) :
    decodeEntry kind (encodeEntry kind entry ++ after) = .ok (entry, after) := by
  obtain ⟨key, value, rightChild⟩ := entry
  cases kind with
  | leaf =>
    obtain ⟨⟨hpos, hkey⟩, rfl, hvalue⟩ :
        (key ≠ [] ∧ key.length ≤ uint16Max) ∧ rightChild = 0 ∧ value.length ≤ uint32Max := by
      simpa [entryWellFormed] using hform
    have hkeyRead : read (write 2 key.length) = key.length :=
      read_write_of_lt (by simp only [uint16Max] at hkey; omega)
    have hvalueRead : read (write 4 value.length) = value.length :=
      read_write_of_lt (by simp only [uint32Max] at hvalue; omega)
    have hdecode := @decodeEntry_append .leaf
      (write 2 key.length ++ write 4 value.length) key value 0 after
      (by simp [entryFixedSize]) hpos
      (by simp only [field_head, write_length, hkeyRead])
      (by simp [field_skip, field_full, hvalueRead]) (by simp) (by simp)
    simpa [encodeEntry] using hdecode
  | internal =>
    obtain ⟨⟨hpos, hkey⟩, hchild, rfl⟩ :
        (key ≠ [] ∧ key.length ≤ uint16Max) ∧ rightChild ≠ 0 ∧ value = [] := by
      simpa [entryWellFormed] using hform
    have hkeyRead : read (write 2 key.length) = key.length :=
      read_write_of_lt (by simp only [uint16Max] at hkey; omega)
    have hchildRead : read (write 8 rightChild.toNat) = rightChild.toNat :=
      read_write_of_lt rightChild.toNat_lt
    have hzero : read (write 2 0) = 0 := rfl
    have hdecode := @decodeEntry_append .internal
      (write 2 key.length ++ (write 2 0 ++ write 8 rightChild.toNat))
      key [] rightChild after
      (by simp [entryFixedSize]) hpos
      (by simp only [field_head, write_length, hkeyRead])
      (by simp) (by simp [field_skip, field_full, hchildRead])
      (by simp [field_skip, field_head, hzero, hchild])
    simpa [encodeEntry] using hdecode

lemma decodeEntries_flatMap (entries : List BTreeEntry)
    (hforms : ∀ entry ∈ entries, entryWellFormed kind entry = true) (after : Bytes) :
    decodeEntries kind entries.length (entries.flatMap (encodeEntry kind) ++ after) =
      .ok (entries, after) := by
  induction entries with
  | nil => simp [decodeEntries]
  | cons entry rest ih =>
    have hentry := decodeEntry_encodeEntry (hforms entry mem_cons_self)
      (rest.flatMap (encodeEntry kind) ++ after)
    have hrest := ih fun other hother => hforms other (mem_cons_of_mem entry hother)
    simp only [length_cons, decodeEntries, flatMap_cons, append_assoc, hentry]
    simp [bind, Except.bind, hrest]

lemma minimumEntrySize_le (hform : entryWellFormed kind entry = true) :
    minimumEntrySize kind ≤ entrySize kind entry := by
  have hpos : entry.key.length ≠ 0 := by
    simp only [entryWellFormed, ne_eq, decide_not, Bool.and_eq_true,
      Bool.not_eq_eq_eq_not, Bool.not_true, decide_eq_false_iff_not] at hform
    exact hform.1.1
  cases kind <;> simp only [minimumEntrySize, entrySize, entryFixedSize] <;> omega

lemma minimumEntrySize_mul_length_le (entries : List BTreeEntry)
    (hforms : ∀ entry ∈ entries, entryWellFormed kind entry = true) :
    entries.length * minimumEntrySize kind ≤ (entries.map (entrySize kind)).sum := by
  induction entries with
  | nil => simp
  | cons entry rest ih =>
    have hentry := minimumEntrySize_le (hforms entry mem_cons_self)
    have hrest := ih fun other hother => hforms other (mem_cons_of_mem entry hother)
    simp only [length_cons, map_cons, sum_cons, Nat.succ_mul]
    omega

lemma nodeOfLink_nodeLink (hnode : NodeEncodable node) :
    nodeOfLink node.kind (nodeLink node) node.entries = node := by
  obtain ⟨kind, rightSibling, firstChild, entries⟩ := node
  cases kind with
  | leaf => simpa [nodeOfLink, nodeLink] using (hnode.leafFirst rfl).symm
  | internal => simpa [nodeOfLink, nodeLink] using (hnode.internalSibling rfl).symm

/-- Decoding gives back every node whose size can be computed. -/
lemma btreeNodeDecode_nodeImage (hnode : NodeEncodable node) :
    btreeNodeDecode (nodeImage node) = .ok node := by
  have hcount : read (write 2 node.entries.length) = node.entries.length :=
    read_write_of_lt (by have := hnode.count; simp only [uint16Max] at this; omega)
  have hlink : read (write 8 (nodeLink node).toNat) = (nodeLink node).toNat :=
    read_write_of_lt (nodeLink node).toNat_lt
  have hkind : nodeKindOf (read (write 2 node.kind.code)) = some node.kind := by
    cases node.kind <;> rfl
  have hzero : read (write 4 0) = 0 := rfl
  have hlength := nodeImage_length node
  have hbody : (nodeImage node).drop btreeNodeHeaderSize =
      node.entries.flatMap (encodeEntry node.kind) := by
    simp only [nodeImage, ← append_assoc]
    exact drop_left' (by simp [btreeMagic, btreeNodeHeaderSize])
  have hentries := decodeEntries_flatMap node.entries hnode.entry []
  have hmin := minimumEntrySize_mul_length_le node.entries hnode.entry
  have hlinkNe : ¬(node.kind = .internal ∧ nodeLink node = 0) := by
    rintro ⟨hinternal, hnone⟩
    exact hnode.internalFirst hinternal (by simpa [nodeLink, hinternal] using hnone)
  have hminPos : 0 < minimumEntrySize node.kind := by
    cases node.kind <;> simp [minimumEntrySize]
  have hroom : ¬node.entries.length >
      ((nodeImage node).length - btreeNodeHeaderSize) / minimumEntrySize node.kind := by
    rw [hlength, Nat.add_sub_cancel_left, gt_iff_lt, not_lt, Nat.le_div_iff_mul_le hminPos]
    exact hmin
  have hmagicLength : btreeMagic.length = 4 := rfl
  have hmagic : field 0 4 (nodeImage node) = btreeMagic := by
    simp [nodeImage, field_head, hmagicLength]
  have hkindField : field 4 2 (nodeImage node) = write 2 node.kind.code := by
    simp [nodeImage, field_head, field_skip, hmagicLength]
  have hcountField : field 6 2 (nodeImage node) = write 2 node.entries.length := by
    simp [nodeImage, field_head, field_skip, hmagicLength]
  have hzeroField : field 8 4 (nodeImage node) = write 4 0 := by
    simp [nodeImage, field_head, field_skip, hmagicLength]
  have hlinkField : field 12 8 (nodeImage node) = write 8 (nodeLink node).toNat := by
    simp [nodeImage, field_head, field_skip, hmagicLength]
  unfold btreeNodeDecode
  rw [if_neg (by omega), hmagic, if_neg (by simp), hkindField, hkind]
  simp only [hcountField, hzeroField, hlinkField, hcount, hzero, hlink, hbody,
    UInt64.ofNat_toNat, Bool.and_eq_true, decide_eq_true_eq]
  rw [append_nil] at hentries
  rw [if_neg (by simp), if_neg hlinkNe, if_neg hroom, hentries]
  have hsorted := (keysAscending_iff node.entries).mpr hnode.sorted
  simp [bind, Except.bind, hsorted, nodeOfLink_nodeLink hnode]

/-- `sdb_btree_node_encode` into a buffer of the computed size round-trips. -/
lemma btreeNodeEncode_eq_ok (hsize : btreeNodeEncodedSize node = .ok size) :
    btreeNodeEncode node size = .ok (nodeImage node) ∧ (nodeImage node).length = size ∧
      btreeNodeDecode (nodeImage node) = .ok node := by
  obtain ⟨hnode, htotal⟩ := btreeNodeEncodedSize_eq_ok hsize
  refine ⟨?_, ?_, btreeNodeDecode_nodeImage hnode⟩
  · simp [btreeNodeEncode, hsize, bind, Except.bind]
  · rw [nodeImage_length, htotal]

end ShibaDb
