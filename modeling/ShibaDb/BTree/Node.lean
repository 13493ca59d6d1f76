/-
The node operations of `btree.c` on the content of a page: where a key sits in
a leaf, which child an internal node routes it to, and what the edits of a node
do to its rows and separators.
-/
import ShibaDb.BTree.Batch
import ShibaDb.Lib.ListEdit
import ShibaDb.Lib.SepTreeContext

namespace ShibaDb

open SepTree List

variable {rows : List (Bytes × Bytes)} {node : BTreeNode} {h : Nat}

/-- The content of a node page. -/
abbrev NodeCell := Cell Bytes Bytes PageId

/-- B+trees of height `h` on pages. -/
abbrev PageTree (h : Nat) := Tree Bytes Bytes PageId h

def rowEntry (row : Bytes × Bytes) : BTreeEntry :=
  { key := row.1, value := row.2, rightChild := 0 }

def childEntry (child : Bytes × PageId) : BTreeEntry :=
  { key := child.1, value := [], rightChild := child.2 }

/-- The decoded node of a page. -/
def cellNode : NodeCell → BTreeNode
  | .leaf rows link =>
    { kind := .leaf, rightSibling := link, firstChild := 0, entries := rows.map rowEntry }
  | .inner first rest =>
    { kind := .internal, rightSibling := 0, firstChild := first
      entries := rest.map childEntry }

lemma branching_of_entries {cell : NodeCell} (hentries : 0 < (cellNode cell).entries.length) :
    cell.Branching := by
  cases cell with
  | leaf rows link => trivial
  | inner first rest => simpa [cellNode, Cell.Branching, length_pos_iff] using hentries

/-- Keys of the node in strictly ascending order. -/
def NodeSorted (node : BTreeNode) : Prop :=
  (node.entries.map BTreeEntry.key).Pairwise (· < ·)

lemma nodeSorted_leaf {link : PageId} :
    NodeSorted (cellNode (.leaf rows link)) ↔ SortedRows rows := by
  simp only [NodeSorted, cellNode, map_map]
  rfl

lemma nodeSorted_inner {first : PageId} {rest : List (Bytes × PageId)} :
    NodeSorted (cellNode (.inner first rest)) ↔ (rest.map Prod.fst).Pairwise (· < ·) := by
  simp only [NodeSorted, cellNode, map_map]
  rfl

/-- The entries below `key` come first. -/
lemma exists_split_lt {entries : List BTreeEntry} (key : Bytes)
    (hsorted : (entries.map BTreeEntry.key).Pairwise (· < ·)) :
    ∃ before after, entries = before ++ after ∧ (∀ entry ∈ before, entry.key < key) ∧
      ∀ entry ∈ after, key ≤ entry.key := by
  induction entries with
  | nil => exact ⟨[], [], rfl, by simp, by simp⟩
  | cons first rest ih =>
    rw [map_cons, pairwise_cons] at hsorted
    by_cases hfirst : first.key < key
    · obtain ⟨before, after, rfl, hbefore, hafter⟩ := ih hsorted.2
      refine ⟨first :: before, after, rfl, ?_, hafter⟩
      simpa [hfirst] using hbefore
    · refine ⟨[], first :: rest, rfl, by simp, ?_⟩
      intro entry hentry
      have hle : key ≤ first.key := not_lt.mp hfirst
      rcases List.mem_cons.mp hentry with rfl | hentry
      · exact hle
      · exact le_of_lt (lt_of_le_of_lt hle (hsorted.1 _ (mem_map_of_mem hentry)))

/-- The binary search returns the number of keys below `key`. -/
lemma btreeLowerBound_split (key : Bytes) (hsorted : NodeSorted node) :
    ∃ before after, node.entries = before ++ after ∧ before.length = btreeLowerBound node key ∧
      (∀ entry ∈ before, entry.key < key) ∧ ∀ entry ∈ after, key ≤ entry.key := by
  obtain ⟨before, after, hentries, hbefore, hafter⟩ := exists_split_lt key hsorted
  refine ⟨before, after, hentries, ?_, hbefore, hafter⟩
  symm
  apply BinarySearch.partitionPoint_eq
  · intro index hindex
    rw [hentries, List.getElem?_append_left hindex]
    simpa [hindex, ByteOrder.compare_lt_zero_iff] using hbefore _ (getElem_mem hindex)
  · intro index hpoint hindex
    rw [hentries, length_append] at hindex
    have hrange : index - before.length < after.length := by omega
    have hle := hafter _ (getElem_mem hrange)
    rw [hentries, List.getElem?_append_right hpoint]
    have hnot : ¬ByteOrder.compare after[index - before.length].key key < 0 := by
      rw [ByteOrder.compare_lt_zero_iff]
      exact not_lt.mpr hle
    simpa [hrange] using hnot
  · exact Nat.zero_le _
  · simp [hentries]
  · simp

lemma entryMatches_append {before after : List BTreeEntry} {key : Bytes}
    (hentries : node.entries = before ++ after) : entryMatches node before.length key = true ↔
      ∃ entry rest, after = entry :: rest ∧ entry.key = key := by
  unfold entryMatches
  rw [hentries, List.getElem?_append_right (le_refl _), Nat.sub_self]
  cases after with
  | nil => simp
  | cons entry rest =>
    simp [ByteOrder.compare_eq_zero_iff]

/-- A key equal to a separator is routed to the right of it. -/
lemma btreeChildIndex_split (key : Bytes) (hsorted : NodeSorted node) :
    ∃ before after, node.entries = before ++ after ∧ before.length = btreeChildIndex node key ∧
      (∀ entry ∈ before, entry.key ≤ key) ∧ ∀ entry ∈ after, key < entry.key := by
  obtain ⟨before, after, hentries, hlength, hbefore, hafter⟩ :=
    btreeLowerBound_split key hsorted
  unfold btreeChildIndex
  simp only [← hlength]
  split
  · rename_i hmatch
    obtain ⟨entry, rest, rfl, rfl⟩ := (entryMatches_append hentries).mp hmatch
    refine ⟨before ++ [entry], rest, by simp [hentries], by simp, ?_, ?_⟩
    · intro other hother
      rcases List.mem_append.mp hother with hother | hother
      · exact le_of_lt (hbefore other hother)
      · simp only [mem_singleton] at hother
        rw [hother]
    · intro other hother
      rw [NodeSorted, hentries, map_append, pairwise_append, map_cons,
        pairwise_cons] at hsorted
      exact hsorted.2.1.1 _ (mem_map_of_mem hother)
  · rename_i hmatch
    refine ⟨before, after, hentries, rfl, fun entry hentry => le_of_lt (hbefore entry hentry), ?_⟩
    intro other hother
    refine lt_of_le_of_ne (hafter other hother) ?_
    rintro rfl
    cases after with
    | nil => simp at hother
    | cons entry rest =>
      apply hmatch
      refine (entryMatches_append hentries).mpr ⟨entry, rest, rfl, ?_⟩
      rcases List.mem_cons.mp hother with rfl | hmem
      · rfl
      · rw [NodeSorted, hentries, map_append, pairwise_append, map_cons,
          pairwise_cons] at hsorted
        have hlt := hsorted.2.1.1 _ (mem_map_of_mem hmem)
        exact absurd (hafter entry mem_cons_self) (not_le.mpr hlt)

lemma btreeChildAt_inner (first : PageId) (rest : List (Bytes × PageId)) (index : Nat) :
    btreeChildAt (cellNode (.inner first rest)) index =
      ((first :: rest.map Prod.snd)[index]?).getD 0 := by
  cases index with
  | zero => rfl
  | succ index =>
    rw [btreeChildAt, if_neg (Nat.succ_ne_zero index), Nat.add_sub_cancel]
    simp only [cellNode, List.getElem?_map, List.getElem?_cons_succ]
    cases rest[index]? <;> rfl

section

variable (left : List (PageTree h × Bytes))

include left

/-- The page of the child in focus. -/
lemma btreeChildAt_frameCell (hole : PageId)
    (right : List (Bytes × PageTree h)) :
    btreeChildAt (cellNode (Context.frameCell left hole right)) left.length = hole := by
  rw [Context.frameCell, btreeChildAt_inner, plug_kids]
  simp

/-- The page of the child in front of the focus. -/
lemma btreeChildAt_previous (previous : PageTree h)
    (separator : Bytes) (hole : PageId) (right : List (Bytes × PageTree h)) :
    btreeChildAt (cellNode (Context.frameCell (left ++ [(previous, separator)]) hole right))
      left.length = previous.page := by
  rw [Context.frameCell, btreeChildAt_inner, plug_kids]
  simp

lemma length_frameCell (hole : PageId)
    (right : List (Bytes × PageTree h)) :
    (cellNode (Context.frameCell left hole right)).entries.length = left.length + right.length := by
  simp [cellNode, Context.frameCell, plug_length]

lemma keys_frameCell (hole : PageId)
    (right : List (Bytes × PageTree h)) :
    (cellNode (Context.frameCell left hole right)).entries.map BTreeEntry.key =
      left.map Prod.snd ++ right.map Prod.fst := by
  simp only [cellNode, Context.frameCell, map_map]
  change List.map Prod.fst _ = _
  simp [plug_separators, Function.comp_def]

lemma btreeInternalInsert_frameCell (hole : PageId)
    (key : Bytes) (next : PageTree h) (right : List (Bytes × PageTree h)) :
    btreeInternalInsert (cellNode (Context.frameCell left hole right)) left.length key next.page =
      cellNode (Context.frameCell left hole ((key, next) :: right)) := by
  simp only [Context.frameCell, map_cons, plug_insert, length_map]
  simp [btreeInternalInsert, cellNode, childEntry, map_insertIdx]

end

section RemoveChild

lemma btreeRemoveChild_succ {node : BTreeNode} {index : Nat}
    (hindex : index < node.entries.length) :
    btreeRemoveChild node (index + 1) = { node with entries := node.entries.eraseIdx index } := by
  obtain ⟨kind, rightSibling, firstChild, entries⟩ := node
  cases entries with
  | nil => simp at hindex
  | cons entry entries => exact if_neg (not_lt.mpr hindex)

variable {h : Nat} (left : List (PageTree h × Bytes)) (previous next : PageTree h)
  (separator : Bytes) (hole : PageId) (right : List (Bytes × PageTree h))

lemma btreeRemoveChild_previous : btreeRemoveChild
        (cellNode (Context.frameCell (left ++ [(previous, separator)]) hole right))
        (left.length + 1) = cellNode (Context.frameCell left previous.page right) := by
  rw [btreeRemoveChild_succ (by rw [length_frameCell]; simp; omega)]
  simp only [Context.frameCell, map_append, map_cons, map_nil, cellNode,
    eraseIdx_map]
  rw [plug_erase (left.map fun item => (item.1.page, item.2)) previous.page hole separator,
    length_map]

lemma btreeRemoveChild_first :
    btreeRemoveChild (cellNode (Context.frameCell [] hole ((separator, next) :: right))) 0 =
      cellNode (Context.frameCell [] next.page right) := rfl

end RemoveChild

/-- Writing a row into a leaf. -/
lemma btreeLeafPut_leaf (link : PageId) (key value : Bytes) (hsorted : SortedRows rows) :
    ∃ rows', btreeLeafPut (cellNode (.leaf rows link)) key value =
        cellNode (.leaf rows' link) ∧ PutAt key value rows rows' := by
  have hnode : NodeSorted (cellNode (.leaf rows link)) := nodeSorted_leaf.mpr hsorted
  obtain ⟨before, after, hentries, hlength, _, _⟩ := btreeLowerBound_split key hnode
  obtain ⟨left, right, rfl, rfl, rfl⟩ :
      ∃ left right, rows = left ++ right ∧ left.map rowEntry = before ∧
        right.map rowEntry = after := by
    simpa using List.map_eq_append_iff.mp hentries
  unfold btreeLeafPut
  simp only [← hlength]
  split
  · rename_i hmatch
    obtain ⟨entry, rest, hright, hkey⟩ := (entryMatches_append hentries).mp hmatch
    obtain ⟨row, right', rfl, rfl, rfl⟩ := List.map_eq_cons_iff.mp hright
    refine ⟨left ++ (row.1, value) :: right', ?_, left, [row], right', rfl, ?_, ?_⟩
    · simp only [cellNode, map_append, map_cons, ListEdit.modify_length]
      rfl
    · rw [← hkey]
      rfl
    · exact .inr ⟨row.2, by rw [← hkey]; rfl⟩
  · refine ⟨left ++ (key, value) :: right, ?_, left, [], right, rfl, rfl, .inl rfl⟩
    simp only [cellNode, map_append, map_cons, ListEdit.insertIdx_length]
    rfl

/-- The entry the lower bound points at is the row of the key, if there is one. -/
lemma lookup_eq_lowerBound (link : PageId) (key : Bytes) (hsorted : SortedRows rows) :
    (match (cellNode (.leaf rows link)).entries[
        btreeLowerBound (cellNode (.leaf rows link)) key]? with
      | some entry => if ByteOrder.compare entry.key key = 0 then some entry.value else none
      | none => none) = rows.lookup key := by
  have hnode : NodeSorted (cellNode (.leaf rows link)) := nodeSorted_leaf.mpr hsorted
  obtain ⟨before, after, hentries, hlength, hbefore, hafter⟩ := btreeLowerBound_split key hnode
  obtain ⟨left, right, rfl, rfl, rfl⟩ :
      ∃ left right, rows = left ++ right ∧ left.map rowEntry = before ∧
        right.map rowEntry = after := by
    simpa using List.map_eq_append_iff.mp hentries
  have hleft : left.lookup key = none := lookup_eq_none_of_forall_ne fun row hrow =>
    ne_of_lt (hbefore _ (mem_map_of_mem hrow))
  rw [← hlength, hentries, List.getElem?_append_right (le_refl _), Nat.sub_self,
    lookup_append, hleft, Option.none_or]
  cases right with
  | nil => rfl
  | cons row right =>
    simp only [map_cons, List.getElem?_cons_zero, ByteOrder.compare_eq_zero_iff]
    split
    · rename_i hkey
      obtain ⟨rowKey, rowValue⟩ := row
      subst hkey
      exact List.lookup_cons_self.symm
    · rename_i hkey
      symm
      apply lookup_eq_none_of_forall_ne
      intro other hother heq
      have hge := hafter _ (mem_map_of_mem (mem_cons_self (a := row)))
      rcases List.mem_cons.mp hother with rfl | hother
      · exact hkey heq
      · have hlt := (hsorted.forall_lt).2 other hother
        rw [heq] at hlt
        exact absurd hge (not_le.mpr hlt)

lemma entryMatches_lowerBound (link : PageId) (key : Bytes) (hsorted : SortedRows rows) :
    entryMatches (cellNode (.leaf rows link)) (btreeLowerBound (cellNode (.leaf rows link)) key)
      key = (rows.lookup key).isSome := by
  rw [← lookup_eq_lowerBound link key hsorted, entryMatches]
  cases (cellNode (.leaf rows link)).entries[
      btreeLowerBound (cellNode (.leaf rows link)) key]? with
  | none => rfl
  | some entry =>
    simp only [Option.any_some]
    split <;> simp_all

/-- The child an internal node routes a key to, with the separators around it. -/
lemma exists_route (page : PageId) (first : PageTree h) (rest : List (Bytes × PageTree h))
    (key : Bytes) (hsorted : NodeSorted (cellNode (Tree.inner page first rest).cell)) :
    ∃ (left : List (PageTree h × Bytes)) (child : PageTree h) (right : List (Bytes × PageTree h)),
      plug left child right = (first, rest) ∧
        left.length = btreeChildIndex (cellNode (Tree.inner page first rest).cell) key ∧
        (∀ separator ∈ left.map Prod.snd, separator ≤ key) ∧
        ∀ separator ∈ right.map Prod.fst, key < separator := by
  obtain ⟨before, after, hentries, hlength, hbefore, hafter⟩ :=
    btreeChildIndex_split key hsorted
  have hcount : before.length ≤ rest.length := by
    have := congrArg List.length hentries
    simp only [Tree.cell_inner, cellNode, length_map, length_append] at this
    omega
  obtain ⟨left, child, right, hplug, hleft⟩ := exists_plug first rest before.length hcount
  have hkeys : left.map Prod.snd ++ right.map Prod.fst =
      before.map BTreeEntry.key ++ after.map BTreeEntry.key := by
    rw [← plug_separators left child right, hplug, ← map_append, ← hentries]
    simp only [Tree.cell_inner, cellNode, map_map]
    rfl
  obtain ⟨hbeforeKeys, hafterKeys⟩ := append_inj hkeys (by simpa using hleft)
  refine ⟨left, child, right, hplug, by rw [hleft, hlength], ?_, ?_⟩
  · rw [hbeforeKeys, forall_mem_map]
    exact hbefore
  · rw [hafterKeys, forall_mem_map]
    exact hafter

end ShibaDb
