/-
Room for balanced entries: where no entry takes more than half of what a page holds
beside the header, every node that overflows has a split point, so an insertion never
runs out of room.
-/
import ShibaDb.BTree.Cursor
import ShibaDb.BTree.Errors
import ShibaDb.BTree.Insert
import ShibaDb.Lib.Balance

namespace ShibaDb

open Balance Fallible List

/-- What a page of `capacity` bytes has beside the node header. -/
def nodeRoom (capacity : Nat) : Nat := capacity - btreeNodeHeaderSize

/-- A row that takes at most half the room, as a row and, by its key, as a
separator. -/
structure BalancedEntry (capacity : Nat) (key value : Bytes) : Prop where
  row : 6 + key.length + value.length ≤ (capacity - 20) / 2
  separator : 12 + key.length ≤ (capacity - 20) / 2

instance decidableBalancedEntry (capacity : Nat) (key value : Bytes) :
    Decidable (BalancedEntry capacity key value) :=
  decidable_of_iff (6 + key.length + value.length ≤ (capacity - 20) / 2 ∧
      12 + key.length ≤ (capacity - 20) / 2)
    ⟨fun hboth => ⟨hboth.1, hboth.2⟩, fun hentry => ⟨hentry.row, hentry.separator⟩⟩

section SplitPoint

variable {capacity : Nat} {choice : SplitChoice} {candidate leftSize rightSize : Nat}

/-- Something was chosen, or everything that fits is still better. -/
def SplitChoice.Ready (capacity : Nat) (choice : SplitChoice) : Prop :=
  choice.middle.isSome = true ∨ capacity < choice.bestLargest

lemma SplitChoice.Ready.weigh (hready : choice.Ready capacity)
    (candidate leftSize rightSize : Nat) :
    (choice.weigh capacity candidate leftSize rightSize).Ready capacity := by
  rw [SplitChoice.weigh]
  split
  · exact .inl rfl
  · exact hready

lemma weigh_isSome (hready : choice.Ready capacity) (hleft : leftSize ≤ capacity)
    (hright : rightSize ≤ capacity) :
    (choice.weigh capacity candidate leftSize rightSize).middle.isSome = true := by
  simp only [SplitChoice.weigh]
  split
  · rfl
  next hworse =>
    rcases hready with hsome | hbest
    · exact hsome
    · simp only [Bool.and_eq_true, decide_eq_true_eq, not_and, not_lt] at hworse
      have hlargest := hworse ⟨hleft, hright⟩
      omega

lemma weigh_isSome_of_isSome (hsome : choice.middle.isSome = true) :
    (choice.weigh capacity candidate leftSize rightSize).middle.isSome = true := by
  rw [SplitChoice.weigh]
  split
  · rfl
  · exact hsome

lemma entriesSize_append (kind : NodeKind) (left right : List BTreeEntry) :
    entriesSize kind (left ++ right) = entriesSize kind left + entriesSize kind right := by
  simp [entriesSize]

variable {total leftEntries middle : Nat} {entries left right : List BTreeEntry}
  {promoted : BTreeEntry}

lemma leafSplitLoop_isSome_of_isSome (hsome : choice.middle.isSome = true) :
    (leafSplitLoop capacity total entries candidate leftEntries choice).middle.isSome = true := by
  induction entries generalizing candidate leftEntries choice with
  | nil => exact hsome
  | cons previous rest ih =>
    cases rest with
    | nil => exact hsome
    | cons next rest => exact ih (weigh_isSome_of_isSome hsome)

/-- A cut that fits is enough for the loop to choose one. -/
lemma leafSplitLoop_isSome (hready : choice.Ready capacity) (hleft : left ≠ [])
    (hright : right ≠ [])
    (hleftFits : btreeNodeHeaderSize + (leftEntries + entriesSize .leaf left) ≤ capacity)
    (hrightFits : btreeNodeHeaderSize + total - (leftEntries + entriesSize .leaf left) ≤ capacity) :
    (leafSplitLoop capacity total (left ++ right) candidate leftEntries
      choice).middle.isSome = true := by
  induction left generalizing candidate leftEntries choice with
  | nil => exact absurd rfl hleft
  | cons previous left ih =>
    rw [add_entriesSize_cons] at hleftFits hrightFits
    cases left with
    | nil =>
      obtain ⟨next, rest, rfl⟩ := exists_cons_of_ne_nil hright
      rw [singleton_append, leafSplitLoop]
      exact leafSplitLoop_isSome_of_isSome (weigh_isSome hready hleftFits hrightFits)
    | cons second left =>
      exact ih (hready.weigh _ _ _) (cons_ne_nil _ _) hleftFits hrightFits

lemma internalSplitLoop_isSome_of_isSome (hsome : choice.middle.isSome = true) :
    (internalSplitLoop capacity total entries candidate leftEntries
      choice).middle.isSome = true := by
  induction entries generalizing candidate leftEntries choice with
  | nil => exact hsome
  | cons promoted rest ih =>
    cases rest with
    | nil => exact hsome
    | cons next rest => exact ih (weigh_isSome_of_isSome hsome)

lemma internalSplitLoop_isSome (hready : choice.Ready capacity) (hright : right ≠ [])
    (hleftFits : btreeNodeHeaderSize + (leftEntries + entriesSize .internal left) ≤ capacity)
    (hrightFits : btreeNodeHeaderSize + total - (leftEntries + entriesSize .internal left) -
      entrySize .internal promoted ≤ capacity) :
    (internalSplitLoop capacity total (left ++ promoted :: right) candidate leftEntries
      choice).middle.isSome = true := by
  induction left generalizing candidate leftEntries choice with
  | nil =>
    obtain ⟨next, rest, rfl⟩ := exists_cons_of_ne_nil hright
    rw [nil_append, internalSplitLoop]
    exact internalSplitLoop_isSome_of_isSome (weigh_isSome hready hleftFits hrightFits)
  | cons first left ih =>
    rw [add_entriesSize_cons] at hleftFits hrightFits
    obtain ⟨next, rest, hrest⟩ :=
      exists_cons_of_ne_nil (by simp : left ++ promoted :: right ≠ [])
    rw [cons_append, hrest, internalSplitLoop, ← hrest]
    exact ih (hready.weigh _ _ _) hleftFits hrightFits

/-- Entries of a node that holds one balanced entry too many. -/
def Overflowing (capacity : Nat) (kind : NodeKind) (entries : List BTreeEntry) : Prop :=
  Overfull (nodeRoom capacity) (nodeRoom capacity / 2) (entries.map (entrySize kind))

lemma map_eq_append_cons {α β : Type} {f : α → β} {items : List α} {left right : List β}
    {item : β} (hmap : items.map f = left ++ item :: right) :
    ∃ front middle back, items = front ++ middle :: back ∧ front.map f = left ∧
      f middle = item ∧ back.map f = right := by
  obtain ⟨front, rest, rfl, hfront, hrest⟩ := List.map_eq_append_iff.mp hmap
  obtain ⟨middle, back, rfl, hmiddle, hback⟩ := List.map_eq_cons_iff.mp hrest
  exact ⟨front, middle, back, rfl, hfront, hmiddle, hback⟩

lemma noChoice_ready (hcapacity : capacity < uint64Max) : noChoice.Ready capacity :=
  .inr hcapacity

/-- An overflowing leaf has a split point whose halves fit. -/
lemma leafSplitPoint_fits (hcapacity : capacity < uint64Max)
    (hover : Overflowing capacity .leaf entries) :
    ∃ middle, leafSplitPoint capacity entries = some middle ∧ 0 < middle ∧ middle < entries.length ∧
      btreeNodeHeaderSize + entriesSize .leaf (entries.take middle) ≤ capacity ∧
      btreeNodeHeaderSize + entriesSize .leaf (entries.drop middle) ≤ capacity := by
  have hheader : btreeNodeHeaderSize ≤ capacity := by
    have hexceeds := hover.exceeds
    have htotal := hover.total
    unfold nodeRoom at hexceeds htotal
    omega
  have hchosen : (leafSplitPoint capacity entries).isSome = true := by
    obtain ⟨left, right, hcut, hleft, hright, hleftFits, hrightFits⟩ := hover.exists_cut
    obtain ⟨front, back, rfl, rfl, rfl⟩ := List.map_eq_append_iff.mp hcut
    have hsum := entriesSize_append .leaf front back
    unfold nodeRoom at hleftFits hrightFits
    change entriesSize .leaf front ≤ _ at hleftFits
    change entriesSize .leaf back ≤ _ at hrightFits
    refine leafSplitLoop_isSome (noChoice_ready hcapacity) (by simpa using hleft)
      (by simpa using hright) (by omega) ?_
    change btreeNodeHeaderSize + entriesSize .leaf (front ++ back) - _ ≤ capacity
    omega
  obtain ⟨middle, hmiddle⟩ := Option.isSome_iff_exists.mp hchosen
  obtain ⟨hlow, hhigh⟩ := leafSplitPoint_bounds hmiddle
  refine ⟨middle, hmiddle, hlow, hhigh, ?_⟩
  rcases leafSplitLoop_fits hmiddle with
    hnone | ⟨left, right, rfl, -, -, hlength, hleftFits, hrightFits⟩
  · cases hnone
  · obtain rfl : middle = left.length := by omega
    rw [take_left, drop_left]
    have hsum := entriesSize_append .leaf left right
    change btreeNodeHeaderSize + entriesSize .leaf (left ++ right) - _ ≤ capacity at hrightFits
    constructor <;> omega

/-- An overflowing internal node has a separator to move up whose two sides fit. -/
lemma internalSplitPoint_fits (hcapacity : capacity < uint64Max)
    (hover : Overflowing capacity .internal entries) :
    ∃ middle, internalSplitPoint capacity entries = some middle ∧
      0 < middle ∧ middle + 1 < entries.length ∧
      btreeNodeHeaderSize + entriesSize .internal (entries.take middle) ≤ capacity ∧
      btreeNodeHeaderSize + entriesSize .internal (entries.drop (middle + 1)) ≤ capacity := by
  have hheader : btreeNodeHeaderSize ≤ capacity := by
    have hexceeds := hover.exceeds
    have htotal := hover.total
    unfold nodeRoom at hexceeds htotal
    omega
  have hchosen : (internalSplitPoint capacity entries).isSome = true := by
    obtain ⟨left, item, right, hcut, hleft, hright, hleftFits, hrightFits⟩ :=
      hover.exists_promotion
    obtain ⟨front, promoted, back, rfl, rfl, rfl, rfl⟩ := map_eq_append_cons hcut
    obtain ⟨first, front, rfl⟩ := exists_cons_of_ne_nil (by simpa using hleft : front ≠ [])
    have hsum := entriesSize_append .internal (first :: front) (promoted :: back)
    rw [entriesSize_cons, entriesSize_cons] at hsum
    unfold nodeRoom at hleftFits hrightFits
    change entriesSize .internal (first :: front) ≤ _ at hleftFits
    change entriesSize .internal back ≤ _ at hrightFits
    rw [entriesSize_cons] at hleftFits
    refine internalSplitLoop_isSome (noChoice_ready hcapacity) (by simpa using hright) (by omega) ?_
    change btreeNodeHeaderSize + entriesSize .internal (first :: front ++ promoted :: back) -
      _ - _ ≤ capacity
    omega
  obtain ⟨middle, hmiddle⟩ := Option.isSome_iff_exists.mp hchosen
  obtain ⟨hlow, hhigh⟩ := internalSplitPoint_bounds hmiddle
  refine ⟨middle, hmiddle, hlow, hhigh, ?_⟩
  cases entries with
  | nil => cases hmiddle
  | cons first rest =>
    rcases internalSplitLoop_fits hmiddle with
      hnone | ⟨left, promoted, right, rfl, -, hlength, hleftFits, hrightFits⟩
    · cases hnone
    · obtain rfl : middle = (first :: left).length := by
        rw [length_cons]
        omega
      have hsum := entriesSize_append .internal (first :: left) (promoted :: right)
      rw [entriesSize_cons, entriesSize_cons] at hsum
      rw [← cons_append, take_left, drop_append]
      change btreeNodeHeaderSize + entriesSize .internal (first :: left ++ promoted :: right) -
        _ - _ ≤ capacity at hrightFits
      have hdrop : (first :: left).drop ((first :: left).length + 1) = [] := by simp
      rw [hdrop, Nat.add_sub_cancel_left, drop_succ_cons, drop_zero, nil_append,
        entriesSize_cons]
      constructor <;> omega

end SplitPoint

section Insertion

variable {pager : Pager} {batch : BTreeBatch} {pageId : PageId} {node : BTreeNode}
  {key value : Bytes} {capacity : Nat}

/-- Every staged image fits a page. -/
def StagedFits (pager : Pager) (batch : BTreeBatch) : Prop :=
  ∀ item ∈ batch.items, item.payload.length ≤ pagerPayloadCapacity pager

/-- What an insertion into a subtree leaves: images that fit, and a separator that is
no larger than the balanced rows it came from. -/
def Settled (pager : Pager) (split : Option BTreeSplit) (batch : BTreeBatch) : Prop :=
  StagedFits pager batch ∧ ∀ new ∈ split,
    12 + new.separator.length ≤ nodeRoom (pagerPayloadCapacity pager) / 2

lemma entrySize_le_half {kind : NodeKind} {entry : BTreeEntry}
    (hentry : BalancedEntry capacity entry.key entry.value) :
    entrySize kind entry ≤ nodeRoom capacity / 2 := by
  cases kind with
  | leaf => simpa [entrySize, entryFixedSize, nodeRoom, btreeNodeHeaderSize] using hentry.row
  | internal =>
    simpa [entrySize, entryFixedSize, nodeRoom, btreeNodeHeaderSize] using hentry.separator

lemma btreeStage_safe (hstaged : StagedFits pager batch)
    (hfits : btreeNodeHeaderSize + entriesSize node.kind node.entries ≤
      pagerPayloadCapacity pager) : Safe .bufferTooSmall (fun _ after => StagedFits pager after)
      (btreeStage pager pageId node) batch := by
  refine safe_query_bind btreeNodeEncodedSize_ne_unreported fun size hsize => ?_
  obtain rfl : size = btreeNodeHeaderSize + entriesSize node.kind node.entries :=
    (btreeNodeEncodedSize_eq_ok hsize).2
  obtain ⟨hencode, hlength, _⟩ := btreeNodeEncode_eq_ok hsize
  rw [if_neg (not_lt.mpr hfits)]
  refine safe_query_bind (by simp [hencode]) fun payload hpayload => ?_
  obtain rfl := Except.ok.inj (hencode.symm.trans hpayload)
  refine safe_update fun item hitem => ?_
  rcases mem_stageItem hitem with rfl | hitem
  · exact hlength.trans_le hfits
  · exact hstaged item hitem

lemma onTxn_allocate_safe (hstaged : StagedFits pager batch) :
    Safe .bufferTooSmall (fun _ after => StagedFits pager after)
      (onTxn (txnAllocate pager)) batch := by
  refine ⟨onTxn_avoids txnAllocate_avoids batch, fun page after hrun => ?_⟩
  rw [← (Prod.mk.inj hrun).2]
  exact hstaged

/-- A node of balanced entries that holds at most one too many. -/
structure Growing (capacity : Nat) (node : BTreeNode) : Prop where
  balanced : ∀ entry ∈ node.entries, BalancedEntry capacity entry.key entry.value
  total : entriesSize node.kind node.entries ≤ nodeRoom capacity + nodeRoom capacity / 2

lemma Growing.overflowing (hnode : Growing capacity node)
    (hsize : ¬btreeNodeHeaderSize + entriesSize node.kind node.entries ≤ capacity)
    (hheader : btreeNodeHeaderSize ≤ capacity) : Overflowing capacity node.kind node.entries where
  halves := by omega
  each := by
    intro size hmem
    obtain ⟨entry, hentry, rfl⟩ := List.mem_map.mp hmem
    exact entrySize_le_half (hnode.balanced entry hentry)
  exceeds := by
    change nodeRoom capacity < entriesSize node.kind node.entries
    unfold nodeRoom
    omega
  total := hnode.total

lemma btreeSplitLeaf_safe (hstaged : StagedFits pager batch) (hkind : node.kind = .leaf)
    (hcapacity : pagerPayloadCapacity pager < uint64Max)
    (hnode : Growing (pagerPayloadCapacity pager) node)
    (hover : Overflowing (pagerPayloadCapacity pager) .leaf node.entries) :
    Safe .bufferTooSmall (fun split after => Settled pager (some split) after)
      (btreeSplitLeaf pager pageId node) batch := by
  obtain ⟨middle, hmiddle, _, hhigh, hleftFits, hrightFits⟩ := leafSplitPoint_fits hcapacity hover
  simp only [btreeSplitLeaf, hmiddle]
  refine (onTxn_allocate_safe hstaged).bind fun rightPage batch₁ hstaged₁ => ?_
  refine (btreeStage_safe hstaged₁ (by rw [hkind]; exact hleftFits)).bind
    fun _ batch₂ hstaged₂ => ?_
  refine (btreeStage_safe hstaged₂ hrightFits).bind fun _ batch₃ hstaged₃ => ?_
  refine safe_pure ⟨hstaged₃, ?_⟩
  rintro _ ⟨⟩
  rw [drop_eq_getElem_cons hhigh, List.head?_cons, Option.map_some, Option.getD_some]
  exact (hnode.balanced _ (getElem_mem hhigh)).separator

lemma btreeSplitInternal_safe (hstaged : StagedFits pager batch) (hkind : node.kind = .internal)
    (hcapacity : pagerPayloadCapacity pager < uint64Max)
    (hnode : Growing (pagerPayloadCapacity pager) node)
    (hover : Overflowing (pagerPayloadCapacity pager) .internal node.entries) :
    Safe .bufferTooSmall (fun split after => Settled pager (some split) after)
      (btreeSplitInternal pager pageId node) batch := by
  obtain ⟨middle, hmiddle, _, hhigh, hleftFits, hrightFits⟩ :=
    internalSplitPoint_fits hcapacity hover
  simp only [btreeSplitInternal, hmiddle, internalHalves]
  refine (onTxn_allocate_safe hstaged).bind fun rightPage batch₁ hstaged₁ => ?_
  refine (btreeStage_safe hstaged₁ (by rw [hkind]; exact hleftFits)).bind
    fun _ batch₂ hstaged₂ => ?_
  refine (btreeStage_safe hstaged₂ hrightFits).bind fun _ batch₃ hstaged₃ => ?_
  refine safe_pure ⟨hstaged₃, ?_⟩
  rintro _ ⟨⟩
  have hpromoted : middle < node.entries.length := Nat.lt_of_succ_lt hhigh
  rw [List.getElem?_eq_getElem hpromoted, Option.getD_some]
  exact (hnode.balanced _ (getElem_mem hpromoted)).separator

/-- A node that grew by one balanced entry is staged or split. -/
lemma btreeSettle_safe (hstaged : StagedFits pager batch)
    (hcapacity : pagerPayloadCapacity pager < uint64Max)
    (hheader : btreeNodeHeaderSize ≤ pagerPayloadCapacity pager)
    (hnode : Growing (pagerPayloadCapacity pager) node) :
    Safe .bufferTooSmall (Settled pager) (btreeSettle pager pageId node) batch := by
  refine safe_query_bind btreeNodeEncodedSize_ne_unreported fun size hsize => ?_
  obtain rfl : size = btreeNodeHeaderSize + entriesSize node.kind node.entries :=
    (btreeNodeEncodedSize_eq_ok hsize).2
  by_cases hfits : btreeNodeHeaderSize + entriesSize node.kind node.entries ≤
      pagerPayloadCapacity pager
  · rw [if_pos hfits]
    exact (btreeStage_safe hstaged hfits).bind fun _ after hafter => safe_pure ⟨hafter, nofun⟩
  · rw [if_neg hfits]
    have hover := hnode.overflowing hfits hheader
    have htwo : ¬node.entries.length < 2 := by
      obtain ⟨left, right, hcut, hleft, hright, _⟩ := hover.exists_cut
      have hlength := congrArg List.length hcut
      rw [length_map, length_append] at hlength
      have := List.length_pos_iff.mpr hleft
      have := List.length_pos_iff.mpr hright
      omega
    rw [if_neg htwo]
    cases hkind : node.kind with
    | leaf =>
      rw [hkind] at hover
      exact (btreeSplitLeaf_safe hstaged hkind hcapacity hnode hover).bind
        fun _ _ hsettled => safe_pure hsettled
    | internal =>
      rw [hkind] at hover
      exact (btreeSplitInternal_safe hstaged hkind hcapacity hnode hover).bind
        fun _ _ hsettled => safe_pure hsettled

/-- The pages of a tree: the root, and the children of every node that can be read. -/
inductive Below (read : PageId → Except SdbError BTreeNode) (root : PageId) : PageId → Prop
  | root : Below read root root
  | child {page : PageId} {node : BTreeNode} {index : Nat} (hpage : Below read root page)
      (hread : read page = .ok node) (hindex : index ≤ node.entries.length) :
      Below read root (btreeChildAt node index)

/-- A batch on a tree that stores balanced entries only, rows and separators. -/
structure BalancedTree (pager : Pager) (batch : BTreeBatch) : Prop where
  stored : ∀ page view, pager.pages page = some view →
    view.payload.length ≤ pagerPayloadCapacity pager
  staged : StagedFits pager batch
  balanced : ∀ page, Below (btreeBatchReadNode pager batch) batch.rootPage page →
    ∀ node, btreeBatchReadNode pager batch page = .ok node → ∀ entry ∈ node.entries,
      BalancedEntry (pagerPayloadCapacity pager) entry.key entry.value

/-- Page sizes are 32-bit numbers. -/
lemma pagerPayloadCapacity_lt (hsize : pager.superblock.pageSize ≤ uint32Max) :
    pagerPayloadCapacity pager < uint64Max := by
  have hmax : uint32Max < uint64Max := by decide
  unfold pagerPayloadCapacity
  split
  · exact Nat.zero_lt_of_lt hmax
  · simp only
    split <;> omega

/-- A node takes the bytes of the payload it was decoded from. -/
lemma entriesSize_of_decode {payload : Bytes} (hdecode : btreeNodeDecode payload = .ok node) :
    btreeNodeHeaderSize + entriesSize node.kind node.entries = payload.length := by
  rw [← (nodeImage_of_decode hdecode).2, nodeImage_length]
  rfl

/-- The nodes of the tree are encodable and fit their pages. -/
lemma BalancedTree.read_fits (htree : BalancedTree pager batch)
    (hread : btreeBatchReadNode pager batch pageId = .ok node) :
    NodeEncodable node ∧ btreeNodeHeaderSize + entriesSize node.kind node.entries ≤
      pagerPayloadCapacity pager := by
  unfold btreeBatchReadNode at hread
  split at hread
  next staged hstaged =>
    refine ⟨(nodeImage_of_decode hread).1, (entriesSize_of_decode hread).trans_le ?_⟩
    exact htree.staged staged (mem_of_find?_eq_some hstaged)
  · simp only [btreeReadNode, pagerRead, except_bind_eq_ok, guard_eq_ok] at hread
    obtain ⟨view, ⟨_, hview⟩, _, hdecode⟩ := hread
    split at hview
    next stored hstored =>
      obtain rfl := Except.ok.inj hview
      refine ⟨(nodeImage_of_decode hdecode).1, (entriesSize_of_decode hdecode).trans_le ?_⟩
      exact htree.stored pageId _ hstored
    · cases hview

/-- One balanced entry put into a node that fits, in the place of others or between
them. -/
lemma growing_of_grown {kind : NodeKind} {sibling first : PageId}
    {before old after : List BTreeEntry} {entry : BTreeEntry}
    (hfits : btreeNodeHeaderSize + entriesSize kind (before ++ old ++ after) ≤ capacity)
    (hbalanced : ∀ other ∈ before ++ old ++ after, BalancedEntry capacity other.key other.value)
    (hentry : BalancedEntry capacity entry.key entry.value) : Growing capacity
      { kind, rightSibling := sibling, firstChild := first
        entries := before ++ entry :: after } where
  balanced := by
    intro other hother
    rcases List.mem_append.mp hother with hother | hother
    · exact hbalanced other (by simp [hother])
    · rcases List.mem_cons.mp hother with rfl | hother
      · exact hentry
      · exact hbalanced other (by simp [hother])
  total := by
    have hsize : entrySize kind entry ≤ nodeRoom capacity / 2 := entrySize_le_half hentry
    change entriesSize kind (before ++ entry :: after) ≤ _
    rw [entriesSize_append, entriesSize_append] at hfits
    rw [entriesSize_append, entriesSize_cons]
    unfold nodeRoom at *
    omega

/-- Where a put writes its row in a leaf. -/
lemma btreeLeafPut_entries (key value : Bytes) (hsorted : NodeSorted node) :
    ∃ before old after entry, node.entries = before ++ old ++ after ∧
      btreeLeafPut node key value = { node with entries := before ++ entry :: after } ∧
      entry.key = key ∧ entry.value = value := by
  obtain ⟨before, after, hentries, hlength, _, _⟩ := btreeLowerBound_split key hsorted
  unfold btreeLeafPut
  simp only [← hlength]
  split
  next hmatch =>
    obtain ⟨entry, rest, rfl, hkey⟩ := (entryMatches_append hentries).mp hmatch
    refine ⟨before, [entry], rest, { entry with value }, by simp [hentries], ?_, hkey, rfl⟩
    rw [hentries, ListEdit.modify_length]
  · refine ⟨before, [], after, { key, value, rightChild := 0 }, by simp [hentries], ?_, rfl, rfl⟩
    rw [hentries, ListEdit.insertIdx_length]

lemma BalancedEntry.header_le (hentry : BalancedEntry capacity key value) :
    btreeNodeHeaderSize ≤ capacity := by
  have hseparator := hentry.separator
  unfold btreeNodeHeaderSize
  omega

section

variable (htree : BalancedTree pager batch) (hpage : Below (btreeBatchReadNode pager batch)
  batch.rootPage pageId) (hread : btreeBatchReadNode pager batch pageId = .ok node)

include htree hpage hread

/-- The new row, put into its leaf. -/
lemma BalancedTree.leafPut
    (hentry : BalancedEntry (pagerPayloadCapacity pager) key value) :
    Growing (pagerPayloadCapacity pager) (btreeLeafPut node key value) := by
  obtain ⟨hencodable, hfits⟩ := htree.read_fits hread
  have hbalanced := htree.balanced pageId hpage node hread
  obtain ⟨before, old, after, entry, hentries, hput, hkey, hvalue⟩ :=
    btreeLeafPut_entries key value hencodable.sorted
  rw [hentries] at hfits hbalanced
  rw [hput]
  exact growing_of_grown hfits hbalanced (by rwa [hkey, hvalue])

/-- A separator that comes up, put into its node. -/
lemma BalancedTree.internalInsert {separator : Bytes}
    (hseparator : 12 + separator.length ≤ nodeRoom (pagerPayloadCapacity pager) / 2)
    (key : Bytes) (rightPage : PageId) : Growing (pagerPayloadCapacity pager)
      (btreeInternalInsert node (btreeChildIndex node key) separator rightPage) := by
  obtain ⟨hencodable, hfits⟩ := htree.read_fits hread
  have hbalanced := htree.balanced pageId hpage node hread
  obtain ⟨before, after, hentries, hlength, _, _⟩ := btreeChildIndex_split key hencodable.sorted
  rw [show node.entries = before ++ [] ++ after by simp [hentries]] at hfits hbalanced
  rw [btreeInternalInsert, ← hlength, hentries, ListEdit.insertIdx_length]
  refine growing_of_grown hfits hbalanced ⟨?_, ?_⟩
  · exact le_trans (by simp) hseparator
  · exact hseparator

end

/-- An insertion below a page of the tree. -/
lemma btreeInsertRecursive_safe (hcapacity : pagerPayloadCapacity pager < uint64Max)
    (htree : BalancedTree pager batch)
    (hentry : BalancedEntry (pagerPayloadCapacity pager) key value) (fuel : Nat)
    (hpage : Below (btreeBatchReadNode pager batch) batch.rootPage pageId) :
    Safe .bufferTooSmall (Settled pager) (btreeInsertRecursive pager key value fuel pageId)
      batch := by
  induction fuel generalizing pageId with
  | zero => exact safe_fail (by decide)
  | succ fuel ih =>
    refine safe_query_bind btreeBatchReadNode_ne_unreported fun node hread => ?_
    obtain ⟨hencodable, hfits⟩ := htree.read_fits hread
    cases hkind : node.kind with
    | leaf =>
      exact btreeSettle_safe htree.staged hcapacity hentry.header_le
        (htree.leafPut hpage hread hentry)
    | internal =>
      have hindex : btreeChildIndex node key ≤ node.entries.length := by
        obtain ⟨before, after, hentries, hlength, _, _⟩ :=
          btreeChildIndex_split key hencodable.sorted
        rw [← hlength, hentries]
        simp
      refine (ih (hpage.child hread hindex)).bind fun split after hsettled => ?_
      cases split with
      | none =>
        refine btreeSettle_safe hsettled.1 hcapacity hentry.header_le
          ⟨htree.balanced pageId hpage node hread, ?_⟩
        unfold nodeRoom
        omega
      | some split =>
        exact btreeSettle_safe hsettled.1 hcapacity hentry.header_le
          (htree.internalInsert hpage hread (hsettled.2 split rfl) key split.rightPage)

/-- The halves of a split root under a new one. -/
lemma btreeGrowRoot_safe {split : BTreeSplit} (hsettled : Settled pager (some split) batch)
    (hheader : btreeNodeHeaderSize ≤ pagerPayloadCapacity pager) :
    Safe .bufferTooSmall (fun _ _ => True) (btreeGrowRoot pager split) batch := by
  obtain ⟨hstaged, hseparator⟩ := hsettled
  refine safe_query_bind (by simp) fun root _ => ?_
  refine safe_query_bind ?_ fun left hleft => ?_
  · split
    · simp
    · exact btreeNodeDecode_ne_unreported
  split at hleft
  · cases hleft
  next staged hfind =>
    have hleftFits : btreeNodeHeaderSize + entriesSize left.kind left.entries ≤
        pagerPayloadCapacity pager := by
      rw [entriesSize_of_decode hleft]
      exact hstaged staged (mem_of_find?_eq_some hfind)
    refine (onTxn_allocate_safe hstaged).bind fun leftPage batch₁ hstaged₁ => ?_
    refine (btreeStage_safe hstaged₁ hleftFits).bind fun _ batch₂ hstaged₂ => ?_
    refine (btreeStage_safe hstaged₂ ?_).mono fun _ _ _ => trivial
    have hseparator := hseparator split rfl
    unfold nodeRoom at hseparator
    simp only [entriesSize, entrySize, entryFixedSize, map_cons, map_nil,
      sum_cons, sum_nil, reduceCtorEq, if_false]
    omega

lemma btreePutBody_safe (hcapacity : pagerPayloadCapacity pager < uint64Max)
    (htree : BalancedTree pager batch)
    (hentry : BalancedEntry (pagerPayloadCapacity pager) key value) :
    Safe .bufferTooSmall (fun _ _ => True) (btreePutBody pager key value) batch := by
  refine safe_query_bind (by simp) fun root hroot => ?_
  obtain rfl := Except.ok.inj hroot
  refine (btreeInsertRecursive_safe hcapacity htree hentry 64 .root).bind
    fun split after hsettled => ?_
  cases split with
  | none => exact safe_pure trivial
  | some split => exact btreeGrowRoot_safe hsettled hentry.header_le

/-- Splits succeed for balanced entries: every leaf and every internal node that one
balanced entry makes overflow has a split point whose halves fit, and a put into a tree
of balanced entries never runs out of room. -/
theorem btreeBatchPut_finds_room (pager : Pager) (hsize : pager.superblock.pageSize ≤ uint32Max) :
    (∀ entries, Overflowing (pagerPayloadCapacity pager) .leaf entries →
      ∃ middle, leafSplitPoint (pagerPayloadCapacity pager) entries = some middle ∧
        btreeNodeHeaderSize + entriesSize .leaf (entries.take middle) ≤ pagerPayloadCapacity pager ∧
        btreeNodeHeaderSize + entriesSize .leaf (entries.drop middle) ≤
          pagerPayloadCapacity pager) ∧
    (∀ entries, Overflowing (pagerPayloadCapacity pager) .internal entries →
      ∃ middle, internalSplitPoint (pagerPayloadCapacity pager) entries = some middle ∧
        btreeNodeHeaderSize + entriesSize .internal (entries.take middle) ≤
          pagerPayloadCapacity pager ∧
        btreeNodeHeaderSize + entriesSize .internal (entries.drop (middle + 1)) ≤
          pagerPayloadCapacity pager) ∧ ∀ batch key value, BalancedTree pager batch →
      BalancedEntry (pagerPayloadCapacity pager) key value →
      (btreeBatchPut pager key value batch).1 ≠ .error .bufferTooSmall := by
  have hcapacity := pagerPayloadCapacity_lt hsize
  refine ⟨fun entries hover => ?_, fun entries hover => ?_, fun batch key value htree hentry => ?_⟩
  · obtain ⟨middle, hmiddle, _, _, hleft, hright⟩ := leafSplitPoint_fits hcapacity hover
    exact ⟨middle, hmiddle, hleft, hright⟩
  · obtain ⟨middle, hmiddle, _, _, hleft, hright⟩ := internalSplitPoint_fits hcapacity hover
    exact ⟨middle, hmiddle, hleft, hright⟩
  · rw [btreeBatchPut]
    split
    · simp
    · exact poisonOnError_ne_unreported (btreePutBody_safe hcapacity htree hentry).ne_error

/-- Two rows of half the room each. -/
def fullLeaf : BTreeNode :=
  cellNode (.leaf [([1], List.replicate 2015 0), ([3], List.replicate 2015 0)] 0)

lemma fullLeaf_balanced :
    BalancedTree (pagerOfNodes [fullLeaf]) (freshBatch (pagerOfNodes [fullLeaf])) where
  stored := by
    intro page view hview
    obtain ⟨node, hnode, rfl⟩ := Option.map_eq_some_iff.mp hview
    obtain rfl := List.mem_singleton.mp (mem_of_getElem? hnode)
    decide +kernel
  staged := nofun
  balanced := by
    intro page _ node hread
    obtain ⟨stored, hstored, hdecode⟩ := btreeReadNode_pagerOfNodes hread
    obtain rfl := List.mem_singleton.mp hstored
    have hround : btreeNodeDecode (nodeImage fullLeaf) = .ok fullLeaf := by decide +kernel
    obtain rfl := Except.ok.inj (hround.symm.trans hdecode)
    decide +kernel

/-- A third row of that size splits the leaf. -/
theorem btreeBatchPut_finds_room_fullLeaf :
    BalancedEntry (pagerPayloadCapacity (pagerOfNodes [fullLeaf])) [2] (List.replicate 2015 0) ∧
      (btreeBatchPut (pagerOfNodes [fullLeaf]) [2] (List.replicate 2015 0)
        (freshBatch (pagerOfNodes [fullLeaf]))).1 ≠ .error .bufferTooSmall := by
  have hentry : BalancedEntry (pagerPayloadCapacity (pagerOfNodes [fullLeaf])) [2]
      (List.replicate 2015 0) := by decide +kernel
  exact ⟨hentry, (btreeBatchPut_finds_room (pagerOfNodes [fullLeaf]) (by decide)).2.2 _ _ _
    fullLeaf_balanced hentry⟩

end Insertion

end ShibaDb
