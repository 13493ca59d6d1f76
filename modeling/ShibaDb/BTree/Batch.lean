/-
The B+tree batch of `btree.c`: staged node images over the committed pages,
lookup, insertion with node splits, and deletion with reclaim of empty leaves.
-/
import ShibaDb.BTree.Page
import ShibaDb.Lib.BinarySearch
import ShibaDb.Pager.Txn

namespace ShibaDb

open Fallible

structure BTreeMutation where
  pageId : PageId
  payload : Bytes
  deriving DecidableEq, Repr

structure BTreeBatch where
  rootPage : PageId
  items : List BTreeMutation
  txn : Txn
  failure : Option SdbError
  active : Bool
  deriving DecidableEq, Repr

abbrev BatchM := Fallible SdbError BTreeBatch

/-- Run a transaction step inside the batch. -/
def onTxn {α : Type} (step : TxnM α) : BatchM α := fun batch =>
  let (result, txn) := step batch.txn
  (result, { batch with txn })

def btreeReadNode (pager : Pager) (pageId : PageId) : Except SdbError BTreeNode := do
  let view ← pagerRead pager pageId
  if view.type ≠ .data then .error .corrupt else btreeNodeDecode view.payload

def btreeFindStaged (items : List BTreeMutation) (pageId : PageId) :
    Option BTreeMutation :=
  items.find? (·.pageId = pageId)

def btreeBatchReadNode (pager : Pager) (batch : BTreeBatch) (pageId : PageId) :
    Except SdbError BTreeNode :=
  match btreeFindStaged batch.items pageId with
  | some staged => btreeNodeDecode staged.payload
  | none => btreeReadNode pager pageId

def readNodeM (pager : Pager) (pageId : PageId) : BatchM BTreeNode :=
  query fun batch => btreeBatchReadNode pager batch pageId

/-- Replace the staged image of a page, or add one at the end. -/
def stageItem (pageId : PageId) (payload : Bytes) :
    List BTreeMutation → List BTreeMutation
  | [] => [{ pageId, payload }]
  | item :: rest =>
    if item.pageId = pageId then { pageId, payload } :: rest
    else item :: stageItem pageId payload rest

def btreeStage (pager : Pager) (pageId : PageId) (node : BTreeNode) : BatchM PUnit := do
  let size ← query fun _ => btreeNodeEncodedSize node
  if size > pagerPayloadCapacity pager then fail .bufferTooSmall
  else
    let payload ← query fun _ => btreeNodeEncode node size
    update fun batch =>
      { batch with items := stageItem pageId payload batch.items }

def btreeUnstage (pageId : PageId) : BatchM PUnit :=
  update fun batch =>
    { batch with items := batch.items.eraseP (·.pageId = pageId) }

def btreeTxnAllocated (batch : BTreeBatch) (pageId : PageId) : Bool :=
  batch.txn.allocatedPages.contains pageId

def btreeLowerBound (node : BTreeNode) (key : Bytes) : Nat :=
  BinarySearch.partitionPoint
    (fun middle => node.entries[middle]?.any fun entry =>
      ByteOrder.compare entry.key key < 0)
    node.entries.length 0 node.entries.length

/-- The entry at `position` exists and has this key. -/
def entryMatches (node : BTreeNode) (position : Nat) (key : Bytes) : Bool :=
  node.entries[position]?.any fun entry => ByteOrder.compare entry.key key = 0

/-- The child an internal node routes `key` to: a key equal to a separator
belongs to the child on its right. -/
def btreeChildIndex (node : BTreeNode) (key : Bytes) : Nat :=
  let position := btreeLowerBound node key
  if entryMatches node position key then position + 1 else position

def btreeChildAt (node : BTreeNode) (childIndex : Nat) : PageId :=
  if childIndex = 0 then node.firstChild
  else
    match node.entries[childIndex - 1]? with
    | some entry => entry.rightChild
    | none => 0

def btreeRemoveChild (node : BTreeNode) (childIndex : Nat) : BTreeNode :=
  if childIndex > node.entries.length then node
  else
    match childIndex, node.entries with
    | _, [] => node
    | 0, first :: rest => { node with firstChild := first.rightChild, entries := rest }
    | index + 1, entries => { node with entries := entries.eraseIdx index }

def btreeLeafPut (node : BTreeNode) (key value : Bytes) : BTreeNode :=
  let position := btreeLowerBound node key
  if entryMatches node position key then
    { node with
      entries := node.entries.modify position fun entry => { entry with value } }
  else
    { node with
      entries := node.entries.insertIdx position { key, value, rightChild := 0 } }

def btreeInternalInsert (node : BTreeNode) (position : Nat) (separator : Bytes)
    (rightChild : PageId) : BTreeNode :=
  { node with
    entries := node.entries.insertIdx position { key := separator, value := [], rightChild } }

structure BTreeSplit where
  separator : Bytes
  rightPage : PageId
  deriving DecidableEq, Repr

/-- The state of a search for a split point: the best candidate so far and the
size of its larger half. -/
structure SplitChoice where
  middle : Option Nat
  bestLargest : Nat
  deriving Repr

/-- Weigh one candidate by the sizes of the two nodes it would leave. -/
def SplitChoice.weigh (choice : SplitChoice) (capacity candidate leftSize rightSize : Nat) :
    SplitChoice :=
  let largest := max leftSize rightSize
  if leftSize ≤ capacity && rightSize ≤ capacity && largest < choice.bestLargest then
    { middle := some candidate, bestLargest := largest }
  else choice

/-- Candidates of `sdb_btree_split_leaf`: the entries in front of `candidate`
stay left.  The list starts at the entry before the candidate. -/
def leafSplitLoop (capacity total : Nat) :
    List BTreeEntry → Nat → Nat → SplitChoice → SplitChoice
  | previous :: next :: rest, candidate, leftEntries, choice =>
    let leftEntries := leftEntries + entrySize .leaf previous
    leafSplitLoop capacity total (next :: rest) (candidate + 1) leftEntries
      (choice.weigh capacity candidate (btreeNodeHeaderSize + leftEntries)
        (btreeNodeHeaderSize + total - leftEntries))
  | _, _, _, choice => choice

/-- Candidates of `sdb_btree_split_internal`: the entry at `candidate` moves up.
The list starts at the candidate. -/
def internalSplitLoop (capacity total : Nat) :
    List BTreeEntry → Nat → Nat → SplitChoice → SplitChoice
  | promoted :: next :: rest, candidate, leftEntries, choice =>
    let promotedSize := entrySize .internal promoted
    internalSplitLoop capacity total (next :: rest) (candidate + 1)
      (leftEntries + promotedSize)
      (choice.weigh capacity candidate (btreeNodeHeaderSize + leftEntries)
        (btreeNodeHeaderSize + total - leftEntries - promotedSize))
  | _, _, _, choice => choice

def noChoice : SplitChoice := { middle := none, bestLargest := uint64Max }

def leafSplitPoint (capacity : Nat) (entries : List BTreeEntry) : Option Nat :=
  (leafSplitLoop capacity (entries.map (entrySize .leaf)).sum entries 1 0 noChoice).middle

def internalSplitPoint (capacity : Nat) (entries : List BTreeEntry) : Option Nat :=
  match entries with
  | [] => none
  | first :: rest =>
    (internalSplitLoop capacity (entries.map (entrySize .internal)).sum rest 1
      (entrySize .internal first) noChoice).middle

def btreeSplitLeaf (pager : Pager) (pageId : PageId) (left : BTreeNode) :
    BatchM BTreeSplit :=
  match leafSplitPoint (pagerPayloadCapacity pager) left.entries with
  | none => fail .bufferTooSmall
  | some middle => do
      let right : BTreeNode :=
        { kind := .leaf, rightSibling := left.rightSibling, firstChild := 0
          entries := left.entries.drop middle }
      let rightPage ← onTxn (txnAllocate pager)
      btreeStage pager pageId
        { left with rightSibling := rightPage, entries := left.entries.take middle }
      btreeStage pager rightPage right
      pure { separator := (right.entries.head?.map BTreeEntry.key).getD [], rightPage }

/-- The halves of an internal node around the entry that moves up. -/
def internalHalves (node : BTreeNode) (middle : Nat) : BTreeNode × BTreeEntry × BTreeNode :=
  let promoted := (node.entries[middle]?).getD { key := [], value := [], rightChild := 0 }
  ({ node with entries := node.entries.take middle }, promoted,
    { kind := .internal, rightSibling := 0, firstChild := promoted.rightChild
      entries := node.entries.drop (middle + 1) })

def btreeSplitInternal (pager : Pager) (pageId : PageId) (node : BTreeNode) :
    BatchM BTreeSplit :=
  match internalSplitPoint (pagerPayloadCapacity pager) node.entries with
  | none => fail .bufferTooSmall
  | some middle => do
      let (left, promoted, right) := internalHalves node middle
      let rightPage ← onTxn (txnAllocate pager)
      btreeStage pager pageId left
      btreeStage pager rightPage right
      pure { separator := promoted.key, rightPage }

/-- Stage a changed node, splitting it when it no longer fits its page. -/
def btreeSettle (pager : Pager) (pageId : PageId) (node : BTreeNode) :
    BatchM (Option BTreeSplit) := do
  let size ← query fun _ => btreeNodeEncodedSize node
  if size ≤ pagerPayloadCapacity pager then
    btreeStage pager pageId node
    pure none
  else if node.entries.length < 2 then fail .bufferTooSmall
  else
    match node.kind with
    | .leaf => return some (← btreeSplitLeaf pager pageId node)
    | .internal => return some (← btreeSplitInternal pager pageId node)

/-- `sdb_btree_insert_recursive`; the fuel is what is left of the 64 levels. -/
def btreeInsertRecursive (pager : Pager) (key value : Bytes) :
    Nat → PageId → BatchM (Option BTreeSplit)
  | 0, _ => fail .corrupt
  | fuel + 1, pageId => do
      let node ← readNodeM pager pageId
      match node.kind with
      | .leaf => btreeSettle pager pageId (btreeLeafPut node key value)
      | .internal =>
        let childIndex := btreeChildIndex node key
        let childSplit ←
          btreeInsertRecursive pager key value fuel (btreeChildAt node childIndex)
        match childSplit with
        | none => btreeSettle pager pageId node
        | some split =>
          btreeSettle pager pageId
            (btreeInternalInsert node childIndex split.separator split.rightPage)

/-- The root keeps its page: its left half moves to a new page and the root
becomes an internal node over the two halves. -/
def btreeGrowRoot (pager : Pager) (split : BTreeSplit) : BatchM PUnit := do
  let root ← query fun batch => .ok batch.rootPage
  let left ← query fun batch =>
    match btreeFindStaged batch.items root with
    | none => .error .internal
    | some staged => btreeNodeDecode staged.payload
  let leftPage ← onTxn (txnAllocate pager)
  btreeStage pager leftPage left
  btreeStage pager root
    { kind := .internal, rightSibling := 0, firstChild := leftPage
      entries := [{ key := split.separator, value := [], rightChild := split.rightPage }] }

def btreePutBody (pager : Pager) (key value : Bytes) : BatchM PUnit := do
  let root ← query fun batch => .ok batch.rootPage
  let rootSplit ← btreeInsertRecursive pager key value 64 root
  match rootSplit with
  | none => pure ⟨⟩
  | some split => btreeGrowRoot pager split

/-- The guard shared by the batch operations on a key. -/
def batchKeyValid (batch : BTreeBatch) (key : Bytes) : Bool :=
  batch.active && batch.failure.isNone && key.length ≠ 0 && key.length ≤ uint16Max

/-- Run a mutation of the batch; an error poisons the batch. -/
def poisonOnError (body : BatchM PUnit) (batch : BTreeBatch) :
    Except SdbError Unit × BTreeBatch :=
  match body batch with
  | (.ok _, batch) => (.ok (), batch)
  | (.error error, batch) => (.error error, { batch with failure := some error })

def btreeBatchPut (pager : Pager) (key value : Bytes) (batch : BTreeBatch) :
    Except SdbError Unit × BTreeBatch :=
  if !batchKeyValid batch key || value.length > uint32Max then
    (.error .invalidArgument, batch)
  else poisonOnError (btreePutBody pager key value) batch

/-- The nodes above a position with the child taken in each, innermost first. -/
abbrev Path := List (PageId × Nat)

/-- Point the last leaf below `pageId` at `link`, following last children. -/
def btreeRelinkRightmost (pager : Pager) (link : PageId) : Nat → PageId → BatchM PUnit
  | 0, _ => fail .corrupt
  | fuel + 1, pageId => do
      let node ← readNodeM pager pageId
      match node.kind with
      | .leaf => btreeStage pager pageId { node with rightSibling := link }
      | .internal =>
        btreeRelinkRightmost pager link fuel (btreeChildAt node node.entries.length)

/-- Point the leaf before the end of the path at `link`: it ends the subtree
left of the path at the nearest ancestor that has one. -/
def btreeRelinkPredecessor (pager : Pager) (link : PageId) : Path → BatchM PUnit
  | [] => pure ⟨⟩
  | (page, childIndex) :: outer =>
    if childIndex = 0 then btreeRelinkPredecessor pager link outer
    else do
      let ancestor ← readNodeM pager page
      btreeRelinkRightmost pager link 65 (btreeChildAt ancestor (childIndex - 1))

/-- A node emptied of separators, folded into its sibling: `sibling` is left of
it when `siblingLeft`, and `survivor` is the one child it has left. -/
def combineSibling (siblingLeft : Bool) (separator : Bytes) (sibling : BTreeNode)
    (survivor : PageId) : BTreeNode :=
  if siblingLeft then
    { kind := .internal, rightSibling := 0, firstChild := sibling.firstChild
      entries := sibling.entries ++
        [{ key := separator, value := [], rightChild := survivor }] }
  else
    { kind := .internal, rightSibling := 0, firstChild := survivor
      entries := { key := separator, value := [], rightChild := sibling.firstChild } ::
        sibling.entries }

/-- Give the two neighbours a part of the combined entries each; the entry
between them becomes the parent's separator. -/
def btreeRedistribute (pager : Pager) (parentPage leftPage rightPage : PageId)
    (parent combined : BTreeNode) (sepSlot : Nat) : BatchM PUnit :=
  match internalSplitPoint (pagerPayloadCapacity pager) combined.entries with
  | none => fail .bufferTooSmall
  | some middle => do
      let (left, promoted, right) := internalHalves combined middle
      btreeStage pager leftPage left
      btreeStage pager rightPage right
      btreeStage pager parentPage
        { parent with
          entries := parent.entries.modify sepSlot fun entry =>
            { entry with key := promoted.key } }

/-- The separator between a child and the sibling it is combined with. -/
def separatorSlot (nodeSlot : Nat) : Nat := nodeSlot - 1

def siblingSlot (nodeSlot : Nat) : Nat := if nodeSlot ≥ 1 then nodeSlot - 1 else 1

/-- `sdb_btree_reclaim_internal_up` for the node at `nodePage`, whose only child
is `survivorPage`; the path leads to its parent. -/
def btreeReclaimInternalUp (pager : Pager) : Path → PageId → PageId → BatchM PUnit
  | [], _, _ => fail .corrupt
  | (parentPage, nodeSlot) :: outer, nodePage, survivorPage => do
      let root ← query fun batch => .ok batch.rootPage
      if nodePage = 0 || survivorPage = 0 || parentPage = 0 || parentPage = nodePage then
        fail .corrupt
      else
        let parent ← readNodeM pager parentPage
        if parent.kind ≠ .internal || nodeSlot > parent.entries.length
            || parent.entries.length = 0 then fail .corrupt
        else
          let siblingPage := btreeChildAt parent (siblingSlot nodeSlot)
          if siblingPage = nodePage || siblingPage = 0 || siblingPage = parentPage
              || survivorPage = parentPage || survivorPage = siblingPage then
            fail .corrupt
          else
            let sibling ← readNodeM pager siblingPage
            if sibling.kind ≠ .internal then fail .corrupt
            else
              let separator :=
                (parent.entries[separatorSlot nodeSlot]?.map BTreeEntry.key).getD []
              let combined :=
                combineSibling (nodeSlot ≥ 1) separator sibling survivorPage
              let size ← query fun _ => btreeNodeEncodedSize combined
              if size ≤ pagerPayloadCapacity pager then
                let rootCollapse := parentPage = root && parent.entries.length = 1
                btreeStage pager (if rootCollapse then root else siblingPage) combined
                let parent := btreeRemoveChild parent nodeSlot
                btreeUnstage nodePage
                onTxn (txnFree pager nodePage)
                if rootCollapse then
                  btreeUnstage siblingPage
                  onTxn (txnFree pager siblingPage)
                else if parent.entries.length > 0 then
                  btreeStage pager parentPage parent
                else
                  btreeReclaimInternalUp pager outer parentPage parent.firstChild
              else
                btreeRedistribute pager parentPage
                  (if nodeSlot ≥ 1 then siblingPage else nodePage)
                  (if nodeSlot ≥ 1 then nodePage else siblingPage)
                  parent combined (separatorSlot nodeSlot)

/-- Copy the only child of the root into the root page. -/
def btreeCollapseRoot (pager : Pager) (root childPage : PageId) : BatchM PUnit := do
  let child ← readNodeM pager childPage
  let child := if child.kind = .leaf then { child with rightSibling := 0 } else child
  btreeUnstage childPage
  onTxn (txnFree pager childPage)
  btreeStage pager root child

/-- `sdb_btree_reclaim_empty_leaf`: unlink the leaf, drop it from its parent and
repair the parent when that leaves it without a separator. -/
def btreeReclaimEmptyLeaf (pager : Pager) (leafPage rightSibling : PageId) :
    Path → BatchM PUnit
  | [] => fail .corrupt
  | (parentPage, parentChild) :: outer => do
      let root ← query fun batch => .ok batch.rootPage
      btreeRelinkPredecessor pager rightSibling ((parentPage, parentChild) :: outer)
      let parent ← readNodeM pager parentPage
      if parent.kind ≠ .internal || parent.entries.length = 0
          || parentChild > parent.entries.length then fail .corrupt
      else
        let parent := btreeRemoveChild parent parentChild
        btreeUnstage leafPage
        onTxn (txnFree pager leafPage)
        if parent.entries.length ≠ 0 then btreeStage pager parentPage parent
        else if parentPage = root then btreeCollapseRoot pager root parent.firstChild
        else btreeReclaimInternalUp pager outer parentPage parent.firstChild

/-- Follow `key` down to its leaf; the fuel bounds the nodes read. -/
def btreeDescend (read : PageId → Except SdbError BTreeNode) (key : Bytes) :
    Nat → PageId → Path → Except SdbError (BTreeNode × PageId × Path)
  | 0, _, _ => .error .corrupt
  | fuel + 1, pageId, path => do
      let node ← read pageId
      match node.kind with
      | .leaf => .ok (node, pageId, path)
      | .internal =>
        let childIndex := btreeChildIndex node key
        btreeDescend read key fuel (btreeChildAt node childIndex)
          ((pageId, childIndex) :: path)

/-- Remove the row at `position` from its leaf and reclaim a leaf this empties,
unless the leaf was allocated by this very transaction. -/
def btreeDeleteAt (pager : Pager) (leaf : BTreeNode) (pageId : PageId) (path : Path)
    (position : Nat) : BatchM PUnit := do
  let node := { leaf with entries := leaf.entries.eraseIdx position }
  btreeStage pager pageId node
  let root ← query fun batch => .ok batch.rootPage
  let allocated ← query fun batch => .ok (btreeTxnAllocated batch pageId)
  if path ≠ [] && pageId ≠ root && !allocated then
    let check ← readNodeM pager pageId
    if check.entries.length = 0 then
      btreeReclaimEmptyLeaf pager pageId node.rightSibling path
    else pure ⟨⟩
  else pure ⟨⟩

def btreeBatchDelete (pager : Pager) (key : Bytes) (batch : BTreeBatch) :
    Except SdbError Unit × BTreeBatch :=
  if !batchKeyValid batch key then (.error .invalidArgument, batch)
  else
    match btreeDescend (btreeBatchReadNode pager batch) key 65 batch.rootPage [] with
    | .error error => (.error error, { batch with failure := some error })
    | .ok (leaf, pageId, path) =>
      let position := btreeLowerBound leaf key
      if !entryMatches leaf position key then (.error .notFound, batch)
      else poisonOnError (btreeDeleteAt pager leaf pageId path position) batch

/-- What a lookup reports: the status, the bytes copied out and the value size
written back (zero where the code leaves it untouched). -/
structure Lookup where
  status : Except SdbError Unit
  value : Bytes
  valueSize : Nat

def Lookup.failed (error : SdbError) : Lookup :=
  { status := .error error, value := [], valueSize := 0 }

/-- Hand a stored value to a caller with room for `capacity` bytes. -/
def Lookup.found (value : Bytes) (capacity : Nat) : Lookup :=
  if capacity < value.length then
    { status := .error .bufferTooSmall, value := [], valueSize := value.length }
  else { status := .ok (), value, valueSize := value.length }

def btreeLookup (read : PageId → Except SdbError BTreeNode) (root : PageId)
    (key : Bytes) (capacity : Nat) : Lookup :=
  match btreeDescend read key 64 root [] with
  | .error error => .failed error
  | .ok (leaf, _, _) =>
    let position := btreeLowerBound leaf key
    match leaf.entries[position]? with
    | some entry =>
      if ByteOrder.compare entry.key key = 0 then .found entry.value capacity
      else .failed .notFound
    | none => .failed .notFound

def btreeGet (pager : Pager) (root : PageId) (key : Bytes) (capacity : Nat) : Lookup :=
  if key.length = 0 || key.length > uint16Max then .failed .invalidArgument
  else btreeLookup (btreeReadNode pager) root key capacity

def btreeBatchGet (pager : Pager) (batch : BTreeBatch) (key : Bytes) (capacity : Nat) :
    Lookup :=
  if !batchKeyValid batch key then .failed .invalidArgument
  else btreeLookup (btreeBatchReadNode pager batch) batch.rootPage key capacity

def btreeBatchBegin (pager : Pager) (root : PageId) :
    Except SdbError (BTreeBatch × Pager) := do
  let (txn, pager) ← txnBegin pager
  .ok ({ rootPage := root, items := [], txn, failure := none, active := true }, pager)

/-- `sdb_btree_batch_abort`; the batch itself is cleared and gone. -/
def btreeBatchAbort (pager : Pager) (batch : BTreeBatch) : Pager :=
  if batch.txn.active then txnRelease pager else pager

def stageAll (pager : Pager) : List BTreeMutation → TxnM PUnit
  | [] => pure ⟨⟩
  | item :: rest => do
      txnPut pager { pageId := item.pageId, type := .data, payload := item.payload }
      stageAll pager rest

def btreeBatchCommit (pager : Pager) (batch : BTreeBatch) :
    Except SdbError Unit × Pager :=
  if !batch.active then (.error .invalidArgument, pager)
  else
    match batch.failure with
    | some error => (.error error, btreeBatchAbort pager batch)
    | none =>
      if batch.items = [] then (.ok (), btreeBatchAbort pager batch)
      else
        match stageAll pager batch.items batch.txn with
        | (.ok _, txn) => txnCommit pager txn
        | (.error error, _) => (.error error, txnRelease pager)

/-- `sdb_btree_create`: an empty leaf as the root of a fresh database. -/
def btreeCreate (pager : Pager) : Except SdbError Pager :=
  if !pager.isOpen || pager.needsRecovery || pager.superblock.rootPage ≠ 0 then
    .error .invalidArgument
  else do
    let (rootPage, pager) ← pagerAllocate pager
    let payload ← btreeNodeEncode
      { kind := .leaf, rightSibling := 0, firstChild := 0, entries := [] }
      btreeNodeHeaderSize
    let pager ← pagerWrite pager rootPage
      { type := .data, pageLsn := pager.superblock.checkpointLsn, payload }
    let generation ← generationBump pager.superblock.generation
    pagerStoreSuperblock pager { pager.superblock with rootPage, generation }

end ShibaDb
