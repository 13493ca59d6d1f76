/-
The forward cursor of `btree.c` on a committed tree: a descent to the first row
at or above a key, then row by row along the leaf chain.  Leaves without rows are
skipped, so the cursor shows exactly the rows of the tree from the key on.
-/
import ShibaDb.BTree.Canonical
import ShibaDb.BTree.Commit

namespace ShibaDb

open SepTree List

/-- `sdb_btree_cursor`; the pages a forward walk has passed are kept to notice a
cycle, and the path above the leaf serves the walk backwards. -/
structure BTreeCursor where
  leaf : BTreeNode
  pageId : PageId
  index : Nat
  valid : Bool
  path : Path
  forwardVisited : List PageId

/-- The loop of `sdb_btree_cursor_next` along the leaf chain, to the next leaf that
has a row; the fuel is the number of hops left. -/
def btreeCursorHop (pager : Pager) : Nat → BTreeCursor → Except SdbError BTreeCursor
  | fuel, cursor =>
    let sibling := cursor.leaf.rightSibling
    if sibling = 0 then .ok { cursor with valid := false }
    else if cursor.forwardVisited.contains sibling then .error .corrupt
    else
      match fuel with
      | 0 => .error .corrupt
      | fuel + 1 => do
          let next ← btreeReadNode pager sibling
          if next.kind ≠ .leaf then .error .corrupt
          else
            let cursor : BTreeCursor :=
              { cursor with
                leaf := next
                pageId := sibling
                index := 0
                valid := next.entries.length ≠ 0
                forwardVisited := cursor.forwardVisited ++ [sibling] }
            if next.entries.length ≠ 0 then .ok cursor else btreeCursorHop pager fuel cursor

/-- Leave the leaf: the walk begins with the page it is on. -/
def btreeCursorLeave (pager : Pager) (cursor : BTreeCursor) : Except SdbError BTreeCursor :=
  btreeCursorHop pager (pager.superblock.nextPageId - 1)
    { cursor with
      forwardVisited :=
        if cursor.forwardVisited = [] then [cursor.pageId] else cursor.forwardVisited }

def btreeCursorNext (pager : Pager) (cursor : BTreeCursor) : Except SdbError BTreeCursor :=
  if cursor.valid then
    if cursor.index + 1 < cursor.leaf.entries.length then
      .ok { cursor with index := cursor.index + 1 }
    else btreeCursorLeave pager { cursor with index := cursor.index + 1 }
  else btreeCursorLeave pager cursor

/-- The first leaf below a page; the fuel bounds the nodes read. -/
def btreeDescendFirst (read : PageId → Except SdbError BTreeNode) :
    Nat → PageId → Path → Except SdbError (BTreeNode × PageId × Path)
  | 0, _, _ => .error .corrupt
  | fuel + 1, pageId, path => do
      let node ← read pageId
      match node.kind with
      | .leaf => .ok (node, pageId, path)
      | .internal => btreeDescendFirst read fuel (btreeChildAt node 0) ((pageId, 0) :: path)

/-- The cursor `sdb_btree_cursor_descend` sets up on the leaf it reached. -/
def btreeCursorOn (leaf : BTreeNode) (pageId : PageId) (path : Path) (position : Nat) :
    BTreeCursor :=
  { leaf, pageId, index := position, valid := position < leaf.entries.length, path
    forwardVisited := [] }

/-- Past the last row of its leaf a forward cursor moves on to the next leaf. -/
def btreeCursorSettle (pager : Pager) (cursor : BTreeCursor) : Except SdbError BTreeCursor :=
  if !cursor.valid && cursor.leaf.rightSibling ≠ 0 then btreeCursorNext pager cursor
  else .ok cursor

def btreeCursorFirst (pager : Pager) (root : PageId) : Except SdbError BTreeCursor := do
  let (leaf, pageId, path) ← btreeDescendFirst (btreeReadNode pager) 64 root []
  btreeCursorSettle pager (btreeCursorOn leaf pageId path 0)

/-- `sdb_btree_cursor_seek_floor`: the cursor may stand behind the last row of its
leaf. -/
def btreeCursorSeekFloor (pager : Pager) (root : PageId) (key : Bytes) :
    Except SdbError BTreeCursor :=
  if key.length = 0 || key.length > uint16Max then .error .invalidArgument
  else do
    let (leaf, pageId, path) ← btreeDescend (btreeReadNode pager) key 64 root []
    .ok (btreeCursorOn leaf pageId path (btreeLowerBound leaf key))

def btreeCursorSeek (pager : Pager) (root : PageId) (key : Bytes) :
    Except SdbError BTreeCursor := do
  let cursor ← btreeCursorSeekFloor pager root key
  btreeCursorSettle pager cursor

def btreeCursorRead (cursor : BTreeCursor) (keyCapacity valueCapacity : Nat) :
    Except SdbError (Bytes × Bytes) :=
  if !cursor.valid then .error .invalidArgument
  else
    match cursor.leaf.entries[cursor.index]? with
    | none => .error .invalidArgument
    | some entry =>
      if keyCapacity < entry.key.length || valueCapacity < entry.value.length then
        .error .bufferTooSmall
      else .ok (entry.key, entry.value)

/-- The row loops of the engine: read the row under the cursor, work on it, and stop
or go on to the next one.  A walk passes every page at most once, so the number of
rows it can meet bounds the loop. -/
def btreeCursorLoop {σ : Type} (pager : Pager) (capacity : Nat)
    (body : σ → Bytes × Bytes → Except SdbError (σ × Bool)) :
    Nat → BTreeCursor → σ → Except SdbError σ
  | 0, _, _ => .error .corrupt
  | fuel + 1, cursor, state =>
    if !cursor.valid then .ok state
    else do
      let row ← btreeCursorRead cursor capacity capacity
      let (state, goOn) ← body state row
      if goOn then
        let cursor ← btreeCursorNext pager cursor
        btreeCursorLoop pager capacity body fuel cursor state
      else .ok state

def btreeRowLimit (pager : Pager) : Nat := pager.superblock.nextPageId * (uint16Max + 1)

/-- A file whose pages hold these nodes, from page 1 on; page 1 is the root. -/
def pagerOfNodes (nodes : List BTreeNode) : Pager :=
  { superblock :=
      { pageSize := 4096, generation := 1, checkpointLsn := 0, rootPage := 1, freelistPage := 0
        nextPageId := nodes.length + 1, fileId := [] }
    pages := fun pageId => nodes[pageId.toNat - 1]?.map fun node =>
      { type := .data, pageLsn := 0, payload := nodeImage node }
    encryptionEnabled := false
    fileSize := dataOffset + nodes.length * 4096
    walTail := 0
    currentLsn := 0
    checkpointThreshold := 0
    needsRecovery := false
    transactionActive := false
    isOpen := true }

lemma btreeReadNode_pagerOfNodes {nodes : List BTreeNode} {pageId : PageId} {node : BTreeNode}
    (hread : btreeReadNode (pagerOfNodes nodes) pageId = .ok node) :
    ∃ stored ∈ nodes, btreeNodeDecode (nodeImage stored) = .ok node := by
  simp only [btreeReadNode, pagerRead, Fallible.except_bind_eq_ok, Fallible.guard_eq_ok] at hread
  obtain ⟨view, ⟨_, hview⟩, _, hdecode⟩ := hread
  split at hview
  next stored hstored =>
    obtain rfl := Except.ok.inj hview
    obtain ⟨node, hnode, rfl⟩ := Option.map_eq_some_iff.mp hstored
    exact ⟨node, mem_of_getElem? hnode, hdecode⟩
  · cases hview

section Forward

variable {pager : Pager} {h : Nat} {tree : PageTree h} {cursor : BTreeCursor}
  {before after : List (LeafPage Bytes Bytes PageId)} {leaf : LeafPage Bytes Bytes PageId}
  {rest : List (Bytes × Bytes)} {fuel : Nat} {row : Bytes × Bytes} {key : Bytes}

/-- The cursor holds the leaf `leaf` of the tree, and the pages its walk has passed
are not ahead of it. -/
structure OnLeaf (tree : PageTree h) (cursor : BTreeCursor)
    (before : List (LeafPage Bytes Bytes PageId)) (leaf : LeafPage Bytes Bytes PageId)
    (after : List (LeafPage Bytes Bytes PageId)) : Prop where
  split : tree.leaves = before ++ leaf :: after
  node : cursor.leaf = cellNode (.leaf leaf.rows leaf.link)
  page : cursor.pageId = leaf.page
  visited : ∀ page ∈ cursor.forwardVisited, page ∈ (before ++ [leaf]).map LeafPage.page

/-- The cursor shows the first of the rows `rest` that end the tree, or is invalid
behind the last row. -/
def CursorAt (tree : PageTree h) (cursor : BTreeCursor) (rest : List (Bytes × Bytes)) : Prop :=
  ∃ before leaf after, OnLeaf tree cursor before leaf after ∧
    ((cursor.valid = true ∧ cursor.index < leaf.rows.length ∧
        rest = leaf.rows.drop cursor.index ++ after.flatMap LeafPage.rows) ∨
      (cursor.valid = false ∧ rest = []))

/-- The committed pages, read one by one, are those of `tree`: what a walk over the
tree relies on, whoever wrote it. -/
structure ReadsTree (pager : Pager) {h : Nat} (tree : PageTree h) : Prop where
  read : ∀ entry ∈ tree.cells, btreeReadNode pager entry.1 = .ok (cellNode entry.2)
  bounds : ∀ page ∈ tree.pages, page ≠ 0 ∧ page.toNat < pager.superblock.nextPageId
  nodup : tree.pages.Nodup
  ordered : tree.Ordered none none
  linked : Linked tree.leaves 0
  height_lt : h < 64

lemma StoresTree.page_bounds (hstores : StoresTree pager [] tree) {page : PageId}
    (hpage : page ∈ tree.pages) : page ≠ 0 ∧ page.toNat < pager.superblock.nextPageId := by
  obtain ⟨free, halloc⟩ := hstores.holds.ok.owns
  exact (halloc.mem page).mp (mem_append_left free hpage)

lemma StoresTree.readsTree (hstores : StoresTree pager [] tree) : ReadsTree pager tree where
  read := fun entry hentry => (hstores.holds.shown entry hentry).1.1
  bounds := fun _ hpage => hstores.page_bounds hpage
  nodup := hstores.holds.nodup
  ordered := hstores.holds.ordered
  linked := hstores.holds.linked
  height_lt := hstores.holds.height_lt

/-- A node that decodes is sorted. -/
lemma btreeReadNode_encodable {pageId : PageId} {node : BTreeNode}
    (hread : btreeReadNode pager pageId = .ok node) : NodeEncodable node := by
  rw [btreeReadNode, Fallible.except_bind_eq_ok] at hread
  obtain ⟨view, _, hdecode⟩ := hread
  by_cases htype : view.type = .data
  · rw [if_neg (not_not.mpr htype)] at hdecode
    exact (nodeImage_of_decode hdecode).1
  · rw [if_pos htype] at hdecode
    cases hdecode

lemma ReadsTree.readable (hreads : ReadsTree pager tree) : ∀ entry ∈ tree.cells,
      btreeReadNode pager entry.1 = .ok (cellNode entry.2) ∧ NodeSorted (cellNode entry.2) :=
  fun entry hentry =>
    ⟨hreads.read entry hentry, (btreeReadNode_encodable (hreads.read entry hentry)).sorted⟩

lemma ReadsTree.leaf_read (hreads : ReadsTree pager tree) (hleaf : leaf ∈ tree.leaves) :
    btreeReadNode pager leaf.page = .ok (cellNode (.leaf leaf.rows leaf.link)) :=
  hreads.read _ (Tree.leaf_mem_cells hleaf)

lemma leaf_page_mem (hleaf : leaf ∈ tree.leaves) : leaf.page ∈ tree.pages :=
  mem_map_of_mem (f := Prod.fst) (Tree.leaf_mem_cells hleaf)

/-- The leaves of a tree are on different pages. -/
lemma leaves_sublist {h : Nat} (tree : PageTree h) :
    (tree.leaves.map LeafPage.page).Sublist tree.pages := by
  induction h with
  | zero => exact List.Sublist.refl _
  | succ h ih =>
    obtain ⟨page, first, rest, rfl⟩ := tree.exists_inner
    rw [Tree.leaves_inner, Tree.pages_inner, map_flatMap]
    apply List.Sublist.cons
    induction first :: rest.map Prod.snd with
    | nil => exact List.Sublist.refl _
    | cons child others ihChildren =>
      rw [flatMap_cons, flatMap_cons]
      exact (ih child).append ihChildren

lemma ReadsTree.leaves_nodup (hreads : ReadsTree pager tree) :
    (tree.leaves.map LeafPage.page).Nodup :=
  hreads.nodup.sublist (leaves_sublist tree)

/-- Different pages in use are fewer than the page numbers. -/
lemma length_lt_of_pages {pages : List PageId} {next : Nat} (hnodup : pages.Nodup)
    (hbounds : ∀ page ∈ pages, page ≠ 0 ∧ page.toNat < next) (hnext : 0 < next) :
    pages.length < next := by
  have hnumbers : (0 :: pages.map UInt64.toNat).Nodup := by
    rw [nodup_cons]
    constructor
    · intro hzero
      obtain ⟨page, hpage, hpageZero⟩ := List.mem_map.mp hzero
      exact (hbounds page hpage).1 (UInt64.toNat_inj.mp hpageZero)
    · exact List.Nodup.map (fun _ _ heq => UInt64.toNat_inj.mp heq) hnodup
  have hsubset : (0 :: pages.map UInt64.toNat) ⊆ List.range next := by
    intro number hnumber
    rw [mem_range]
    rcases List.mem_cons.mp hnumber with rfl | hnumber
    · exact hnext
    · obtain ⟨page, hpage, rfl⟩ := List.mem_map.mp hnumber
      exact (hbounds page hpage).2
  have hlength := (hnumbers.subperm hsubset).length_le
  simpa [Nat.succ_le_iff] using hlength

section

variable (hreads : ReadsTree pager tree)

include hreads

lemma ReadsTree.leaf_bounds :
    ∀ page ∈ tree.leaves.map LeafPage.page,
      page ≠ 0 ∧ page.toNat < pager.superblock.nextPageId := fun page hpage =>
  hreads.bounds page ((leaves_sublist tree).subset hpage)

/-- There are fewer leaves than page numbers. -/
lemma ReadsTree.leaves_lt :
    tree.leaves.length < pager.superblock.nextPageId := by
  obtain ⟨leaf, hleaf⟩ := exists_mem_of_ne_nil _ tree.leaves_ne_nil
  have hpos : 0 < pager.superblock.nextPageId :=
    Nat.zero_lt_of_lt (hreads.bounds _ (leaf_page_mem hleaf)).2
  simpa using length_lt_of_pages hreads.leaves_nodup hreads.leaf_bounds hpos

/-- From a leaf whose rows are done the walk reaches the rows of the leaves ahead. -/
lemma btreeCursorHop_at
    (hon : OnLeaf tree cursor before leaf after) (hfuel : after.length ≤ fuel) :
    ∃ cursor', btreeCursorHop pager fuel cursor = .ok cursor' ∧
      CursorAt tree cursor' (after.flatMap LeafPage.rows) := by
  induction after generalizing cursor before leaf fuel with
  | nil =>
    have hlink : leaf.link = 0 := by
      have hlinked := hreads.linked
      rw [hon.split, linked_append] at hlinked
      exact hlinked.2.1
    have hsibling : cursor.leaf.rightSibling = 0 := by rw [hon.node]; exact hlink
    refine ⟨{ cursor with valid := false }, ?_, before, leaf, [], ?_, .inr ⟨rfl, rfl⟩⟩
    · rw [btreeCursorHop.eq_def]
      simp [hsibling]
    · exact ⟨hon.split, hon.node, hon.page, hon.visited⟩
  | cons next more ih =>
    obtain ⟨fuel, rfl⟩ := Nat.exists_eq_succ_of_ne_zero (by
      rw [length_cons] at hfuel
      omega : fuel ≠ 0)
    have hnext : next ∈ tree.leaves := by simp [hon.split]
    have hlink : leaf.link = next.page := by
      have hlinked := hreads.linked
      rw [hon.split, linked_append] at hlinked
      exact hlinked.2.1
    have hsibling : cursor.leaf.rightSibling = next.page := by rw [hon.node]; exact hlink
    have hnonzero : next.page ≠ 0 := (hreads.bounds _ (leaf_page_mem hnext)).1
    have hfresh : next.page ∉ cursor.forwardVisited := by
      intro hvisited
      have hnodup := hreads.leaves_nodup
      rw [hon.split, show before ++ leaf :: next :: more = (before ++ [leaf]) ++ next :: more by
        simp, map_append, nodup_append] at hnodup
      exact hnodup.2.2 _ (hon.visited _ hvisited) _ (by simp) rfl
    have hread := hreads.leaf_read hnext
    have hmoved : ∀ valid, OnLeaf tree
        { cursor with
          leaf := cellNode (.leaf next.rows next.link)
          pageId := next.page
          index := 0
          valid := valid
          forwardVisited := cursor.forwardVisited ++ [next.page] }
        (before ++ [leaf]) next more := by
      intro valid
      refine ⟨by simp [hon.split], rfl, rfl, ?_⟩
      intro page hpage
      rw [mem_append, mem_singleton] at hpage
      rw [map_append, mem_append]
      rcases hpage with hpage | rfl
      · exact .inl (hon.visited page hpage)
      · exact .inr (by simp)
    rw [btreeCursorHop.eq_def]
    simp only [hsibling, hnonzero, if_false, contains_iff_mem, hfresh, hread]
    by_cases hrows : next.rows = []
    · obtain ⟨cursor', hhop, hat⟩ := ih (hmoved false) (Nat.le_of_succ_le_succ hfuel)
      refine ⟨cursor', ?_, ?_⟩
      · rw [← hhop]
        simp [Bind.bind, Except.bind, cellNode, hrows]
      · simpa [hrows] using hat
    · refine ⟨_, ?_, before ++ [leaf], next, more, hmoved true,
        .inl ⟨rfl, List.length_pos_iff.mpr hrows, ?_⟩⟩
      · simp [Bind.bind, Except.bind, cellNode, hrows]
      · simp

lemma btreeCursorLeave_at
    (hon : OnLeaf tree cursor before leaf after) :
    ∃ cursor', btreeCursorLeave pager cursor = .ok cursor' ∧
      CursorAt tree cursor' (after.flatMap LeafPage.rows) := by
  have hfuel : after.length ≤ pager.superblock.nextPageId - 1 := by
    have hlt := hreads.leaves_lt
    rw [hon.split, length_append, length_cons] at hlt
    omega
  have hleaving : OnLeaf tree
      { cursor with
        forwardVisited :=
          if cursor.forwardVisited = [] then [cursor.pageId] else cursor.forwardVisited }
      before leaf after := by
    refine ⟨hon.split, hon.node, hon.page, ?_⟩
    intro page hpage
    by_cases hvisited : cursor.forwardVisited = []
    · have hself : page = cursor.pageId := by simpa [hvisited] using hpage
      rw [hself, hon.page]
      simp
    · exact hon.visited page (by simpa [hvisited] using hpage)
  exact btreeCursorHop_at hreads hleaving hfuel

/-- One step forward. -/
lemma btreeCursorNext_at
    (hat : CursorAt tree cursor (row :: rest)) :
    ∃ cursor', btreeCursorNext pager cursor = .ok cursor' ∧ CursorAt tree cursor' rest := by
  obtain ⟨before, leaf, after, hon, ⟨hvalid, hindex, hrest⟩ | ⟨_, hnil⟩⟩ := hat
  · rw [drop_eq_getElem_cons hindex, cons_append, List.cons.injEq] at hrest
    have hlength : cursor.leaf.entries.length = leaf.rows.length := by
      rw [hon.node]
      simp [cellNode]
    have hstep : OnLeaf tree { cursor with index := cursor.index + 1 } before leaf after :=
      ⟨hon.split, hon.node, hon.page, hon.visited⟩
    by_cases hmore : cursor.index + 1 < leaf.rows.length
    · refine ⟨{ cursor with index := cursor.index + 1 }, ?_, before, leaf, after, hstep,
        .inl ⟨hvalid, hmore, hrest.2⟩⟩
      simp [btreeCursorNext, hvalid, hlength, hmore]
    · obtain ⟨cursor', hleave, hat⟩ := btreeCursorLeave_at hreads hstep
      refine ⟨cursor', ?_, ?_⟩
      · simpa [btreeCursorNext, hvalid, hlength, hmore] using hleave
      · rw [hrest.2, drop_of_length_le (not_lt.mp hmore)]
        exact hat
  · cases hnil

end

lemma CursorAt.valid_iff (hat : CursorAt tree cursor rest) : cursor.valid = true ↔ rest ≠ [] := by
  obtain ⟨before, leaf, after, _, ⟨hvalid, hindex, hrest⟩ | ⟨hinvalid, hnil⟩⟩ := hat
  · rw [hrest, drop_eq_getElem_cons hindex, cons_append]
    simp only [hvalid, ne_eq, reduceCtorEq, not_false_eq_true]
  · simp [hinvalid, hnil]

/-- What the cursor reads is the row it stands on. -/
lemma btreeCursorRead_at (hat : CursorAt tree cursor (row :: rest))
    (keyCapacity valueCapacity : Nat) : btreeCursorRead cursor keyCapacity valueCapacity =
      if keyCapacity < row.1.length || valueCapacity < row.2.length then .error .bufferTooSmall
      else .ok row := by
  obtain ⟨before, leaf, after, hon, ⟨hvalid, hindex, hrest⟩ | ⟨_, hnil⟩⟩ := hat
  · rw [drop_eq_getElem_cons hindex, cons_append, List.cons.injEq] at hrest
    have hentry : cursor.leaf.entries[cursor.index]? = some (rowEntry row) := by
      rw [hon.node, hrest.1]
      simp [cellNode, hindex]
    simp only [btreeCursorRead, hvalid, hentry, Bool.not_true, Bool.false_eq_true, if_false,
      rowEntry]
  · cases hnil

/-- A cursor that stands behind the last row of its leaf settles on the rows ahead. -/
lemma btreeCursorSettle_at (hreads : ReadsTree pager tree)
    (hon : OnLeaf tree cursor before leaf after)
    (hvalid : cursor.valid = decide (cursor.index < leaf.rows.length)) :
    ∃ cursor', btreeCursorSettle pager cursor = .ok cursor' ∧
      CursorAt tree cursor' (leaf.rows.drop cursor.index ++ after.flatMap LeafPage.rows) := by
  have hlink : cursor.leaf.rightSibling = leaf.link := by rw [hon.node]; rfl
  by_cases hindex : cursor.index < leaf.rows.length
  · refine ⟨cursor, ?_, before, leaf, after, hon, .inl ⟨by simpa [hindex] using hvalid,
      hindex, rfl⟩⟩
    simp [btreeCursorSettle, hvalid, hindex]
  · rw [drop_of_length_le (not_lt.mp hindex), nil_append]
    have hinvalid : cursor.valid = false := by simpa [hindex] using hvalid
    by_cases hlast : leaf.link = 0
    · have hafter : after = [] := by
        have hlinked := hreads.linked
        rw [hon.split, linked_append] at hlinked
        cases after with
        | nil => rfl
        | cons next more =>
          have hnext : next ∈ tree.leaves := by simp [hon.split]
          have hzero : next.page = 0 := hlinked.2.1.symm.trans hlast
          exact absurd hzero (hreads.bounds _ (leaf_page_mem hnext)).1
      refine ⟨cursor, ?_, before, leaf, after, hon, .inr ⟨hinvalid, by rw [hafter]; rfl⟩⟩
      simp [btreeCursorSettle, hlink, hlast]
    · obtain ⟨cursor', hleave, hat⟩ := btreeCursorLeave_at hreads hon
      refine ⟨cursor', ?_, hat⟩
      simpa [btreeCursorSettle, btreeCursorNext, hinvalid, hlink, hlast] using hleave

/-- The rows at or above a key. -/
def rowsFrom (key : Bytes) (rows : List (Bytes × Bytes)) : List (Bytes × Bytes) :=
  rows.dropWhile fun row => row.1 < key

lemma rowsFrom_eq {front back : List (Bytes × Bytes)} (hfront : ∀ row ∈ front, row.1 < key)
    (hback : ∀ row ∈ back, key ≤ row.1) : rowsFrom key (front ++ back) = back := by
  rw [rowsFrom, dropWhile_append_of_pos (by simpa using hfront)]
  cases back with
  | nil => rfl
  | cons row back =>
    rw [dropWhile_cons_of_neg]
    simpa using hback row mem_cons_self

/-- A descent to a key stands between the rows below it and those at or above it. -/
lemma btreeCursorSeekFloor_at (hreads : ReadsTree pager tree)
    (hkey : key.length ≠ 0 ∧ key.length ≤ uint16Max) :
    ∃ (context : Context Bytes Bytes PageId h 0) (page link : PageId)
        (left right : List (Bytes × Bytes)),
      context.fill (.leaf page (left ++ right) link) = tree ∧
      btreeCursorSeekFloor pager tree.page key =
        .ok (btreeCursorOn (cellNode (.leaf (left ++ right) link)) page context.path
          left.length) ∧
      (∀ row ∈ context.leavesLeft.flatMap LeafPage.rows ++ left, row.1 < key) ∧
      ∀ row ∈ right ++ context.leavesRight.flatMap LeafPage.rows, key ≤ row.1 := by
  have hrouted : RoutedTo .top tree tree key := ⟨rfl, within_none key⟩
  obtain ⟨context, page, rows, link, hdescend, hleaf⟩ :=
    btreeDescend_eq_ok hreads.readable hrouted hreads.height_lt
  have hsorted : NodeSorted (cellNode (.leaf rows link)) :=
    nodeSorted_leaf.mpr (hleaf.leafSorted hreads.ordered)
  obtain ⟨low, high, hentries, hlength, hlow, hhigh⟩ :=
    btreeLowerBound_split key hsorted
  obtain ⟨left, right, rfl, rfl, rfl⟩ : ∃ left right, rows = left ++ right ∧
      left.map rowEntry = low ∧ right.map rowEntry = high := by
    simpa using List.map_eq_append_iff.mp hentries
  have hordered := hreads.ordered
  rw [← hleaf.fill] at hordered
  obtain ⟨hleftRows, hrightRows⟩ := context.rows_around hordered hleaf.within []
  refine ⟨context, page, link, left, right, hleaf.fill, ?_, ?_, ?_⟩
  · have hnonempty : key ≠ [] := ne_nil_of_length_pos (Nat.pos_of_ne_zero hkey.1)
    change btreeDescend (btreeReadNode pager) key 64 _ [] = _ at hdescend
    rw [btreeCursorSeekFloor, if_neg (by simp [hnonempty, hkey.2]), hdescend,
      ← length_map (f := rowEntry), hlength]
    rfl
  · intro row hrow
    rcases List.mem_append.mp hrow with hrow | hrow
    · exact hleftRows row hrow
    · exact hlow _ (mem_map_of_mem hrow)
  · intro row hrow
    rcases List.mem_append.mp hrow with hrow | hrow
    · exact hhigh _ (mem_map_of_mem hrow)
    · exact le_of_lt (hrightRows row hrow)

/-- A seek stands in front of the rows at or above its key. -/
lemma btreeCursorSeek_at (hreads : ReadsTree pager tree)
    (hkey : key.length ≠ 0 ∧ key.length ≤ uint16Max) :
    ∃ cursor, btreeCursorSeek pager tree.page key = .ok cursor ∧
      CursorAt tree cursor (rowsFrom key tree.rows) := by
  obtain ⟨context, page, link, left, right, hfill, hseek, hbelow, hfrom⟩ :=
    btreeCursorSeekFloor_at hreads hkey
  have hleaves : tree.leaves = context.leavesLeft ++
      { page, rows := left ++ right, link } :: context.leavesRight := by
    rw [← hfill, Context.leaves_fill]
    rfl
  have hon : OnLeaf tree (btreeCursorOn (cellNode (.leaf (left ++ right) link)) page context.path
      left.length) context.leavesLeft _ context.leavesRight :=
    ⟨hleaves, rfl, rfl, by simp [btreeCursorOn]⟩
  obtain ⟨cursor, hsettle, hat⟩ := btreeCursorSettle_at hreads hon
    (by simp [btreeCursorOn, cellNode])
  refine ⟨cursor, by rw [btreeCursorSeek, hseek]; exact hsettle, ?_⟩
  rw [Tree.rows, hleaves, flatMap_append, flatMap_cons, append_assoc,
    ← append_assoc, rowsFrom_eq hbelow hfrom]
  rwa [btreeCursorOn, drop_left] at hat

/-- The leftmost descent stops at the first leaf. -/
lemma btreeDescendFirst_eq_ok {read : PageId → Except SdbError BTreeNode} {subtree : PageTree h}
    (hread : ∀ entry ∈ subtree.cells, read entry.1 = .ok (cellNode entry.2)) (hfuel : h < fuel)
    (path : Path) : ∃ leaf after path', subtree.leaves = leaf :: after ∧
      btreeDescendFirst read fuel subtree.page path =
        .ok (cellNode (.leaf leaf.rows leaf.link), leaf.page, path') := by
  induction h generalizing fuel path with
  | zero =>
    obtain ⟨page, rows, link, rfl⟩ := subtree.exists_leaf
    obtain ⟨fuel, rfl⟩ := Nat.exists_eq_succ_of_ne_zero (Nat.ne_of_gt hfuel)
    have hroot := hread _ mem_cons_self
    refine ⟨{ page, rows, link }, [], path, rfl, ?_⟩
    rw [btreeDescendFirst, hroot]
    rfl
  | succ h ih =>
    obtain ⟨page, first, rest, rfl⟩ := subtree.exists_inner
    obtain ⟨fuel, rfl⟩ := Nat.exists_eq_succ_of_ne_zero (by omega : fuel ≠ 0)
    have hroot := hread _ mem_cons_self
    have hchild : ∀ entry ∈ first.cells, read entry.1 = .ok (cellNode entry.2) := by
      intro entry hentry
      apply hread
      rw [Tree.cells_inner]
      exact mem_cons_of_mem _ (List.mem_flatMap.mpr ⟨first, mem_cons_self, hentry⟩)
    obtain ⟨leaf, after, path', hleaves, hdescend⟩ :=
      ih hchild (Nat.lt_of_succ_lt_succ hfuel) ((page, 0) :: path)
    refine ⟨leaf, after ++ (rest.map Prod.snd).flatMap Tree.leaves, path', ?_, ?_⟩
    · rw [Tree.leaves_inner, flatMap_cons, hleaves, cons_append]
    · rw [btreeDescendFirst, hroot]
      exact hdescend

/-- A cursor at the first row of the tree. -/
lemma btreeCursorFirst_at (hreads : ReadsTree pager tree) :
    ∃ cursor, btreeCursorFirst pager tree.page = .ok cursor ∧ CursorAt tree cursor tree.rows := by
  obtain ⟨leaf, after, path, hleaves, hdescend⟩ :=
    btreeDescendFirst_eq_ok hreads.read hreads.height_lt []
  have hon : OnLeaf tree (btreeCursorOn (cellNode (.leaf leaf.rows leaf.link)) leaf.page path 0)
      [] leaf after := ⟨hleaves, rfl, rfl, by simp [btreeCursorOn]⟩
  obtain ⟨cursor, hsettle, hat⟩ := btreeCursorSettle_at hreads hon
    (by simp [btreeCursorOn, cellNode])
  refine ⟨cursor, ?_, ?_⟩
  · rw [btreeCursorFirst, hdescend]
    exact hsettle
  · rw [Tree.rows, hleaves]
    exact hat

/-- The same work on a list of rows. -/
def foldRows {σ : Type} (body : σ → Bytes × Bytes → Except SdbError (σ × Bool)) :
    List (Bytes × Bytes) → σ → Except SdbError σ
  | [], state => .ok state
  | row :: rest, state => do
      let (state, goOn) ← body state row
      if goOn then foldRows body rest state else .ok state

/-- A row loop works through the rows ahead of its cursor. -/
lemma btreeCursorLoop_at {σ : Type} (hreads : ReadsTree pager tree)
    (body : σ → Bytes × Bytes → Except SdbError (σ × Bool)) {capacity : Nat}
    (hat : CursorAt tree cursor rest) (hfuel : rest.length < fuel)
    (hsizes : ∀ row ∈ rest, row.1.length ≤ capacity ∧ row.2.length ≤ capacity) (state : σ) :
    btreeCursorLoop pager capacity body fuel cursor state = foldRows body rest state := by
  induction rest generalizing fuel cursor state with
  | nil =>
    obtain ⟨fuel, rfl⟩ := Nat.exists_eq_succ_of_ne_zero (Nat.ne_of_gt hfuel)
    have hinvalid : cursor.valid = false := by
      rw [← Bool.not_eq_true, hat.valid_iff]
      simp
    rw [btreeCursorLoop, hinvalid]
    rfl
  | cons row rest ih =>
    obtain ⟨fuel, rfl⟩ := Nat.exists_eq_succ_of_ne_zero (Nat.ne_zero_of_lt hfuel)
    have hvalid : cursor.valid = true := hat.valid_iff.mpr (cons_ne_nil row rest)
    obtain ⟨hkey, hvalue⟩ := hsizes row mem_cons_self
    have hread : btreeCursorRead cursor capacity capacity = .ok row := by
      rw [btreeCursorRead_at hat, if_neg]
      simp [hkey, hvalue]
    obtain ⟨next, hnext, hnextAt⟩ := btreeCursorNext_at hreads hat
    rw [btreeCursorLoop, hvalid, hread, foldRows]
    change (body state row >>= fun result =>
      if result.2 then
        btreeCursorNext pager cursor >>= fun cursor =>
          btreeCursorLoop pager capacity body fuel cursor result.1
      else .ok result.1) = _
    rw [hnext]
    congr 1
    funext result
    change (if result.2 then btreeCursorLoop pager capacity body fuel next result.1
      else .ok result.1) = _
    rw [ih hnextAt (Nat.lt_of_succ_lt_succ hfuel) fun row hrow =>
      hsizes row (mem_cons_of_mem _ hrow)]

lemma StoresTree.leaf_fits (hstores : StoresTree pager [] tree) (hleaf : leaf ∈ tree.leaves) :
    NodeFits pager (cellNode (.leaf leaf.rows leaf.link)) :=
  (hstores.holds.shown _ (Tree.leaf_mem_cells hleaf)).1.2

/-- Every row fits the payload of a page. -/
lemma StoresTree.row_sizes (hstores : StoresTree pager [] tree) (hrow : row ∈ tree.rows) :
    row.1.length ≤ pagerPayloadCapacity pager ∧ row.2.length ≤ pagerPayloadCapacity pager := by
  rw [Tree.rows] at hrow
  obtain ⟨leaf, hleaf, hrow⟩ := List.mem_flatMap.mp hrow
  obtain ⟨size, hsize, hfits⟩ := hstores.leaf_fits hleaf
  obtain ⟨_, rfl⟩ := btreeNodeEncodedSize_eq_ok hsize
  have hentry : entrySize .leaf (rowEntry row) ≤
      ((cellNode (.leaf leaf.rows leaf.link)).entries.map (entrySize .leaf)).sum := by
    apply le_sum_of_mem
    exact mem_map_of_mem (mem_map_of_mem hrow)
  have hparts : row.1.length + row.2.length ≤ entrySize .leaf (rowEntry row) := by
    simp only [entrySize, rowEntry, if_true]
    omega
  change _ + _ ≤ _ at hfits
  have htotal : entrySize .leaf (rowEntry row) ≤ pagerPayloadCapacity pager :=
    le_trans hentry (le_trans (Nat.le_add_left _ _) hfits)
  omega

/-- The rows of a tree are fewer than the bound of a row loop. -/
lemma ReadsTree.rows_lt (hreads : ReadsTree pager tree) :
    tree.rows.length < btreeRowLimit pager := by
  have hcount : ∀ leaf ∈ tree.leaves, leaf.rows.length ≤ uint16Max := by
    intro leaf hleaf
    simpa [cellNode] using (btreeReadNode_encodable (hreads.leaf_read hleaf)).count
  have hrows : tree.rows.length ≤ tree.leaves.length * uint16Max := by
    rw [Tree.rows, length_flatMap, ← smul_eq_mul, ← length_map]
    apply sum_le_card_nsmul
    intro length hlength
    obtain ⟨leaf, hleaf, rfl⟩ := List.mem_map.mp hlength
    exact hcount leaf hleaf
  calc tree.rows.length ≤ tree.leaves.length * uint16Max := hrows
    _ ≤ tree.leaves.length * (uint16Max + 1) := Nat.mul_le_mul_left _ (Nat.le_succ _)
    _ < pager.superblock.nextPageId * (uint16Max + 1) :=
        Nat.mul_lt_mul_of_pos_right hreads.leaves_lt (Nat.succ_pos _)

end Forward

end ShibaDb
