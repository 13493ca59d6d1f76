/-
The structural invariant of the B+tree seen through a batch, and what follows
from it for a lookup: the descent reaches the leaf whose interval holds the key.
-/
import ShibaDb.BTree.Staging

namespace ShibaDb

open SepTree List

variable {pager : Pager} {batch : BTreeBatch} {others : List PageId} {h H : Nat} {tree : PageTree h}
  {key : Bytes} {page link : PageId}

/-- The batch holds `tree`: its pages and the `others`, which nothing here reads or
writes, are exactly the pages in use, each stored node fits its page and every
inner one has a separator, keys and separators are
ordered, and the leaf chain runs through all leaves and ends at 0. -/
structure HoldsTree (pager : Pager) (batch : BTreeBatch) (others : List PageId) {h : Nat}
    (tree : PageTree h) : Prop where
  ok : BatchOk pager batch (others ++ tree.pages)
  root : tree.page = batch.rootPage
  shown : ∀ entry ∈ tree.cells, Shows pager batch entry.1 entry.2 ∧ entry.2.Branching
  ordered : tree.Ordered none none
  linked : Linked tree.leaves 0

lemma HoldsTree.nodup (hholds : HoldsTree pager batch others tree) :
    tree.pages.Nodup := (List.nodup_append.mp hholds.ok.owns.nodup).2.1

lemma HoldsTree.keeps (hholds : HoldsTree pager batch others tree) :
    Keeps pager batch others tree.cells :=
  ⟨hholds.ok, hholds.shown⟩

lemma Keeps.holdsTree (hkeeps : Keeps pager batch others tree.cells)
    (hroot : tree.page = batch.rootPage) (hordered : tree.Ordered none none)
    (hlinked : Linked tree.leaves 0) : HoldsTree pager batch others tree :=
  ⟨hkeeps.ok, hroot, hkeeps.shown, hordered, hlinked⟩

lemma HoldsTree.sortedRows (hholds : HoldsTree pager batch others tree) : SortedRows tree.rows :=
  hholds.ordered.rows.1

/-- A subtree in its place: the descent has followed `key` to it. -/
structure RoutedTo {H h : Nat} (context : Context Bytes Bytes PageId H h) (tree : PageTree H)
    (hole : PageTree h) (key : Bytes) : Prop where
  fill : context.fill hole = tree
  within : Within context.lower context.upper key

lemma within_none (key : Bytes) : Within none none key := by
  constructor <;> rintro _ ⟨⟩

/-- The descent stops at a leaf of the tree whose interval holds the key, and
the path it records is the way to that leaf. -/
lemma btreeDescend_eq_ok {read : PageId → Except SdbError BTreeNode} {fuel : Nat}
    {tree : PageTree H} {context : Context Bytes Bytes PageId H h} {hole : PageTree h}
    (hread : ∀ entry ∈ tree.cells,
      read entry.1 = .ok (cellNode entry.2) ∧ NodeSorted (cellNode entry.2))
    (hrouted : RoutedTo context tree hole key) (hfuel : h < fuel) :
    ∃ (context' : Context Bytes Bytes PageId H 0) (page : PageId)
        (rows : List (Bytes × Bytes)) (link : PageId),
      btreeDescend read key fuel hole.page context.path =
        .ok (cellNode (.leaf rows link), page, context'.path) ∧
      RoutedTo context' tree (.leaf page rows link) key := by
  have hmem : ∀ entry ∈ hole.cells, entry ∈ tree.cells := by
    intro entry hentry
    rw [← hrouted.fill]
    exact (context.cells_fill hole).mem_iff.mpr (mem_append_right _ hentry)
  induction h generalizing fuel with
  | zero =>
    obtain ⟨page, rows, link, rfl⟩ := hole.exists_leaf
    obtain ⟨fuel, rfl⟩ := Nat.exists_eq_succ_of_ne_zero (Nat.ne_of_gt hfuel)
    obtain ⟨hroot, _⟩ := hread _ (hmem _ mem_cons_self)
    refine ⟨context, page, rows, link, ?_, hrouted⟩
    rw [btreeDescend, hroot]
    rfl
  | succ h ih =>
    obtain ⟨page, first, rest, rfl⟩ := hole.exists_inner
    obtain ⟨fuel, rfl⟩ := Nat.exists_eq_succ_of_ne_zero (by omega : fuel ≠ 0)
    obtain ⟨hroot, hsorted⟩ := hread _ (hmem _ mem_cons_self)
    obtain ⟨left, child, right, hplug, hindex, hleftKeys, hrightKeys⟩ :=
      exists_route page first rest key hsorted
    obtain ⟨rfl, rfl⟩ : (plug left child right).1 = first ∧
        (plug left child right).2 = rest := by simp [hplug]
    have hchild : RoutedTo (.inside context page left right) tree child key :=
      ⟨hrouted.fill, hrouted.within.plug hleftKeys hrightKeys⟩
    obtain ⟨context', leafPage, rows, link, hdescend, hleaf⟩ :=
      ih hchild (Nat.lt_of_succ_lt_succ hfuel) (by
        intro entry hentry
        refine hmem entry ?_
        rw [Tree.cells_inner, plug_kids]
        refine mem_cons_of_mem _ ?_
        simp only [flatMap_append, flatMap_cons, mem_append]
        exact .inr (.inl hentry))
    refine ⟨context', leafPage, rows, link, ?_, hleaf⟩
    rw [btreeDescend, hroot]
    change btreeDescend read key fuel _ _ = _
    rw [← hdescend, ← hindex, Context.cell_plug, btreeChildAt_frameCell]
    rfl

/-- The rows of the tree around the leaf a key is routed to. -/
lemma RoutedTo.rows {context : Context Bytes Bytes PageId H 0} {tree : PageTree H}
    {rows : List (Bytes × Bytes)} (hrouted : RoutedTo context tree (.leaf page rows link) key) :
    tree.rows = context.leavesLeft.flatMap LeafPage.rows ++
      (rows ++ context.leavesRight.flatMap LeafPage.rows) := by
  rw [← hrouted.fill, Tree.rows, Context.leaves_fill]
  simp

lemma RoutedTo.lookup {context : Context Bytes Bytes PageId H 0} {tree : PageTree H}
    {rows : List (Bytes × Bytes)} (hrouted : RoutedTo context tree (.leaf page rows link) key)
    (hordered : tree.Ordered none none) : tree.rows.lookup key = rows.lookup key := by
  have hfill := hrouted.fill
  subst hfill
  obtain ⟨hleft, hright⟩ := context.rows_around hordered hrouted.within []
  rw [hrouted.rows, lookup_append, lookup_append,
    lookup_eq_none_of_forall_ne fun row hrow => ne_of_lt (hleft row hrow),
    lookup_eq_none_of_forall_ne fun row hrow => ne_of_gt (hright row hrow)]
  simp

lemma RoutedTo.leafSorted {context : Context Bytes Bytes PageId H 0} {tree : PageTree H}
    {rows : List (Bytes × Bytes)} (hrouted : RoutedTo context tree (.leaf page rows link) key)
    (hordered : tree.Ordered none none) : SortedRows rows := by
  rw [← hrouted.fill, Context.ordered_fill, Tree.ordered_leaf] at hordered
  exact hordered.2.2.1

/-- What a lookup of a map answers. -/
def lookupAnswer (value : Option Bytes) (capacity : Nat) : Lookup :=
  match value with
  | some value => .found value capacity
  | none => .failed .notFound

/-- A lookup through any reader of the tree's nodes answers from its rows. -/
lemma btreeLookup_eq {read : PageId → Except SdbError BTreeNode}
    (hordered : tree.Ordered none none) (hread : ∀ entry ∈ tree.cells,
      read entry.1 = .ok (cellNode entry.2) ∧ NodeSorted (cellNode entry.2))
    (hheight : h < 64) (key : Bytes) (capacity : Nat) :
    btreeLookup read tree.page key capacity = lookupAnswer (tree.rows.lookup key) capacity := by
  have hrouted : RoutedTo .top tree tree key := ⟨rfl, within_none key⟩
  obtain ⟨context, page, rows, link, hdescend, hleaf⟩ :=
    btreeDescend_eq_ok hread hrouted hheight
  rw [hleaf.lookup hordered, ← lookup_eq_lowerBound link key (hleaf.leafSorted hordered)]
  change btreeDescend read key 64 tree.page [] = _ at hdescend
  simp only [btreeLookup, hdescend]
  cases (cellNode (.leaf rows link)).entries[
      btreeLowerBound (cellNode (.leaf rows link)) key]? with
  | none => rfl
  | some entry =>
    simp only
    split <;> rfl

/-- Sixty-four levels are always enough: every level doubles the pages. -/
lemma height_lt_of_owns {txn : Txn} (howns : Owns pager txn (others ++ tree.pages))
    (hbranching : ∀ entry ∈ tree.cells, entry.2.Branching) : h < 64 := by
  obtain ⟨free, halloc⟩ := howns
  have hnodup : (tree.pages.map UInt64.toNat).Nodup :=
    List.Nodup.map (fun _ _ heq => UInt64.toNat_inj.mp heq)
      (List.nodup_append.mp (List.nodup_append.mp halloc.nodup).1).2.1
  have hsubset : tree.pages.map UInt64.toNat ⊆ List.range txn.targetSuperblock.nextPageId := by
    intro page hpage
    obtain ⟨page, hmem, rfl⟩ := List.mem_map.mp hpage
    exact List.mem_range.mpr ((halloc.mem page).mp
      (mem_append_left free (mem_append_right others hmem))).2
  have hlength := (hnodup.subperm hsubset).length_le
  rw [length_map, length_range] at hlength
  have hpow := Tree.two_pow_le_pages hbranching
  have hlt := pageGeometryValid_lt halloc.geometry
  by_contra hge
  have hmono : 2 ^ 64 ≤ 2 ^ h := Nat.pow_le_pow_right (by omega) (by omega)
  omega

lemma HoldsTree.height_lt (hholds : HoldsTree pager batch others tree) : h < 64 :=
  height_lt_of_owns hholds.ok.owns fun entry hentry => (hholds.shown entry hentry).2

lemma HoldsTree.readable (hholds : HoldsTree pager batch others tree) : ∀ entry ∈ tree.cells,
      btreeBatchReadNode pager batch entry.1 = .ok (cellNode entry.2) ∧
        NodeSorted (cellNode entry.2) := fun entry hentry =>
  ⟨(hholds.shown entry hentry).1.1, (hholds.shown entry hentry).1.sorted⟩

/-- `sdb_btree_batch_get` answers from the rows of the tree the batch holds. -/
lemma btreeBatchGet_eq (hholds : HoldsTree pager batch others tree)
    (hvalid : batchKeyValid batch key = true) (capacity : Nat) :
    btreeBatchGet pager batch key capacity = lookupAnswer (tree.rows.lookup key) capacity := by
  rw [btreeBatchGet, hvalid, ← hholds.root]
  exact btreeLookup_eq hholds.ordered hholds.readable hholds.height_lt key capacity

end ShibaDb
