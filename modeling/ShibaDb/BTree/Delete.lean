/-
`sdb_btree_batch_delete` on a batch that holds a tree: the row is cut from its
leaf, and a leaf this empties is unlinked, dropped from its parent and freed.
-/
import ShibaDb.BTree.Reclaim

namespace ShibaDb

open SepTree Fallible List

variable {pager : Pager} {batch batch' : BTreeBatch} {others : List PageId} {H h : Nat}
  {result : PUnit} {page leafPage link : PageId} {context : Context Bytes Bytes PageId H 0}
  {rows : List (Bytes × Bytes)} {key : Bytes}

/-- The children of a node after one of them was dropped; a neighbour takes over
its interval. -/
lemma exists_without (page hole : PageId) {left : List (PageTree h × Bytes)}
    {right : List (Bytes × PageTree h)} (hne : left.length + right.length ≠ 0) :
    ∃ (first : PageTree h) (rest : List (Bytes × PageTree h)),
      btreeRemoveChild (cellNode (Context.frameCell left hole right)) left.length =
        cellNode (Tree.inner page first rest).cell ∧
      first :: rest.map Prod.snd = left.map Prod.fst ++ right.map Prod.snd ∧
      ∀ lo hi, LeftOk Tree.Ordered lo left → RightOk Tree.Ordered right hi →
        Capped hi (left.map Prod.snd ++ right.map Prod.fst) →
        Span (lastBound lo left) (firstBound right hi) →
        (Tree.inner page first rest).Ordered lo hi := by
  rcases eq_nil_or_concat left with rfl | ⟨before, ⟨previous, separator⟩, rfl⟩
  · cases right with
    | nil => simp at hne
    | cons head after =>
      obtain ⟨separator, next⟩ := head
      refine ⟨next, after, ?_, rfl, fun lo hi _ hright hcapped hspan => ⟨?_, ?_⟩⟩
      · exact btreeRemoveChild_first next separator hole after
      · exact between_mono hright hspan.lowerLe (UpperLe.refl hi)
          fun _ _ _ _ _ hlo hhi hchild => hchild.mono hlo hhi
      · exact (capped_cons.mp hcapped).2
  · rw [concat_eq_append]
    refine ⟨(plug before previous right).1, (plug before previous right).2, ?_, ?_,
      fun lo hi hleft hright hcapped hspan => ⟨?_, ?_⟩⟩
    · rw [Context.cell_plug, length_append, length_singleton]
      exact btreeRemoveChild_previous before previous separator hole right
    · rw [plug_kids]
      simp
    · rw [leftOk_append] at hleft
      rw [lastBound_append] at hspan
      rw [between_plug_child]
      exact ⟨hleft.1, hleft.2.1.mono (LowerLe.refl _) hspan.upperLe, hright⟩
    · rw [map_append, capped_append, capped_append] at hcapped
      rw [plug_separators, capped_append]
      exact ⟨hcapped.1.1, hcapped.2⟩

lemma btreeCollapseRoot_eq_ok {root childPage : PageId}
    (hrun : btreeCollapseRoot pager root childPage batch = (.ok result, batch')) :
    ∃ child batch₁ result₁, btreeBatchReadNode pager batch childPage = .ok child ∧
      onTxn (txnFree pager childPage)
        { batch with items := batch.items.eraseP (·.pageId = childPage) } = (.ok result₁, batch₁) ∧
      btreeStage pager root
        (if child.kind = .leaf then { child with rightSibling := 0 } else child) batch₁ =
          (.ok result, batch') := by
  simp only [btreeCollapseRoot, btreeUnstage, readNodeM, bind_eq_ok,
    query_eq_ok, update_eq_ok] at hrun
  obtain ⟨child, _, ⟨hread, rfl⟩, _, _, rfl, _, batch₁, hfree, hstage⟩ := hrun
  exact ⟨child, batch₁, _, hread, hfree, hstage⟩

/-- The last leaf under the root moves into the root page. -/
lemma btreeCollapseRoot_holds {leaf : PageTree 0}
    (hbut : HoldsBut pager batch others .top (.inner page leaf []))
    (hrun : btreeCollapseRoot pager page leaf.page batch = (.ok result, batch')) :
    HoldsTree pager batch' others (leaf.moveTo page) ∧ SameBatch batch batch' := by
  obtain ⟨leafPage, rows, link, rfl⟩ := leaf.exists_leaf
  obtain ⟨child, batch₁, _, hread, hfree, hstage⟩ := btreeCollapseRoot_eq_ok hrun
  obtain rfl : link = 0 := hbut.linked.1
  have hkeeps : Keeps pager batch (page :: others) [(leafPage, .leaf rows 0)] := hbut.keeps
  obtain rfl := hkeeps.read mem_cons_self hread
  obtain ⟨hkeeps₁, hsame₁⟩ := hkeeps.forget.free hfree
  have hbranching : Cell.Branching (.leaf rows 0 : NodeCell) := trivial
  obtain ⟨hkeeps₂, hsame₂⟩ := hkeeps₁.stage hbranching hstage
  have hsame := hsame₁.trans hsame₂
  have hordered : (Tree.leaf leafPage rows (0 : PageId)).Ordered none none := hbut.ordered.1
  exact ⟨Keeps.holdsTree hkeeps₂ (hbut.root.trans hsame.rootPage.symm) hordered ⟨rfl, trivial⟩,
    hsame⟩

lemma btreeReclaimEmptyLeaf_eq_ok {parentPage : PageId} {slot : Nat} {outer : Path}
    (hrun : btreeReclaimEmptyLeaf pager leafPage link ((parentPage, slot) :: outer) batch =
      (.ok result, batch')) : ∃ parent batch₁ batch₂ result₁ result₂,
      btreeRelinkPredecessor pager link ((parentPage, slot) :: outer) batch =
        (.ok result₁, batch₁) ∧
      btreeBatchReadNode pager batch₁ parentPage = .ok parent ∧ parent.entries.length ≠ 0 ∧
      onTxn (txnFree pager leafPage)
        { batch₁ with items := batch₁.items.eraseP (·.pageId = leafPage) } = (.ok result₂, batch₂) ∧
      (if (btreeRemoveChild parent slot).entries.length ≠ 0 then
          btreeStage pager parentPage (btreeRemoveChild parent slot)
        else if parentPage = batch.rootPage then
          btreeCollapseRoot pager batch.rootPage (btreeRemoveChild parent slot).firstChild
        else btreeReclaimInternalUp pager outer parentPage
          (btreeRemoveChild parent slot).firstChild) batch₂ = (.ok result, batch') := by
  simp only [btreeReclaimEmptyLeaf, readNodeM, bind_eq_ok, query_eq_ok, Except.ok.injEq] at hrun
  obtain ⟨_, _, ⟨rfl, rfl⟩, _, batch₁, hrelink, parent, _, ⟨hread, rfl⟩, hrun⟩ := hrun
  split at hrun
  · simp at hrun
  rename_i hcount
  simp only [btreeUnstage, bind_eq_ok, update_eq_ok] at hrun
  obtain ⟨_, _, rfl, _, batch₂, hfree, hrun⟩ := hrun
  exact ⟨parent, batch₁, batch₂, _, _, hrelink, hread, fun hzero => hcount (by simp [hzero]),
    hfree, hrun⟩

/-- With the leaf unlinked and freed, the parent without it is left to write. -/
lemma holdsBut_of_unlinked {outer : Context Bytes Bytes PageId H 1}
    {left : List (PageTree 0 × Bytes)} {right : List (Bytes × PageTree 0)} {first : PageTree 0}
    {rest : List (Bytes × PageTree 0)}
    (hholds : HoldsTree pager batch others (context.fill (.leaf leafPage [] link)))
    (hrelinked : RelinkedContext link context (.inside outer page left right))
    (hkeeps : Keeps pager batch' others ((Context.inside outer page left right).cells leafPage))
    (hsame : SameBatch batch batch')
    (hkids : first :: rest.map Prod.snd = left.map Prod.fst ++ right.map Prod.snd)
    (hwithout : ∀ lo hi, LeftOk Tree.Ordered lo left → RightOk Tree.Ordered right hi →
      Capped hi (left.map Prod.snd ++ right.map Prod.fst) →
      Span (lastBound lo left) (firstBound right hi) → (Tree.inner page first rest).Ordered lo hi) :
    HoldsBut pager batch' others outer (.inner page first rest) ∧
      (outer.fill (.inner page first rest)).rows =
        (context.fill (.leaf leafPage [] link)).rows := by
  have hleaves : (outer.fill (.inner page first rest)).leaves =
      (Context.inside outer page left right).leavesLeft ++ context.leavesRight := by
    rw [Context.leaves_fill, Tree.leaves_inner, hkids, ← hrelinked.leavesRight]
    simp [Context.leavesLeft, Context.leavesRight]
  have hbefore := Context.leaves_fill context (.leaf leafPage [] link)
  refine ⟨⟨?_, ?_, ?_, ?_⟩, ?_⟩
  · rw [Tree.below_inner, hkids]
    exact (hkeeps.perm List.perm_middle.symm).forget
  · have hpath : context.path = (page, left.length) :: outer.path := hrelinked.path.symm
    rw [hsame.rootPage, ← hholds.root, Context.page_fill, Context.page_fill, hpath]
    rfl
  · have hordered := hholds.ordered
    rw [Context.ordered_fill, ← hrelinked.lower, ← hrelinked.upper] at hordered
    obtain ⟨houter, ⟨hleft, hright⟩, hcapped⟩ := hrelinked.ordered hordered.1
    rw [Context.ordered_fill]
    exact ⟨houter, hwithout _ _ hleft hright hcapped hordered.2.span⟩
  · have hlinked := hholds.linked
    rw [hbefore] at hlinked
    rw [hleaves]
    exact hrelinked.leavesLeft.linked hlinked
  · rw [Tree.rows, Tree.rows, hleaves, hbefore, flatMap_append, hrelinked.leavesLeft.rows]
    simp

/-- An empty leaf is taken out of the tree; the rows stay. -/
lemma btreeReclaimEmptyLeaf_holds
    (hholds : HoldsTree pager batch others (context.fill (.leaf leafPage [] link)))
    (hrun : btreeReclaimEmptyLeaf pager leafPage link context.path batch = (.ok result, batch')) :
    ∃ (h' : Nat) (tree' : PageTree h'), HoldsTree pager batch' others tree' ∧
      SameBatch batch batch' ∧ tree'.rows = (context.fill (.leaf leafPage [] link)).rows := by
  cases context with
  | top => simp [Context.path, btreeReclaimEmptyLeaf] at hrun
  | inside outer page left right =>
    obtain ⟨parent, batch₁, batch₂, _, _, hrelink, hread, hcount, hfree, hrest⟩ :=
      btreeReclaimEmptyLeaf_eq_ok hrun
    have hkeeps := hholds.keeps.perm (Context.cells_fill ..).symm
    obtain ⟨context', hkeeps₁, hsame₁, hrelinked⟩ :=
      btreeRelinkPredecessor_keeps hkeeps hrelink
    have hpath := hrelinked.path
    cases context' with
    | top => simp [Context.path] at hpath
    | inside outer' page' left' right' =>
      simp only [Context.path, List.cons.injEq, Prod.mk.injEq] at hpath
      obtain ⟨⟨rfl, hslot⟩, houter⟩ := hpath
      obtain rfl := hkeeps₁.read (mem_append_left _ (Context.frameCell_mem_cells ..)) hread
      rw [Tree.page_leaf, length_frameCell] at hcount
      obtain ⟨first, rest, hremoved, hkids, hwithout⟩ :=
        exists_without page' leafPage hcount
      obtain ⟨hkeeps₂, hsame₂⟩ :=
        (hkeeps₁.perm perm_append_comm).forget.free hfree
      obtain ⟨hbut, hrows⟩ := holdsBut_of_unlinked hholds hrelinked hkeeps₂
        (hsame₁.trans hsame₂) hkids hwithout
      rw [← hrows]
      have hsame := hsame₁.trans hsame₂
      rw [Tree.page_leaf, ← hslot, hremoved] at hrest
      split at hrest
      · rename_i hentries
        obtain ⟨hholds', hsame'⟩ :=
          hbut.stage (branching_of_entries (Nat.pos_of_ne_zero hentries)) hrest
        exact ⟨_, _, hholds', hsame.trans hsame', rfl⟩
      · rename_i hentries
        obtain rfl : rest = [] := by simpa [cellNode] using hentries
        split at hrest
        · rename_i hroot
          have htop := hbut.path_eq_nil (hroot.trans hsame.rootPage.symm)
          cases outer' with
          | inside => simp [Context.path] at htop
          | top =>
            rw [← hroot] at hrest
            obtain ⟨hholds', hsame'⟩ := btreeCollapseRoot_holds hbut hrest
            refine ⟨_, _, hholds', hsame.trans hsame', ?_⟩
            simp [Context.fill, Tree.rows_inner]
        · rw [← houter] at hrest
          obtain ⟨h', tree', hholds', hsame', hleaves⟩ :=
            btreeReclaimInternalUp_holds hbut hrest
          refine ⟨h', tree', hholds', hsame.trans hsame', ?_⟩
          rw [Tree.rows, hleaves, Tree.rows]

/-- The leaf without the row at the lower bound of its key. -/
lemma eraseIdx_lowerBound (hsorted : SortedRows rows)
    (hmatch : entryMatches (cellNode (.leaf rows link))
      (btreeLowerBound (cellNode (.leaf rows link)) key) key = true) :
    ∃ rows', ({ cellNode (.leaf rows link) with
        entries := (cellNode (.leaf rows link)).entries.eraseIdx
          (btreeLowerBound (cellNode (.leaf rows link)) key) } : BTreeNode) =
      cellNode (.leaf rows' link) ∧ CutAt key rows rows' := by
  obtain ⟨before, after, hentries, hlength, _, _⟩ :=
    btreeLowerBound_split key (nodeSorted_leaf.mpr hsorted)
  rw [← hlength] at hmatch ⊢
  obtain ⟨entry, rest, rfl, hkey⟩ := (entryMatches_append hentries).mp hmatch
  obtain ⟨left, right', rfl, rfl, hright⟩ := List.map_eq_append_iff.mp hentries
  obtain ⟨row, right, rfl, rfl, rfl⟩ := List.map_eq_cons_iff.mp hright
  refine ⟨left ++ right, ?_, left, row.2, right, ?_, rfl⟩
  · rw [hentries, ListEdit.eraseIdx_length, ← map_append]
    rfl
  · rw [← hkey]
    rfl

lemma btreeDeleteAt_eq_ok {leaf : BTreeNode} {path : Path} {position : Nat}
    (hrun : btreeDeleteAt pager leaf page path position batch = (.ok result, batch')) :
    ∃ batch₁ result₁,
      btreeStage pager page { leaf with entries := leaf.entries.eraseIdx position } batch =
        (.ok result₁, batch₁) ∧
      (batch' = batch₁ ∨ ∃ check, btreeBatchReadNode pager batch₁ page = .ok check ∧
        check.entries.length = 0 ∧
        btreeReclaimEmptyLeaf pager page leaf.rightSibling path batch₁ = (.ok result, batch')) := by
  simp only [btreeDeleteAt, bind_eq_ok, query_eq_ok, Except.ok.injEq] at hrun
  obtain ⟨_, batch₁, hstage, _, _, ⟨rfl, rfl⟩, _, _, ⟨rfl, rfl⟩, hrun⟩ := hrun
  refine ⟨batch₁, _, hstage, ?_⟩
  split at hrun
  · simp only [readNodeM, bind_eq_ok, query_eq_ok] at hrun
    obtain ⟨check, _, ⟨hread, rfl⟩, hrun⟩ := hrun
    split at hrun
    · rename_i hempty
      exact .inr ⟨check, hread, hempty, hrun⟩
    · simp only [pure_eq_ok] at hrun
      exact .inl hrun.2.symm
  · simp only [pure_eq_ok] at hrun
    exact .inl hrun.2.symm

/-- A leaf keeps its place when a row is cut from it. -/
lemma stage_leaf_holds {rows' : List (Bytes × Bytes)}
    (hholds : HoldsTree pager batch others (context.fill (.leaf page rows link)))
    (hcut : CutAt key rows rows')
    (hrun : btreeStage pager page (cellNode (.leaf rows' link)) batch = (.ok result, batch')) :
    HoldsTree pager batch' others (context.fill (.leaf page rows' link)) ∧
      SameBatch batch batch' := by
  have hkeeps := (hholds.keeps.perm (Context.cells_fill ..).symm).perm perm_append_comm
  have hbranching : Cell.Branching (.leaf rows' link : NodeCell) := trivial
  obtain ⟨hkeeps', hsame⟩ := hkeeps.forget.stage hbranching hrun
  refine ⟨(hkeeps'.perm ?_).holdsTree ?_ ?_ ?_, hsame⟩
  · exact (Context.cells_fill ..).trans perm_append_comm
  · rw [hsame.rootPage, ← hholds.root, Context.page_fill, Context.page_fill]
    rfl
  · have hordered := hholds.ordered
    rw [Context.ordered_fill, Tree.ordered_leaf] at hordered ⊢
    exact ⟨hordered.1, hordered.2.1, hcut.sorted hordered.2.2.1, fun row hrow =>
      hordered.2.2.2 row (hcut.subset hrow)⟩
  · have hleaf : Relink [(⟨page, rows, link⟩ : LeafPage Bytes Bytes PageId)]
        [⟨page, rows', link⟩] := ⟨fun _ => rfl, fun _ hchain => hchain⟩
    have hlinked := hholds.linked
    rw [Context.leaves_fill] at hlinked ⊢
    exact ((Relink.refl _).append (hleaf.append (Relink.refl _))).linked 0 hlinked

/-- A successful delete leaves the batch holding a tree without the row. -/
lemma btreeDeleteAt_holds {tree : PageTree H} (hholds : HoldsTree pager batch others tree)
    (hrouted : RoutedTo context tree (.leaf page rows link) key)
    (hmatch : entryMatches (cellNode (.leaf rows link))
      (btreeLowerBound (cellNode (.leaf rows link)) key) key = true)
    (hrun : btreeDeleteAt pager (cellNode (.leaf rows link)) page context.path
      (btreeLowerBound (cellNode (.leaf rows link)) key) batch = (.ok result, batch')) :
    ∃ (h' : Nat) (tree' : PageTree h'), HoldsTree pager batch' others tree' ∧
      SameBatch batch batch' ∧ CutAt key tree.rows tree'.rows := by
  obtain ⟨rows', hnode, hcut⟩ :=
    eraseIdx_lowerBound (hrouted.leafSorted hholds.ordered) hmatch
  obtain ⟨batch₁, _, hstage, hrest⟩ := btreeDeleteAt_eq_ok hrun
  rw [hnode] at hstage
  have hfill := hrouted.fill
  subst hfill
  obtain ⟨hholds₁, hsame₁⟩ := stage_leaf_holds hholds hcut hstage
  have hcutTree : CutAt key (context.fill (.leaf page rows link)).rows
      (context.fill (.leaf page rows' link)).rows := by
    simpa [Tree.rows, Context.leaves_fill] using hcut.frame
      (context.leavesLeft.flatMap LeafPage.rows) (context.leavesRight.flatMap LeafPage.rows)
  rcases hrest with rfl | ⟨check, hread, hempty, hreclaim⟩
  · exact ⟨_, _, hholds₁, hsame₁, hcutTree⟩
  · have hmem := (Context.cells_fill context (.leaf page rows' link)).mem_iff.mpr
      (mem_append_right _ mem_cons_self)
    obtain rfl := hholds₁.keeps.read hmem hread
    obtain rfl : rows' = [] := by simpa [cellNode] using hempty
    obtain ⟨h', tree', hholds', hsame', hrows⟩ :=
      btreeReclaimEmptyLeaf_holds hholds₁ hreclaim
    exact ⟨h', tree', hholds', hsame₁.trans hsame', hrows ▸ hcutTree⟩

end ShibaDb
