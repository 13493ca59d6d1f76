/-
Unlinking a leaf: `sdb_btree_relink_predecessor` finds the leaf in front of a
position through the path above it and changes that leaf's link only.
-/
import ShibaDb.BTree.Invariant

namespace ShibaDb

open SepTree Fallible List

/-- `after` is `before` with its last leaf linked elsewhere. -/
structure RelinkedTree (link : PageId) {h : Nat} (before after : PageTree h) : Prop where
  page : after.page = before.page
  ordered : ∀ lo hi, before.Ordered lo hi → after.Ordered lo hi
  leaves : RelinkLast link before.leaves after.leaves

/-- `after` is `before` with the leaf in front of its hole linked elsewhere. -/
structure RelinkedContext (link : PageId) {H h : Nat}
    (before after : Context Bytes Bytes PageId H h) : Prop where
  path : after.path = before.path
  lower : after.lower = before.lower
  upper : after.upper = before.upper
  ordered : before.Ordered → after.Ordered
  leavesLeft : RelinkLast link before.leavesLeft after.leavesLeft
  leavesRight : after.leavesRight = before.leavesRight

variable {pager : Pager} {batch batch' : BTreeBatch} {others : List PageId} {link : PageId}
  {frame : List (PageId × NodeCell)} {result : PUnit}

lemma btreeRelinkRightmost_eq_ok {fuel : Nat} {page : PageId}
    (hrun : btreeRelinkRightmost pager link fuel page batch = (.ok result, batch')) :
    ∃ node, btreeBatchReadNode pager batch page = .ok node ∧ ((node.kind = .leaf ∧
          btreeStage pager page { node with rightSibling := link } batch = (.ok result, batch')) ∨
        (node.kind = .internal ∧ ∃ fuel',
          btreeRelinkRightmost pager link fuel' (btreeChildAt node node.entries.length) batch =
            (.ok result, batch'))) := by
  cases fuel with
  | zero => simp [btreeRelinkRightmost] at hrun
  | succ fuel =>
    simp only [btreeRelinkRightmost, bind_eq_ok, readNodeM, query_eq_ok] at hrun
    obtain ⟨node, _, ⟨hread, rfl⟩, hrun⟩ := hrun
    refine ⟨node, hread, ?_⟩
    cases hkind : node.kind with
    | leaf => exact .inl ⟨rfl, by simpa [hkind] using hrun⟩
    | internal => exact .inr ⟨rfl, fuel, by simpa [hkind] using hrun⟩

lemma btreeRelinkRightmost_keeps {h fuel : Nat} {tree : PageTree h}
    (hkeeps : Keeps pager batch others (tree.cells ++ frame))
    (hrun : btreeRelinkRightmost pager link fuel tree.page batch = (.ok result, batch')) :
    ∃ tree' : PageTree h, Keeps pager batch' others (tree'.cells ++ frame) ∧
      SameBatch batch batch' ∧ RelinkedTree link tree tree' := by
  induction h generalizing fuel frame with
  | zero =>
    obtain ⟨page, rows, old, rfl⟩ := tree.exists_leaf
    obtain ⟨node, hread, hrun⟩ := btreeRelinkRightmost_eq_ok hrun
    obtain rfl := hkeeps.read mem_cons_self hread
    rcases hrun with ⟨_, hstage⟩ | ⟨hkind, _⟩
    · have hbranching : Cell.Branching (.leaf rows link : NodeCell) := trivial
      obtain ⟨hkeeps', hsame⟩ := hkeeps.forget.stage hbranching hstage
      exact ⟨.leaf page rows link, hkeeps', hsame, rfl, fun _ _ hordered => hordered,
        .inr ⟨[], _, rfl, rfl⟩⟩
    · simp [cellNode] at hkind
  | succ h ih =>
    obtain ⟨page, first, rest, rfl⟩ := tree.exists_inner
    obtain ⟨left, child, hplug⟩ := exists_plug_last first rest
    obtain ⟨rfl, rfl⟩ : (plug left child []).1 = first ∧ (plug left child []).2 = rest := by
      simp [hplug]
    obtain ⟨node, hread, hrun⟩ := btreeRelinkRightmost_eq_ok hrun
    obtain rfl := hkeeps.read mem_cons_self hread
    rcases hrun with ⟨hkind, _⟩ | ⟨_, fuel', hrun⟩
    · simp [cellNode] at hkind
    · rw [Context.cell_plug, length_frameCell, length_nil, Nat.add_zero,
        btreeChildAt_frameCell] at hrun
      have hcells : ∀ child : PageTree h,
          ((Tree.inner page (plug left child []).1 (plug left child []).2).cells ++
            frame).Perm (child.cells ++ ((page, Context.frameCell left child.page []) ::
              (left.map Prod.fst ++ []).flatMap Tree.cells ++ frame)) := fun child => by
        rw [← append_assoc]
        exact (Context.cells_plug page left child []).append_right frame
      obtain ⟨child', hkeeps', hsame, hrelinked⟩ := ih (hkeeps.perm (hcells child).symm) hrun
      rw [← hrelinked.page] at hkeeps'
      refine ⟨.inner page (plug left child' []).1 (plug left child' []).2,
        hkeeps'.perm (hcells child'), hsame, rfl, ?_, ?_⟩
      · intro lo hi
        simp only [Tree.ordered_inner, between_plug_child, plug_separators]
        exact And.imp_left fun hordered =>
          ⟨hordered.1, hrelinked.ordered _ _ hordered.2.1, hordered.2.2⟩
      · rw [Tree.leaves_inner, Tree.leaves_inner, plug_kids, plug_kids]
        simpa using hrelinked.leaves.append child.leaves_ne_nil
          ((left.map Prod.fst).flatMap Tree.leaves)

lemma btreeRelinkPredecessor_keeps {H h : Nat} {context : Context Bytes Bytes PageId H h}
    {hole : PageId} (hkeeps : Keeps pager batch others (context.cells hole ++ frame))
    (hrun : btreeRelinkPredecessor pager link context.path batch = (.ok result, batch')) :
    ∃ context' : Context Bytes Bytes PageId H h,
      Keeps pager batch' others (context'.cells hole ++ frame) ∧ SameBatch batch batch' ∧
        RelinkedContext link context context' := by
  induction context generalizing hole frame with
  | top =>
    simp only [Context.path, btreeRelinkPredecessor, pure_eq_ok] at hrun
    obtain ⟨_, rfl⟩ := hrun
    exact ⟨.top, hkeeps, SameBatch.refl _, rfl, rfl, rfl, id, .inl ⟨rfl, rfl⟩, rfl⟩
  | inside outer page left right ih =>
    rcases eq_nil_or_concat left with rfl | ⟨left, ⟨previous, separator⟩, rfl⟩
    · rw [Context.path, btreeRelinkPredecessor, length_nil, if_pos rfl] at hrun
      rw [Context.cells, append_assoc] at hkeeps
      obtain ⟨outer', hkeeps', hsame, hrelinked⟩ := ih hkeeps hrun
      refine ⟨.inside outer' page [] right, by rwa [Context.cells, append_assoc],
        hsame, ?_, ?_, ?_, ?_, ?_, ?_⟩
      · rw [Context.path, Context.path, hrelinked.path]
      · simp only [Context.lower, hrelinked.lower]
      · simp only [Context.upper, hrelinked.upper]
      · simp only [Context.Ordered, hrelinked.lower, hrelinked.upper]
        exact And.imp_left hrelinked.ordered
      · simpa [Context.leavesLeft] using hrelinked.leavesLeft
      · simp only [Context.leavesRight, hrelinked.leavesRight]
    · rw [concat_eq_append, Context.path, btreeRelinkPredecessor, length_append,
        length_singleton, if_neg (Nat.succ_ne_zero _), Nat.add_sub_cancel] at hrun
      simp only [bind_eq_ok, readNodeM, query_eq_ok] at hrun
      obtain ⟨ancestor, _, ⟨hread, rfl⟩, hrun⟩ := hrun
      rw [concat_eq_append] at hkeeps
      have hcells : ∀ tree : PageTree _,
          ((Context.inside outer page (left ++ [(tree, separator)]) right).cells hole ++
            frame).Perm (tree.cells ++ (outer.cells page ++
              (page, Context.frameCell (left ++ [(tree, separator)]) hole right) ::
                (left.map Prod.fst ++ right.map Prod.snd).flatMap Tree.cells ++ frame)) :=
        fun tree => by
          rw [← append_assoc]
          exact (Context.cells_inside_previous ..).append_right frame
      obtain rfl := hkeeps.read (mem_append_left frame (Context.frameCell_mem_cells ..)) hread
      rw [btreeChildAt_previous] at hrun
      obtain ⟨previous', hkeeps', hsame, hrelinked⟩ :=
        btreeRelinkRightmost_keeps (hkeeps.perm (hcells previous).symm) hrun
      have hframe : Context.frameCell (left ++ [(previous, separator)]) hole right =
          Context.frameCell (left ++ [(previous', separator)]) hole right := by
        simp [Context.frameCell, hrelinked.page]
      rw [hframe] at hkeeps'
      refine ⟨.inside outer page (left ++ [(previous', separator)]) right,
        hkeeps'.perm (hcells previous'), hsame, ?_, ?_, rfl, ?_, ?_, rfl⟩
      · simp [Context.path]
      · simp [Context.lower, lastBound_append, lastBound]
      · simp only [concat_eq_append, Context.Ordered, leftOk_append, LeftOk, and_true,
          map_append, map_cons, map_nil]
        exact And.imp_right (And.imp_left (And.imp_left (And.imp_right (hrelinked.ordered _ _))))
      · simpa [Context.leavesLeft] using hrelinked.leaves.append previous.leaves_ne_nil
          (outer.leavesLeft ++ (left.map Prod.fst).flatMap Tree.leaves)

end ShibaDb
