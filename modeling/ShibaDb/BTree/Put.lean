/-
`sdb_btree_batch_put` on a batch that holds a tree: the batch holds a tree with
the row written afterwards, grown by one level when the root was split.
-/
import ShibaDb.BTree.Insert
import ShibaDb.BTree.Invariant

namespace ShibaDb

open SepTree Fallible List

variable {pager : Pager} {batch batch' : BTreeBatch} {result : PUnit}

/-- The steps of a successful root growth. -/
lemma btreeGrowRoot_eq_ok {split : BTreeSplit}
    (hrun : btreeGrowRoot pager split batch = (.ok result, batch')) :
    ∃ left leftPage batch₁ batch₂ result₁ result₂,
      btreeBatchReadNode pager batch batch.rootPage = .ok left ∧
      onTxn (txnAllocate pager) batch = (.ok leftPage, batch₁) ∧
      btreeStage pager leftPage left batch₁ = (.ok result₁, batch₂) ∧
      btreeStage pager batch.rootPage
        { kind := .internal, rightSibling := 0, firstChild := leftPage
          entries := [{ key := split.separator, value := [], rightChild := split.rightPage }] }
        batch₂ = (.ok result₂, batch') := by
  simp only [btreeGrowRoot, bind_eq_ok, query_eq_ok, Except.ok.injEq] at hrun
  obtain ⟨root, _, ⟨rfl, rfl⟩, left, _, ⟨hleft, rfl⟩, leftPage, batch₁, halloc, result₁, batch₂,
    hstage, hstage'⟩ := hrun
  refine ⟨left, leftPage, batch₁, batch₂, result₁, result, ?_, halloc, hstage, hstage'⟩
  unfold btreeBatchReadNode
  cases hstaged : btreeFindStaged batch.items batch.rootPage with
  | none => simp [hstaged] at hleft
  | some staged => simpa [hstaged] using hleft

/-- The root split into `first` and `right`: the left half moves to a new page
and the root page becomes the parent of both. -/
lemma btreeGrowRoot_holds {before : BTreeBatch} {others new touched : List PageId} {h : Nat}
    {first right : PageTree h} {separator : Bytes}
    (hgraft : Grafted pager before batch (others ++ touched) new touched
      none none first [(separator, right)])
    (hroot : first.page = batch.rootPage) (hlinked : Linked (first.leaves ++ right.leaves) 0)
    (hrun : btreeGrowRoot pager { separator, rightPage := right.page } batch =
      (.ok result, batch')) :
    ∃ tree : PageTree (h + 1), HoldsTree pager batch' others tree ∧ SameBatch batch batch' ∧
      tree.rows = first.rows ++ right.rows := by
  obtain ⟨left, leftPage, batch₁, batch₂, _, _, hread, halloc, hstage, hstage'⟩ :=
    btreeGrowRoot_eq_ok hrun
  have hfirst := (hgraft.shown (first.page, first.cell) (by simp [Tree.cells])).1
  obtain rfl := hfirst.eq_of_read (hroot ▸ hread)
  have hpages : (first.pages ++ right.pages).Perm (new ++ touched) := by
    simpa using hgraft.pages
  have howned : (new ++ (others ++ touched)).Perm (others ++ (first.pages ++ right.pages)) :=
    (perm_append_comm_assoc ..).trans (hpages.symm.append_left others)
  have hrootMem : batch.rootPage ∈ new ++ (others ++ touched) := by
    rw [← hroot]
    exact howned.mem_iff.mpr (by simp [Tree.pages_eq])
  obtain ⟨hok₁, hsame₁, hreads₁⟩ := onTxn_allocate hgraft.ok halloc
  have hfresh : leftPage ∉ new ++ (others ++ touched) :=
    (List.nodup_cons.mp hok₁.owns.nodup).1
  have hstaged := btreeStage_staged hok₁ mem_cons_self hstage
  have hstaged' := btreeStage_staged hstaged.ok (mem_cons_of_mem leftPage hrootMem) hstage'
  have hnodup : (first.pages ++ right.pages).Nodup :=
    (List.nodup_append.mp (howned.nodup_iff.mp (List.nodup_cons.mp hok₁.owns.nodup).2)).2.1
  have hreads : SameReads pager batch batch' [leftPage, batch.rootPage] :=
    ((hreads₁.trans hstaged.reads).trans hstaged'.reads).mono (by simp)
  have hkept : ∀ entry ∈ first.below ++ right.cells,
      Shows pager batch' entry.1 entry.2 ∧ entry.2.Branching := by
    intro entry hentry
    have hcells : entry ∈ first.cells ++ right.cells := by
      rw [Tree.cells, cons_append]
      exact mem_cons_of_mem _ hentry
    have hpage : entry.1 ∈ first.pages ++ right.pages := by
      have := mem_map_of_mem (f := Prod.fst) hcells
      rwa [map_append] at this
    have hne : entry.1 ≠ batch.rootPage := by
      rw [Tree.pages_eq, cons_append, nodup_cons] at hnodup
      have hmem := mem_map_of_mem (f := Prod.fst) hentry
      rw [map_append] at hmem
      rw [← hroot]
      exact fun heq => hnodup.1 (heq ▸ hmem)
    obtain ⟨hshows, hbranch⟩ := hgraft.shown entry (by simpa using hcells)
    refine ⟨hshows.congr hreads ?_, hbranch⟩
    rw [mem_cons, mem_singleton, not_or]
    exact ⟨fun heq => hfresh (heq ▸ howned.mem_iff.mpr (mem_append_right _ hpage)), hne⟩
  refine ⟨.inner batch.rootPage (first.moveTo leftPage) [(separator, right)],
    ⟨?_, ?_, ?_, ?_, ?_⟩, (hsame₁.trans hstaged.same).trans hstaged'.same, ?_⟩
  · refine hstaged'.ok.perm ?_
    rw [Tree.pages_inner]
    simp only [map_cons, map_nil, flatMap_cons, flatMap_nil,
      append_nil, Tree.pages_eq (first.moveTo leftPage), Tree.page_moveTo,
      Tree.below_moveTo, cons_append]
    refine List.Perm.trans ?_ (howned.symm.cons leftPage)
    rw [Tree.pages_eq first, hroot]
    exact (List.Perm.swap leftPage batch.rootPage _).append_left others |>.trans perm_middle
  · rw [hstaged'.same.rootPage, hstaged.same.rootPage, hsame₁.rootPage]
    rfl
  · intro entry hentry
    rw [Tree.cells_inner, map_cons, map_nil, flatMap_cons, flatMap_cons,
      flatMap_nil, append_nil, Tree.cells, cons_append, mem_cons,
      mem_cons] at hentry
    rcases hentry with rfl | rfl | hentry
    · exact ⟨⟨by simpa [cellNode, childEntry] using hstaged'.read,
        by simpa [cellNode, childEntry] using hstaged'.fits⟩, by simp [Cell.Branching]⟩
    · have hmoved : Shows pager batch₂ leftPage first.cell := ⟨hstaged.read, hstaged.fits⟩
      have hbranch := (hgraft.shown (first.page, first.cell) (by simp [Tree.cells])).2
      refine ⟨?_, by simpa using hbranch⟩
      simpa using hmoved.congr hstaged'.reads (by
        rw [mem_singleton]
        exact fun heq => hfresh (heq ▸ hrootMem))
    · exact hkept entry (by simpa using hentry)
  · simpa [Tree.ordered_inner, Between, Capped] using hgraft.ordered
  · rw [Tree.leaves_inner]
    simpa using linked_moveTo.mpr hlinked
  · rw [Tree.rows_inner]
    simp

/-- A successful put leaves the batch holding a tree with the row written. -/
lemma btreePutBody_holds {key value : Bytes} {others : List PageId} {h : Nat} {tree : PageTree h}
    (hholds : HoldsTree pager batch others tree)
    (hrun : btreePutBody pager key value batch = (.ok result, batch')) :
    ∃ (h' : Nat) (tree' : PageTree h'), HoldsTree pager batch' others tree' ∧
      SameBatch batch batch' ∧ PutAt key value tree.rows tree'.rows := by
  simp only [btreePutBody, bind_eq_ok, query_eq_ok, Except.ok.injEq] at hrun
  obtain ⟨root, _, ⟨rfl, rfl⟩, split, batch₁, hinsert, hrun⟩ := hrun
  rw [← hholds.root] at hinsert
  obtain ⟨first, rest, new, hpage, rfl, hgraft, hput, hrelink⟩ :=
    btreeInsertRecursive_grafted hholds.ok (fun _ => mem_append_right others) hholds.nodup
      hholds.shown hholds.ordered (within_none key) hinsert
  have hlinked := hrelink.linked 0 hholds.linked
  have hroot : first.page = batch₁.rootPage := by
    rw [hpage, hholds.root, hgraft.same.rootPage]
  rcases rest with _ | ⟨⟨separator, right⟩, _ | ⟨_, _⟩⟩
  · simp only [splitOf, pure_eq_ok] at hrun
    obtain ⟨_, rfl⟩ := hrun
    have hpages : first.pages.Perm (new ++ tree.pages) := by simpa using hgraft.pages
    have howned : (others ++ first.pages).Perm (new ++ (others ++ tree.pages)) :=
      (hpages.append_left others).trans (perm_append_comm_assoc ..)
    exact ⟨h, first, ⟨hgraft.ok.perm howned, hroot, by simpa using hgraft.shown,
      hgraft.ordered, by simpa using hlinked⟩, hgraft.same, by simpa using hput⟩
  · obtain ⟨tree', hholds', hsame, hrows⟩ := btreeGrowRoot_holds hgraft hroot
      (by simpa using hlinked) hrun
    refine ⟨h + 1, tree', hholds', hgraft.same.trans hsame, ?_⟩
    rw [hrows]
    simpa using hput
  · exact absurd hgraft.short (by simp)

end ShibaDb
