/-
Insertion into the B+tree: a subtree comes back as itself or as two subtrees
around a new separator, with the row written, the leaf chain intact and only
its own pages and newly allocated ones touched.
-/
import ShibaDb.BTree.Staging

namespace ShibaDb

open SepTree Fallible List

variable {lo hi : Option Bytes} {page link : PageId} {pager : Pager} {node : BTreeNode}
  {batch batch' : BTreeBatch} {split : BTreeSplit} {own : List PageId} {h : Nat}
  {first : PageTree h} {rest : List (Bytes × PageTree h)}

section SplitPoint

variable {choice : SplitChoice}
  {capacity candidate leftSize rightSize total leftEntries middle : Nat} {entries : List BTreeEntry}

/-- The candidate weighed last fits, or the choice is an older one. -/
lemma weigh_fits
    (hmiddle : (choice.weigh capacity candidate leftSize rightSize).middle = some middle) :
    choice.middle = some middle ∨
      middle = candidate ∧ leftSize ≤ capacity ∧ rightSize ≤ capacity := by
  simp only [SplitChoice.weigh] at hmiddle
  split at hmiddle
  next hbetter =>
    simp only [Bool.and_eq_true, decide_eq_true_eq] at hbetter
    exact .inr ⟨(Option.some.inj hmiddle).symm, hbetter.1.1, hbetter.1.2⟩
  · exact .inl hmiddle

/-- The bytes of some entries. -/
def entriesSize (kind : NodeKind) (entries : List BTreeEntry) : Nat :=
  (entries.map (entrySize kind)).sum

lemma entriesSize_cons (kind : NodeKind) (entry : BTreeEntry) (entries : List BTreeEntry) :
    entriesSize kind (entry :: entries) = entrySize kind entry + entriesSize kind entries := by
  simp [entriesSize]

/-- The running total of the split loops. -/
lemma add_entriesSize_cons (kind : NodeKind) (running : Nat) (entry : BTreeEntry)
    (entries : List BTreeEntry) : running + entriesSize kind (entry :: entries) =
      running + entrySize kind entry + entriesSize kind entries := by
  rw [entriesSize_cons, Nat.add_assoc]

/-- What the loop chooses is a cut that fits. -/
lemma leafSplitLoop_fits
    (hmiddle : (leafSplitLoop capacity total entries candidate leftEntries choice).middle =
      some middle) :
    choice.middle = some middle ∨ ∃ left right, entries = left ++ right ∧ left ≠ [] ∧ right ≠ [] ∧
      middle + 1 = candidate + left.length ∧
      btreeNodeHeaderSize + (leftEntries + entriesSize .leaf left) ≤ capacity ∧
      btreeNodeHeaderSize + total - (leftEntries + entriesSize .leaf left) ≤ capacity := by
  induction entries generalizing candidate leftEntries choice with
  | nil => exact .inl hmiddle
  | cons previous rest ih =>
    cases rest with
    | nil => exact .inl hmiddle
    | cons next rest =>
      rcases ih hmiddle with
        hchoice | ⟨left, right, hcut, -, hright, hlength, hleftFits, hrightFits⟩
      · rcases weigh_fits hchoice with hchoice | ⟨rfl, hleftFits, hrightFits⟩
        · exact .inl hchoice
        · exact .inr ⟨[previous], next :: rest, rfl, cons_ne_nil _ _, cons_ne_nil _ _,
            rfl, hleftFits, hrightFits⟩
      · refine .inr ⟨previous :: left, right, by rw [hcut, cons_append],
          cons_ne_nil _ _, hright, ?_, ?_, ?_⟩
        · rw [length_cons]
          omega
        · rw [add_entriesSize_cons]
          exact hleftFits
        · rw [add_entriesSize_cons]
          exact hrightFits

lemma internalSplitLoop_fits
    (hmiddle : (internalSplitLoop capacity total entries candidate leftEntries choice).middle =
      some middle) :
    choice.middle = some middle ∨ ∃ left promoted right, entries = left ++ promoted :: right ∧
      right ≠ [] ∧ middle = candidate + left.length ∧
      btreeNodeHeaderSize + (leftEntries + entriesSize .internal left) ≤ capacity ∧
      btreeNodeHeaderSize + total - (leftEntries + entriesSize .internal left) -
        entrySize .internal promoted ≤ capacity := by
  induction entries generalizing candidate leftEntries choice with
  | nil => exact .inl hmiddle
  | cons promoted rest ih =>
    cases rest with
    | nil => exact .inl hmiddle
    | cons next rest =>
      rcases ih hmiddle with
        hchoice | ⟨left, other, right, hcut, hright, hlength, hleftFits, hrightFits⟩
      · rcases weigh_fits hchoice with hchoice | ⟨rfl, hleftFits, hrightFits⟩
        · exact .inl hchoice
        · exact .inr ⟨[], promoted, next :: rest, rfl, cons_ne_nil _ _, rfl, hleftFits,
            hrightFits⟩
      · refine .inr ⟨promoted :: left, other, right, by rw [hcut, cons_append],
          hright, ?_, ?_, ?_⟩
        · rw [length_cons]
          omega
        · rw [add_entriesSize_cons]
          exact hleftFits
        · rw [add_entriesSize_cons]
          exact hrightFits

/-- Both halves of a split leaf keep a row. -/
lemma leafSplitPoint_bounds (hmiddle : leafSplitPoint capacity entries = some middle) :
    0 < middle ∧ middle < entries.length := by
  rcases leafSplitLoop_fits hmiddle with hnone | ⟨left, right, rfl, hleft, hright, hlength, -⟩
  · cases hnone
  · rw [← length_pos_iff] at hleft hright
    rw [length_append]
    omega

/-- Both halves of a split internal node keep a separator. -/
lemma internalSplitPoint_bounds (hmiddle : internalSplitPoint capacity entries = some middle) :
    0 < middle ∧ middle + 1 < entries.length := by
  cases entries with
  | nil => cases hmiddle
  | cons first rest =>
    rcases internalSplitLoop_fits hmiddle with
      hnone | ⟨left, promoted, right, rfl, hright, hlength, -⟩
    · cases hnone
    · rw [← length_pos_iff] at hright
      simp only [length_cons, length_append]
      omega

end SplitPoint

/-- The subtrees that replace one subtree after an insertion: they are stored
in the batch, ordered inside the old bounds, and occupy the old pages and the
newly allocated ones. -/
structure Grafted (pager : Pager) (before after : BTreeBatch) (own new touched : List PageId)
    (lo hi : Option Bytes) {h : Nat} (first : PageTree h)
    (rest : List (Bytes × PageTree h)) : Prop where
  ok : BatchOk pager after (new ++ own)
  same : SameBatch before after
  reads : SameReads pager before after (new ++ touched)
  shown : ∀ entry ∈ (first :: rest.map Prod.snd).flatMap Tree.cells,
    Shows pager after entry.1 entry.2 ∧ entry.2.Branching
  pages : ((first :: rest.map Prod.snd).flatMap Tree.pages).Perm (new ++ touched)
  ordered : Between Tree.Ordered lo first rest hi
  capped : Capped hi (rest.map Prod.fst)
  short : rest.length ≤ 1

/-- The split an insertion reports for the subtrees it left. -/
def splitOf {h : Nat} : List (Bytes × PageTree h) → Option BTreeSplit
  | [] => none
  | (separator, right) :: _ => some { separator, rightPage := right.page }

/-- Two sorted halves are ordered around the first key of the right one. -/
lemma ordered_halves {left right : List (Bytes × Bytes)} {row : Bytes × Bytes}
    {rightPage : PageId} (hleft : left ≠ []) (hsorted : SortedRows (left ++ row :: right))
    (hin : ∀ other ∈ left ++ row :: right, Within lo hi other.1) :
    Between Tree.Ordered lo (Tree.leaf page left rightPage)
      [(row.1, Tree.leaf rightPage (row :: right) link)] hi := by
  obtain ⟨hbelow, habove⟩ := hsorted.forall_lt
  have hrow := hin row (by simp)
  obtain ⟨first, hfirst⟩ := exists_mem_of_ne_nil left hleft
  have hparts := hsorted
  simp only [SortedRows, map_append, pairwise_append] at hparts
  refine ⟨Tree.ordered_leaf.mpr ⟨?_, hparts.1, ?_⟩, Tree.ordered_leaf.mpr ⟨?_, hparts.2.1, ?_⟩⟩
  · rintro low hlow _ ⟨⟩
    exact le_trans ((hin first (mem_append_left _ hfirst)).1 low hlow)
      (le_of_lt (hbelow first hfirst))
  · intro other hother
    refine ⟨(hin other (mem_append_left _ hother)).1, ?_⟩
    rintro _ ⟨⟩
    exact hbelow other hother
  · rintro _ ⟨⟩ high hhigh
    exact le_of_lt (hrow.2 high hhigh)
  · intro other hother
    refine ⟨?_, (hin other (mem_append_right _ hother)).2⟩
    rintro _ ⟨⟩
    rcases List.mem_cons.mp hother with rfl | hother
    · exact le_refl _
    · exact le_of_lt (habove other hother)

/-- The steps of a successful leaf split. -/
lemma btreeSplitLeaf_eq_ok (hrun : btreeSplitLeaf pager page node batch = (.ok split, batch')) :
    ∃ middle rightPage batch₁ batch₂ result result',
      leafSplitPoint (pagerPayloadCapacity pager) node.entries = some middle ∧
      onTxn (txnAllocate pager) batch = (.ok rightPage, batch₁) ∧ btreeStage pager page
        { node with rightSibling := rightPage, entries := node.entries.take middle } batch₁ =
          (.ok result, batch₂) ∧
      btreeStage pager rightPage
        { kind := .leaf, rightSibling := node.rightSibling, firstChild := 0
          entries := node.entries.drop middle } batch₂ = (.ok result', batch') ∧
      split = { separator := ((node.entries.drop middle).head?.map BTreeEntry.key).getD []
                rightPage } := by
  unfold btreeSplitLeaf at hrun
  cases hmiddle : leafSplitPoint (pagerPayloadCapacity pager) node.entries with
  | none => simp [hmiddle] at hrun
  | some middle =>
    simp only [hmiddle, bind_eq_ok, pure_eq_ok] at hrun
    obtain ⟨rightPage, batch₁, halloc, result, batch₂, hstage, result', _, hstage', rfl, rfl⟩ :=
      hrun
    exact ⟨middle, rightPage, batch₁, batch₂, result, result', rfl, halloc, hstage, hstage', rfl⟩

/-- The steps of a successful internal split. -/
lemma btreeSplitInternal_eq_ok
    (hrun : btreeSplitInternal pager page node batch = (.ok split, batch')) :
    ∃ middle rightPage batch₁ batch₂ result result',
      internalSplitPoint (pagerPayloadCapacity pager) node.entries = some middle ∧
      onTxn (txnAllocate pager) batch = (.ok rightPage, batch₁) ∧
      btreeStage pager page (internalHalves node middle).1 batch₁ = (.ok result, batch₂) ∧
      btreeStage pager rightPage (internalHalves node middle).2.2 batch₂ = (.ok result', batch') ∧
      split = { separator := (internalHalves node middle).2.1.key, rightPage } := by
  unfold btreeSplitInternal at hrun
  cases hmiddle : internalSplitPoint (pagerPayloadCapacity pager) node.entries with
  | none => simp [hmiddle] at hrun
  | some middle =>
    simp only [hmiddle, bind_eq_ok, pure_eq_ok] at hrun
    obtain ⟨rightPage, batch₁, halloc, result, batch₂, hstage, result', _, hstage', rfl, rfl⟩ :=
      hrun
    exact ⟨middle, rightPage, batch₁, batch₂, result, result', rfl, halloc, hstage, hstage', rfl⟩

lemma btreeSplitLeaf_grafted {rows : List (Bytes × Bytes)} (hok : BatchOk pager batch own)
    (hpage : page ∈ own) (hsorted : SortedRows rows) (hin : ∀ row ∈ rows, Within lo hi row.1)
    (hrun : btreeSplitLeaf pager page (cellNode (.leaf rows link)) batch = (.ok split, batch')) :
    ∃ (first : PageTree 0) (rest : List (Bytes × PageTree 0)) (new : List PageId),
      first.page = page ∧ some split = splitOf rest ∧
        Grafted pager batch batch' own new [page] lo hi first rest ∧
        (first :: rest.map Prod.snd).flatMap Tree.rows = rows ∧
        Relink [{ page, rows, link }] ((first :: rest.map Prod.snd).flatMap Tree.leaves) := by
  obtain ⟨middle, rightPage, batch₁, batch₂, _, _, hmiddle, halloc, hstage, hstage', rfl⟩ :=
    btreeSplitLeaf_eq_ok hrun
  obtain ⟨hlow, hhigh⟩ := leafSplitPoint_bounds hmiddle
  have hlength : middle < rows.length := by simpa [cellNode] using hhigh
  obtain ⟨row, right, hdrop⟩ : ∃ row right, rows.drop middle = row :: right :=
    ⟨_, _, drop_eq_getElem_cons hlength⟩
  have hrows : rows.take middle ++ row :: right = rows := by
    rw [← hdrop, take_append_drop]
  have hleft : rows.take middle ≠ [] := by
    simp only [ne_eq, take_eq_nil_iff, not_or]
    exact ⟨by omega, ne_nil_of_length_pos (by omega)⟩
  simp only [cellNode, ← map_drop, ← map_take, hdrop] at hstage hstage'
  obtain ⟨hok₁, hsame₁, hreads₁⟩ := onTxn_allocate hok halloc
  have hstaged := btreeStage_staged hok₁ (mem_cons_of_mem rightPage hpage) hstage
  have hstaged' := btreeStage_staged hstaged.ok mem_cons_self hstage'
  have hne : page ≠ rightPage := fun h =>
    (List.nodup_cons.mp hok₁.owns.nodup).1 (h ▸ hpage)
  refine ⟨.leaf page (rows.take middle) rightPage,
    [(row.1, .leaf rightPage (row :: right) link)], [rightPage], rfl, ?_,
    ⟨hstaged'.ok, (hsame₁.trans hstaged.same).trans hstaged'.same, ?_, ?_, ?_, ?_, ?_, ?_⟩, ?_, ?_⟩
  · simp [splitOf, cellNode, ← map_drop, hdrop, rowEntry]
  · exact ((hreads₁.trans hstaged.reads).trans hstaged'.reads).mono (by simp)
  · have hshows : Shows pager batch₂ page (.leaf (rows.take middle) rightPage) :=
      ⟨hstaged.read, hstaged.fits⟩
    have hshows' : Shows pager batch' rightPage (.leaf (row :: right) link) :=
      ⟨hstaged'.read, hstaged'.fits⟩
    have hkept := hshows.congr hstaged'.reads (by simpa using hne)
    simpa [Tree.cells, Cell.Branching] using ⟨hkept, hshows'⟩
  · simpa using List.Perm.swap rightPage page []
  · exact ordered_halves hleft (by rwa [hrows]) (by rwa [hrows])
  · intro key hkey
    obtain rfl : key = row.1 := by simpa using hkey
    have hmem : row ∈ rows.take middle ++ row :: right := by simp
    exact (hin row (hrows ▸ hmem)).2
  · simp
  · simpa using hrows
  · refine ⟨fun next => rfl, fun next hlinked => ?_⟩
    simpa [Linked, headPage] using hlinked

/-- The halves of an internal node in terms of its separators. -/
lemma internalHalves_inner (first next : PageId) (left right : List (Bytes × PageId))
    (separator : Bytes) :
    internalHalves (cellNode (.inner first (left ++ (separator, next) :: right))) left.length =
      (cellNode (.inner first left), childEntry (separator, next),
        cellNode (.inner next right)) := by
  simp only [internalHalves, cellNode, map_append, map_cons]
  have hlength : left.length = (left.map childEntry).length := by simp
  rw [hlength, take_left, List.getElem?_append_right (le_refl _), Nat.sub_self,
    drop_append]
  simp [childEntry]

lemma exists_append_cons {α : Type} {items : List α} {index : Nat}
    (hindex : index < items.length) :
    ∃ left item right, items = left ++ item :: right ∧ left.length = index := by
  refine ⟨items.take index, items[index], items.drop (index + 1), ?_, ?_⟩
  · rw [← drop_eq_getElem_cons, take_append_drop]
  · simp only [length_take]
    omega

lemma btreeSplitInternal_grafted (hok : BatchOk pager batch own) (hpage : page ∈ own)
    (hbelow : ∀ other ∈ (first :: rest.map Prod.snd).flatMap Tree.pages, other ∈ own ∧ other ≠ page)
    (hshown : ∀ entry ∈ (first :: rest.map Prod.snd).flatMap Tree.cells,
      Shows pager batch entry.1 entry.2 ∧ entry.2.Branching)
    (hsorted : (rest.map Prod.fst).Pairwise (· < ·))
    (hordered : (Tree.inner page first rest).Ordered lo hi)
    (hrun : btreeSplitInternal pager page (cellNode (Tree.inner page first rest).cell) batch =
      (.ok split, batch')) :
    ∃ (first' : PageTree (h + 1)) (rest' : List (Bytes × PageTree (h + 1))) (new : List PageId),
      first'.page = page ∧ some split = splitOf rest' ∧
        Grafted pager batch batch' own new (Tree.inner page first rest).pages lo hi first' rest' ∧
        (first' :: rest'.map Prod.snd).flatMap Tree.rows = (Tree.inner page first rest).rows ∧
        (first' :: rest'.map Prod.snd).flatMap Tree.leaves =
          (Tree.inner page first rest).leaves := by
  obtain ⟨middle, rightPage, batch₁, batch₂, _, _, hmiddle, halloc, hstage, hstage', rfl⟩ :=
    btreeSplitInternal_eq_ok hrun
  obtain ⟨hlow, hhigh⟩ := internalSplitPoint_bounds hmiddle
  have hlength : middle + 1 < rest.length := by simpa [cellNode] using hhigh
  obtain ⟨left, ⟨separator, next⟩, right, rfl, rfl⟩ :=
    exists_append_cons (Nat.lt_of_succ_lt hlength)
  have hleft : left ≠ [] := ne_nil_of_length_pos hlow
  have hright : right ≠ [] := by
    rintro rfl
    simp at hlength
  have hhalves := internalHalves_inner first.page next.page
    (left.map fun child => (child.1, child.2.page))
    (right.map fun child => (child.1, child.2.page)) separator
  rw [length_map] at hhalves
  simp only [Tree.cell_inner, map_append, map_cons, hhalves] at hstage hstage'
  obtain ⟨hok₁, hsame₁, hreads₁⟩ := onTxn_allocate hok halloc
  have hfresh : rightPage ∉ own := (List.nodup_cons.mp hok₁.owns.nodup).1
  have hstaged := btreeStage_staged hok₁ (mem_cons_of_mem rightPage hpage) hstage
  have hstaged' := btreeStage_staged hstaged.ok mem_cons_self hstage'
  have hreads : SameReads pager batch batch' [rightPage, page] :=
    ((hreads₁.trans hstaged.reads).trans hstaged'.reads).mono (by simp)
  have hkids : ∀ entry ∈ (first :: left.map Prod.snd).flatMap Tree.cells ++
      (next :: right.map Prod.snd).flatMap Tree.cells,
      Shows pager batch' entry.1 entry.2 ∧ entry.2.Branching := by
    intro entry hentry
    have hmem : entry ∈ (first :: (left ++ (separator, next) :: right).map
        Prod.snd).flatMap Tree.cells := by
      simpa [or_assoc] using hentry
    obtain ⟨hown, hne⟩ := hbelow _ (Tree.fst_mem_pages hmem)
    refine ⟨(hshown entry hmem).1.congr hreads ?_, (hshown entry hmem).2⟩
    rw [mem_cons, mem_singleton, not_or]
    exact ⟨fun h => hfresh (h ▸ hown), hne⟩
  refine ⟨.inner page first left, [(separator, .inner rightPage next right)], [rightPage],
    rfl, ?_, ⟨hstaged'.ok, (hsame₁.trans hstaged.same).trans hstaged'.same, ?_, ?_, ?_, ?_, ?_,
      ?_⟩, ?_, ?_⟩
  · simp only [Tree.cell_inner, map_append, map_cons, hhalves]
    rfl
  · refine hreads.mono ?_
    simp [Tree.pages_inner]
  · have hshows : Shows pager batch₂ page (Tree.inner page first left).cell :=
      ⟨hstaged.read, hstaged.fits⟩
    have hshows' : Shows pager batch' rightPage (Tree.inner rightPage next right).cell :=
      ⟨hstaged'.read, hstaged'.fits⟩
    have hkept := hshows.congr hstaged'.reads (by
      rw [mem_singleton]
      exact fun h => hfresh (h ▸ hpage))
    intro entry hentry
    rw [map_cons, map_nil, flatMap_cons, flatMap_cons,
      flatMap_nil, append_nil, Tree.cells_inner, Tree.cells_inner,
      cons_append, mem_cons, mem_append, mem_cons] at hentry
    rcases hentry with rfl | hentry | rfl | hentry
    · exact ⟨hkept, by simpa [Cell.Branching] using hleft⟩
    · exact hkids entry (mem_append_left _ hentry)
    · exact ⟨hshows', by simpa [Cell.Branching] using hright⟩
    · exact hkids entry (mem_append_right _ hentry)
  · simp only [map_cons, map_nil, flatMap_cons, flatMap_nil,
      append_nil, Tree.pages_inner, map_append, flatMap_append,
      cons_append, nil_append, append_assoc]
    have hmove := @perm_middle _ rightPage
      (page :: (first.pages ++ (left.map Prod.snd).flatMap Tree.pages))
      (next.pages ++ (right.map Prod.snd).flatMap Tree.pages)
    simpa using hmove
  · obtain ⟨hbetween, hcapped⟩ := Tree.ordered_inner.mp hordered
    rw [between_append] at hbetween
    rw [map_append, map_cons, pairwise_append] at hsorted
    rw [map_append, map_cons, capped_append, capped_cons] at hcapped
    refine ⟨⟨hbetween.1, ?_⟩, hbetween.2, hcapped.2.2⟩
    rintro key hkey _ ⟨⟩
    exact hsorted.2.2 key hkey separator mem_cons_self
  · have hcapped := (Tree.ordered_inner.mp hordered).2
    rw [map_append, map_cons, capped_append, capped_cons] at hcapped
    exact hcapped.2.1
  · simp
  · simp [Tree.rows_inner]
  · simp [Tree.leaves_inner]

/-- How a changed node is stored: as it is, or split by kind. -/
lemma btreeSettle_eq_ok {split : Option BTreeSplit}
    (hrun : btreeSettle pager page node batch = (.ok split, batch')) :
    (∃ size, btreeNodeEncodedSize node = .ok size) ∧
      ((split = none ∧ ∃ result, btreeStage pager page node batch = (.ok result, batch')) ∨
        ∃ halves, split = some halves ∧
          ((node.kind = .leaf ∧ btreeSplitLeaf pager page node batch = (.ok halves, batch')) ∨
            node.kind = .internal ∧
              btreeSplitInternal pager page node batch = (.ok halves, batch'))) := by
  simp only [btreeSettle, bind_eq_ok, query_eq_ok] at hrun
  obtain ⟨size, _, ⟨hsize, rfl⟩, hrun⟩ := hrun
  refine ⟨⟨size, hsize⟩, ?_⟩
  split at hrun
  · simp only [bind_eq_ok, pure_eq_ok] at hrun
    obtain ⟨result, _, hstage, rfl, rfl⟩ := hrun
    exact .inl ⟨rfl, result, hstage⟩
  · split at hrun
    · simp at hrun
    · right
      cases hkind : node.kind with
      | leaf =>
        simp only [hkind, bind_eq_ok, pure_eq_ok] at hrun
        obtain ⟨halves, _, hsplit, rfl, rfl⟩ := hrun
        exact ⟨halves, rfl, .inl ⟨rfl, hsplit⟩⟩
      | internal =>
        simp only [hkind, bind_eq_ok, pure_eq_ok] at hrun
        obtain ⟨halves, _, hsplit, rfl, rfl⟩ := hrun
        exact ⟨halves, rfl, .inr ⟨rfl, hsplit⟩⟩

lemma btreeSettle_leaf {rows : List (Bytes × Bytes)} {split : Option BTreeSplit}
    (hok : BatchOk pager batch own) (hpage : page ∈ own) (hspan : Span lo hi)
    (hin : ∀ row ∈ rows, Within lo hi row.1)
    (hrun : btreeSettle pager page (cellNode (.leaf rows link)) batch = (.ok split, batch')) :
    ∃ (first : PageTree 0) (rest : List (Bytes × PageTree 0)) (new : List PageId),
      first.page = page ∧ split = splitOf rest ∧
        Grafted pager batch batch' own new [page] lo hi first rest ∧
        (first :: rest.map Prod.snd).flatMap Tree.rows = rows ∧
        Relink [{ page, rows, link }] ((first :: rest.map Prod.snd).flatMap Tree.leaves) := by
  obtain ⟨⟨size, hsize⟩, hcases⟩ := btreeSettle_eq_ok hrun
  have hsorted : SortedRows rows :=
    nodeSorted_leaf.mp (btreeNodeEncodedSize_eq_ok hsize).1.sorted
  rcases hcases with ⟨rfl, _, hstage⟩ | ⟨halves, rfl, ⟨_, hsplit⟩ | ⟨hkind, _⟩⟩
  · have hstaged := btreeStage_staged hok hpage hstage
    refine ⟨.leaf page rows link, [], [], rfl, rfl,
      ⟨hstaged.ok, hstaged.same, hstaged.reads, ?_, ?_, ⟨hspan, hsorted, hin⟩, by simp [Capped],
        by simp⟩, ?_, ?_⟩
    · simpa [Tree.cells, Cell.Branching] using hstaged.shows
    · simp
    · simp
    · simpa using Relink.refl _
  · exact btreeSplitLeaf_grafted hok hpage hsorted hin hsplit
  · simp [cellNode] at hkind

lemma btreeSettle_inner {split : Option BTreeSplit} (hok : BatchOk pager batch own)
    (hpage : page ∈ own) (hrest : rest ≠ [])
    (hbelow : ∀ other ∈ (first :: rest.map Prod.snd).flatMap Tree.pages, other ∈ own ∧ other ≠ page)
    (hshown : ∀ entry ∈ (first :: rest.map Prod.snd).flatMap Tree.cells,
      Shows pager batch entry.1 entry.2 ∧ entry.2.Branching)
    (hordered : (Tree.inner page first rest).Ordered lo hi)
    (hrun : btreeSettle pager page (cellNode (Tree.inner page first rest).cell) batch =
      (.ok split, batch')) :
    ∃ (first' : PageTree (h + 1)) (rest' : List (Bytes × PageTree (h + 1))) (new : List PageId),
      first'.page = page ∧ split = splitOf rest' ∧
        Grafted pager batch batch' own new (Tree.inner page first rest).pages lo hi first' rest' ∧
        (first' :: rest'.map Prod.snd).flatMap Tree.rows = (Tree.inner page first rest).rows ∧
        (first' :: rest'.map Prod.snd).flatMap Tree.leaves =
          (Tree.inner page first rest).leaves := by
  obtain ⟨⟨size, hsize⟩, hcases⟩ := btreeSettle_eq_ok hrun
  rcases hcases with ⟨rfl, _, hstage⟩ | ⟨halves, rfl, ⟨hkind, _⟩ | ⟨_, hsplit⟩⟩
  · have hstaged := btreeStage_staged hok hpage hstage
    refine ⟨.inner page first rest, [], [], rfl, rfl,
      ⟨hstaged.ok, hstaged.same, ?_, ?_, ?_, hordered, by simp [Capped], by simp⟩, ?_, ?_⟩
    · exact hstaged.reads.mono (by simp [Tree.pages_inner])
    · intro entry hentry
      rw [map_nil, flatMap_singleton, Tree.cells_inner, mem_cons] at hentry
      rcases hentry with rfl | hentry
      · exact ⟨hstaged.shows, by simpa [Cell.Branching] using hrest⟩
      · refine ⟨(hshown entry hentry).1.congr hstaged.reads ?_, (hshown entry hentry).2⟩
        rw [mem_singleton]
        exact (hbelow _ (Tree.fst_mem_pages hentry)).2
    · simp
    · simp
    · simp
  · simp [cellNode] at hkind
  · have hsorted : (rest.map Prod.fst).Pairwise (· < ·) := by
      simpa [map_map, Function.comp_def] using
        nodeSorted_inner.mp (btreeNodeEncodedSize_eq_ok hsize).1.sorted
    exact btreeSplitInternal_grafted hok hpage hbelow hshown hsorted hordered hsplit

/-- The node that is settled above a child: the child's split, if any, is a new
separator next to the child. -/
lemma settle_after_child {left : List (PageTree h × Bytes)} {child : PageTree h}
    {right : List (Bytes × PageTree h)} (hfirst : first.page = child.page)
    (hshort : rest.length ≤ 1) : (match splitOf rest with
      | none => btreeSettle pager page (cellNode (Context.frameCell left child.page right))
      | some split => btreeSettle pager page
          (btreeInternalInsert (cellNode (Context.frameCell left child.page right))
            left.length split.separator split.rightPage)) batch =
      btreeSettle pager page (cellNode (Tree.inner page (plug left first (rest ++ right)).1
        (plug left first (rest ++ right)).2).cell) batch := by
  rw [Context.cell_plug, hfirst]
  match rest with
  | [] => rfl
  | [(separator, next)] => simp only [splitOf, btreeInternalInsert_frameCell, cons_append,
      nil_append]
  | _ :: _ :: _ => simp at hshort

/-- Subtrees in place of a child leave its neighbours as they were. -/
lemma Grafted.beside {before after : BTreeBatch} {new : List PageId}
    {left : List (PageTree h × Bytes)} {child : PageTree h} {right : List (Bytes × PageTree h)}
    (hgraft : Grafted pager before after own new child.pages lo hi first rest)
    (hpages : ∀ other ∈ page :: (left.map Prod.fst ++ child :: right.map Prod.snd).flatMap
      Tree.pages, other ∈ own)
    (hnodup : (page :: (left.map Prod.fst ++ child :: right.map Prod.snd).flatMap Tree.pages).Nodup)
    (hshown : ∀ entry ∈ (left.map Prod.fst ++ child :: right.map Prod.snd).flatMap Tree.cells,
      Shows pager before entry.1 entry.2 ∧ entry.2.Branching) :
    let kids := left.map Prod.fst ++ first :: (rest ++ right).map Prod.snd
    (kids.flatMap Tree.pages).Perm
        (new ++ (left.map Prod.fst ++ child :: right.map Prod.snd).flatMap Tree.pages) ∧
      (∀ other ∈ kids.flatMap Tree.pages, other ∈ new ++ own ∧ other ≠ page) ∧
      ∀ entry ∈ kids.flatMap Tree.cells, Shows pager after entry.1 entry.2 ∧ entry.2.Branching := by
  intro kids
  have hownNodup : (new ++ own).Nodup := hgraft.ok.owns.nodup
  have hfresh : ∀ other ∈ own, other ∉ new := fun other hown hnew =>
    (List.nodup_append.mp hownNodup).2.2 other hnew other hown rfl
  have hkids : kids.flatMap Tree.pages =
      (left.map Prod.fst).flatMap Tree.pages ++
        ((first :: rest.map Prod.snd).flatMap Tree.pages ++
          (right.map Prod.snd).flatMap Tree.pages) := by
    simp [kids]
  have hperm : (kids.flatMap Tree.pages).Perm
      (new ++ (left.map Prod.fst ++ child :: right.map Prod.snd).flatMap Tree.pages) := by
    rw [hkids, flatMap_append, flatMap_cons, ← append_assoc new]
    refine ((hgraft.pages.append_right _).append_left _).trans ?_
    rw [append_assoc new, ← append_assoc _ new]
    exact List.perm_append_comm.append_right _
  refine ⟨hperm, fun other hother => ?_, fun entry hentry => ?_⟩
  · rcases List.mem_append.mp (hperm.mem_iff.mp hother) with hnew | hold
    · refine ⟨mem_append_left _ hnew, ?_⟩
      rintro rfl
      exact hfresh other (hpages other mem_cons_self) hnew
    · refine ⟨mem_append_right _ (hpages other (mem_cons_of_mem page hold)), ?_⟩
      rintro rfl
      exact (List.nodup_cons.mp hnodup).1 hold
  · have hmem : entry ∈ (first :: rest.map Prod.snd).flatMap Tree.cells ∨
        entry ∈ (left.map Prod.fst).flatMap Tree.cells ++
          (right.map Prod.snd).flatMap Tree.cells := by
      simp only [kids, flatMap_append, map_append, flatMap_cons,
        mem_append] at hentry ⊢
      tauto
    rcases hmem with hmem | hmem
    · exact hgraft.shown entry hmem
    · have hold : entry ∈ (left.map Prod.fst ++ child :: right.map Prod.snd).flatMap
          Tree.cells := by
        simp only [flatMap_append, flatMap_cons, mem_append] at hmem ⊢
        tauto
      refine ⟨(hshown entry hold).1.congr hgraft.reads ?_, (hshown entry hold).2⟩
      rw [mem_append, not_or]
      refine ⟨hfresh _ (hpages _ (mem_cons_of_mem page (Tree.fst_mem_pages hold))), ?_⟩
      -- The neighbours do not share a page with the child.
      have hsplit := (List.nodup_cons.mp hnodup).2
      rw [flatMap_append, flatMap_cons, nodup_append, nodup_append] at hsplit
      intro hchild
      rcases List.mem_append.mp hmem with hmem | hmem
      · exact hsplit.2.2 _ (Tree.fst_mem_pages hmem) _ (mem_append_left _ hchild) rfl
      · exact hsplit.2.1.2.2 _ hchild _ (Tree.fst_mem_pages hmem) rfl

/-- Insertion below a node: the subtree is replaced by one or two subtrees that
hold its rows with the new row written. -/
lemma btreeInsertRecursive_grafted {key value : Bytes} {fuel : Nat} {tree : PageTree h}
    {split : Option BTreeSplit} (hok : BatchOk pager batch own)
    (hpages : ∀ page ∈ tree.pages, page ∈ own) (hnodup : tree.pages.Nodup)
    (hshown : ∀ entry ∈ tree.cells, Shows pager batch entry.1 entry.2 ∧ entry.2.Branching)
    (hordered : tree.Ordered lo hi) (hkey : Within lo hi key)
    (hrun : btreeInsertRecursive pager key value fuel tree.page batch = (.ok split, batch')) :
    ∃ (first : PageTree h) (rest : List (Bytes × PageTree h)) (new : List PageId),
      first.page = tree.page ∧ split = splitOf rest ∧
        Grafted pager batch batch' own new tree.pages lo hi first rest ∧
        PutAt key value tree.rows ((first :: rest.map Prod.snd).flatMap Tree.rows) ∧
        Relink tree.leaves ((first :: rest.map Prod.snd).flatMap Tree.leaves) := by
  induction h generalizing fuel batch batch' own lo hi split with
  | zero =>
    obtain ⟨page, rows, link, rfl⟩ := tree.exists_leaf
    cases fuel with
    | zero => simp [btreeInsertRecursive] at hrun
    | succ fuel =>
      have hroot := (hshown _ mem_cons_self).1
      simp only [btreeInsertRecursive, readNodeM, bind_eq_ok, query_eq_ok] at hrun
      obtain ⟨node, _, ⟨hread, rfl⟩, hrun⟩ := hrun
      obtain rfl : cellNode (.leaf rows link) = node := hroot.eq_of_read hread
      obtain ⟨hspan, hsorted, hin⟩ := Tree.ordered_leaf.mp hordered
      obtain ⟨rows', hput, hputAt⟩ := btreeLeafPut_leaf link key value hsorted
      rw [show (cellNode (.leaf rows link)).kind = .leaf from rfl] at hrun
      simp only [hput] at hrun
      have hin' : ∀ row ∈ rows', Within lo hi row.1 := by
        intro row hrow
        rcases hputAt.mem hrow with rfl | hrow
        · exact hkey
        · exact hin row hrow
      obtain ⟨first, rest, new, hfirst, hsplit, hgraft, hrows, hrelink⟩ :=
        btreeSettle_leaf hok (hpages page (by simp)) hspan hin' hrun
      refine ⟨first, rest, new, hfirst, hsplit, hgraft, ?_, ?_⟩
      · rw [hrows]
        simpa using hputAt
      · exact ⟨hrelink.head, fun next hlinked => hrelink.linked next hlinked⟩
  | succ h ih =>
    obtain ⟨page, firstChild, restChildren, rfl⟩ := tree.exists_inner
    cases fuel with
    | zero => simp [btreeInsertRecursive] at hrun
    | succ fuel =>
      have hroot := hshown _ mem_cons_self
      simp only [btreeInsertRecursive, readNodeM, bind_eq_ok, query_eq_ok] at hrun
      obtain ⟨node, _, ⟨hread, rfl⟩, hrun⟩ := hrun
      obtain rfl : cellNode (Tree.inner page firstChild restChildren).cell = node :=
        hroot.1.eq_of_read hread
      obtain ⟨left, child, right, hplug, hindex, hleftKeys, hrightKeys⟩ :=
        exists_route page firstChild restChildren key hroot.1.sorted
      obtain ⟨rfl, rfl⟩ : (plug left child right).1 = firstChild ∧
          (plug left child right).2 = restChildren := by simp [hplug]
      rw [show (cellNode (Tree.inner page (plug left child right).1
        (plug left child right).2).cell).kind = .internal from rfl] at hrun
      simp only [← hindex, bind_eq_ok] at hrun
      obtain ⟨childSplit, batch₁, hchild, hsettle⟩ := hrun
      rw [Context.cell_plug, btreeChildAt_frameCell] at hchild
      rw [Tree.pages_inner, plug_kids] at hpages hnodup
      rw [Tree.ordered_inner, between_plug_child, plug_separators] at hordered
      obtain ⟨hordered, hcapped⟩ := hordered
      have hcappedRight := (capped_append.mp hcapped).2
      have hchildPages : ∀ other ∈ child.pages, other ∈
          (left.map Prod.fst ++ child :: right.map Prod.snd).flatMap Tree.pages := by
        intro other hother
        simp only [flatMap_append, flatMap_cons, mem_append]
        exact .inr (.inl hother)
      have hshownKids : ∀ entry ∈
          (left.map Prod.fst ++ child :: right.map Prod.snd).flatMap Tree.cells,
          Shows pager batch entry.1 entry.2 ∧ entry.2.Branching := by
        intro entry hentry
        refine hshown entry ?_
        rw [Tree.cells_inner, plug_kids]
        exact mem_cons_of_mem _ hentry
      have hchildCells : ∀ entry ∈ child.cells, entry ∈
          (left.map Prod.fst ++ child :: right.map Prod.snd).flatMap Tree.cells := by
        intro entry hentry
        simp only [flatMap_append, flatMap_cons, mem_append]
        exact .inr (.inl hentry)
      have hchildNodup : child.pages.Nodup := by
        have hkids := (List.nodup_cons.mp hnodup).2
        rw [flatMap_append, flatMap_cons, nodup_append, nodup_append] at hkids
        exact hkids.2.1.1
      obtain ⟨first, rest, new, hfirst, rfl, hgraft, hputAt, hrelink⟩ := ih hok
        (fun other hother => hpages other (mem_cons_of_mem page (hchildPages other hother)))
        hchildNodup (fun entry hentry => hshownKids entry (hchildCells entry hentry))
        hordered.2.1 (hkey.plug hleftKeys hrightKeys) hchild
      obtain ⟨hperm, hbelow, hshown'⟩ := hgraft.beside hpages hnodup hshownKids
      rw [Context.cell_plug] at hsettle
      have hsettle' := (settle_after_child hfirst hgraft.short).symm.trans hsettle
      rw [← plug_kids] at hbelow hshown' hperm
      have hrest : (plug left first (rest ++ right)).2 ≠ [] := by
        have hbranch : (plug left child right).2 ≠ [] := by
          simpa [Cell.Branching] using hroot.2
        rw [← length_pos_iff] at hbranch ⊢
        rw [plug_length] at hbranch ⊢
        rw [length_append]
        omega
      have hcapped' : Capped hi ((plug left first (rest ++ right)).2.map Prod.fst) := by
        rw [plug_separators, map_append, capped_append, capped_append]
        exact ⟨(capped_append.mp hcapped).1, hgraft.capped.of_firstBound hcappedRight, hcappedRight⟩
      obtain ⟨first', rest', new', hfirst', hsplit', hgraft', hrows', hleaves'⟩ :=
        btreeSettle_inner hgraft.ok
          (mem_append_right _ (hpages page mem_cons_self)) hrest hbelow hshown'
          (Tree.ordered_inner.mpr ⟨(between_plug left first rest right).mpr
            ⟨hordered.1, hgraft.ordered, hordered.2.2⟩, hcapped'⟩) hsettle'
      refine ⟨first', rest', new' ++ new, hfirst', hsplit', ⟨?_, ?_, ?_, hgraft'.shown, ?_,
        hgraft'.ordered, hgraft'.capped, hgraft'.short⟩, ?_, ?_⟩
      · rw [append_assoc]
        exact hgraft'.ok
      · exact hgraft.same.trans hgraft'.same
      · refine (hgraft.reads.trans hgraft'.reads).mono fun other hother => ?_
        rw [Tree.pages_inner, mem_append, mem_append, mem_append,
          mem_cons, hperm.mem_iff, mem_append] at hother
        rw [Tree.pages_inner, plug_kids, mem_append, mem_append, mem_cons]
        have := hchildPages other
        tauto
      · refine hgraft'.pages.trans ?_
        rw [Tree.pages_inner, Tree.pages_inner, plug_kids left child right, append_assoc]
        exact ((hperm.cons page).trans List.perm_middle.symm).append_left new'
      · rw [hrows', rows_plug]
        have hrows := rows_plug page left child [] right
        rw [nil_append] at hrows
        rw [hrows]
        simpa using hputAt.frame ((left.map Prod.fst).flatMap Tree.rows)
          ((right.map Prod.snd).flatMap Tree.rows)
      · rw [hleaves', leaves_plug]
        have hleaves := leaves_plug page left child [] right
        rw [nil_append] at hleaves
        rw [hleaves]
        simpa using (Relink.refl _).append (hrelink.append (Relink.refl _))

end ShibaDb
