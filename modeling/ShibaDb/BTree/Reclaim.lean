/-
Reclaim of emptied pages: a node left with one child is merged into a sibling,
shares the sibling's children, or, at the top, gives way to a lower root.
-/
import ShibaDb.BTree.Insert
import ShibaDb.BTree.Relink

namespace ShibaDb

open SepTree Fallible List

variable {pager : Pager} {batch batch' : BTreeBatch} {others : List PageId} {H h : Nat}
  {result : PUnit}

/-- The tree `context.fill tree` is in place except for the page of `tree`
itself, whose node is still to be written. -/
structure HoldsBut (pager : Pager) (batch : BTreeBatch) (others : List PageId) {H h : Nat}
    (context : Context Bytes Bytes PageId H h) (tree : PageTree h) : Prop where
  keeps : Keeps pager batch (tree.page :: others) (context.cells tree.page ++ tree.below)
  root : (context.fill tree).page = batch.rootPage
  ordered : (context.fill tree).Ordered none none
  linked : Linked (context.fill tree).leaves 0

lemma HoldsBut.stage {context : Context Bytes Bytes PageId H h} {tree : PageTree h}
    (hbut : HoldsBut pager batch others context tree) (hbranching : tree.cell.Branching)
    (hrun : btreeStage pager tree.page (cellNode tree.cell) batch = (.ok result, batch')) :
    HoldsTree pager batch' others (context.fill tree) ∧ SameBatch batch batch' := by
  obtain ⟨hkeeps, hsame⟩ := hbut.keeps.stage hbranching hrun
  refine ⟨(hkeeps.perm ?_).holdsTree (hbut.root.trans hsame.rootPage.symm) hbut.ordered
    hbut.linked, hsame⟩
  exact (context.cells_fill tree).trans perm_middle

lemma HoldsBut.path_eq_nil {context : Context Bytes Bytes PageId H h} {tree : PageTree h}
    (hbut : HoldsBut pager batch others context tree) (hroot : tree.page = batch.rootPage) :
    context.path = [] := by
  refine Context.path_eq_nil ?_ fun entry hentry =>
    hbut.keeps.loose_ne entry (mem_append_left _ hentry)
  rw [← Context.page_fill, hbut.root, hroot]

/-- Two neighbouring inner nodes with the children beside them. -/
structure Pair (h : Nat) where
  before : List (PageTree (h + 1) × Bytes)
  leftPage : PageId
  leftFirst : PageTree h
  leftRest : List (Bytes × PageTree h)
  separator : Bytes
  rightPage : PageId
  rightFirst : PageTree h
  rightRest : List (Bytes × PageTree h)
  after : List (Bytes × PageTree (h + 1))

namespace Pair

variable {page : PageId} {first : PageTree (h + 1)} {extra : List (Bytes × PageTree (h + 1))}
  {hi : Option Bytes} {pair : Pair h}

/-- The parent with `first` and `extra` in place of the two nodes. -/
def parent (pair : Pair h) (page : PageId) (first : PageTree (h + 1))
    (extra : List (Bytes × PageTree (h + 1))) : PageTree (h + 2) :=
  .inner page (plug pair.before first (extra ++ pair.after)).1
    (plug pair.before first (extra ++ pair.after)).2

def left (pair : Pair h) : PageTree (h + 1) :=
  .inner pair.leftPage pair.leftFirst pair.leftRest

def right (pair : Pair h) : PageTree (h + 1) :=
  .inner pair.rightPage pair.rightFirst pair.rightRest

@[simp]
lemma page_left (pair : Pair h) : pair.left.page = pair.leftPage := rfl

@[simp]
lemma page_right (pair : Pair h) : pair.right.page = pair.rightPage := rfl

/-- The children of both nodes under one. -/
def rest (pair : Pair h) : List (Bytes × PageTree h) :=
  pair.leftRest ++ (pair.separator, pair.rightFirst) :: pair.rightRest

def joined (pair : Pair h) (page : PageId) : PageTree (h + 1) :=
  .inner page pair.leftFirst pair.rest

def whole (pair : Pair h) (page : PageId) : PageTree (h + 2) :=
  pair.parent page pair.left [(pair.separator, pair.right)]

/-- The pages below the two nodes. -/
def kids (pair : Pair h) : List (PageId × NodeCell) :=
  (pair.leftFirst :: pair.rest.map Prod.snd).flatMap Tree.cells

/-- The pages of the other children of the parent. -/
def beside (pair : Pair h) : List (PageId × NodeCell) :=
  (pair.before.map Prod.fst ++ pair.after.map Prod.snd).flatMap Tree.cells

lemma below_parent (pair : Pair h) (page : PageId) (first : PageTree (h + 1))
    (extra : List (Bytes × PageTree (h + 1))) : (pair.parent page first extra).below.Perm
      ((first :: extra.map Prod.snd).flatMap Tree.cells ++ pair.beside) := by
  rw [parent, Tree.below_inner, plug_kids, beside]
  simp only [map_append, flatMap_append, flatMap_cons, append_assoc]
  refine (perm_append_comm_assoc ..).trans (List.Perm.append_left _ ?_)
  exact perm_append_comm_assoc ..

lemma branching_parent (pair : Pair h)
    (hcount : 0 < pair.before.length + (extra.length + pair.after.length)) :
    (pair.parent page first extra).cell.Branching := by
  rw [parent, Tree.cell_inner, Cell.Branching, ne_eq, map_eq_nil_iff]
  apply ne_nil_of_length_pos
  rwa [plug_length, length_append]

lemma ordered_parent (pair : Pair h) {lo : Option Bytes} :
    (pair.parent page first extra).Ordered lo hi ↔ (LeftOk Tree.Ordered lo pair.before ∧
        Between Tree.Ordered (lastBound lo pair.before) first extra
          (firstBound pair.after hi) ∧ RightOk Tree.Ordered pair.after hi) ∧
        Capped hi (pair.before.map Prod.snd) ∧ Capped hi (extra.map Prod.fst) ∧
          Capped hi (pair.after.map Prod.fst) := by
  rw [parent, Tree.ordered_inner, between_plug, plug_separators, map_append,
    capped_append, capped_append]

lemma leaves_parent (pair : Pair h) {first' : PageTree (h + 1)}
    {extra' : List (Bytes × PageTree (h + 1))}
    (hleaves : (first :: extra.map Prod.snd).flatMap Tree.leaves =
      (first' :: extra'.map Prod.snd).flatMap Tree.leaves) :
    (pair.parent page first extra).leaves = (pair.parent page first' extra').leaves := by
  simp only [parent, leaves_plug, hleaves]

lemma parent_single (pair : Pair h) (page : PageId) (first : PageTree (h + 1)) :
    pair.parent page first [] =
      .inner page (plug pair.before first pair.after).1 (plug pair.before first pair.after).2 :=
  rfl

/-- Trees that may take the place of the two nodes. -/
structure Replaces (pair : Pair h) (first : PageTree (h + 1))
    (extra : List (Bytes × PageTree (h + 1))) : Prop where
  leaves : (first :: extra.map Prod.snd).flatMap Tree.leaves =
    pair.left.leaves ++ pair.right.leaves
  ordered : ∀ lo hi, Capped hi [pair.separator] →
    Between Tree.Ordered lo pair.left [(pair.separator, pair.right)] hi →
    Between Tree.Ordered lo first extra hi ∧ Capped hi (extra.map Prod.fst)

lemma ordered_joined {lo : Option Bytes} (page : PageId) (hseparator : Capped hi [pair.separator])
    (hordered : Between Tree.Ordered lo pair.left [(pair.separator, pair.right)] hi) :
    (pair.joined page).Ordered lo hi := by
  obtain ⟨⟨hleft, hleftKeys⟩, hright, hrightKeys⟩ := hordered
  refine ⟨(between_append pair.leftRest pair.rightRest).mpr ⟨hleft, hright⟩, ?_⟩
  rw [rest, map_append, map_cons, capped_append, capped_cons]
  exact ⟨hleftKeys.trans hseparator, hseparator, hrightKeys⟩

lemma leaves_rest (pair : Pair h) :
    (pair.leftFirst :: pair.rest.map Prod.snd).flatMap Tree.leaves =
      pair.left.leaves ++ pair.right.leaves := by
  rw [left, right, Tree.leaves_inner, Tree.leaves_inner, rest]
  simp

lemma joined_replaces (pair : Pair h) (page : PageId) : pair.Replaces (pair.joined page) [] := by
  refine ⟨?_, fun lo hi hseparator hordered =>
    ⟨ordered_joined page hseparator hordered, by simp [Capped]⟩⟩
  simpa [joined, Tree.leaves_inner] using pair.leaves_rest

lemma divided_replaces {left right : List (Bytes × PageTree h)} {key : Bytes} {next : PageTree h}
    (hrest : pair.rest = left ++ (key, next) :: right)
    (hsorted : (pair.rest.map Prod.fst).Pairwise (· < ·)) :
    pair.Replaces (.inner pair.leftPage pair.leftFirst left)
      [(key, .inner pair.rightPage next right)] := by
  refine ⟨?_, fun lo hi hseparator hordered => ?_⟩
  · rw [← leaves_rest, hrest]
    simp [Tree.leaves_inner]
  · obtain ⟨hwhole, hcapped⟩ := ordered_joined pair.leftPage hseparator hordered
    rw [hrest, between_append] at hwhole
    rw [hrest, map_append, map_cons, capped_append, capped_cons] at hcapped
    rw [hrest, map_append, map_cons, pairwise_append] at hsorted
    refine ⟨⟨⟨hwhole.1, ?_⟩, hwhole.2, hcapped.2.2⟩, hcapped.2.1⟩
    rintro item hitem _ ⟨⟩
    exact hsorted.2.2 item hitem key mem_cons_self

/-- The separators of the parent are sorted, so the one between the two nodes is
below what bounds the right one. -/
lemma capped_separator (page : PageId) (hsorted : NodeSorted (cellNode (pair.whole page).cell))
    (hcapped : Capped hi [pair.separator]) :
    Capped (firstBound pair.after hi) [pair.separator] := by
  cases hafter : pair.after with
  | nil => exact hcapped
  | cons head after =>
    rw [whole, parent, Tree.cell_inner, nodeSorted_inner, map_map,
      show (Prod.fst ∘ fun child : Bytes × PageTree (h + 1) => (child.1, child.2.page)) =
        Prod.fst from rfl, plug_separators, hafter, pairwise_append] at hsorted
    rintro key hkey _ ⟨⟩
    obtain rfl : key = pair.separator := by simpa using hkey
    exact (List.pairwise_cons.mp hsorted.2.1).1 head.1 (by simp)

end Pair

/-- The tree is in place except for the pages of the two nodes of the pair. -/
structure HoldsPair (pager : Pager) (batch : BTreeBatch) (others : List PageId) {H h : Nat}
    (outer : Context Bytes Bytes PageId H (h + 2)) (page : PageId) (pair : Pair h) : Prop where
  keeps : Keeps pager batch (pair.leftPage :: pair.rightPage :: others)
    (outer.cells page ++ (page, (pair.whole page).cell) :: (pair.kids ++ pair.beside))
  root : (outer.fill (pair.whole page)).page = batch.rootPage
  ordered : (outer.fill (pair.whole page)).Ordered none none
  linked : Linked (outer.fill (pair.whole page)).leaves 0

section Pair

variable {outer : Context Bytes Bytes PageId H (h + 2)} {page : PageId} {pair : Pair h}
  {first : PageTree (h + 1)} {extra : List (Bytes × PageTree (h + 1))}

lemma Pair.Replaces.leaves_fill (hreplaces : pair.Replaces first extra)
    (outer : Context Bytes Bytes PageId H (h + 2)) (page : PageId) :
    (outer.fill (pair.parent page first extra)).leaves = (outer.fill (pair.whole page)).leaves := by
  have hleaves : (pair.parent page first extra).leaves = (pair.whole page).leaves :=
    pair.leaves_parent (by simpa using hreplaces.leaves)
  rw [Context.leaves_fill, Context.leaves_fill, hleaves]

section

variable (hpair : HoldsPair pager batch others outer page pair)

include hpair

/-- Once the replacements are written, only the parent is left to write. -/
lemma HoldsPair.replace
    (hreplaces : pair.Replaces first extra) (hsame : SameBatch batch batch')
    (hkeeps : Keeps pager batch' others (outer.cells page ++ (page, (pair.whole page).cell) ::
      ((first :: extra.map Prod.snd).flatMap Tree.cells ++ pair.beside))) :
    HoldsBut pager batch' others outer (pair.parent page first extra) := by
  refine ⟨?_, ?_, ?_, ?_⟩
  · refine (hkeeps.perm List.perm_middle.symm).forget.perm ?_
    exact (pair.below_parent page first extra).append_left _
  · rw [Context.page_fill, hsame.rootPage, ← hpair.root, Context.page_fill]
    rfl
  · have hordered := hpair.ordered
    rw [Context.ordered_fill, Pair.whole, Pair.ordered_parent] at hordered
    obtain ⟨houter, ⟨hbefore, hboth, hafter⟩, hbeforeKeys, hseparator, hafterKeys⟩ := hordered
    have hparent := (hpair.keeps.shown (page, (pair.whole page).cell) (by simp)).1
    obtain ⟨hbetween, hextra⟩ := hreplaces.ordered _ _
      (Pair.capped_separator page hparent.sorted hseparator) hboth
    rw [Context.ordered_fill, Pair.ordered_parent]
    exact ⟨houter, ⟨hbefore, hbetween, hafter⟩, hbeforeKeys, hextra.of_firstBound hafterKeys,
      hafterKeys⟩
  · rw [hreplaces.leaves_fill outer page]
    exact hpair.linked

lemma HoldsPair.path_eq_nil
    (hroot : page = batch.rootPage) : outer.path = [] := by
  have hkeeps := (hpair.keeps.perm List.perm_middle.symm).forget
  refine Context.path_eq_nil ?_ fun entry hentry =>
    hkeeps.loose_ne entry (mem_append_left _ hentry)
  have hfill := outer.page_fill (pair.whole page)
  rw [hpair.root, ← hroot] at hfill
  exact hfill.symm

/-- Both nodes merged into the page `keep`, the page `drop` freed. -/
lemma HoldsPair.merge {batch₁ batch₂ : BTreeBatch} {keep drop : PageId} {result' : PUnit}
    (hpages : [keep, drop].Perm [pair.leftPage, pair.rightPage])
    (hstage : btreeStage pager keep (cellNode (pair.joined keep).cell) batch = (.ok result, batch₁))
    (hfree : onTxn (txnFree pager drop)
      { batch₁ with items := batch₁.items.eraseP (·.pageId = drop) } = (.ok result', batch₂)) :
    HoldsBut pager batch₂ others outer (pair.parent page (pair.joined keep) []) ∧
      SameBatch batch batch₂ := by
  have hbranching : (pair.joined keep).cell.Branching := by
    simp [Pair.joined, Pair.rest, Cell.Branching]
  obtain ⟨hkeeps₁, hsame₁⟩ :=
    (hpair.keeps.perm_loose (hpages.append_right others)).stage hbranching hstage
  obtain ⟨hkeeps₂, hsame₂⟩ := hkeeps₁.free hfree
  refine ⟨hpair.replace (pair.joined_replaces keep) (hsame₁.trans hsame₂)
    (hkeeps₂.perm ?_), hsame₁.trans hsame₂⟩
  have hcells : (pair.joined keep).cells = (keep, (pair.joined keep).cell) :: pair.kids := rfl
  simp only [map_nil, flatMap_singleton, hcells, cons_append]
  exact ((List.Perm.swap _ _ _).append_left _).trans perm_middle

end

lemma perm_two_out {α : Type} (outer : List α) (parent left : α) (leftKids : List α)
    (right : α) (rightKids beside : List α) :
    (outer ++ parent :: left :: (leftKids ++ right :: (rightKids ++ beside))).Perm
      (right :: left :: (outer ++ parent :: (leftKids ++ (rightKids ++ beside)))) := by
  have hright : (outer ++ parent :: left :: (leftKids ++ right :: (rightKids ++ beside))).Perm
      (outer ++ ([parent, left, right] ++ (leftKids ++ (rightKids ++ beside)))) :=
    ((List.perm_middle.cons left).cons parent).append_left outer
  have hout := perm_append_comm_assoc outer [parent, left, right]
    (leftKids ++ (rightKids ++ beside))
  have horder : ([parent, left, right] ++ (outer ++ (leftKids ++ (rightKids ++ beside)))).Perm
      (right :: left :: parent :: (outer ++ (leftKids ++ (rightKids ++ beside)))) :=
    (reverse_perm [parent, left, right]).symm.append_right _
  exact (hright.trans hout).trans (horder.trans ((List.perm_middle.symm.cons left).cons right))

/-- The children dealt out again between the two pages. -/
lemma HoldsPair.divide {batch₁ batch₂ : BTreeBatch} {result' : PUnit}
    {left right : List (Bytes × PageTree h)} {key : Bytes} {next : PageTree h}
    (hpair : HoldsPair pager batch others outer page pair)
    (hrest : pair.rest = left ++ (key, next) :: right)
    (hsorted : (pair.rest.map Prod.fst).Pairwise (· < ·)) (hleft : left ≠ []) (hright : right ≠ [])
    (hstage : btreeStage pager pair.leftPage
      (cellNode (Tree.inner pair.leftPage pair.leftFirst left).cell) batch = (.ok result, batch₁))
    (hstage' : btreeStage pager pair.rightPage
      (cellNode (Tree.inner pair.rightPage next right).cell) batch₁ = (.ok result', batch₂)) :
    HoldsBut pager batch₂ others outer (pair.parent page (.inner pair.leftPage pair.leftFirst left)
      [(key, .inner pair.rightPage next right)]) ∧ SameBatch batch batch₂ := by
  obtain ⟨hkeeps₁, hsame₁⟩ := hpair.keeps.stage (by simpa [Cell.Branching] using hleft) hstage
  obtain ⟨hkeeps₂, hsame₂⟩ := hkeeps₁.stage (by simpa [Cell.Branching] using hright) hstage'
  refine ⟨hpair.replace (Pair.divided_replaces hrest hsorted) (hsame₁.trans hsame₂)
    (hkeeps₂.perm ?_), hsame₁.trans hsame₂⟩
  have hkids : pair.kids = (Tree.inner pair.leftPage pair.leftFirst left).below ++
      (Tree.inner pair.rightPage next right).below := by
    simp [Pair.kids, hrest, Tree.below_inner]
  simp only [hkids, map_cons, map_nil, flatMap_cons, flatMap_nil,
    append_nil, append_assoc, cons_append, Tree.cells]
  exact perm_two_out ..

end Pair

/-- One node of the pair has lost its separators; `siblingPage` and `sibling`
are the other one.  The fields say what the code computes from the slot. -/
structure Pair.Hollow (pair : Pair h) (slot : Nat) (nodePage survivorPage siblingPage : PageId)
    (sibling : NodeCell) : Prop where
  pages : [siblingPage, nodePage].Perm [pair.leftPage, pair.rightPage]
  separator : separatorSlot slot = pair.before.length
  child : ∀ page,
    btreeChildAt (cellNode (pair.whole page).cell) (siblingSlot slot) = siblingPage
  combined : ∀ page, combineSibling (decide (slot ≥ 1)) pair.separator (cellNode sibling)
    survivorPage = cellNode (pair.joined page).cell
  removed : ∀ page, btreeRemoveChild (cellNode (pair.whole page).cell) slot =
    cellNode (pair.parent page (pair.joined siblingPage) []).cell
  leftPage : (if slot ≥ 1 then siblingPage else nodePage) = pair.leftPage
  rightPage : (if slot ≥ 1 then nodePage else siblingPage) = pair.rightPage

lemma Pair.cell_whole (pair : Pair h) (page : PageId) :
    (pair.whole page).cell = Context.frameCell pair.before pair.leftPage
      ((pair.separator, pair.right) :: pair.after) :=
  Context.cell_plug page pair.before pair.left _

lemma Pair.cell_whole_right (pair : Pair h) (page : PageId) :
    (pair.whole page).cell = Context.frameCell
      (pair.before ++ [(pair.left, pair.separator)]) pair.rightPage pair.after := by
  rw [cell_whole, Context.frameCell, Context.frameCell]
  simp [plug_append, plug, Pair.left, Pair.right]

lemma Pair.hollow_right (pair : Pair h) (hrest : pair.rightRest = []) :
    pair.Hollow (pair.before.length + 1) pair.rightPage pair.rightFirst.page pair.leftPage
      pair.left.cell := by
  refine ⟨List.Perm.refl _, rfl, fun page => ?_, fun page => ?_, fun page => ?_, rfl, rfl⟩
  · rw [cell_whole]
    exact btreeChildAt_frameCell ..
  · simp [combineSibling, Pair.left, Pair.joined, Pair.rest, hrest, cellNode, childEntry]
  · rw [cell_whole_right, btreeRemoveChild_previous, parent_single, Context.cell_plug]
    rfl

lemma Pair.hollow_left (pair : Pair h) (hbefore : pair.before = []) (hrest : pair.leftRest = []) :
    pair.Hollow 0 pair.leftPage pair.leftFirst.page pair.rightPage pair.right.cell := by
  refine ⟨List.Perm.swap _ _ _, by simp [separatorSlot, hbefore], fun page => ?_,
    fun page => ?_, fun page => ?_, rfl, rfl⟩
  · rw [cell_whole, hbefore]
    rfl
  · simp [combineSibling, Pair.right, Pair.joined, Pair.rest, hrest, cellNode, childEntry]
  · rw [cell_whole, hbefore, btreeRemoveChild_first, parent_single, Context.cell_plug, hbefore]
    rfl

lemma Pair.kids_eq (pair : Pair h) : pair.kids = pair.left.below ++ pair.right.below := by
  simp [Pair.kids, Pair.rest, Pair.left, Pair.right, Tree.below_inner]

lemma Pair.whole_right (pair : Pair h) (page : PageId) : pair.whole page =
      .inner page (plug (pair.before ++ [(pair.left, pair.separator)]) pair.right pair.after).1
        (plug (pair.before ++ [(pair.left, pair.separator)]) pair.right pair.after).2 := by
  rw [whole, parent, plug_append]
  rfl

section Sibling

variable {outer : Context Bytes Bytes PageId H (h + 2)} {page : PageId} {pair : Pair h}

lemma perm_sibling_out {α : Type} (outer : List α) (parent sibling : α)
    (before kids after survivor : List α) :
    (outer ++ parent :: (before ++ sibling :: (kids ++ after)) ++ survivor).Perm
      (sibling :: (outer ++ parent :: (kids ++ survivor ++ (before ++ after)))) := by
  classical
  rw [perm_iff_count]
  intro item
  simp only [count_append, count_cons]
  omega

/-- The right node is the one without separators. -/
lemma HoldsBut.holdsPair_right (pair : Pair h) (hbut : HoldsBut pager batch others
      (.inside outer page (pair.before ++ [(pair.left, pair.separator)]) pair.after) pair.right) :
    Shows pager batch pair.leftPage pair.left.cell ∧
      HoldsPair pager batch others outer page pair := by
  have hfill : (Context.inside outer page (pair.before ++ [(pair.left, pair.separator)])
      pair.after).fill pair.right = outer.fill (pair.whole page) := by
    rw [Context.fill, pair.whole_right]
  have hcells : ((pair.leftPage, pair.left.cell) :: (outer.cells page ++
      (page, (pair.whole page).cell) :: (pair.kids ++ pair.beside))).Perm
      ((Context.inside outer page (pair.before ++ [(pair.left, pair.separator)])
        pair.after).cells pair.rightPage ++ pair.right.below) := by
    rw [pair.kids_eq, pair.cell_whole_right, Context.cells, Pair.beside]
    simpa [Tree.cells] using (perm_sibling_out (outer.cells page) _ _
      ((pair.before.map Prod.fst).flatMap Tree.cells) pair.left.below
      ((pair.after.map Prod.snd).flatMap Tree.cells) pair.right.below).symm
  have hkeeps := hbut.keeps.perm hcells
  exact ⟨(hkeeps.shown _ mem_cons_self).1, hkeeps.forget, hfill ▸ hbut.root,
    hfill ▸ hbut.ordered, hfill ▸ hbut.linked⟩

/-- The left node is the one without separators, and the first child. -/
lemma HoldsBut.holdsPair_left (pair : Pair h) (hbefore : pair.before = [])
    (hbut : HoldsBut pager batch others
      (.inside outer page [] ((pair.separator, pair.right) :: pair.after)) pair.left) :
    Shows pager batch pair.rightPage pair.right.cell ∧
      HoldsPair pager batch others outer page pair := by
  have hfill : (Context.inside outer page [] ((pair.separator, pair.right) ::
      pair.after)).fill pair.left = outer.fill (pair.whole page) := by
    rw [Context.fill, Pair.whole, Pair.parent, hbefore]
    rfl
  have hcells : ((pair.rightPage, pair.right.cell) :: (outer.cells page ++
      (page, (pair.whole page).cell) :: (pair.kids ++ pair.beside))).Perm
      ((Context.inside outer page [] ((pair.separator, pair.right) :: pair.after)).cells
        pair.leftPage ++ pair.left.below) := by
    rw [pair.kids_eq, pair.cell_whole, Context.cells, Pair.beside, hbefore]
    have hswap : (pair.left.below ++ pair.right.below).Perm
        (pair.right.below ++ pair.left.below) := perm_append_comm
    have hsibling := perm_sibling_out (outer.cells page)
      (page, Context.frameCell [] pair.leftPage ((pair.separator, pair.right) :: pair.after))
      (pair.rightPage, pair.right.cell) [] pair.right.below
      ((pair.after.map Prod.snd).flatMap Tree.cells) pair.left.below
    refine (((hswap.append_right _).cons _).append_left _).cons _ |>.trans ?_
    simpa [Tree.cells] using hsibling.symm
  have hkeeps := hbut.keeps.perm hcells
  exact ⟨(hkeeps.shown _ mem_cons_self).1,
    hkeeps.forget.perm_loose (List.Perm.swap _ _ _), hfill ▸ hbut.root,
    hfill ▸ hbut.ordered, hfill ▸ hbut.linked⟩

/-- A node without separators has a sibling, unless its parent has none either. -/
lemma HoldsBut.exists_pair {nodePage : PageId} {left : List (PageTree (h + 1) × Bytes)}
    {right : List (Bytes × PageTree (h + 1))} {survivor : PageTree h}
    (hbut : HoldsBut pager batch others (.inside outer page left right)
      (.inner nodePage survivor []))
    (hne : left.length + right.length ≠ 0) :
    ∃ (pair : Pair h) (siblingPage : PageId) (sibling : NodeCell),
      pair.whole page = .inner page (plug left (.inner nodePage survivor []) right).1
        (plug left (.inner nodePage survivor []) right).2 ∧
      pair.Hollow left.length nodePage survivor.page siblingPage sibling ∧
      Shows pager batch siblingPage sibling ∧ HoldsPair pager batch others outer page pair := by
  rcases eq_nil_or_concat left with rfl | ⟨before, ⟨sibling, separator⟩, rfl⟩
  · cases right with
    | nil => simp at hne
    | cons head after =>
      obtain ⟨separator, sibling⟩ := head
      obtain ⟨siblingPage, first, rest, rfl⟩ := sibling.exists_inner
      let pair : Pair h :=
        ⟨[], nodePage, survivor, [], separator, siblingPage, first, rest, after⟩
      exact ⟨pair, siblingPage, _, rfl, pair.hollow_left rfl rfl,
        HoldsBut.holdsPair_left pair rfl hbut⟩
  · obtain ⟨siblingPage, first, rest, rfl⟩ := sibling.exists_inner
    rw [concat_eq_append] at hbut ⊢
    let pair : Pair h :=
      ⟨before, siblingPage, first, rest, separator, nodePage, survivor, [], right⟩
    refine ⟨pair, siblingPage, _, pair.whole_right page, ?_, HoldsBut.holdsPair_right pair hbut⟩
    simpa using pair.hollow_right rfl

/-- The pair under the root, merged into the root page. -/
lemma HoldsPair.collapse {batch₁ batch₂ : BTreeBatch} {sibling node : PageId}
    {result' result'' : PUnit} (hpair : HoldsPair pager batch others .top page pair)
    (hpages : [sibling, node].Perm [pair.leftPage, pair.rightPage])
    (hbeside : pair.before = [] ∧ pair.after = [])
    (hstage : btreeStage pager page (cellNode (pair.joined page).cell) batch = (.ok result, batch₁))
    (hfree : onTxn (txnFree pager node)
      { batch₁ with items := batch₁.items.eraseP (·.pageId = node) } = (.ok result', batch₂))
    (hfree' : onTxn (txnFree pager sibling)
      { batch₂ with items := batch₂.items.eraseP (·.pageId = sibling) } = (.ok result'', batch')) :
    HoldsTree pager batch' others (pair.joined page) ∧ SameBatch batch batch' ∧
      (pair.joined page).leaves = (pair.whole page).leaves := by
  have hbranching : (pair.joined page).cell.Branching := by
    simp [Pair.joined, Pair.rest, Cell.Branching]
  have hwhole : pair.whole page = .inner page pair.left [(pair.separator, pair.right)] := by
    rw [Pair.whole, Pair.parent, hbeside.1, hbeside.2]
    rfl
  have hleaves : (pair.joined page).leaves = (pair.whole page).leaves := by
    rw [hwhole, Pair.joined, Tree.leaves_inner, pair.leaves_rest, Tree.leaves_inner]
    simp
  have hloose : (page :: node :: sibling :: others).Perm
      (page :: pair.leftPage :: pair.rightPage :: others) :=
    (((List.Perm.swap sibling node []).trans hpages).cons page).append_right others
  obtain ⟨hkeeps₁, hsame₁⟩ := (hpair.keeps.forget.perm_loose hloose).stage hbranching hstage
  obtain ⟨hkeeps₂, hsame₂⟩ := hkeeps₁.free hfree
  obtain ⟨hkeeps₃, hsame₃⟩ := hkeeps₂.free hfree'
  have hsame := (hsame₁.trans hsame₂).trans hsame₃
  have hordered := hpair.ordered
  rw [Context.fill, hwhole, Tree.ordered_inner] at hordered
  have hjoined := Pair.ordered_joined page (by simp [Capped]) hordered.1
  refine ⟨(hkeeps₃.perm ?_).holdsTree ?_ hjoined ?_, hsame, hleaves⟩
  · rw [Pair.beside, hbeside.1, hbeside.2]
    simp [Tree.cells, Pair.joined, Tree.below_inner, Pair.kids]
  · rw [hsame.rootPage, ← hpair.root]
    rfl
  · rw [hleaves]
    exact hpair.linked

end Sibling

/-- What a successful step of `sdb_btree_reclaim_internal_up` did. -/
inductive ReclaimStep (pager : Pager) (parentPage nodePage siblingPage : PageId)
    (nodeSlot : Nat) (outer : Path) (parent combined : BTreeNode)
    (batch batch' : BTreeBatch) : Prop
  | collapse {batch₁ batch₂ : BTreeBatch} {result₁ result₂ result₃ : PUnit}
      (hroot : parentPage = batch.rootPage) (hone : parent.entries.length = 1)
      (hstage : btreeStage pager parentPage combined batch = (.ok result₁, batch₁))
      (hfree : onTxn (txnFree pager nodePage)
        { batch₁ with items := batch₁.items.eraseP (·.pageId = nodePage) } =
          (.ok result₂, batch₂))
      (hfree' : onTxn (txnFree pager siblingPage)
        { batch₂ with items := batch₂.items.eraseP (·.pageId = siblingPage) } =
          (.ok result₃, batch'))
  | merge {batch₁ batch₂ : BTreeBatch} {result₁ result₂ result₃ : PUnit}
      (hstage : btreeStage pager siblingPage combined batch = (.ok result₁, batch₁))
      (hfree : onTxn (txnFree pager nodePage)
        { batch₁ with items := batch₁.items.eraseP (·.pageId = nodePage) } =
          (.ok result₂, batch₂))
      (hrest : (if (btreeRemoveChild parent nodeSlot).entries.length > 0 then
          btreeStage pager parentPage (btreeRemoveChild parent nodeSlot)
        else btreeReclaimInternalUp pager outer parentPage
          (btreeRemoveChild parent nodeSlot).firstChild) batch₂ = (.ok result₃, batch'))
  | divide {result₁ : PUnit} {size : Nat}
      (hsize : btreeNodeEncodedSize combined = .ok size)
      (hrun : btreeRedistribute pager parentPage
        (if nodeSlot ≥ 1 then siblingPage else nodePage)
        (if nodeSlot ≥ 1 then nodePage else siblingPage)
        parent combined (separatorSlot nodeSlot) batch = (.ok result₁, batch'))

lemma btreeReclaimInternalUp_eq_ok {parentPage nodePage survivorPage : PageId}
    {nodeSlot : Nat} {outer : Path}
    (hrun : btreeReclaimInternalUp pager ((parentPage, nodeSlot) :: outer) nodePage
      survivorPage batch = (.ok result, batch')) :
    ∃ parent sibling, btreeBatchReadNode pager batch parentPage = .ok parent ∧
      parent.entries.length ≠ 0 ∧
      btreeBatchReadNode pager batch (btreeChildAt parent (siblingSlot nodeSlot)) = .ok sibling ∧
      ReclaimStep pager parentPage nodePage (btreeChildAt parent (siblingSlot nodeSlot))
        nodeSlot outer parent (combineSibling (decide (nodeSlot ≥ 1))
          ((parent.entries[separatorSlot nodeSlot]?.map BTreeEntry.key).getD []) sibling
          survivorPage) batch batch' := by
  simp only [btreeReclaimInternalUp, bind_eq_ok, query_eq_ok, Except.ok.injEq] at hrun
  obtain ⟨root, _, ⟨rfl, rfl⟩, hrun⟩ := hrun
  split at hrun
  · simp at hrun
  simp only [bind_eq_ok, readNodeM, query_eq_ok] at hrun
  obtain ⟨parent, _, ⟨hparent, rfl⟩, hrun⟩ := hrun
  split at hrun
  · simp at hrun
  rename_i hcount
  split at hrun
  · simp at hrun
  simp only [bind_eq_ok, query_eq_ok] at hrun
  obtain ⟨sibling, _, ⟨hsibling, rfl⟩, hrun⟩ := hrun
  split at hrun
  · simp at hrun
  simp only [bind_eq_ok, query_eq_ok] at hrun
  obtain ⟨size, _, ⟨hsize, rfl⟩, hrun⟩ := hrun
  refine ⟨parent, sibling, hparent, fun hzero => hcount (by simp [hzero]), hsibling, ?_⟩
  split at hrun
  · simp only [bind_eq_ok, btreeUnstage, update_eq_ok] at hrun
    obtain ⟨_, batch₁, hstage, _, _, rfl, _, batch₂, hfree, hrun⟩ := hrun
    by_cases hcollapse : parentPage = batch.rootPage ∧ parent.entries.length = 1
    · simp only [hcollapse, decide_true, Bool.and_self, ↓reduceIte, bind_eq_ok,
        update_eq_ok] at hstage hrun
      obtain ⟨_, _, rfl, hfree'⟩ := hrun
      exact .collapse hcollapse.1 hcollapse.2 (hcollapse.1 ▸ hstage) hfree hfree'
    · have hfalse : ¬(decide (parentPage = batch.rootPage) &&
          decide (parent.entries.length = 1)) = true := by simpa using hcollapse
      rw [if_neg hfalse] at hstage hrun
      exact .merge hstage hfree hrun
  · exact .divide hsize hrun

lemma btreeRedistribute_eq_ok {parentPage leftPage rightPage : PageId}
    {parent combined : BTreeNode} {sepSlot : Nat}
    (hrun : btreeRedistribute pager parentPage leftPage rightPage parent combined sepSlot batch =
      (.ok result, batch')) : ∃ middle batch₁ batch₂ result₁ result₂,
      internalSplitPoint (pagerPayloadCapacity pager) combined.entries = some middle ∧
      btreeStage pager leftPage (internalHalves combined middle).1 batch = (.ok result₁, batch₁) ∧
      btreeStage pager rightPage (internalHalves combined middle).2.2 batch₁ =
        (.ok result₂, batch₂) ∧ btreeStage pager parentPage
        { parent with
          entries := parent.entries.modify sepSlot fun entry =>
            { entry with key := (internalHalves combined middle).2.1.key } } batch₂ =
        (.ok result, batch') := by
  unfold btreeRedistribute at hrun
  cases hmiddle : internalSplitPoint (pagerPayloadCapacity pager) combined.entries with
  | none => simp [hmiddle] at hrun
  | some middle =>
    simp only [hmiddle, bind_eq_ok] at hrun
    obtain ⟨_, batch₁, hleft, _, batch₂, hright, hparent⟩ := hrun
    exact ⟨middle, batch₁, batch₂, _, _, rfl, hleft, hright, hparent⟩

lemma Pair.separator_at (pair : Pair h) (page : PageId) :
    ((cellNode (pair.whole page).cell).entries[pair.before.length]?.map BTreeEntry.key).getD
      [] = pair.separator := by
  rw [← List.getElem?_map, cell_whole, keys_frameCell]
  simp

/-- The parent after its children were dealt out again. -/
lemma Pair.cell_divided (pair : Pair h) (page : PageId) (left right : PageTree (h + 1))
    (key : Bytes) (hleft : left.page = pair.leftPage) (hright : right.page = pair.rightPage) :
    { cellNode (pair.whole page).cell with
      entries := (cellNode (pair.whole page).cell).entries.modify pair.before.length
        fun entry => { entry with key } } =
      cellNode (pair.parent page left [(key, right)]).cell := by
  have hparent : (pair.parent page left [(key, right)]).cell =
      Context.frameCell pair.before pair.leftPage ((key, right) :: pair.after) := by
    rw [← hleft]
    exact Context.cell_plug page pair.before left _
  rw [hparent, cell_whole]
  simp only [Context.frameCell, map_cons, hright, page_right, cellNode]
  rw [plug_modify _ _ _ pair.separator key, length_map,
    ListEdit.modify_map (f := childEntry) (fun entry => { entry with key })
      (fun item => (key, item.2)) fun _ => rfl]

/-- Dealing out the children of both nodes again. -/
lemma HoldsPair.redistribute {outer : Context Bytes Bytes PageId H (h + 2)}
    {page : PageId} {pair : Pair h} (hpair : HoldsPair pager batch others outer page pair)
    (hnode : NodeSorted (cellNode (pair.joined page).cell))
    (hrun : btreeRedistribute pager page pair.leftPage pair.rightPage
      (cellNode (pair.whole page).cell) (cellNode (pair.joined page).cell) pair.before.length
      batch = (.ok result, batch')) :
    ∃ tree' : PageTree H, HoldsTree pager batch' others tree' ∧ SameBatch batch batch' ∧
      tree'.leaves = (outer.fill (pair.whole page)).leaves := by
  obtain ⟨middle, batch₁, batch₂, _, _, hmiddle, hstage, hstage', hparent⟩ :=
    btreeRedistribute_eq_ok hrun
  obtain ⟨hlow, hhigh⟩ := internalSplitPoint_bounds hmiddle
  have hlength : middle + 1 < pair.rest.length := by
    simpa [Pair.joined, cellNode] using hhigh
  obtain ⟨left, ⟨key, next⟩, right, hrest, rfl⟩ :=
    exists_append_cons (Nat.lt_of_succ_lt hlength)
  have hleft : left ≠ [] := ne_nil_of_length_pos hlow
  have hright : right ≠ [] := by
    rintro rfl
    simp [hrest] at hlength
  have hhalves := internalHalves_inner pair.leftFirst.page next.page
    (left.map fun child => (child.1, child.2.page))
    (right.map fun child => (child.1, child.2.page)) key
  rw [length_map] at hhalves
  have hjoined : cellNode (pair.joined page).cell = cellNode (.inner pair.leftFirst.page
      ((left.map fun child => (child.1, child.2.page)) ++ (key, next.page) ::
        right.map fun child => (child.1, child.2.page))) := by
    simp [Pair.joined, hrest]
  rw [hjoined, hhalves] at hstage hstage' hparent
  have hsorted : (pair.rest.map Prod.fst).Pairwise (· < ·) := by
    simpa [Pair.joined, map_map, Function.comp_def] using nodeSorted_inner.mp hnode
  obtain ⟨hbut, hsame⟩ := hpair.divide hrest hsorted hleft hright hstage hstage'
  rw [show (childEntry (key, next.page)).key = key from rfl,
    pair.cell_divided page (.inner pair.leftPage pair.leftFirst left)
      (.inner pair.rightPage next right) key rfl rfl] at hparent
  obtain ⟨hholds, hsame'⟩ := hbut.stage (pair.branching_parent (by
    rw [length_singleton]
    omega)) hparent
  exact ⟨_, hholds, hsame.trans hsame',
    (Pair.divided_replaces hrest hsorted).leaves_fill outer page⟩

/-- A node without separators is repaired: the batch holds a tree with the same
leaves again. -/
lemma btreeReclaimInternalUp_holds {context : Context Bytes Bytes PageId H (h + 1)}
    {nodePage : PageId} {survivor : PageTree h}
    (hbut : HoldsBut pager batch others context (.inner nodePage survivor []))
    (hrun : btreeReclaimInternalUp pager context.path nodePage survivor.page batch =
      (.ok result, batch')) :
    ∃ (h' : Nat) (tree' : PageTree h'), HoldsTree pager batch' others tree' ∧
      SameBatch batch batch' ∧
      tree'.leaves = (context.fill (.inner nodePage survivor [])).leaves := by
  -- The path leads from the node to the root, so the induction climbs the tree.
  induction hpath : context.path generalizing h nodePage batch result with
  | nil =>
    rw [hpath] at hrun
    simp [btreeReclaimInternalUp] at hrun
  | cons frame path ih =>
    cases context with
    | top => simp [Context.path] at hpath
    | inside outer page left right =>
      obtain ⟨rfl, rfl⟩ := List.cons.inj hpath
      obtain ⟨parent, sibling, hparent, hcount, hsibling, hstep⟩ :=
        btreeReclaimInternalUp_eq_ok hrun
      obtain rfl := hbut.keeps.read
        (mem_append_left _ (Context.frameCell_mem_cells ..)) hparent
      rw [length_frameCell] at hcount
      obtain ⟨pair, siblingPage, siblingCell, hwhole, hhollow, hshows, hpair⟩ :=
        hbut.exists_pair hcount
      have hcell : Context.frameCell left nodePage right = (pair.whole page).cell := by
        rw [hwhole, Context.cell_plug]
        rfl
      rw [Tree.page_inner, hcell, hhollow.child] at hsibling hstep
      obtain rfl := hshows.eq_of_read hsibling
      rw [Context.fill, ← hwhole]
      rw [hhollow.separator, pair.separator_at] at hstep
      cases hstep with
      | collapse hroot hone hstage hfree hfree' =>
        have houter := hpair.path_eq_nil hroot
        cases outer with
        | inside => simp [Context.path] at houter
        | top =>
          rw [pair.cell_whole, length_frameCell, length_cons] at hone
          have hbeside : pair.before = [] ∧ pair.after = [] :=
            ⟨List.length_eq_zero_iff.mp (by omega), List.length_eq_zero_iff.mp (by omega)⟩
          rw [hhollow.combined page] at hstage
          obtain ⟨hholds, hsame, hleaves⟩ :=
            hpair.collapse hhollow.pages hbeside hstage hfree hfree'
          exact ⟨_, _, hholds, hsame, hleaves⟩
      | merge hstage hfree hrest =>
        rw [hhollow.combined siblingPage] at hstage
        obtain ⟨hbut', hsame⟩ := hpair.merge hhollow.pages hstage hfree
        have hleaves := (pair.joined_replaces siblingPage).leaves_fill outer page
        rw [hhollow.removed page] at hrest
        split at hrest
        · rename_i hentries
          obtain ⟨hholds, hsame'⟩ := hbut'.stage (branching_of_entries hentries) hrest
          exact ⟨_, _, hholds, hsame.trans hsame', hleaves⟩
        · rename_i hentries
          have hparent : pair.parent page (pair.joined siblingPage) [] =
              .inner page (pair.joined siblingPage) [] := by
            rw [pair.parent_single, Context.cell_plug, length_frameCell] at hentries
            have hbefore : pair.before = [] := List.length_eq_zero_iff.mp (by omega)
            have hafter : pair.after = [] := List.length_eq_zero_iff.mp (by omega)
            rw [pair.parent_single, hbefore, hafter]
            rfl
          rw [hparent] at hbut' hleaves hrest
          obtain ⟨h', tree', hholds, hsame', hleaves'⟩ := ih hbut' hrest rfl
          exact ⟨h', tree', hholds, hsame.trans hsame', hleaves'.trans hleaves⟩
      | divide hsize hrun =>
        rw [hhollow.leftPage, hhollow.rightPage, hhollow.combined page, hhollow.separator] at hrun
        rw [hhollow.combined page] at hsize
        obtain ⟨tree', hholds, hsame, hleaves⟩ :=
          hpair.redistribute (btreeNodeEncodedSize_eq_ok hsize).1.sorted hrun
        exact ⟨H, tree', hholds, hsame, hleaves⟩

end ShibaDb
