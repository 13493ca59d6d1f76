/-
What `sdb_btree_verify` vouches for: the pages it accepts are those of an ordered
tree whose leaves are chained in order, so that a walk along the chain and a lookup
answer from the same rows.
-/
import ShibaDb.BTree.Cursor
import ShibaDb.BTree.Verify

namespace ShibaDb

open SepTree Fallible List

section Sound

variable {pager : Pager} {h fuel : Nat} {lo hi : Option Bytes} {pageId : PageId}
  {node : BTreeNode} {before middle after : VerifyContext}
  {cells cells' : List (PageId × NodeCell)} {leaves leaves' : List (LeafPage Bytes Bytes PageId)}

lemma cellNode_of_leaf (hnode : NodeEncodable node) (hkind : node.kind = .leaf) :
    cellNode (.leaf (node.entries.map fun entry => (entry.key, entry.value))
      node.rightSibling) = node := by
  have hentries : (node.entries.map fun entry => (entry.key, entry.value)).map rowEntry =
      node.entries := by
    rw [map_map]
    refine (map_congr_left fun entry hentry => ?_).trans (map_id node.entries)
    have hform := hnode.entry entry hentry
    rw [hkind, entryWellFormed_leaf] at hform
    simp only [Function.comp_apply, rowEntry, ← hform.2.2.1, id_eq]
  rw [cellNode, hentries, ← hkind, ← hnode.leafFirst hkind]

lemma cellNode_of_internal (hnode : NodeEncodable node) (hkind : node.kind = .internal) :
    cellNode (.inner node.firstChild
      (node.entries.map fun entry => (entry.key, entry.rightChild))) = node := by
  have hentries : (node.entries.map fun entry => (entry.key, entry.rightChild)).map childEntry =
      node.entries := by
    rw [map_map]
    refine (map_congr_left fun entry hentry => ?_).trans (map_id node.entries)
    have hform := hnode.entry entry hentry
    rw [hkind, entryWellFormed_internal] at hform
    simp only [Function.comp_apply, childEntry, ← hform.2.2.2, id_eq]
  rw [cellNode, hentries, ← hkind, ← hnode.internalSibling hkind]

/-- What a stretch of the check has vouched for when it took `before` to `after`:
the pages it read, that they were new, and how their leaves are chained. -/
structure Vouched (pager : Pager) (cells : List (PageId × NodeCell))
    (leaves : List (LeafPage Bytes Bytes PageId)) (before after : VerifyContext) : Prop where
  read : ∀ entry ∈ cells, btreeReadNode pager entry.1 = .ok (cellNode entry.2)
  bounds : ∀ entry ∈ cells, entry.1 ≠ 0 ∧ entry.1.toNat < pager.superblock.nextPageId
  visited : after.visited.Perm (cells.map Prod.fst ++ before.visited)
  fresh : before.visited.Nodup → after.visited.Nodup
  linked : Linked leaves after.previousLeafSibling
  previous : before.havePreviousLeaf = true →
    before.previousLeafSibling = headPage leaves after.previousLeafSibling
  havePrevious : after.havePreviousLeaf = true
  depth : before.haveLeafDepth = true → before.leafDepth = after.leafDepth
  haveDepth : after.haveLeafDepth = true
  entries : after.entryCount = before.entryCount + (leaves.flatMap LeafPage.rows).length

/-- Two stretches of the check, one after the other. -/
lemma Vouched.append (hfirst : Vouched pager cells leaves before middle)
    (hsecond : Vouched pager cells' leaves' middle after) :
    Vouched pager (cells ++ cells') (leaves ++ leaves') before after where
  read := List.forall_mem_append.mpr ⟨hfirst.read, hsecond.read⟩
  bounds := List.forall_mem_append.mpr ⟨hfirst.bounds, hsecond.bounds⟩
  visited := by
    rw [map_append]
    refine hsecond.visited.trans ((hfirst.visited.append_left _).trans ?_)
    rw [append_assoc]
    exact perm_append_comm_assoc ..
  fresh := fun hbefore => hsecond.fresh (hfirst.fresh hbefore)
  linked := by
    rw [linked_append, ← hsecond.previous hfirst.havePrevious]
    exact ⟨hfirst.linked, hsecond.linked⟩
  previous := fun hbefore => by
    rw [headPage_append, ← hsecond.previous hfirst.havePrevious]
    exact hfirst.previous hbefore
  havePrevious := hsecond.havePrevious
  depth := fun hbefore => (hfirst.depth hbefore).trans (hsecond.depth hfirst.haveDepth)
  haveDepth := hsecond.haveDepth
  entries := by
    rw [hsecond.entries, hfirst.entries, flatMap_append, length_append, Nat.add_assoc]

/-- The node of an accepted page: in range, not met before, and inside its bounds. -/
lemma btreeVerifyNode_entered
    (hrun : btreeVerifyNode pager (fuel + 1) pageId lo hi before = (.ok ⟨⟩, after)) :
    ∃ node, (pageId ≠ 0 ∧ pageId.toNat < pager.superblock.nextPageId) ∧
      pageId ∉ before.visited ∧ btreeReadNode pager pageId = .ok node ∧
      ∀ entry ∈ node.entries, Within lo hi entry.key := by
  rw [btreeVerifyNode, bind_eq_ok] at hrun
  obtain ⟨seen, context, hquery, hrun⟩ := hrun
  obtain ⟨hseen, rfl⟩ := query_eq_ok.mp hquery
  split at hrun
  · exact (fail_eq_ok.mp hrun).elim
  next hguard =>
    simp only [← Except.ok.inj hseen, Bool.or_eq_true, decide_eq_true_eq, not_or, not_le,
      contains_iff_mem] at hguard
    rw [bind_eq_ok] at hrun
    obtain ⟨_, marked, _, hrun⟩ := hrun
    rw [bind_eq_ok] at hrun
    obtain ⟨node, context, hread, hrun⟩ := hrun
    rw [bind_eq_ok] at hrun
    obtain ⟨_, counted, _, hrun⟩ := hrun
    refine ⟨node, hguard.1, hguard.2, (query_eq_ok.mp hread).1, ?_⟩
    split at hrun
    · exact (fail_eq_ok.mp hrun).elim
    next hinside =>
      simp only [any_eq_true, Bool.or_eq_true, Bool.not_eq_true', not_exists, not_and,
        not_or, Bool.not_eq_false] at hinside
      intro entry hentry
      obtain ⟨hlow, hhigh⟩ := hinside entry hentry
      exact ⟨keyAtOrAbove_iff.mp hlow, keyBelow_iff.mp hhigh⟩

/-- An accepted leaf. -/
lemma verifyLeaf_sound {depth : Nat} (hnew : pageId ∉ before.visited)
    (hbounds : pageId ≠ 0 ∧ pageId.toNat < pager.superblock.nextPageId)
    {rows : List (Bytes × Bytes)} {link : PageId}
    (hread : btreeReadNode pager pageId = .ok (cellNode (.leaf rows link)))
    (hrun : verifyLeaf pageId depth (cellNode (.leaf rows link))
      (countNode (markVisited pageId before)) = (.ok ⟨⟩, after)) : after.leafDepth = depth ∧
      Vouched pager [(pageId, .leaf rows link)] [{ page := pageId, rows, link }] before after := by
  unfold verifyLeaf at hrun
  split at hrun
  · cases hrun
  next hprevious =>
    split at hrun
    · cases hrun
    next hdepth =>
      obtain rfl := (Prod.mk.inj hrun).2
      simp only [Bool.and_eq_true, decide_eq_true_eq, not_and, not_not] at hprevious hdepth
      refine ⟨rfl, by simpa using hread, by simpa using hbounds, List.Perm.refl _, ?_,
        ⟨rfl, trivial⟩, hprevious, rfl, hdepth, rfl, ?_⟩
      · exact fun hbefore => List.nodup_cons.mpr ⟨hnew, hbefore⟩
      · simp [markLeaf, countNode, markVisited, cellNode]

/-- The accepted children of a node are trees of one height, each between the
separators around it. -/
lemma verifyChildren_sound
    (hverify : ∀ {child : PageId} {lo hi : Option Bytes} {before after : VerifyContext},
      Span lo hi → btreeVerifyNode pager fuel child lo hi before = (.ok ⟨⟩, after) →
      ∃ (h : Nat) (tree : PageTree h), tree.page = child ∧ tree.Ordered lo hi ∧ h < fuel ∧
        after.leafDepth + fuel = 65 + h ∧ Vouched pager tree.cells tree.leaves before after)
    {entries : List BTreeEntry} {child : PageId}
    (hsorted : (entries.map BTreeEntry.key).Pairwise (· < ·))
    (hinside : ∀ entry ∈ entries, Within lo hi entry.key) (hspan : Span lo hi)
    (hrun : verifyChildren (btreeVerifyNode pager fuel) lo child entries hi before =
      (.ok ⟨⟩, after)) : ∃ (h : Nat) (first : PageTree h) (rest : List (Bytes × PageTree h)),
      first.page = child ∧ (rest.map fun item => (item.1, item.2.page)) =
        entries.map (fun entry => (entry.key, entry.rightChild)) ∧
      Between Tree.Ordered lo first rest hi ∧ h < fuel ∧ after.leafDepth + fuel = 65 + h ∧
      Vouched pager ((first :: rest.map Prod.snd).flatMap Tree.cells)
        ((first :: rest.map Prod.snd).flatMap Tree.leaves) before after := by
  induction entries generalizing lo child before with
  | nil =>
    obtain ⟨h, tree, hpage, hordered, hheight, hdepth, hvouched⟩ := hverify hspan hrun
    refine ⟨h, tree, [], hpage, rfl, hordered, hheight, hdepth, ?_⟩
    simpa using hvouched
  | cons entry entries ih =>
    rw [verifyChildren, bind_eq_ok] at hrun
    obtain ⟨_, middle, hfirst, hrest⟩ := hrun
    rw [map_cons, pairwise_cons] at hsorted
    obtain ⟨hlow, hhigh⟩ := hinside entry mem_cons_self
    have hspanLeft : Span lo (some entry.key) := by
      rintro low hlo _ ⟨⟩
      exact hlow low hlo
    have hspanRight : Span (some entry.key) hi := by
      rintro _ ⟨⟩ high hhi
      exact le_of_lt (hhigh high hhi)
    have hinsideRest : ∀ other ∈ entries, Within (some entry.key) hi other.key := by
      intro other hother
      refine ⟨?_, (hinside other (mem_cons_of_mem _ hother)).2⟩
      rintro _ ⟨⟩
      exact le_of_lt (hsorted.1 _ (mem_map_of_mem hother))
    obtain ⟨h, first, hpage, hordered, hheight, hdepth, hvouched⟩ := hverify hspanLeft hfirst
    obtain ⟨h', second, rest, hpage', hrestPages, hbetween, _, hdepth', hvouched'⟩ :=
      ih hsorted.2 hinsideRest hspanRight hrest
    -- both stretches report the depth of their leaves, so the heights agree
    have hsame := hvouched'.depth hvouched.haveDepth
    obtain rfl : h = h' := by omega
    refine ⟨h, first, (entry.key, second) :: rest, hpage, ?_, ⟨hordered, hbetween⟩, hheight,
      hdepth', ?_⟩
    · rw [map_cons, map_cons, hpage', hrestPages]
    · exact hvouched.append hvouched'

/-- An accepted page is the root of a tree inside its bounds. -/
lemma btreeVerifyNode_sound (hfuel : fuel ≤ 64) (hspan : Span lo hi)
    (hrun : btreeVerifyNode pager fuel pageId lo hi before = (.ok ⟨⟩, after)) :
    ∃ (h : Nat) (tree : PageTree h), tree.page = pageId ∧ tree.Ordered lo hi ∧ h < fuel ∧
      after.leafDepth + fuel = 65 + h ∧ Vouched pager tree.cells tree.leaves before after := by
  induction fuel generalizing pageId lo hi before after with
  | zero => exact (fail_eq_ok.mp hrun).elim
  | succ fuel ih =>
    obtain ⟨node, hbounds, hnew, hread, hinside⟩ := btreeVerifyNode_entered hrun
    have hencodable := btreeReadNode_encodable hread
    have hchecks : (node.entries.any fun entry =>
        !keyAtOrAbove entry.key lo || !keyBelow entry.key hi) = false := by
      rw [any_eq_false]
      intro entry hentry
      obtain ⟨hlow, hhigh⟩ := hinside entry hentry
      simp [keyAtOrAbove_iff.mpr hlow, keyBelow_iff.mpr hhigh]
    rw [btreeVerifyNode_enter hbounds hnew hread hchecks] at hrun
    cases hkind : node.kind with
    | leaf =>
      rw [hkind] at hrun
      have hcell := cellNode_of_leaf hencodable hkind
      rw [← hcell] at hrun hread
      obtain ⟨hdepth, hvouched⟩ := verifyLeaf_sound hnew hbounds hread hrun
      refine ⟨0, .leaf pageId _ node.rightSibling, rfl, ⟨hspan, ?_, ?_⟩, Nat.succ_pos fuel,
        by omega, hvouched⟩
      · have hsorted := hencodable.sorted
        simpa [SortedRows, Function.comp_def] using hsorted
      · intro row hrow
        obtain ⟨entry, hentry, rfl⟩ := List.mem_map.mp hrow
        exact hinside entry hentry
    | internal =>
      rw [hkind] at hrun
      simp only at hrun
      split at hrun
      · exact (fail_eq_ok.mp hrun).elim
      obtain ⟨h, first, rest, hfirst, hrest, hbetween, hheight, hdepth, hvouched⟩ :=
        verifyChildren_sound (fun hspan hrun => ih (by omega) hspan hrun) hencodable.sorted
          hinside hspan hrun
      have hcell : cellNode (Tree.inner pageId first rest).cell = node := by
        rw [Tree.cell_inner, hfirst, hrest]
        exact cellNode_of_internal hencodable hkind
      have hcapped : Capped hi (rest.map Prod.fst) := by
        have hkeys : rest.map Prod.fst = node.entries.map BTreeEntry.key := by
          have hfsts := congrArg (List.map Prod.fst) hrest
          simpa [Function.comp_def] using hfsts
        rw [hkeys]
        intro key hkey
        obtain ⟨entry, hentry, rfl⟩ := List.mem_map.mp hkey
        exact (hinside entry hentry).2
      refine ⟨h + 1, .inner pageId first rest, rfl, ⟨hbetween, hcapped⟩,
        Nat.succ_lt_succ hheight, by omega, ?_⟩
      rw [Tree.cells_inner, Tree.leaves_inner]
      refine ⟨?_, ?_, ?_, ?_, hvouched.linked, hvouched.previous, hvouched.havePrevious,
        hvouched.depth, hvouched.haveDepth, hvouched.entries⟩
      · exact List.forall_mem_cons.mpr ⟨by rw [hcell]; exact hread, hvouched.read⟩
      · exact List.forall_mem_cons.mpr ⟨hbounds, hvouched.bounds⟩
      · exact hvouched.visited.trans perm_middle
      · exact fun hbefore => hvouched.fresh (List.nodup_cons.mpr ⟨hnew, hbefore⟩)

/-- The pages an accepting check has seen are those of a tree, and it counted the
tree's rows. -/
lemma btreeVerify_readsTree {root : PageId} {result : VerifyResult}
    (hverify : btreeVerify pager root = .ok result) :
    ∃ (h : Nat) (tree : PageTree h), tree.page = root ∧ ReadsTree pager tree ∧
      tree.rows.length = result.entryCount := by
  simp only [btreeVerify, guard_eq_ok] at hverify
  obtain ⟨_, _, _, hverify⟩ := hverify
  split at hverify
  · cases hverify
  next context hrun =>
    obtain ⟨hend, hresult⟩ := guard_eq_ok.mp hverify
    obtain ⟨h, tree, hroot, hordered, hheight, _, hvouched⟩ :=
      btreeVerifyNode_sound le_rfl (by simp [Span]) hrun
    have hnodup : tree.pages.Nodup := by
      have hvisited := hvouched.visited.nodup_iff.mp (hvouched.fresh nodup_nil)
      simpa [VerifyContext.start, Tree.pages] using hvisited
    refine ⟨h, tree, hroot, ⟨hvouched.read, ?_, hnodup, hordered, ?_, hheight⟩, ?_⟩
    · intro page hpage
      obtain ⟨entry, hentry, rfl⟩ := List.mem_map.mp hpage
      exact hvouched.bounds entry hentry
    · rw [← not_not.mp hend]
      exact hvouched.linked
    · rw [← Except.ok.inj hresult, Tree.rows]
      simpa [VerifyContext.start] using hvouched.entries.symm

/-- Every row of a stored leaf has a key that can be looked up and a value of 32-bit
size. -/
lemma ReadsTree.row_lengths {tree : PageTree h} (hreads : ReadsTree pager tree)
    {row : Bytes × Bytes} (hrow : row ∈ tree.rows) :
    row.1.length ≠ 0 ∧ row.1.length ≤ uint16Max ∧ row.2.length ≤ uint32Max := by
  rw [Tree.rows] at hrow
  obtain ⟨leaf, hleaf, hrow⟩ := List.mem_flatMap.mp hrow
  have hencodable := btreeReadNode_encodable (hreads.leaf_read hleaf)
  have hform := hencodable.entry (rowEntry row) (mem_map_of_mem hrow)
  obtain ⟨hpos, hkey, _, hvalue⟩ := entryWellFormed_leaf.mp hform
  exact ⟨hpos, hkey, hvalue⟩

/-- A lookup that finds a value, with room for it. -/
lemma lookupAnswer_found_iff {answer : Option Bytes} {value : Bytes} {capacity : Nat}
    (hroom : value.length ≤ capacity) : ((lookupAnswer answer capacity).status = .ok () ∧
      (lookupAnswer answer capacity).value = value) ↔ answer = some value := by
  cases answer with
  | none => simp [lookupAnswer, Lookup.failed]
  | some stored =>
    rw [lookupAnswer, Lookup.found, Option.some.injEq]
    by_cases hsmall : capacity < stored.length
    · rw [if_pos hsmall]
      simp only [reduceCtorEq, false_and, false_iff]
      rintro rfl
      omega
    · rw [if_neg hsmall]
      simp

/-- All rows from the first one on, by a cursor with room for any row. -/
def btreeForwardRows (pager : Pager) (root : PageId) : Except SdbError (List (Bytes × Bytes)) := do
  let cursor ← btreeCursorFirst pager root
  btreeCursorLoop pager uint32Max (fun rows row => .ok (rows ++ [row], true))
    (btreeRowLimit pager) cursor []

lemma foldRows_collect (rows collected : List (Bytes × Bytes)) :
    foldRows (fun rows row => .ok (rows ++ [row], true)) rows collected =
      .ok (collected ++ rows) := by
  induction rows generalizing collected with
  | nil => simp [foldRows]
  | cons row rows ih =>
    change foldRows _ rows (collected ++ [row]) = _
    rw [ih, append_assoc, singleton_append]

/-- The walk from a cursor collects the rows ahead of it. -/
lemma ReadsTree.collect {tree : PageTree h} (hreads : ReadsTree pager tree) {cursor : BTreeCursor}
    {rows : List (Bytes × Bytes)} (hat : CursorAt tree cursor rows) (hrows : rows <:+ tree.rows) :
    btreeCursorLoop pager uint32Max (fun rows row => .ok (rows ++ [row], true))
      (btreeRowLimit pager) cursor [] = .ok rows := by
  have hsizes : ∀ row ∈ rows, row.1.length ≤ uint32Max ∧ row.2.length ≤ uint32Max := by
    intro row hrow
    obtain ⟨_, hkey, hvalue⟩ := hreads.row_lengths (hrows.subset hrow)
    exact ⟨le_trans hkey (by decide), hvalue⟩
  rw [btreeCursorLoop_at hreads _ hat (lt_of_le_of_lt hrows.length_le hreads.rows_lt) hsizes,
    foldRows_collect, nil_append]

/-- A forward walk over a readable tree yields its rows. -/
lemma ReadsTree.forwardRows {tree : PageTree h} (hreads : ReadsTree pager tree) :
    btreeForwardRows pager tree.page = .ok tree.rows := by
  obtain ⟨cursor, hfirst, hat⟩ := btreeCursorFirst_at hreads
  rw [btreeForwardRows, hfirst]
  exact hreads.collect hat suffix_rfl

/-- The pages the check has marked: each once, and each a page of the file. -/
structure Seen (pager : Pager) (context : VerifyContext) : Prop where
  nodup : context.visited.Nodup
  bounds : ∀ page ∈ context.visited, page ≠ 0 ∧ page.toNat < pager.superblock.nextPageId

lemma verifyLeaf_seen (depth : Nat) : Preserves (Seen pager) (verifyLeaf pageId depth node) := by
  intro context hcontext
  unfold verifyLeaf
  split
  · exact hcontext
  · split
    · exact hcontext
    · exact ⟨hcontext.nodup, hcontext.bounds⟩

lemma verifyChildren_seen {verify : PageId → Option Bytes → Option Bytes → VerifyM PUnit}
    (hverify : ∀ child lo hi, Preserves (Seen pager) (verify child lo hi))
    (entries : List BTreeEntry) (lo : Option Bytes) (child : PageId) :
    Preserves (Seen pager) (verifyChildren verify lo child entries hi) := by
  induction entries generalizing lo child with
  | nil => exact hverify child lo hi
  | cons entry entries ih => exact (hverify _ _ _).bind fun _ => ih _ _

/-- A page is read only after it was marked, and it is marked only once. -/
lemma btreeVerifyNode_seen (fuel : Nat) (pageId : PageId) (lo hi : Option Bytes) :
    Preserves (Seen pager) (btreeVerifyNode pager fuel pageId lo hi) := by
  induction fuel generalizing pageId lo hi with
  | zero => exact preserves_fail _
  | succ fuel ih =>
    intro context hcontext
    have hquery : (query fun context : VerifyContext =>
        (.ok (context.visited.contains pageId) : Except SdbError Bool)) context =
          (.ok (context.visited.contains pageId), context) := rfl
    rw [btreeVerifyNode, bind_run hquery]
    split
    · exact hcontext
    next hguard =>
      simp only [Bool.or_eq_true, decide_eq_true_eq, not_or, not_le,
        contains_iff_mem] at hguard
      have hmarked : Seen pager (markVisited pageId context) :=
        ⟨List.nodup_cons.mpr ⟨hguard.2, hcontext.nodup⟩,
          List.forall_mem_cons.mpr ⟨hguard.1, hcontext.bounds⟩⟩
      have hmark : (update (markVisited pageId) : VerifyM PUnit) context =
          (.ok ⟨⟩, markVisited pageId context) := rfl
      rw [bind_run hmark]
      refine (preserves_query _).bind (fun node => ?_) _ hmarked
      refine (preserves_update fun _ hstate =>
        ⟨hstate.nodup, hstate.bounds⟩).bind fun _ => ?_
      split
      · exact preserves_fail _
      · cases node.kind with
        | leaf => exact verifyLeaf_seen _
        | internal =>
          simp only
          split
          · exact preserves_fail _
          · exact verifyChildren_seen ih _ _ _

/-- Whatever the pages hold, the check reads each of them at most once; and where it
accepts, the walk from the first row ends without error, shows as many rows as were
counted in strictly ascending key order, and shows a row exactly when a lookup of its
key finds it. -/
theorem btreeVerify_sound (pager : Pager) (root : PageId) :
    Seen pager (btreeVerifyNode pager 64 root none none VerifyContext.start).2 ∧
    ∀ result, btreeVerify pager root = .ok result → ∃ rows, btreeForwardRows pager root = .ok rows ∧
        (rows.map Prod.fst).Pairwise (· < ·) ∧ rows.length = result.entryCount ∧
        ∀ key value capacity, value.length ≤ capacity →
          ((btreeGet pager root key capacity).status = .ok () ∧
            (btreeGet pager root key capacity).value = value ↔ (key, value) ∈ rows) := by
  refine ⟨btreeVerifyNode_seen 64 root none none _ ⟨List.nodup_nil, by
    simp [VerifyContext.start]⟩, ?_⟩
  intro result hverify
  obtain ⟨h, tree, rfl, hreads, hcount⟩ := btreeVerify_readsTree hverify
  have hsorted : SortedRows tree.rows := hreads.ordered.rows.1
  refine ⟨tree.rows, hreads.forwardRows, hsorted, hcount, ?_⟩
  intro key value capacity hroom
  rw [btreeGet]
  by_cases hkey : (key.length = 0 || key.length > uint16Max) = true
  · rw [if_pos hkey]
    simp only [Bool.or_eq_true, decide_eq_true_eq] at hkey
    simp only [Lookup.failed, reduceCtorEq, false_and, false_iff]
    intro hrow
    obtain ⟨hpos, hle, _⟩ := hreads.row_lengths hrow
    exact hkey.elim hpos (not_lt.mpr hle)
  · rw [if_neg hkey, btreeLookup_eq hreads.ordered hreads.readable hreads.height_lt,
      lookupAnswer_found_iff hroom]
    constructor
    · intro hlookup
      obtain ⟨left, right, hrows, _⟩ := List.lookup_eq_some_iff.mp hlookup
      simp [hrows]
    · exact lookup_of_mem hsorted

/-- A root over two leaves. -/
def twoLeafPager : Pager :=
  pagerOfNodes
    [cellNode (.inner 2 [([5], 3)]), cellNode (.leaf [([1], [10]), ([2], [])] 3),
      cellNode (.leaf [([5], [50])] 0)]

theorem btreeVerify_twoLeafPager : ∃ rows, btreeForwardRows twoLeafPager 1 = .ok rows ∧
      (rows.map Prod.fst).Pairwise (· < ·) ∧ rows.length = 3 ∧
      ∀ key value capacity, value.length ≤ capacity →
        ((btreeGet twoLeafPager 1 key capacity).status = .ok () ∧
          (btreeGet twoLeafPager 1 key capacity).value = value ↔ (key, value) ∈ rows) :=
  (btreeVerify_sound twoLeafPager 1).2
    { height := 2, nodeCount := 3, leafCount := 2, entryCount := 3 } (by decide +kernel)

end Sound

end ShibaDb
