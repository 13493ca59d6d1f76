/-
A forward walk on pages that need not be a tree.  The list of passed pages makes the
cursor stop instead of entering a leaf again, so a walk ends after at most as many
steps as the pages hold entries.
-/
import ShibaDb.BTree.VerifySound

namespace ShibaDb

open Fallible List

/-- Step on while the cursor is valid, at most so many times. -/
def btreeCursorSteps (pager : Pager) : Nat → BTreeCursor → Except SdbError BTreeCursor
  | 0, cursor => .ok cursor
  | steps + 1, cursor =>
    if cursor.valid then do
      let cursor ← btreeCursorNext pager cursor
      btreeCursorSteps pager steps cursor
    else .ok cursor

/-- The leaf pages a cursor has stood on, the present one last. -/
def BTreeCursor.walked (cursor : BTreeCursor) : List PageId :=
  if cursor.forwardVisited = [] then [cursor.pageId] else cursor.forwardVisited

/-- The entries of the node on a page, none where no node can be read. -/
def pageEntries (pager : Pager) (pageId : PageId) : Nat :=
  match btreeReadNode pager pageId with
  | .ok node => node.entries.length
  | .error _ => 0

/-- The entries of all pages. -/
def storeEntries (pager : Pager) : Nat :=
  ((List.range pager.superblock.nextPageId).map fun number =>
    pageEntries pager (UInt64.ofNat number)).sum

section Walk

variable {pager : Pager} {cursor cursor' : BTreeCursor} {root page : PageId} {leaf : BTreeNode}
  {fuel : Nat} {path : Path}

/-- A leaf can be read from this page. -/
def IsLeafPage (pager : Pager) (page : PageId) : Prop :=
  ∃ leaf, btreeReadNode pager page = .ok leaf ∧ leaf.kind = .leaf

/-- The leaf on `page` links to `next`. -/
def SiblingOf (pager : Pager) (page next : PageId) : Prop :=
  ∃ leaf, btreeReadNode pager page = .ok leaf ∧ leaf.rightSibling = next

/-- The cursor holds the last leaf of a walk along sibling links that entered no page
twice. -/
structure Walked (pager : Pager) (cursor : BTreeCursor) : Prop where
  leaves : ∀ page ∈ cursor.walked, IsLeafPage pager page
  nodup : cursor.walked.Nodup
  linked : cursor.walked.IsChain (SiblingOf pager)
  last : cursor.walked.getLast? = some cursor.pageId
  here : btreeReadNode pager cursor.pageId = .ok cursor.leaf

/-- The row the cursor shows exists. -/
def BTreeCursor.Inside (cursor : BTreeCursor) : Prop :=
  cursor.valid = true → cursor.index < cursor.leaf.entries.length

lemma pageEntries_of_read (hread : btreeReadNode pager page = .ok leaf) :
    pageEntries pager page = leaf.entries.length := by
  rw [pageEntries, hread]

/-- Only the file's own pages can be read. -/
lemma btreeReadNode_bounds (hread : btreeReadNode pager page = .ok leaf) :
    page ≠ 0 ∧ page.toNat < pager.superblock.nextPageId := by
  rw [btreeReadNode, except_bind_eq_ok] at hread
  obtain ⟨view, hview, _⟩ := hread
  rw [pagerRead, guard_eq_ok] at hview
  simp only [Bool.or_eq_true, decide_eq_true_eq, not_or, not_le] at hview
  exact ⟨hview.1.1.2, hview.1.2⟩

/-- Different pages together hold no more than all pages. -/
lemma sum_pageEntries_le {pages : List PageId} (hnodup : pages.Nodup)
    (hleaves : ∀ page ∈ pages, IsLeafPage pager page) :
    (pages.map (pageEntries pager)).sum ≤ storeEntries pager := by
  have hnumbers : (pages.map UInt64.toNat).Subperm (List.range pager.superblock.nextPageId) := by
    apply List.Nodup.subperm
    · exact List.Nodup.map (fun _ _ heq => UInt64.toNat_inj.mp heq) hnodup
    · intro number hnumber
      obtain ⟨page, hpage, rfl⟩ := List.mem_map.mp hnumber
      obtain ⟨leaf, hread, _⟩ := hleaves page hpage
      exact List.mem_range.mpr (btreeReadNode_bounds hread).2
  obtain ⟨sub, hperm, hsub⟩ := hnumbers
  have hpages : pages.map (pageEntries pager) =
      (pages.map UInt64.toNat).map fun number => pageEntries pager (UInt64.ofNat number) := by
    simp [Function.comp_def]
  rw [hpages, ← (hperm.map _).sum_eq, storeEntries]
  exact (hsub.map _).sum_le_sum (fun _ _ => Nat.zero_le _)

/-- A walk says nothing of the row its cursor shows. -/
lemma Walked.congr (hwalked : Walked pager cursor) (hpages : cursor'.walked = cursor.walked)
    (hpage : cursor'.pageId = cursor.pageId) (hleaf : cursor'.leaf = cursor.leaf) :
    Walked pager cursor' := by
  obtain ⟨hleaves, hnodup, hlinked, hlast, hhere⟩ := hwalked
  rw [← hpages] at hleaves hnodup hlinked hlast
  rw [← hpage] at hlast hhere
  rw [← hleaf] at hhere
  exact ⟨hleaves, hnodup, hlinked, hlast, hhere⟩

/-- A walk goes on to a leaf it has not met. -/
lemma Walked.enter (hwalked : Walked pager cursor)
    (hread : btreeReadNode pager cursor.leaf.rightSibling = .ok leaf) (hkind : leaf.kind = .leaf)
    (hnew : cursor.leaf.rightSibling ∉ cursor.walked)
    (hmoved : cursor'.forwardVisited = cursor.walked ++ [cursor.leaf.rightSibling])
    (hpage : cursor'.pageId = cursor.leaf.rightSibling) (hleaf : cursor'.leaf = leaf) :
    Walked pager cursor' := by
  have hpages : cursor'.walked = cursor.walked ++ [cursor.leaf.rightSibling] := by
    rw [BTreeCursor.walked, hmoved, if_neg (by simp)]
  refine ⟨?_, ?_, ?_, ?_, ?_⟩
  · rw [hpages, forall_mem_append]
    exact ⟨hwalked.leaves, by simpa using ⟨leaf, hread, hkind⟩⟩
  · rw [hpages, nodup_append]
    refine ⟨hwalked.nodup, nodup_singleton _, ?_⟩
    rintro page hmem _ hsingle rfl
    exact hnew (List.mem_singleton.mp hsingle ▸ hmem)
  · rw [hpages, isChain_append]
    refine ⟨hwalked.linked, isChain_singleton _, ?_⟩
    intro before hbefore next hnext
    rw [hwalked.last, Option.mem_some_iff] at hbefore
    rw [List.head?_cons, Option.mem_some_iff] at hnext
    exact ⟨cursor.leaf, hbefore ▸ hwalked.here, hnext⟩
  · rw [hpages, hpage, List.getLast?_append, List.getLast?_singleton, Option.some_or]
  · rw [hpage, hleaf, hread]

/-- What a run of hops along the chain leaves: an end of the chain, or the first row
of a leaf further on. -/
lemma btreeCursorHop_walked (hwalked : Walked pager cursor)
    (hvisited : cursor.forwardVisited = cursor.walked)
    (hhop : btreeCursorHop pager fuel cursor = .ok cursor') :
    Walked pager cursor' ∧ cursor'.Inside ∧ ∃ more, cursor'.walked = cursor.walked ++ more ∧
      (cursor'.valid = true → more ≠ []) := by
  induction fuel generalizing cursor with
  | zero =>
    rw [btreeCursorHop.eq_def] at hhop
    simp only at hhop
    split at hhop
    · obtain rfl := Except.ok.inj hhop
      exact ⟨hwalked.congr rfl rfl rfl, fun h => absurd h Bool.false_ne_true, [],
        (append_nil _).symm, fun h => absurd h Bool.false_ne_true⟩
    · split at hhop <;> cases hhop
  | succ fuel ih =>
    rw [btreeCursorHop.eq_def] at hhop
    simp only at hhop
    split at hhop
    · obtain rfl := Except.ok.inj hhop
      exact ⟨hwalked.congr rfl rfl rfl, fun h => absurd h Bool.false_ne_true, [],
        (append_nil _).symm, fun h => absurd h Bool.false_ne_true⟩
    rw [guard_eq_ok, contains_iff_mem, hvisited, except_bind_eq_ok] at hhop
    obtain ⟨hnew, next, hread, hhop⟩ := hhop
    obtain ⟨hkind, hhop⟩ := guard_eq_ok.mp hhop
    by_cases hrows : next.entries.length ≠ 0
    · rw [if_pos hrows] at hhop
      obtain rfl := Except.ok.inj hhop
      refine ⟨hwalked.enter hread (not_not.mp hkind) hnew rfl rfl rfl,
        fun _ => Nat.pos_of_ne_zero hrows, [cursor.leaf.rightSibling], ?_,
        fun _ => cons_ne_nil _ _⟩
      exact if_neg (by simp)
    · rw [if_neg hrows] at hhop
      obtain ⟨hwalked', hinside, more, hmore, _⟩ :=
        ih (hwalked.enter hread (not_not.mp hkind) hnew rfl rfl rfl)
          (by simp [BTreeCursor.walked]) hhop
      refine ⟨hwalked', hinside, cursor.leaf.rightSibling :: more, ?_,
        fun _ => cons_ne_nil _ _⟩
      rw [hmore, BTreeCursor.walked, if_neg (by simp), append_assoc, singleton_append]

lemma btreeCursorLeave_walked (hwalked : Walked pager cursor)
    (hleave : btreeCursorLeave pager cursor = .ok cursor') :
    Walked pager cursor' ∧ cursor'.Inside ∧ ∃ more, cursor'.walked = cursor.walked ++ more ∧
      (cursor'.valid = true → more ≠ []) := by
  have hpages : ({ cursor with forwardVisited := cursor.walked } : BTreeCursor).walked =
      cursor.walked := by
    unfold BTreeCursor.walked
    split <;> simp_all
  have hleaving : Walked pager { cursor with forwardVisited := cursor.walked } :=
    hwalked.congr hpages rfl rfl
  have hhop := btreeCursorHop_walked hleaving hpages.symm hleave
  rwa [hpages] at hhop

/-- The entries of the leaves behind the cursor and of its own leaf up to the row it
shows. -/
def BTreeCursor.passed (pager : Pager) (cursor : BTreeCursor) : Nat :=
  (cursor.walked.dropLast.map (pageEntries pager)).sum + cursor.index

/-- One step forward keeps the walk and passes at least one entry. -/
lemma btreeCursorNext_walked (hwalked : Walked pager cursor) (hinside : cursor.Inside)
    (hvalid : cursor.valid = true) (hnext : btreeCursorNext pager cursor = .ok cursor') :
    Walked pager cursor' ∧ cursor'.Inside ∧ cursor.walked <+: cursor'.walked ∧
      (cursor'.valid = true → cursor.passed pager < cursor'.passed pager) := by
  rw [btreeCursorNext, if_pos hvalid] at hnext
  split at hnext
  next hmore =>
    obtain rfl := Except.ok.inj hnext
    refine ⟨hwalked.congr rfl rfl rfl, fun _ => hmore, ⟨[], append_nil _⟩, fun _ => ?_⟩
    exact Nat.lt_succ_self _
  · have hstepped : Walked pager { cursor with index := cursor.index + 1 } :=
      hwalked.congr rfl rfl rfl
    obtain ⟨hwalked', hinside', more, hmore, hvalid'⟩ := btreeCursorLeave_walked hstepped hnext
    refine ⟨hwalked', hinside', ⟨more, hmore.symm⟩, fun hshown => ?_⟩
    have hpages : cursor'.walked = cursor.walked ++ more := hmore
    have hlast : cursor.walked = cursor.walked.dropLast ++ [cursor.pageId] :=
      (dropLast_append_getLast? _ hwalked.last).symm
    have hsum : (cursor.walked.map (pageEntries pager)).sum =
        (cursor.walked.dropLast.map (pageEntries pager)).sum + cursor.leaf.entries.length := by
      rw [← pageEntries_of_read hwalked.here]
      conv_lhs => rw [hlast]
      simp
    have hindex := hinside hvalid
    rw [BTreeCursor.passed, BTreeCursor.passed, hpages,
      dropLast_append_of_ne_nil (hvalid' hshown), map_append, sum_append, hsum]
    omega

/-- A cursor on a row has passed fewer entries than the pages hold. -/
lemma Walked.passed_lt (hwalked : Walked pager cursor) (hinside : cursor.Inside)
    (hvalid : cursor.valid = true) : cursor.passed pager < storeEntries pager := by
  have hlast : cursor.walked = cursor.walked.dropLast ++ [cursor.pageId] :=
    (dropLast_append_getLast? _ hwalked.last).symm
  have hsum := sum_pageEntries_le hwalked.nodup hwalked.leaves
  rw [hlast, map_append, sum_append, map_singleton, sum_singleton,
    pageEntries_of_read hwalked.here] at hsum
  have hindex := hinside hvalid
  rw [BTreeCursor.passed]
  omega

/-- The leaf a descent stops at. -/
lemma btreeDescendFirst_leaf {path' : Path}
    (hdescend : btreeDescendFirst (btreeReadNode pager) fuel root path = .ok (leaf, page, path')) :
    btreeReadNode pager page = .ok leaf ∧ leaf.kind = .leaf := by
  induction fuel generalizing root path with
  | zero => cases hdescend
  | succ fuel ih =>
    rw [btreeDescendFirst, except_bind_eq_ok] at hdescend
    obtain ⟨node, hread, hdescend⟩ := hdescend
    cases hkind : node.kind with
    | leaf =>
      rw [hkind] at hdescend
      obtain ⟨rfl, rfl, rfl⟩ := by simpa using hdescend
      exact ⟨hread, hkind⟩
    | internal =>
      rw [hkind] at hdescend
      exact ih hdescend

lemma btreeDescend_leaf {key : Bytes} {path' : Path}
    (hdescend : btreeDescend (btreeReadNode pager) key fuel root path = .ok (leaf, page, path')) :
    btreeReadNode pager page = .ok leaf ∧ leaf.kind = .leaf := by
  induction fuel generalizing root path with
  | zero => cases hdescend
  | succ fuel ih =>
    rw [btreeDescend, except_bind_eq_ok] at hdescend
    obtain ⟨node, hread, hdescend⟩ := hdescend
    cases hkind : node.kind with
    | leaf =>
      rw [hkind] at hdescend
      obtain ⟨rfl, rfl, rfl⟩ := by simpa using hdescend
      exact ⟨hread, hkind⟩
    | internal =>
      rw [hkind] at hdescend
      exact ih hdescend

/-- A cursor set up on a leaf and moved past its end, if need be, starts a walk. -/
lemma btreeCursorSettle_walked {position : Nat} (hread : btreeReadNode pager page = .ok leaf)
    (hkind : leaf.kind = .leaf)
    (hsettle : btreeCursorSettle pager (btreeCursorOn leaf page path position) = .ok cursor) :
    Walked pager cursor ∧ cursor.Inside := by
  have hon : Walked pager (btreeCursorOn leaf page path position) :=
    ⟨by simpa [BTreeCursor.walked, btreeCursorOn] using ⟨leaf, hread, hkind⟩,
      by simp [BTreeCursor.walked, btreeCursorOn], by simp [BTreeCursor.walked, btreeCursorOn],
      by simp [BTreeCursor.walked, btreeCursorOn], hread⟩
  rw [btreeCursorSettle] at hsettle
  split at hsettle
  next hbehind =>
    have hinvalid : (btreeCursorOn leaf page path position).valid = false := by
      rw [Bool.and_eq_true, Bool.not_eq_true'] at hbehind
      exact hbehind.1
    rw [btreeCursorNext, if_neg (by simp [hinvalid])] at hsettle
    obtain ⟨hwalked, hinside, _⟩ := btreeCursorLeave_walked hon hsettle
    exact ⟨hwalked, hinside⟩
  · obtain rfl := Except.ok.inj hsettle
    exact ⟨hon, fun hvalid => by simpa [btreeCursorOn] using hvalid⟩

/-- A cursor handed out by `sdb_btree_cursor_first` or `sdb_btree_cursor_seek`. -/
def StartCursor (pager : Pager) (root : PageId) (cursor : BTreeCursor) : Prop :=
  btreeCursorFirst pager root = .ok cursor ∨
    ∃ key, btreeCursorSeek pager root key = .ok cursor

lemma StartCursor.walked (hstart : StartCursor pager root cursor) :
    Walked pager cursor ∧ cursor.Inside := by
  rcases hstart with hfirst | ⟨key, hseek⟩
  · rw [btreeCursorFirst, except_bind_eq_ok] at hfirst
    obtain ⟨⟨leaf, page, path⟩, hdescend, hsettle⟩ := hfirst
    obtain ⟨hread, hkind⟩ := btreeDescendFirst_leaf hdescend
    exact btreeCursorSettle_walked hread hkind hsettle
  · rw [btreeCursorSeek, except_bind_eq_ok] at hseek
    obtain ⟨floor, hfloor, hsettle⟩ := hseek
    rw [btreeCursorSeekFloor, guard_eq_ok, except_bind_eq_ok] at hfloor
    obtain ⟨_, ⟨leaf, page, path⟩, hdescend, hfloor⟩ := hfloor
    obtain rfl := Except.ok.inj hfloor
    obtain ⟨hread, hkind⟩ := btreeDescend_leaf hdescend
    exact btreeCursorSettle_walked hread hkind hsettle

lemma btreeCursorSteps_of_invalid (hinvalid : cursor.valid ≠ true) (steps : Nat) :
    btreeCursorSteps pager steps cursor = .ok cursor := by
  cases steps with
  | zero => rfl
  | succ steps => rw [btreeCursorSteps, if_neg hinvalid]

/-- A run of steps keeps the walk, and passes an entry at each step that finds a row. -/
lemma btreeCursorSteps_walked {steps : Nat} (hwalked : Walked pager cursor)
    (hinside : cursor.Inside) (hsteps : btreeCursorSteps pager steps cursor = .ok cursor') :
    Walked pager cursor' ∧ cursor'.Inside ∧ cursor.walked <+: cursor'.walked ∧
      (cursor'.valid = true → cursor.passed pager + steps ≤ cursor'.passed pager) := by
  induction steps generalizing cursor with
  | zero =>
    obtain rfl := Except.ok.inj hsteps
    exact ⟨hwalked, hinside, prefix_refl _, fun _ => Nat.le_refl _⟩
  | succ steps ih =>
    rw [btreeCursorSteps] at hsteps
    by_cases hvalid : cursor.valid = true
    · rw [if_pos hvalid, except_bind_eq_ok] at hsteps
      obtain ⟨next, hnext, hsteps⟩ := hsteps
      obtain ⟨hwalkedNext, hinsideNext, hextends, hpassed⟩ :=
        btreeCursorNext_walked hwalked hinside hvalid hnext
      obtain ⟨hwalked', hinside', hextends', hpassed'⟩ := ih hwalkedNext hinsideNext hsteps
      refine ⟨hwalked', hinside', hextends.trans hextends', fun hshown => ?_⟩
      -- a cursor that became invalid stays where it is
      have hnextValid : next.valid = true := by
        by_contra hinvalid
        rw [btreeCursorSteps_of_invalid hinvalid] at hsteps
        exact hinvalid (Except.ok.inj hsteps ▸ hshown)
      have hlt := hpassed hnextValid
      have hle := hpassed' hshown
      omega
    · rw [if_neg hvalid] at hsteps
      obtain rfl := Except.ok.inj hsteps
      exact ⟨hwalked, hinside, prefix_refl _, fun hshown => absurd hshown hvalid⟩

lemma btreeCursorSteps_add (first more : Nat) : btreeCursorSteps pager (first + more) cursor =
      (btreeCursorSteps pager first cursor >>= btreeCursorSteps pager more) := by
  induction first generalizing cursor with
  | zero => rw [Nat.zero_add]; rfl
  | succ first ih =>
    by_cases hvalid : cursor.valid = true
    · rw [Nat.succ_add, btreeCursorSteps, btreeCursorSteps, if_pos hvalid, if_pos hvalid,
        bind_assoc]
      exact bind_congr fun next => ih
    · rw [btreeCursorSteps_of_invalid hvalid, btreeCursorSteps_of_invalid hvalid]
      exact (btreeCursorSteps_of_invalid hvalid more).symm

/-- Whatever the pages hold, the leaf pages a forward walk stands on are linked one to
the next, only ever grow and never repeat; and after as many steps as the pages hold
entries it has ended, at an invalid cursor or with an error. -/
theorem btreeCursor_forward_ends {start : BTreeCursor} (hstart : StartCursor pager root start) :
    (∀ steps cursor, btreeCursorSteps pager steps start = .ok cursor → Walked pager cursor ∧
        ∀ more later, btreeCursorSteps pager (steps + more) start = .ok later →
          cursor.walked <+: later.walked) ∧ ∀ steps, storeEntries pager ≤ steps →
      ∀ cursor, btreeCursorSteps pager steps start = .ok cursor → cursor.valid = false := by
  obtain ⟨hwalkedStart, hinsideStart⟩ := hstart.walked
  refine ⟨fun steps cursor hsteps => ?_, fun steps hmany cursor hsteps => ?_⟩
  · obtain ⟨hwalked, hinside, _⟩ := btreeCursorSteps_walked hwalkedStart hinsideStart hsteps
    refine ⟨hwalked, fun more later hlater => ?_⟩
    rw [btreeCursorSteps_add, hsteps] at hlater
    exact (btreeCursorSteps_walked hwalked hinside hlater).2.2.1
  · obtain ⟨hwalked, hinside, _, hpassed⟩ :=
      btreeCursorSteps_walked hwalkedStart hinsideStart hsteps
    by_contra hvalid
    rw [Bool.not_eq_false] at hvalid
    have hfew := hwalked.passed_lt hinside hvalid
    have hle := hpassed hvalid
    omega

/-- Two leaves that link to each other. -/
def ringPager : Pager :=
  pagerOfNodes [cellNode (.leaf [([1], [10])] 2), cellNode (.leaf [([2], [20])] 1)]

/-- The cursor on the first leaf of the ring. -/
def ringCursor : BTreeCursor :=
  btreeCursorOn (cellNode (.leaf [([1], [10])] 2)) 1 [] 0

theorem btreeCursor_forward_ends_ring :
    (btreeCursorSteps ringPager 1 ringCursor).toOption.any (·.valid) = true ∧
      ∀ steps, storeEntries ringPager ≤ steps →
        ∀ cursor, btreeCursorSteps ringPager steps ringCursor = .ok cursor →
          cursor.valid = false := by
  have hfirst : btreeCursorFirst ringPager 1 = .ok ringCursor := by
    have hread : btreeReadNode ringPager 1 = .ok (cellNode (.leaf [([1], [10])] 2)) := by
      decide +kernel
    rw [btreeCursorFirst, btreeDescendFirst, hread]
    rfl
  exact ⟨by decide +kernel, (btreeCursor_forward_ends (Or.inl hfirst)).2⟩

end Walk

end ShibaDb
