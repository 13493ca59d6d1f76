/-
`sdb_btree_verify`: the recursive check of a stored tree, and that it accepts
every tree a pager stores.
-/
import ShibaDb.BTree.Commit

namespace ShibaDb

open SepTree Fallible List

/-- `sdb_btree_verify_context`; `visited` lists the pages marked so far. -/
structure VerifyContext where
  visited : List PageId
  previousLeafSibling : PageId
  havePreviousLeaf : Bool
  leafDepth : Nat
  haveLeafDepth : Bool
  nodeCount : Nat
  leafCount : Nat
  entryCount : Nat

def VerifyContext.start : VerifyContext :=
  { visited := [], previousLeafSibling := 0, havePreviousLeaf := false, leafDepth := 0
    haveLeafDepth := false, nodeCount := 0, leafCount := 0, entryCount := 0 }

structure VerifyResult where
  height : Nat
  nodeCount : Nat
  leafCount : Nat
  entryCount : Nat
  deriving DecidableEq, Repr

abbrev VerifyM := Fallible SdbError VerifyContext

def keyAtOrAbove (key : Bytes) (bound : Option Bytes) : Bool :=
  bound.all fun low => ByteOrder.compare key low ≥ 0

def keyBelow (key : Bytes) (bound : Option Bytes) : Bool :=
  bound.all fun high => ByteOrder.compare key high < 0

/-- The children of an internal node with the bounds around each. -/
def verifyChildren (verify : PageId → Option Bytes → Option Bytes → VerifyM PUnit) :
    Option Bytes → PageId → List BTreeEntry → Option Bytes → VerifyM PUnit
  | lower, child, [], upper => verify child lower upper
  | lower, child, entry :: rest, upper => do
      verify child lower (some entry.key)
      verifyChildren verify (some entry.key) entry.rightChild rest upper

def markVisited (pageId : PageId) (context : VerifyContext) : VerifyContext :=
  { context with visited := pageId :: context.visited }

def countNode (context : VerifyContext) : VerifyContext :=
  { context with nodeCount := context.nodeCount + 1 }

def markLeaf (node : BTreeNode) (depth : Nat) (context : VerifyContext) : VerifyContext :=
  { context with
    haveLeafDepth := true
    leafDepth := depth
    havePreviousLeaf := true
    previousLeafSibling := node.rightSibling
    leafCount := context.leafCount + 1
    entryCount := context.entryCount + node.entries.length }

/-- The leaf branch of `sdb_btree_verify_node`. -/
def verifyLeaf (pageId : PageId) (depth : Nat) (node : BTreeNode) : VerifyM PUnit :=
  fun context =>
    if context.havePreviousLeaf && context.previousLeafSibling ≠ pageId then
      (.error .corrupt, context)
    else if context.haveLeafDepth && context.leafDepth ≠ depth then (.error .corrupt, context)
    else (.ok ⟨⟩, markLeaf node depth context)

/-- `sdb_btree_verify_node`; the root is at depth 1 and a node below depth 64 is
refused, so the fuel is what is left of 65 minus the depth. -/
def btreeVerifyNode (pager : Pager) :
    Nat → PageId → Option Bytes → Option Bytes → VerifyM PUnit
  | 0, _, _, _ => fail .corrupt
  | fuel + 1, pageId, lower, upper => do
      let depth := 64 - fuel
      let seen ← query fun context => .ok (context.visited.contains pageId)
      if pageId = 0 || pageId.toNat ≥ pager.superblock.nextPageId || seen then
        fail .corrupt
      else
        update (markVisited pageId)
        let node ← query fun _ => btreeReadNode pager pageId
        update countNode
        if node.entries.any fun entry =>
            !keyAtOrAbove entry.key lower || !keyBelow entry.key upper then
          fail .corrupt
        else
          match node.kind with
          | .leaf => verifyLeaf pageId depth node
          | .internal =>
            if node.entries.length = 0 || depth = uint32Max then fail .corrupt
            else
              verifyChildren (btreeVerifyNode pager fuel) lower node.firstChild
                node.entries upper

def btreeVerify (pager : Pager) (root : PageId) : Except SdbError VerifyResult :=
  let superblock := pager.superblock
  if superblock.nextPageId = 0 then .error .invalidArgument
  else if superblock.nextPageId - 1 > (uint64Max - dataOffset) / superblock.pageSize then
    .error .corrupt
  else if pager.fileSize < dataOffset + (superblock.nextPageId - 1) * superblock.pageSize then
    .error .truncated
  else
    match btreeVerifyNode pager 64 root none none VerifyContext.start with
    | (.error error, _) => .error error
    | (.ok _, context) =>
      if context.previousLeafSibling ≠ 0 then .error .corrupt
      else
        .ok { height := context.leafDepth, nodeCount := context.nodeCount
              leafCount := context.leafCount, entryCount := context.entryCount }

section Accepts

variable {pager : Pager} {h : Nat} {lo hi : Option Bytes} {depth : Nat} {next : PageId}
  {tree : PageTree h} {context : VerifyContext}

/-- A subtree the check can be run on: its nodes are stored and ordered, its pages
are new to the check, and its first leaf is the one the check expects next. -/
structure Checkable (pager : Pager) {h : Nat} (tree : PageTree h) (lo hi : Option Bytes)
    (depth : Nat) (next : PageId) (context : VerifyContext) : Prop where
  stored : ∀ entry ∈ tree.cells,
    btreeReadNode pager entry.1 = .ok (cellNode entry.2) ∧ entry.2.Branching
  bounds : ∀ page ∈ tree.pages, page ≠ 0 ∧ page.toNat < pager.superblock.nextPageId
  fresh : (tree.pages ++ context.visited).Nodup
  ordered : tree.Ordered lo hi
  linked : Linked tree.leaves next
  previous : context.havePreviousLeaf = true →
    context.previousLeafSibling = headPage tree.leaves next
  depth : context.haveLeafDepth = true → context.leafDepth = depth

/-- What the check of a subtree leaves: its pages marked, its leaves at `depth`, and
the leaf `next` expected. -/
structure Checked (pages : List PageId) (depth : Nat) (next : PageId)
    (before after : VerifyContext) : Prop where
  visited : after.visited.Perm (pages ++ before.visited)
  havePreviousLeaf : after.havePreviousLeaf = true
  previousLeafSibling : after.previousLeafSibling = next
  haveLeafDepth : after.haveLeafDepth = true
  leafDepth : after.leafDepth = depth

lemma keyAtOrAbove_iff {key : Bytes} {bound : Option Bytes} :
    keyAtOrAbove key bound = true ↔ ∀ low ∈ bound, low ≤ key := by
  cases bound with
  | none => simp [keyAtOrAbove]
  | some low =>
    rw [keyAtOrAbove, Option.all_some, decide_eq_true_eq, ge_iff_le, ← Int.not_lt,
      ByteOrder.compare_lt_zero_iff]
    simp

lemma keyBelow_iff {key : Bytes} {bound : Option Bytes} :
    keyBelow key bound = true ↔ ∀ high ∈ bound, key < high := by
  cases bound with
  | none => simp [keyBelow]
  | some high => simp [keyBelow, ← ByteOrder.compare_lt_zero_iff]

/-- Separators lie inside the bounds of their node. -/
lemma between_within {rest : List (Bytes × PageTree h)}
    (hbetween : Between Tree.Ordered lo tree rest hi) (hcapped : Capped hi (rest.map Prod.fst)) :
    ∀ child ∈ rest, Within lo hi child.1 := by
  induction rest generalizing lo tree with
  | nil => simp
  | cons head rest ih =>
    have hspan := hbetween.1.span
    obtain ⟨hhead, hrest⟩ := capped_cons.mp hcapped
    intro child hchild
    rcases List.mem_cons.mp hchild with rfl | hchild
    · exact ⟨fun low hlow => hspan low hlow _ rfl, hhead _ mem_cons_self⟩
    · exact (ih hbetween.2 hrest child hchild).mono hspan.lowerLe (UpperLe.refl hi)

/-- No key of an ordered node is outside the bounds. -/
lemma keys_inside (hordered : tree.Ordered lo hi) : ((cellNode tree.cell).entries.any fun entry =>
      !keyAtOrAbove entry.key lo || !keyBelow entry.key hi) = false := by
  have hwithin : ∀ entry ∈ (cellNode tree.cell).entries, Within lo hi entry.key := by
    intro entry hentry
    cases h with
    | zero =>
      obtain ⟨page, rows, link, rfl⟩ := tree.exists_leaf
      obtain ⟨row, hrow, rfl⟩ := List.mem_map.mp hentry
      exact hordered.2.2 row hrow
    | succ h =>
      obtain ⟨page, first, rest, rfl⟩ := tree.exists_inner
      obtain ⟨child, hchild, rfl⟩ := List.mem_map.mp hentry
      obtain ⟨subtree, hsubtree, rfl⟩ := List.mem_map.mp hchild
      exact between_within hordered.1 hordered.2 subtree hsubtree
  rw [any_eq_false]
  intro entry hentry
  obtain ⟨hlow, hhigh⟩ := hwithin entry hentry
  simp [keyAtOrAbove_iff.mpr hlow, keyBelow_iff.mpr hhigh]

/-- The children of a node, one after another. -/
lemma verifyChildren_ok {verify : PageId → Option Bytes → Option Bytes → VerifyM PUnit}
    (hverify : ∀ {tree : PageTree h} {lo hi : Option Bytes} {next : PageId}
      {context : VerifyContext}, Checkable pager tree lo hi depth next context →
      ∃ context', verify tree.page lo hi context = (.ok ⟨⟩, context') ∧
        Checked tree.pages depth next context context')
    {first : PageTree h} {rest : List (Bytes × PageTree h)} (context : VerifyContext)
    (hstored : ∀ entry ∈ (first :: rest.map Prod.snd).flatMap Tree.cells,
      btreeReadNode pager entry.1 = .ok (cellNode entry.2) ∧ entry.2.Branching)
    (hbounds : ∀ page ∈ (first :: rest.map Prod.snd).flatMap Tree.pages,
      page ≠ 0 ∧ page.toNat < pager.superblock.nextPageId)
    (hfresh : ((first :: rest.map Prod.snd).flatMap Tree.pages ++ context.visited).Nodup)
    (hbetween : Between Tree.Ordered lo first rest hi)
    (hlinked : Linked ((first :: rest.map Prod.snd).flatMap Tree.leaves) next)
    (hprevious : context.havePreviousLeaf = true → context.previousLeafSibling =
      headPage ((first :: rest.map Prod.snd).flatMap Tree.leaves) next)
    (hdepth : context.haveLeafDepth = true → context.leafDepth = depth) :
    ∃ context', verifyChildren verify lo first.page
        (rest.map fun child => childEntry (child.1, child.2.page)) hi context = (.ok ⟨⟩, context') ∧
      Checked ((first :: rest.map Prod.snd).flatMap Tree.pages) depth next context context' := by
  induction rest generalizing lo first context with
  | nil =>
    simp only [map_nil, flatMap_singleton] at *
    exact hverify ⟨hstored, hbounds, hfresh, hbetween, hlinked, hprevious, hdepth⟩
  | cons head rest ih =>
    obtain ⟨key, second⟩ := head
    simp only [map_cons, flatMap_cons (x := first), forall_mem_append,
      linked_append, headPage_append, append_assoc] at *
    have hfirst : Checkable pager first lo (some key) depth
        (headPage ((second :: rest.map Prod.snd).flatMap Tree.leaves) next) context := by
      refine ⟨hstored.1, hbounds.1, ?_, hbetween.1, hlinked.1, hprevious, hdepth⟩
      exact hfresh.sublist ((sublist_append_right _ _).append_left _)
    obtain ⟨context₁, hrun₁, hchecked₁⟩ := hverify hfirst
    have hfresh₁ : ((second :: rest.map Prod.snd).flatMap Tree.pages ++
        context₁.visited).Nodup := by
      refine ((hchecked₁.visited.append_left _).nodup_iff).mpr ?_
      exact (perm_append_comm_assoc ..).nodup_iff.mp hfresh
    obtain ⟨context₂, hrun₂, hchecked₂⟩ := ih context₁ hstored.2 hbounds.2 hfresh₁ hbetween.2
      hlinked.2 (fun _ => hchecked₁.previousLeafSibling) (fun _ => hchecked₁.leafDepth)
    refine ⟨context₂, ?_, ?_⟩
    · rw [verifyChildren, bind_eq_ok]
      exact ⟨⟨⟩, context₁, hrun₁, hrun₂⟩
    · refine ⟨?_, hchecked₂.havePreviousLeaf, hchecked₂.previousLeafSibling,
        hchecked₂.haveLeafDepth, hchecked₂.leafDepth⟩
      refine hchecked₂.visited.trans ((hchecked₁.visited.append_left _).trans ?_)
      rw [append_assoc]
      exact perm_append_comm_assoc ..

/-- A page that is new to the check, in range and inside its bounds is entered. -/
lemma btreeVerifyNode_enter {pageId : PageId} {node : BTreeNode} {fuel : Nat}
    (hbounds : pageId ≠ 0 ∧ pageId.toNat < pager.superblock.nextPageId)
    (hseen : pageId ∉ context.visited) (hread : btreeReadNode pager pageId = .ok node)
    (hinside : (node.entries.any fun entry =>
      !keyAtOrAbove entry.key lo || !keyBelow entry.key hi) = false) :
    btreeVerifyNode pager (fuel + 1) pageId lo hi context =
      (match node.kind with
        | .leaf => verifyLeaf pageId (64 - fuel) node
        | .internal =>
          if node.entries.length = 0 || 64 - fuel = uint32Max then fail .corrupt
          else verifyChildren (btreeVerifyNode pager fuel) lo node.firstChild node.entries hi)
        (countNode (markVisited pageId context)) := by
  have hguard : ¬(pageId = 0 || pageId.toNat ≥ pager.superblock.nextPageId ||
      context.visited.contains pageId) = true := by
    simp [hbounds, hseen]
  have hfresh : (query fun context : VerifyContext =>
      (.ok (context.visited.contains pageId) : Except SdbError Bool)) context =
        (.ok (context.visited.contains pageId), context) := rfl
  have hnode : (query fun _ : VerifyContext => btreeReadNode pager pageId)
      (markVisited pageId context) = (.ok node, markVisited pageId context) := by
    rw [query, hread]
  rw [btreeVerifyNode, bind_run hfresh, if_neg hguard]
  refine (bind_run rfl).trans ((bind_run hnode).trans ?_)
  refine (bind_run rfl).trans ?_
  rw [hinside]
  rfl

lemma verifyLeaf_ok {pageId : PageId} {node : BTreeNode}
    (hprevious : context.havePreviousLeaf = true → context.previousLeafSibling = pageId)
    (hdepth : context.haveLeafDepth = true → context.leafDepth = depth) :
    verifyLeaf pageId depth node context = (.ok ⟨⟩, markLeaf node depth context) := by
  rw [verifyLeaf, if_neg (by simpa using hprevious), if_neg (by simpa using hdepth)]

/-- The check accepts a subtree in its place. -/
lemma btreeVerifyNode_ok {fuel : Nat} (hcheckable : Checkable pager tree lo hi depth next context)
    (hfuel : h ≤ fuel) (hdepth : depth + fuel = 64 + h) :
    ∃ context', btreeVerifyNode pager (fuel + 1) tree.page lo hi context = (.ok ⟨⟩, context') ∧
      Checked tree.pages depth next context context' := by
  induction h generalizing lo hi next context fuel with
  | zero =>
    obtain ⟨page, rows, link, rfl⟩ := tree.exists_leaf
    obtain ⟨hread, _⟩ := hcheckable.stored _ mem_cons_self
    have hseen : page ∉ context.visited := (List.nodup_cons.mp hcheckable.fresh).1
    obtain rfl : link = next := hcheckable.linked.1
    refine ⟨markLeaf (cellNode (.leaf rows link)) depth (countNode (markVisited page context)),
      ?_, ⟨List.Perm.refl _, rfl, rfl, rfl, rfl⟩⟩
    rw [Tree.page_leaf, btreeVerifyNode_enter (hcheckable.bounds page (by simp)) hseen hread
      (keys_inside hcheckable.ordered), show 64 - fuel = depth by omega]
    exact verifyLeaf_ok hcheckable.previous hcheckable.depth
  | succ h ih =>
    obtain ⟨page, first, rest, rfl⟩ := tree.exists_inner
    obtain ⟨fuel, rfl⟩ := Nat.exists_eq_succ_of_ne_zero (by omega : fuel ≠ 0)
    obtain ⟨hread, hbranching⟩ := hcheckable.stored _ mem_cons_self
    have hrest : rest ≠ [] := by simpa [Cell.Branching] using hbranching
    have hfresh := hcheckable.fresh
    rw [Tree.pages_inner, cons_append] at hfresh
    have hbounds := hcheckable.bounds
    rw [Tree.pages_inner, forall_mem_cons] at hbounds
    have hseen : page ∉ context.visited := fun hmem =>
      (List.nodup_cons.mp hfresh).1 (mem_append_right _ hmem)
    have hkids := verifyChildren_ok
      (fun {tree lo hi next context} hchild =>
        ih hchild (Nat.le_of_succ_le_succ hfuel) (by omega : depth + fuel = 64 + h))
      (countNode (markVisited page context))
      (fun entry hentry => hcheckable.stored entry (mem_cons_of_mem _ hentry))
      hbounds.2 (List.perm_middle.nodup_iff.mpr hfresh) hcheckable.ordered.1
      hcheckable.linked hcheckable.previous hcheckable.depth
    obtain ⟨context', hrun, hchecked⟩ := hkids
    refine ⟨context', ?_, ?_, hchecked.havePreviousLeaf, hchecked.previousLeafSibling,
      hchecked.haveLeafDepth, hchecked.leafDepth⟩
    · have hguard : ¬((cellNode (Tree.inner page first rest).cell).entries.length = 0 ||
          64 - (fuel + 1) = uint32Max) = true := by
        have hsmall : 64 - (fuel + 1) ≠ uint32Max := by
          unfold uint32Max
          omega
        rw [Bool.or_eq_true, decide_eq_true_eq, decide_eq_true_eq, not_or]
        exact ⟨by simpa [cellNode] using hrest, hsmall⟩
      rw [Tree.page_inner, btreeVerifyNode_enter hbounds.1 hseen
        hread (keys_inside hcheckable.ordered)]
      simp only [show (cellNode (Tree.inner page first rest).cell).kind = .internal from rfl,
        if_neg hguard]
      simpa [cellNode, Function.comp_def] using hrun
    · rw [Tree.pages_inner]
      exact hchecked.visited.trans perm_middle

/-- `sdb_btree_verify` accepts the tree a pager stores. -/
lemma StoresTree.verify {others : List PageId} (hstores : StoresTree pager others tree) :
    ∃ result, btreeVerify pager pager.superblock.rootPage = .ok result := by
  obtain ⟨free, halloc⟩ := hstores.holds.ok.owns
  have hbounds : ∀ page ∈ tree.pages,
      page ≠ 0 ∧ page.toNat < pager.superblock.nextPageId := fun page hpage =>
    (halloc.mem page).mp (mem_append_left free (mem_append_right others hpage))
  have hcheckable : Checkable pager tree none none (h + 1) 0 VerifyContext.start :=
    ⟨fun entry hentry => ⟨(hstores.holds.shown entry hentry).1.1,
      (hstores.holds.shown entry hentry).2⟩, hbounds,
      by simpa [VerifyContext.start] using hstores.holds.nodup, hstores.holds.ordered,
      hstores.holds.linked, nofun, nofun⟩
  have hheight := hstores.holds.height_lt
  obtain ⟨context, hrun, hchecked⟩ :=
    btreeVerifyNode_ok hcheckable (show h ≤ 63 by omega) (by omega)
  have hgeometry : pageGeometryValid pager.superblock.nextPageId
      pager.superblock.pageSize = true := halloc.geometry
  rw [pageGeometryValid_iff] at hgeometry
  have hroot : tree.page = pager.superblock.rootPage := hstores.holds.root
  rw [hroot] at hrun
  simp only [btreeVerify, hrun, hchecked.previousLeafSibling]
  rw [if_neg hgeometry.1.1, if_neg (not_lt.mpr hgeometry.2), if_neg (not_lt.mpr hstores.covers)]
  exact ⟨_, rfl⟩

end Accepts

end ShibaDb
