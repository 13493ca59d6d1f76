/-
Positions inside a separator tree.  A context is a tree with one subtree taken
out; what the whole tree stores, its leaves and its order split into the part of
the context and the part of the subtree.
-/
import Mathlib
import ShibaDb.Lib.RowMap

namespace SepTree

open List

variable {K V P α β : Type}

section Links

variable {next : P} {before after : List (LeafPage K V P)}

/-- The page a chain of leaves starts at, `next` when there is none. -/
def headPage : List (LeafPage K V P) → P → P
  | [], next => next
  | leaf :: _, _ => leaf.page

/-- Each leaf links to the one after it and the last one to `next`. -/
def Linked : List (LeafPage K V P) → P → Prop
  | [], _ => True
  | leaf :: rest, next => leaf.link = headPage rest next ∧ Linked rest next

lemma headPage_append (left right : List (LeafPage K V P)) (next : P) :
    headPage (left ++ right) next = headPage left (headPage right next) := by
  cases left <;> rfl

lemma linked_append {left right : List (LeafPage K V P)} :
    Linked (left ++ right) next ↔ Linked left (headPage right next) ∧ Linked right next := by
  induction left with
  | nil => simp [Linked]
  | cons leaf left ih => simp [Linked, ih, headPage_append, and_assoc]

/-- A stretch of the chain that can replace another one. -/
structure Relink (before after : List (LeafPage K V P)) : Prop where
  head : ∀ next, headPage after next = headPage before next
  linked : ∀ next, Linked before next → Linked after next

lemma Relink.refl (chain : List (LeafPage K V P)) : Relink chain chain :=
  ⟨fun _ => rfl, fun _ hchain => hchain⟩

lemma Relink.append {before' after' : List (LeafPage K V P)} (hfirst : Relink before after)
    (hsecond : Relink before' after') : Relink (before ++ before') (after ++ after') := by
  refine ⟨fun next => ?_, fun next hlinked => ?_⟩
  · rw [headPage_append, headPage_append, hsecond.head, hfirst.head]
  · rw [linked_append] at hlinked ⊢
    rw [hsecond.head]
    exact ⟨hfirst.linked _ hlinked.1, hsecond.linked _ hlinked.2⟩

/-- Nothing links to the first leaf, so its page may change. -/
lemma linked_moveTo {h : Nat} {target : P} {tree : Tree K V P h} {rest : List (LeafPage K V P)} :
    Linked ((tree.moveTo target).leaves ++ rest) next ↔ Linked (tree.leaves ++ rest) next := by
  cases h <;> exact Iff.rfl

/-- `after` is `before` with its last leaf linked to `link`. -/
def RelinkLast (link : P) (before after : List (LeafPage K V P)) : Prop :=
  (before = [] ∧ after = []) ∨
    ∃ init last, before = init ++ [last] ∧ after = init ++ [{ last with link }]

lemma RelinkLast.append {link : P} (hrelink : RelinkLast link before after) (hne : before ≠ [])
    (front : List (LeafPage K V P)) : RelinkLast link (front ++ before) (front ++ after) := by
  rcases hrelink with ⟨hnil, _⟩ | ⟨init, last, rfl, rfl⟩
  · exact absurd hnil hne
  · exact .inr ⟨front ++ init, last, by simp, by simp⟩

lemma RelinkLast.rows {link : P} (hrelink : RelinkLast link before after) :
    after.flatMap LeafPage.rows = before.flatMap LeafPage.rows := by
  rcases hrelink with ⟨rfl, rfl⟩ | ⟨init, last, rfl, rfl⟩ <;> simp

/-- Linking past a leaf takes it out of the chain. -/
lemma RelinkLast.linked {rest : List (LeafPage K V P)} {leaf : LeafPage K V P}
    (hrelink : RelinkLast leaf.link before after) (hlinked : Linked (before ++ leaf :: rest) next) :
    Linked (after ++ rest) next := by
  rcases hrelink with ⟨rfl, rfl⟩ | ⟨init, last, rfl, rfl⟩
  · exact hlinked.2
  · rw [append_assoc, linked_append] at hlinked ⊢
    exact ⟨hlinked.1, hlinked.2.2.1, hlinked.2.2.2⟩

end Links

section Plug

variable {ok : Option K → Option K → α → Prop} {lo hi : Option K} {key : K} {right : List (K × α)}

/-- A first child and separated further ones, from a child, what is left of it
and what is right of it. -/
def plug : List (α × K) → α → List (K × α) → α × List (K × α)
  | [], child, right => (child, right)
  | (first, key) :: left, child, right =>
    (first, (key, (plug left child right).1) :: (plug left child right).2)

lemma plug_kids (left : List (α × K)) (child : α) (right : List (K × α)) :
    (plug left child right).1 :: (plug left child right).2.map Prod.snd =
      left.map Prod.fst ++ child :: right.map Prod.snd := by
  induction left with
  | nil => rfl
  | cons head left ih => simp [plug, ih]

lemma plug_separators (left : List (α × K)) (child : α) (right : List (K × α)) :
    (plug left child right).2.map Prod.fst = left.map Prod.snd ++ right.map Prod.fst := by
  induction left with
  | nil => rfl
  | cons head left ih => simp [plug, ih]

lemma plug_map (f : α → β) (left : List (α × K)) (child : α) (right : List (K × α)) :
    plug (left.map fun item => (f item.1, item.2)) (f child)
        (right.map fun item => (item.1, f item.2)) = (f (plug left child right).1,
        (plug left child right).2.map fun item => (item.1, f item.2)) := by
  induction left with
  | nil => rfl
  | cons head left ih => simp [plug, ih]

lemma plug_length (left : List (α × K)) (child : α) (right : List (K × α)) :
    (plug left child right).2.length = left.length + right.length := by
  simpa using congrArg List.length (plug_separators left child right)

/-- Any child of a separated sequence can be focused. -/
lemma exists_plug (first : α) (rest : List (K × α)) (index : Nat) (hindex : index ≤ rest.length) :
    ∃ (left : List (α × K)) (child : α) (right : List (K × α)),
      plug left child right = (first, rest) ∧ left.length = index := by
  induction index generalizing first rest with
  | zero => exact ⟨[], first, rest, rfl, rfl⟩
  | succ index ih =>
    cases rest with
    | nil => simp at hindex
    | cons head rest =>
      obtain ⟨left, child, right, hplug, hlength⟩ :=
        ih head.2 rest (by simpa using hindex)
      exact ⟨(first, head.1) :: left, child, right, by simp [plug, hplug], by simp [hlength]⟩

/-- The last child has no separator behind it. -/
lemma exists_plug_last (first : α) (rest : List (K × α)) :
    ∃ (left : List (α × K)) (child : α), plug left child [] = (first, rest) := by
  obtain ⟨left, child, right, hplug, hlength⟩ := exists_plug first rest rest.length le_rfl
  obtain rfl : right = [] := by simpa [hplug, hlength] using plug_length left child right
  exact ⟨left, child, hplug⟩

lemma plug_insert (left : List (α × K)) (child next : α) (key : K) (right : List (K × α)) :
    plug left child ((key, next) :: right) =
      ((plug left child right).1, (plug left child right).2.insertIdx left.length (key, next)) := by
  induction left with
  | nil => rfl
  | cons head left ih => simp [plug, ih]

lemma plug_append (left left' : List (α × K)) (child : α) (right : List (K × α)) :
    plug (left ++ left') child right =
      plug left (plug left' child right).1 (plug left' child right).2 := by
  induction left with
  | nil => rfl
  | cons head left ih => simp [plug, ih]

lemma plug_modify (left : List (α × K)) (child next : α) (key key' : K) (right : List (K × α)) :
    plug left child ((key', next) :: right) = ((plug left child ((key, next) :: right)).1,
        (plug left child ((key, next) :: right)).2.modify left.length
          fun item => (key', item.2)) := by
  induction left with
  | nil => rfl
  | cons head left ih => simp [plug, ih]

/-- Dropping the child right of a separator, with the separator. -/
lemma plug_erase (left : List (α × K)) (previous child : α) (key : K) (right : List (K × α)) :
    plug left previous right = ((plug (left ++ [(previous, key)]) child right).1,
        (plug (left ++ [(previous, key)]) child right).2.eraseIdx left.length) := by
  rw [plug_append]
  simp only [plug, plug_insert]
  rw [eraseIdx_insertIdx_self]

/-- The lower bound of the child behind `left`. -/
def lastBound : Option K → List (α × K) → Option K
  | lo, [] => lo
  | _, (_, key) :: left => lastBound (some key) left

/-- The upper bound of the child in front of `right`. -/
def firstBound : List (K × α) → Option K → Option K
  | [], hi => hi
  | (key, _) :: _, _ => some key

def LeftOk (ok : Option K → Option K → α → Prop) : Option K → List (α × K) → Prop
  | _, [] => True
  | lo, (child, key) :: left => ok lo (some key) child ∧ LeftOk ok (some key) left

def RightOk (ok : Option K → Option K → α → Prop) : List (K × α) → Option K → Prop
  | [], _ => True
  | (key, child) :: right, hi => Between ok (some key) child right hi

lemma between_right {child : α} (extra right : List (K × α)) :
    Between ok lo child (extra ++ right) hi ↔
      Between ok lo child extra (firstBound right hi) ∧ RightOk ok right hi := by
  cases right with
  | nil => simp [firstBound, RightOk]
  | cons head right => exact between_append extra right

/-- The children of a node in place of one of them: the neighbours keep their
bounds and the new children share those of the old one. -/
lemma between_plug (left : List (α × K)) (child : α) (extra right : List (K × α)) :
    Between ok lo (plug left child (extra ++ right)).1 (plug left child (extra ++ right)).2 hi ↔
      LeftOk ok lo left ∧ Between ok (lastBound lo left) child extra (firstBound right hi) ∧
        RightOk ok right hi := by
  induction left generalizing lo with
  | nil => simp [plug, LeftOk, lastBound, between_right]
  | cons head left ih => simp [plug, Between, LeftOk, lastBound, ih, and_assoc]

lemma between_plug_child (left : List (α × K)) (child : α) (right : List (K × α)) :
    Between ok lo (plug left child right).1 (plug left child right).2 hi ↔
      LeftOk ok lo left ∧ ok (lastBound lo left) (firstBound right hi) child ∧
        RightOk ok right hi :=
  between_plug left child [] right

lemma leftOk_append (left left' : List (α × K)) :
    LeftOk ok lo (left ++ left') ↔ LeftOk ok lo left ∧ LeftOk ok (lastBound lo left) left' := by
  induction left generalizing lo with
  | nil => simp [LeftOk, lastBound]
  | cons head left ih => simp [LeftOk, lastBound, ih, and_assoc]

lemma lastBound_append (lo : Option K) (left left' : List (α × K)) :
    lastBound lo (left ++ left') = lastBound (lastBound lo left) left' := by
  induction left generalizing lo with
  | nil => rfl
  | cons head left ih => simp [lastBound, ih]

lemma le_of_mem_lastBound [LinearOrder K] {left : List (α × K)} (hlo : ∀ low ∈ lo, low ≤ key)
    (hleft : ∀ separator ∈ left.map Prod.snd, separator ≤ key) :
    ∀ low ∈ lastBound lo left, low ≤ key := by
  induction left generalizing lo with
  | nil => exact hlo
  | cons head left ih =>
    rw [map_cons, forall_mem_cons] at hleft
    refine ih ?_ hleft.2
    rintro _ ⟨⟩
    exact hleft.1

lemma lt_of_mem_firstBound [LinearOrder K] (hhi : ∀ high ∈ hi, key < high)
    (hright : ∀ separator ∈ right.map Prod.fst, key < separator) :
    ∀ high ∈ firstBound right hi, key < high := by
  cases right with
  | nil => exact hhi
  | cons head right =>
    rintro _ ⟨⟩
    exact hright _ (by simp)

/-- Keys below the next separator are below the bound of the node. -/
lemma Capped.of_firstBound [LinearOrder K] {keys : List K}
    (hcapped : Capped (firstBound right hi) keys) (hright : Capped hi (right.map Prod.fst)) :
    Capped hi keys := by
  cases right with
  | nil => exact hcapped
  | cons head right => exact hcapped.trans (capped_cons.mp hright).1

/-- A key between the separators around a child lies inside its bounds. -/
lemma Within.plug [LinearOrder K] {left : List (α × K)} (hkey : Within lo hi key)
    (hleft : ∀ separator ∈ left.map Prod.snd, separator ≤ key)
    (hright : ∀ separator ∈ right.map Prod.fst, key < separator) :
    Within (lastBound lo left) (firstBound right hi) key :=
  ⟨le_of_mem_lastBound hkey.1 hleft, lt_of_mem_firstBound hkey.2 hright⟩

end Plug

section PlugTree

variable {h : Nat} (page : P) (left : List (Tree K V P h × K)) (child : Tree K V P h)
  (extra right : List (K × Tree K V P h))

lemma rows_plug : (Tree.inner page (plug left child (extra ++ right)).1
        (plug left child (extra ++ right)).2).rows = (left.map Prod.fst).flatMap Tree.rows ++
        ((child :: extra.map Prod.snd).flatMap Tree.rows ++
          (right.map Prod.snd).flatMap Tree.rows) := by
  rw [Tree.rows_inner, plug_kids]
  simp

lemma leaves_plug : (Tree.inner page (plug left child (extra ++ right)).1
        (plug left child (extra ++ right)).2).leaves = (left.map Prod.fst).flatMap Tree.leaves ++
        ((child :: extra.map Prod.snd).flatMap Tree.leaves ++
          (right.map Prod.snd).flatMap Tree.leaves) := by
  rw [Tree.leaves_inner, plug_kids]
  simp

end PlugTree

/-- A tree of height `H` with a subtree of height `h` taken out. -/
inductive Context (K V P : Type) (H : Nat) : Nat → Type where
  | top : Context K V P H H
  | inside {h : Nat} (outer : Context K V P H (h + 1)) (page : P)
      (left : List (Tree K V P h × K)) (right : List (K × Tree K V P h)) :
      Context K V P H h

namespace Context

variable {H h : Nat}

/-- Put a subtree in place. -/
def fill {h : Nat} : Context K V P H h → Tree K V P h → Tree K V P H
  | top, tree => tree
  | inside outer page left right, tree =>
    outer.fill (.inner page (plug left tree right).1 (plug left tree right).2)

/-- The pages above the hole with the child taken in each, innermost first. -/
def path {h : Nat} : Context K V P H h → List (P × Nat)
  | top => []
  | inside outer page left _ => (page, left.length) :: outer.path

def leavesLeft {h : Nat} : Context K V P H h → List (LeafPage K V P)
  | top => []
  | inside outer _ left _ =>
    outer.leavesLeft ++ (left.map Prod.fst).flatMap Tree.leaves

def leavesRight {h : Nat} : Context K V P H h → List (LeafPage K V P)
  | top => []
  | inside outer _ _ right =>
    (right.map Prod.snd).flatMap Tree.leaves ++ outer.leavesRight

/-- The cell of the page around a hole filled by a tree at `hole`. -/
def frameCell (left : List (Tree K V P h × K)) (hole : P)
    (right : List (K × Tree K V P h)) : Cell K V P :=
  let kids := plug (left.map fun item => (item.1.page, item.2)) hole
    (right.map fun item => (item.1, item.2.page))
  .inner kids.1 kids.2

/-- The pages outside the hole, for a subtree whose root is at `hole`. -/
def cells {h : Nat} : Context K V P H h → P → List (P × Cell K V P)
  | top, _ => []
  | inside outer page left right, hole =>
    outer.cells page ++ (page, frameCell left hole right) ::
      (left.map Prod.fst ++ right.map Prod.snd).flatMap Tree.cells

def lower {h : Nat} : Context K V P H h → Option K
  | top => none
  | inside outer _ left _ => lastBound outer.lower left

def upper {h : Nat} : Context K V P H h → Option K
  | top => none
  | inside outer _ _ right => firstBound right outer.upper

lemma leaves_fill (context : Context K V P H h) (tree : Tree K V P h) :
    (context.fill tree).leaves = context.leavesLeft ++ (tree.leaves ++ context.leavesRight) := by
  induction context with
  | top => simp [fill, leavesLeft, leavesRight]
  | inside outer page left right ih =>
    simp [fill, ih, Tree.leaves_inner, plug_kids, leavesLeft, leavesRight]

lemma cell_plug (page : P) (left : List (Tree K V P h × K)) (tree : Tree K V P h)
    (right : List (K × Tree K V P h)) :
    (Tree.inner page (plug left tree right).1 (plug left tree right).2).cell =
      frameCell left tree.page right := by
  simp [frameCell, plug_map]

lemma cells_fill (context : Context K V P H h) (tree : Tree K V P h) :
    (context.fill tree).cells.Perm (context.cells tree.page ++ tree.cells) := by
  induction context with
  | top => simp [fill, cells]
  | inside outer page left right ih =>
    refine (ih _).trans ?_
    have hbelow : (Tree.inner page (plug left tree right).1 (plug left tree right).2).below.Perm
        ((left.map Prod.fst ++ right.map Prod.snd).flatMap Tree.cells ++ tree.cells) := by
      rw [Tree.below_inner, plug_kids]
      simp only [flatMap_append, flatMap_cons, append_assoc]
      exact (perm_append_comm).append_left _
    simp only [Tree.page_inner, cells, append_assoc, cons_append]
    rw [Tree.cells, cell_plug]
    exact (hbelow.cons _).append_left _

lemma frameCell_mem_cells (outer : Context K V P H (h + 1)) (page hole : P)
    (left : List (Tree K V P h × K)) (right : List (K × Tree K V P h)) :
    (page, frameCell left hole right) ∈ (inside outer page left right).cells hole :=
  mem_append_right _ mem_cons_self

/-- The pages of a node, those of one child first. -/
lemma cells_plug (page : P) (left : List (Tree K V P h × K)) (tree : Tree K V P h)
    (right : List (K × Tree K V P h)) :
    (Tree.inner page (plug left tree right).1 (plug left tree right).2).cells.Perm
      (tree.cells ++ (page, frameCell left tree.page right) ::
        (left.map Prod.fst ++ right.map Prod.snd).flatMap Tree.cells) :=
  (cells_fill (inside top page left right) tree).trans perm_append_comm

/-- The pages around a hole, those of the tree in front of it first. -/
lemma cells_inside_previous (outer : Context K V P H (h + 1)) (page hole : P)
    (left : List (Tree K V P h × K)) (previous : Tree K V P h) (key : K)
    (right : List (K × Tree K V P h)) :
    ((inside outer page (left ++ [(previous, key)]) right).cells hole).Perm
      (previous.cells ++ (outer.cells page ++
        (page, frameCell (left ++ [(previous, key)]) hole right) ::
          (left.map Prod.fst ++ right.map Prod.snd).flatMap Tree.cells)) := by
  simp only [cells, map_append, map_cons, map_nil, flatMap_append,
    flatMap_cons, flatMap_nil, append_nil, append_assoc]
  refine (List.Perm.append_left _ ?_).trans (perm_append_comm_assoc ..)
  rw [← cons_append, ← cons_append]
  exact perm_append_comm_assoc ..

/-- The root page, from the path to a subtree and the page of the subtree. -/
def pathRoot : List (P × Nat) → P → P
  | [], page => page
  | (page, _) :: outer, _ => pathRoot outer page

lemma page_fill (context : Context K V P H h) (tree : Tree K V P h) :
    (context.fill tree).page = pathRoot context.path tree.page := by
  induction context with
  | top => rfl
  | inside outer page left right ih => exact ih _

lemma pathRoot_mem (context : Context K V P H h) (hole : P) :
    pathRoot context.path hole ∈ hole :: (context.cells hole).map Prod.fst := by
  induction context generalizing hole with
  | top => exact mem_cons_self
  | inside outer page left right ih =>
    refine mem_cons_of_mem _ ?_
    have houter := ih page
    simp only [path, pathRoot, cells, map_append, map_cons, mem_append,
      mem_cons] at houter ⊢
    tauto

/-- Only the whole tree has its page at the root page. -/
lemma path_eq_nil {context : Context K V P H h} {hole : P}
    (hroot : pathRoot context.path hole = hole)
    (hhole : ∀ entry ∈ context.cells hole, entry.1 ≠ hole) : context.path = [] := by
  cases context with
  | top => rfl
  | inside outer page left right =>
    have hmem : hole ∈ ((inside outer page left right).cells hole).map Prod.fst := by
      have houter := outer.pathRoot_mem page
      rw [show pathRoot outer.path page = hole from hroot] at houter
      simp only [cells, map_append, map_cons, mem_append, mem_cons] at houter ⊢
      tauto
    obtain ⟨entry, hentry, heq⟩ := List.mem_map.mp hmem
    exact absurd heq (hhole entry hentry)

section Ordered

variable [LinearOrder K]

/-- The trees beside the hole are ordered inside their bounds. -/
def Ordered {h : Nat} : Context K V P H h → Prop
  | top => True
  | inside outer _ left right =>
    outer.Ordered ∧ (LeftOk Tree.Ordered outer.lower left ∧
      RightOk Tree.Ordered right outer.upper) ∧
      Capped outer.upper (left.map Prod.snd ++ right.map Prod.fst)

lemma ordered_fill (context : Context K V P H h) (tree : Tree K V P h) :
    (context.fill tree).Ordered none none ↔
      context.Ordered ∧ tree.Ordered context.lower context.upper := by
  induction context with
  | top => simp [fill, Ordered, lower, upper]
  | inside outer page left right ih =>
    simp only [fill, ih, Tree.ordered_inner, between_plug_child, plug_separators, Ordered,
      lower, upper]
    tauto

/-- A key inside the bounds of the hole sits between the rows left and right of
it. -/
lemma rows_around {page link : P} (context : Context K V P H 0) {content : List (K × V)}
    (hordered : (context.fill (.leaf page content link)).Ordered none none) {key : K}
    (hkey : Within context.lower context.upper key) (value : V) :
    (∀ row ∈ context.leavesLeft.flatMap LeafPage.rows, row.1 < key) ∧
      ∀ row ∈ context.leavesRight.flatMap LeafPage.rows, key < row.1 := by
  rw [ordered_fill, Tree.ordered_leaf] at hordered
  -- With the key as the only row of the leaf the whole tree is still sorted.
  have hfilled : (context.fill (.leaf page [(key, value)] link)).Ordered none none := by
    rw [ordered_fill, Tree.ordered_leaf]
    refine ⟨hordered.1, hordered.2.1, by simp [SortedRows], ?_⟩
    simpa using hkey
  have hsorted := hfilled.rows.1
  rw [Tree.rows, leaves_fill, Tree.leaves_leaf, flatMap_append, flatMap_append,
    flatMap_singleton] at hsorted
  exact hsorted.forall_lt

end Ordered

end Context

end SepTree
