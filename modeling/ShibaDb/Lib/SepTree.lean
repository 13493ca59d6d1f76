/-
Search trees stored on pages.  A tree of height `h + 1` has a first child and
further children behind separators; all its leaves are at the same depth by
construction.  The pages a tree occupies, its rows and its leaves are
functions of the tree, and so is the order its separators keep.
-/
import Mathlib

namespace SepTree

open List

variable {K V P α : Type}

/-- A leaf page: sorted rows and the page of the leaf to its right. -/
structure LeafPage (K V P : Type) where
  page : P
  rows : List (K × V)
  link : P

/-- An inner page: a first child and, behind each separator, one more. -/
structure InnerPage (K P α : Type) where
  page : P
  first : α
  rest : List (K × α)

/-- Trees of a given height. -/
def Tree (K V P : Type) : Nat → Type
  | 0 => LeafPage K V P
  | h + 1 => InnerPage K P (Tree K V P h)

/-- What one page of a tree holds. -/
inductive Cell (K V P : Type) where
  | leaf (rows : List (K × V)) (link : P)
  | inner (first : P) (rest : List (K × P))

/-- An inner page has at least one separator. -/
def Cell.Branching : Cell K V P → Prop
  | leaf _ _ => True
  | inner _ rest => rest ≠ []

namespace Tree

variable {h : Nat}

def leaf (page : P) (rows : List (K × V)) (link : P) : Tree K V P 0 :=
  LeafPage.mk page rows link

def inner {h : Nat} (page : P) (first : Tree K V P h) (rest : List (K × Tree K V P h)) :
    Tree K V P (h + 1) :=
  InnerPage.mk page first rest

lemma exists_leaf (tree : Tree K V P 0) :
    ∃ page content link, tree = leaf page content link := ⟨_, _, _, rfl⟩

lemma exists_inner (tree : Tree K V P (h + 1)) :
    ∃ page first rest, tree = inner page first rest := ⟨_, _, _, rfl⟩

def page : {h : Nat} → Tree K V P h → P
  | 0, LeafPage.mk page _ _ => page
  | _ + 1, InnerPage.mk page _ _ => page

def cell : {h : Nat} → Tree K V P h → Cell K V P
  | 0, LeafPage.mk _ rows link => .leaf rows link
  | _ + 1, InnerPage.mk _ first rest =>
    .inner first.page (rest.map fun child => (child.1, child.2.page))

/-- The pages below the root page with what they hold. -/
def below : {h : Nat} → Tree K V P h → List (P × Cell K V P)
  | 0, _ => []
  | _ + 1, InnerPage.mk _ first rest =>
    (first :: rest.map Prod.snd).flatMap fun child => (child.page, child.cell) :: below child

def cells {h : Nat} (tree : Tree K V P h) : List (P × Cell K V P) :=
  (tree.page, tree.cell) :: tree.below

def pages {h : Nat} (tree : Tree K V P h) : List P := tree.cells.map Prod.fst

def leaves : {h : Nat} → Tree K V P h → List (LeafPage K V P)
  | 0, tree => [tree]
  | _ + 1, InnerPage.mk _ first rest => (first :: rest.map Prod.snd).flatMap leaves

def rows {h : Nat} (tree : Tree K V P h) : List (K × V) :=
  tree.leaves.flatMap LeafPage.rows

/-- The same tree with its root on another page. -/
def moveTo : {h : Nat} → P → Tree K V P h → Tree K V P h
  | 0, target, LeafPage.mk _ rows link => leaf target rows link
  | _ + 1, target, InnerPage.mk _ first rest => inner target first rest

section Constructors

variable (page link : P) (content : List (K × V)) (first : Tree K V P h)
  (rest : List (K × Tree K V P h))

@[simp]
lemma page_leaf : (leaf page content link).page = page := rfl

@[simp]
lemma page_inner : (inner page first rest).page = page := rfl

@[simp]
lemma cell_leaf : (leaf page content link).cell = .leaf content link := rfl

@[simp]
lemma cell_inner : (inner page first rest).cell =
    .inner first.page (rest.map fun child => (child.1, child.2.page)) := rfl

@[simp]
lemma below_leaf : (leaf page content link).below = [] := rfl

lemma below_inner :
    (inner page first rest).below = (first :: rest.map Prod.snd).flatMap cells := rfl

lemma cells_inner : (inner page first rest).cells =
    (page, (inner page first rest).cell) :: (first :: rest.map Prod.snd).flatMap cells := rfl

@[simp]
lemma leaves_leaf : (leaf page content link).leaves = [{ page, rows := content, link }] := rfl

lemma leaves_inner :
    (inner page first rest).leaves = (first :: rest.map Prod.snd).flatMap leaves := rfl

@[simp]
lemma rows_leaf : (leaf page content link).rows = content := by
  simp [rows]

lemma rows_inner : (inner page first rest).rows = (first :: rest.map Prod.snd).flatMap rows := by
  simp only [rows, leaves_inner, flatMap_assoc]
  rfl

lemma pages_eq (tree : Tree K V P h) : tree.pages = tree.page :: tree.below.map Prod.fst := rfl

@[simp]
lemma pages_leaf : (leaf page content link).pages = [page] := rfl

lemma pages_inner :
    (inner page first rest).pages = page :: (first :: rest.map Prod.snd).flatMap pages := by
  rw [pages_eq, below_inner, map_flatMap]
  rfl

end Constructors

@[simp]
lemma page_moveTo (target : P) (tree : Tree K V P h) : (tree.moveTo target).page = target := by
  cases h <;> rfl

@[simp]
lemma cell_moveTo (target : P) (tree : Tree K V P h) : (tree.moveTo target).cell = tree.cell := by
  cases h <;> rfl

@[simp]
lemma below_moveTo (target : P) (tree : Tree K V P h) :
    (tree.moveTo target).below = tree.below := by
  cases h <;> rfl

@[simp]
lemma rows_moveTo (target : P) (tree : Tree K V P h) : (tree.moveTo target).rows = tree.rows := by
  cases h <;> rfl

lemma fst_mem_pages {trees : List (Tree K V P h)} {entry : P × Cell K V P}
    (hentry : entry ∈ trees.flatMap cells) : entry.1 ∈ trees.flatMap pages := by
  have hmem := mem_map_of_mem (f := Prod.fst) hentry
  rwa [map_flatMap] at hmem

lemma leaves_ne_nil (tree : Tree K V P h) : tree.leaves ≠ [] := by
  induction h with
  | zero => exact cons_ne_nil _ _
  | succ h ih =>
    obtain ⟨page, first, rest, rfl⟩ := tree.exists_inner
    rw [leaves_inner, ne_eq, flatMap_eq_nil_iff]
    exact fun hnil => ih first (hnil first mem_cons_self)

lemma leaf_mem_cells {tree : Tree K V P h} {leaf : LeafPage K V P} (hleaf : leaf ∈ tree.leaves) :
    (leaf.page, Cell.leaf leaf.rows leaf.link) ∈ tree.cells := by
  induction h with
  | zero =>
    obtain rfl : leaf = tree := List.mem_singleton.mp hleaf
    exact mem_cons_self
  | succ h ih =>
    obtain ⟨page, first, rest, rfl⟩ := tree.exists_inner
    obtain ⟨child, hchild, hleaf⟩ := List.mem_flatMap.mp hleaf
    exact mem_cons_of_mem _ (List.mem_flatMap.mpr ⟨child, hchild, ih hleaf⟩)

/-- Where every inner page has a separator, the pages outnumber any power of two
up to the height. -/
lemma two_pow_le_pages {tree : Tree K V P h}
    (hbranching : ∀ entry ∈ tree.cells, entry.2.Branching) : 2 ^ h ≤ tree.pages.length := by
  induction h with
  | zero => simp [pages_eq]
  | succ h ih =>
    obtain ⟨page, first, rest, rfl⟩ := tree.exists_inner
    have hkids : ∀ child ∈ first :: rest.map Prod.snd, 2 ^ h ≤ child.pages.length := by
      intro child hchild
      refine ih fun entry hentry => hbranching entry ?_
      rw [cells_inner]
      exact mem_cons_of_mem _ (List.mem_flatMap.mpr ⟨child, hchild, hentry⟩)
    obtain ⟨next, more, rfl⟩ : ∃ next more, rest = next :: more := by
      have hroot : rest ≠ [] := by
        simpa [Cell.Branching] using hbranching _ mem_cons_self
      exact exists_cons_of_ne_nil hroot
    have hfirst := hkids first mem_cons_self
    have hnext := hkids next.2 (by simp)
    rw [pages_inner, length_cons, map_cons, flatMap_cons, flatMap_cons,
      length_append, length_append, Nat.pow_succ]
    omega

end Tree

/-- `ok` holds of each child between the separators around it. -/
def Between (ok : Option K → Option K → α → Prop) :
    Option K → α → List (K × α) → Option K → Prop
  | lo, child, [], hi => ok lo hi child
  | lo, child, (key, next) :: rest, hi =>
    ok lo (some key) child ∧ Between ok (some key) next rest hi

lemma between_append {ok : Option K → Option K → α → Prop} {lo hi : Option K}
    {child next : α} {key : K} (left right : List (K × α)) :
    Between ok lo child (left ++ (key, next) :: right) hi ↔
      Between ok lo child left (some key) ∧ Between ok (some key) next right hi := by
  induction left generalizing lo child with
  | nil => simp [Between]
  | cons head left ih => simp [Between, ih, and_assoc]

lemma between_imp {ok ok' : Option K → Option K → α → Prop} {lo hi : Option K}
    {child : α} {rest : List (K × α)} (hbetween : Between ok lo child rest hi)
    (himp : ∀ lo hi, ∀ item ∈ child :: rest.map Prod.snd, ok lo hi item → ok' lo hi item) :
    Between ok' lo child rest hi := by
  induction rest generalizing lo child with
  | nil => exact himp _ _ child mem_cons_self hbetween
  | cons head rest ih =>
    exact ⟨himp _ _ child mem_cons_self hbetween.1, ih hbetween.2 fun lo hi item hitem =>
      himp lo hi item (mem_cons_of_mem _ hitem)⟩

section Ordered

variable [LinearOrder K] {lo hi lo' hi' : Option K} {key : K} {keys : List K}
  {ok : Option K → Option K → α → Prop} {child : α}

/-- The bounds are in order. -/
def Span (lo hi : Option K) : Prop := ∀ low ∈ lo, ∀ high ∈ hi, low ≤ high

/-- Every key is below the upper bound. -/
def Capped (hi : Option K) (keys : List K) : Prop := ∀ key ∈ keys, ∀ high ∈ hi, key < high

/-- `key` lies in the half-open interval `[lo, hi)`. -/
def Within (lo hi : Option K) (key : K) : Prop :=
  (∀ low ∈ lo, low ≤ key) ∧ ∀ high ∈ hi, key < high

def SortedRows (rows : List (K × V)) : Prop := (rows.map Prod.fst).Pairwise (· < ·)

/-- Every key of a subtree, separators included, lies in the half-open interval
given by the separators around it. -/
def Tree.Ordered : {h : Nat} → Option K → Option K → Tree K V P h → Prop
  | 0, lo, hi, LeafPage.mk _ rows _ =>
    Span lo hi ∧ SortedRows rows ∧ ∀ row ∈ rows, Within lo hi row.1
  | _ + 1, lo, hi, InnerPage.mk _ first rest =>
    Between Ordered lo first rest hi ∧ Capped hi (rest.map Prod.fst)

@[simp]
lemma Tree.ordered_leaf {page link : P} {content : List (K × V)} :
    (Tree.leaf page content link).Ordered lo hi ↔
      Span lo hi ∧ SortedRows content ∧ ∀ row ∈ content, Within lo hi row.1 := Iff.rfl

lemma Tree.ordered_inner {h : Nat} {page : P} {first : Tree K V P h}
    {rest : List (K × Tree K V P h)} : (Tree.inner page first rest).Ordered lo hi ↔
      Between Tree.Ordered lo first rest hi ∧ Capped hi (rest.map Prod.fst) := Iff.rfl

lemma Span.trans (hleft : Span lo (some key)) (hright : Span (some key) hi) :
    Span lo hi := fun low hlow high hhigh =>
  le_trans (hleft low hlow key rfl) (hright key rfl high hhigh)

/-- A lower bound may be replaced by a weaker one. -/
def LowerLe (lo' lo : Option K) : Prop := ∀ low' ∈ lo', ∃ low ∈ lo, low' ≤ low

/-- An upper bound may be replaced by a weaker one. -/
def UpperLe (hi hi' : Option K) : Prop := ∀ high' ∈ hi', ∃ high ∈ hi, high ≤ high'

lemma LowerLe.refl (lo : Option K) : LowerLe lo lo := fun low hlow =>
  ⟨low, hlow, le_refl low⟩

lemma UpperLe.refl (hi : Option K) : UpperLe hi hi := fun high hhigh =>
  ⟨high, hhigh, le_refl high⟩

lemma Span.lowerLe (hspan : Span lo (some key)) : LowerLe lo (some key) := fun low hlow =>
  ⟨key, rfl, hspan low hlow key rfl⟩

lemma Span.upperLe (hspan : Span (some key) hi) : UpperLe (some key) hi := fun high hhigh =>
  ⟨key, rfl, hspan key rfl high hhigh⟩

lemma Within.mono (hkey : Within lo hi key) (hlo : LowerLe lo' lo) (hhi : UpperLe hi hi') :
    Within lo' hi' key := by
  refine ⟨fun low' hlow' => ?_, fun high' hhigh' => ?_⟩
  · obtain ⟨low, hlow, hle⟩ := hlo low' hlow'
    exact le_trans hle (hkey.1 low hlow)
  · obtain ⟨high, hhigh, hle⟩ := hhi high' hhigh'
    exact lt_of_lt_of_le (hkey.2 high hhigh) hle

lemma Span.mono (hspan : Span lo hi) (hlo : LowerLe lo' lo) (hhi : UpperLe hi hi') :
    Span lo' hi' := by
  intro low' hlow' high' hhigh'
  obtain ⟨low, hlow, hle⟩ := hlo low' hlow'
  obtain ⟨high, hhigh, hle'⟩ := hhi high' hhigh'
  exact le_trans hle (le_trans (hspan low hlow high hhigh) hle')

lemma Capped.mono (hcapped : Capped hi keys) (hhi : UpperLe hi hi') : Capped hi' keys := by
  intro key hkey high' hhigh'
  obtain ⟨high, hhigh, hle⟩ := hhi high' hhigh'
  exact lt_of_lt_of_le (hcapped key hkey high hhigh) hle

lemma Capped.trans (hkeys : Capped (some key) keys) (hkey : Capped hi [key]) :
    Capped hi keys := fun other hother high hhigh =>
  lt_trans (hkeys other hother key rfl) (hkey key mem_cons_self high hhigh)

lemma capped_append {left right : List K} :
    Capped hi (left ++ right) ↔ Capped hi left ∧ Capped hi right :=
  forall_mem_append

lemma capped_cons : Capped hi (key :: keys) ↔ Capped hi [key] ∧ Capped hi keys := by
  rw [← singleton_append, capped_append]

lemma between_span {rest : List (K × α)} (hbetween : Between ok lo child rest hi)
    (hok : ∀ lo hi child, ok lo hi child → Span lo hi) : Span lo hi := by
  induction rest generalizing lo child with
  | nil => exact hok _ _ _ hbetween
  | cons head rest ih => exact (hok _ _ _ hbetween.1).trans (ih hbetween.2)

lemma between_mono {rest : List (K × α)} (hbetween : Between ok lo child rest hi)
    (hlo : LowerLe lo' lo) (hhi : UpperLe hi hi')
    (hok : ∀ lo lo' hi hi' child, LowerLe lo' lo → UpperLe hi hi' → ok lo hi child →
      ok lo' hi' child) : Between ok lo' child rest hi' := by
  induction rest generalizing lo lo' child with
  | nil => exact hok _ _ _ _ _ hlo hhi hbetween
  | cons head rest ih =>
    exact ⟨hok _ _ _ _ _ hlo (UpperLe.refl _) hbetween.1, ih hbetween.2 (LowerLe.refl _)⟩

namespace Tree

variable {h : Nat} {lo hi : Option K} {tree : Tree K V P h}

lemma Ordered.span (hordered : tree.Ordered lo hi) : Span lo hi := by
  induction h generalizing lo hi with
  | zero => exact hordered.1
  | succ h ih =>
    obtain ⟨page, first, rest, rfl⟩ := tree.exists_inner
    exact between_span (ordered_inner.mp hordered).1 fun _ _ _ hchild => ih hchild

lemma Ordered.mono {lo' hi' : Option K} (hlo : LowerLe lo' lo) (hhi : UpperLe hi hi')
    (hordered : tree.Ordered lo hi) : tree.Ordered lo' hi' := by
  induction h generalizing lo lo' hi hi' with
  | zero =>
    exact ⟨hordered.1.mono hlo hhi, hordered.2.1, fun row hrow =>
      (hordered.2.2 row hrow).mono hlo hhi⟩
  | succ h ih =>
    obtain ⟨page, first, rest, rfl⟩ := tree.exists_inner
    rw [ordered_inner] at hordered ⊢
    exact ⟨between_mono hordered.1 hlo hhi fun _ _ _ _ _ hlo hhi hchild => ih hlo hhi hchild,
      hordered.2.mono hhi⟩

@[simp]
lemma ordered_moveTo {target : P} : (tree.moveTo target).Ordered lo hi ↔ tree.Ordered lo hi := by
  cases h <;> exact Iff.rfl

end Tree

/-- Concatenating rows of neighbouring intervals keeps them sorted. -/
lemma sortedRows_append {left right : List (K × V)} (hleft : SortedRows left)
    (hleftIn : ∀ row ∈ left, Within lo (some key) row.1) (hright : SortedRows right)
    (hrightIn : ∀ row ∈ right, Within (some key) hi row.1) : SortedRows (left ++ right) := by
  simp only [SortedRows, map_append, pairwise_append]
  refine ⟨hleft, hright, ?_⟩
  intro a ha b hb
  obtain ⟨row, hrow, rfl⟩ := List.mem_map.mp ha
  obtain ⟨row', hrow', rfl⟩ := List.mem_map.mp hb
  exact lt_of_lt_of_le ((hleftIn row hrow).2 key rfl) ((hrightIn row' hrow').1 key rfl)

lemma between_rows {content : α → List (K × V)} {rest : List (K × α)}
    (hbetween : Between ok lo child rest hi) (hspan : ∀ lo hi child, ok lo hi child → Span lo hi)
    (hok : ∀ lo hi child, ok lo hi child →
      SortedRows (content child) ∧ ∀ row ∈ content child, Within lo hi row.1) :
    SortedRows ((child :: rest.map Prod.snd).flatMap content) ∧
      ∀ row ∈ (child :: rest.map Prod.snd).flatMap content, Within lo hi row.1 := by
  induction rest generalizing lo child with
  | nil => simpa using hok _ _ _ hbetween
  | cons head rest ih =>
    obtain ⟨key, next⟩ := head
    obtain ⟨hsorted, hin⟩ := hok _ _ _ hbetween.1
    obtain ⟨hsortedRest, hinRest⟩ := ih hbetween.2
    have hleft := hspan _ _ _ hbetween.1
    have hright := between_span hbetween.2 hspan
    rw [map_cons, flatMap_cons]
    refine ⟨sortedRows_append hsorted hin hsortedRest hinRest, fun row hrow => ?_⟩
    rcases List.mem_append.mp hrow with hrow | hrow
    · exact (hin row hrow).mono (LowerLe.refl lo) hright.upperLe
    · exact (hinRest row hrow).mono hleft.lowerLe (UpperLe.refl hi)

/-- The rows of an ordered tree are sorted and inside its bounds. -/
lemma Tree.Ordered.rows {h : Nat} {tree : Tree K V P h} (hordered : tree.Ordered lo hi) :
    SortedRows tree.rows ∧ ∀ row ∈ tree.rows, Within lo hi row.1 := by
  induction h generalizing lo hi with
  | zero =>
    obtain ⟨page, content, link, rfl⟩ := tree.exists_leaf
    simpa using hordered.2
  | succ h ih =>
    obtain ⟨page, first, rest, rfl⟩ := tree.exists_inner
    rw [Tree.rows_inner]
    exact between_rows (Tree.ordered_inner.mp hordered).1
      (fun _ _ _ hchild => Tree.Ordered.span hchild) (fun _ _ _ hchild => ih hchild)

end Ordered

end SepTree
