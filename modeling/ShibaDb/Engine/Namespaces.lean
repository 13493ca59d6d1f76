/-
The layout of the composite keys and `sdb_list_namespaces`.  The rows of the objects
of one kind and namespace share a front that no other row has, and so do the index
entries of one term; in the byte order of the tree they fill one block each, which is
why a walk that reports every change of namespace reports none twice.
-/
import ShibaDb.Engine.Operations
import ShibaDb.Lib.Fronts

namespace ShibaDb

open LittleEndian CallProgram SepTree List

/-- What `sdb_verify_pair_key` finds in a key. -/
structure PairParts where
  kind : UInt8
  space : Bytes
  key : Bytes
  deriving DecidableEq

def verifyPairKey (key : Bytes) (suffixSize : Nat) : Except SdbError PairParts :=
  if key.length < 4 + suffixSize then .error .corrupt
  else
    let kind := key.getD 1 0
    let spaceSize := read (field 2 2 key)
    if spaceSize = 0 || spaceSize > engineMaxNameSize || spaceSize > key.length - 4 - suffixSize
        || (kind ≠ ObjectKind.kv.code && kind ≠ ObjectKind.blob.code
          && kind ≠ ObjectKind.document.code) then .error .corrupt
    else
      let keySize := key.length - 4 - suffixSize - spaceSize
      if keySize = 0 || keySize > engineMaxNameSize then .error .corrupt
      else .ok { kind, space := field 4 spaceSize key, key := field (4 + spaceSize) keySize key }

/-- The walk of `sdb_list_namespaces`: what it reported last, how often it reported, and
the context of its visitor. -/
structure NamespaceWalk (σ : Type) where
  last : Option (UInt8 × Bytes)
  emitted : Nat
  context : σ

def NamespaceWalk.report {σ : Type} (walk : NamespaceWalk σ) (item : UInt8 × Bytes) (context : σ) :
    NamespaceWalk σ :=
  { last := some item, emitted := walk.emitted + 1, context }

/-- One row of the walk; it ends at the first row that is no metadata row. -/
def listNamespaceRow {σ : Type} (visitor : σ → UInt8 × Bytes → σ × Bool)
    (walk : NamespaceWalk σ) (row : Bytes × Bytes) : Except SdbError (NamespaceWalk σ × Bool) :=
  if row.1.head? ≠ some objectKeyPrefix then .ok (walk, false)
  else do
    let parts ← verifyPairKey row.1 0
    if walk.last = some (parts.kind, parts.space) then .ok (walk, true)
    else
      let (context, goOn) := visitor walk.context (parts.kind, parts.space)
      if goOn then .ok (walk.report (parts.kind, parts.space) context, true)
      else .ok ({ walk with context }, false)

/-- `sdb_list_namespaces` on the tree its snapshot holds still: the count and the
context its visitor leaves. -/
def listNamespaces {σ : Type} (database : Database) (visitor : σ → UInt8 × Bytes → σ × Bool)
    (context : σ) : Except SdbError (Nat × σ) := do
  let pager := database.pager
  let cursor ← btreeCursorSeek pager pager.superblock.rootPage [objectKeyPrefix]
  let walk ← btreeCursorLoop pager (pagerPayloadCapacity pager) (listNamespaceRow visitor)
    (btreeRowLimit pager) cursor { last := none, emitted := 0, context }
  .ok (walk.emitted, walk.context)

section Layout

variable {id : ObjectId}

lemma verifyPairKey_pairKeyBytes (lead : UInt8) (kind : ObjectKind) (space key : Name)
    (suffix : Bytes) :
    verifyPairKey (pairKeyBytes lead kind.code space.bytes key.bytes suffix) suffix.length =
      .ok { kind := kind.code, space := space.bytes, key := key.bytes } := by
  obtain ⟨hspace, hspaceMax, _⟩ := space.length_bounds
  obtain ⟨hkey, hkeyMax, _⟩ := key.length_bounds
  have hkind : (pairKeyBytes lead kind.code space.bytes key.bytes suffix).getD 1 0 = kind.code :=
    rfl
  have hsize : read (field 2 2 (pairKeyBytes lead kind.code space.bytes key.bytes suffix)) =
      space.bytes.length := by
    change read ((write 2 space.bytes.length ++ _).take 2) = _
    rw [take_left' (write_length 2 _), read_write_of_lt space.length_lt]
  have hspaceBytes : field 4 space.bytes.length
      (pairKeyBytes lead kind.code space.bytes key.bytes suffix) = space.bytes := by
    change (((write 2 space.bytes.length) ++ (space.bytes ++ _)).drop 2).take _ = _
    rw [drop_left' (write_length 2 _), take_left' rfl]
  have hkeyBytes : field (4 + space.bytes.length) key.bytes.length
      (pairKeyBytes lead kind.code space.bytes key.bytes suffix) = key.bytes := by
    rw [field, ← drop_drop]
    change ((((write 2 space.bytes.length) ++ (space.bytes ++ _)).drop 2).drop _).take _ = _
    rw [drop_left' (write_length 2 _), drop_left' rfl, take_left' rfl]
  have hrest : (pairKeyBytes lead kind.code space.bytes key.bytes suffix).length - 4 -
      suffix.length = space.bytes.length + key.bytes.length := by
    rw [pairKeyBytes_length]
    omega
  rw [verifyPairKey, if_neg (by rw [pairKeyBytes_length]; omega)]
  simp only [hkind, hsize, hrest, Nat.add_sub_cancel_left]
  rw [if_neg, if_neg, hspaceBytes, hkeyBytes]
  · simp [hkey, hkeyMax]
  · have hcode : kind.code = ObjectKind.kv.code ∨ kind.code = ObjectKind.blob.code ∨
        kind.code = ObjectKind.document.code := by cases kind <;> simp
    simp only [Bool.or_eq_true, Bool.and_eq_true, decide_eq_true_eq, not_or, not_and]
    refine ⟨⟨⟨hspace, not_lt.mpr hspaceMax⟩, by omega⟩, ?_⟩
    tauto

/-- The front of the pair keys of one kind and namespace. -/
def pairFront (lead : UInt8) (item : UInt8 × Bytes) : Bytes :=
  lead :: item.1 :: (write 2 item.2.length ++ item.2)

/-- The kind and the namespace of an object, as the keys have them. -/
def ObjectId.spaceCode (id : ObjectId) : UInt8 × Bytes := (id.kind.code, id.space.bytes)

lemma spell_object (id : ObjectId) :
    (RowKey.object id).spell = pairFront objectKeyPrefix id.spaceCode ++ id.key.bytes := by
  simp [RowKey.spell, pairKeyBytes, pairFront, ObjectId.spaceCode]

lemma pairFront_injective (lead : UInt8) : Function.Injective (pairFront lead) := by
  rintro ⟨kind, space⟩ ⟨kind', space'⟩ h
  simp only [pairFront, List.cons.injEq, true_and] at h
  obtain ⟨rfl, h⟩ := h
  rw [(append_split (by simp) h).2]

/-- A front says where it ends: it begins no other front, whatever follows. -/
lemma pairFront_of_append {lead : UInt8} {id' : ObjectId} {rest rest' : Bytes}
    (h : pairFront lead id.spaceCode ++ rest = pairFront lead id'.spaceCode ++ rest') :
    id.spaceCode = id'.spaceCode := by
  simp only [pairFront, ObjectId.spaceCode, cons_append, append_assoc,
    List.cons.injEq, true_and] at h
  obtain ⟨hkind, h⟩ := h
  obtain ⟨hlength, h⟩ := append_split (by simp) h
  obtain ⟨hspace, _⟩ :=
    append_split (write_injective id.space.length_lt id'.space.length_lt hlength) h
  rw [ObjectId.spaceCode, ObjectId.spaceCode, hkind, hspace]

lemma spaceCode_of_isPrefix {lead : UInt8} {id' : ObjectId}
    (h : pairFront lead id.spaceCode <+: pairFront lead id'.spaceCode) :
    id.spaceCode = id'.spaceCode := by
  obtain ⟨rest, h⟩ := h
  exact pairFront_of_append (h.trans (append_nil _).symm)

/-- The rows with the front of a namespace are the metadata rows of its objects. -/
lemma object_of_front {row : RowKey} (h : pairFront objectKeyPrefix id.spaceCode <+: row.spell) :
    ∃ key, row = .object { id with key } := by
  have hlead : row.lead = objectKeyPrefix := by
    obtain ⟨rest, h⟩ := h
    have hhead := congrArg List.head? h
    rw [RowKey.head?_spell] at hhead
    exact (Option.some.inj hhead).symm
  cases row with
  | object other =>
    obtain ⟨rest, h⟩ := h
    rw [spell_object] at h
    have hcode := pairFront_of_append h
    simp only [ObjectId.spaceCode, Prod.mk.injEq] at hcode
    have hid : other = { id with key := other.key } :=
      ObjectId.ext_parts hcode.1.symm (Name.ext_bytes hcode.2.symm) rfl
    exact ⟨other.key, congrArg RowKey.object hid⟩
  | _ => cases hlead

/-- The rows with the front of a term are its index entries. -/
lemma entry_of_front {collection index : Name} {value : Bytes} (hvalue : value.length < 256 ^ 2)
    {row : RowKey}
    (h : indexKeyBytes indexEntryPrefix collection.bytes index.bytes value [] <+: row.spell) :
    ∃ term document generation, term.index = index ∧ term.value.bytes = value ∧
      row = .entry collection term document generation := by
  obtain ⟨rest, h⟩ := h
  have hlead : row.lead = indexEntryPrefix := by
    have hhead := congrArg List.head? h
    rw [RowKey.head?_spell] at hhead
    exact (Option.some.inj hhead).symm
  cases row with
  | entry collection' term document generation =>
    have hfront : indexKeyBytes indexEntryPrefix collection.bytes index.bytes value [] ++ rest =
        indexKeyBytes indexEntryPrefix collection.bytes index.bytes value rest := by
      simp [indexKeyBytes]
    rw [hfront] at h
    obtain ⟨rfl, hindex, hvalue, _⟩ :=
      indexKeyBytes_injective hvalue term.value.length_lt h
    exact ⟨term, document, generation, hindex.symm, hvalue.symm, rfl⟩
  | _ => cases hlead

/-- In the byte order of the tree, what lies between two rows of the block belongs to
it. -/
def Contiguous (block : RowKey → Prop) : Prop :=
  ∀ low middle high, block low → block high → low.spell ≤ middle.spell →
    middle.spell ≤ high.spell → block middle

/-- The metadata rows of one kind and namespace. -/
def SpaceBlock (kind : ObjectKind) (space : Name) (row : RowKey) : Prop :=
  ∃ key, row = .object { kind, space, key }

/-- The index entries of one term. -/
def TermBlock (collection : Name) (term : Term) (row : RowKey) : Prop :=
  ∃ document generation, row = .entry collection term document generation

lemma spaceBlock_contiguous (kind : ObjectKind) (space : Name) :
    Contiguous (SpaceBlock kind space) := by
  rintro _ middle _ ⟨low, rfl⟩ ⟨high, rfl⟩ hle hge
  rw [spell_object] at hle hge
  have hfront : pairFront objectKeyPrefix (ObjectId.mk kind space low).spaceCode <+: middle.spell :=
    Fronts.front_of_between ( prefix_append _ _) ( prefix_append _ _) hle hge
  exact object_of_front hfront

lemma termBlock_contiguous (collection : Name) (term : Term) :
    Contiguous (TermBlock collection term) := by
  rintro _ middle _ ⟨lowDocument, lowGeneration, rfl⟩ ⟨highDocument, highGeneration, rfl⟩ hle hge
  have hfront : ∀ document generation,
      indexKeyBytes indexEntryPrefix collection.bytes term.index.bytes term.value.bytes [] <+:
        (RowKey.entry collection term document generation).spell := fun document generation =>
    ⟨entrySuffix document.bytes generation, by simp [RowKey.spell, indexKeyBytes]⟩
  obtain ⟨other, document, generation, hindex, hvalue, rfl⟩ := entry_of_front
    term.value.length_lt (Fronts.front_of_between (hfront _ _) (hfront _ _) hle hge)
  exact ⟨document, generation, by rw [Term.ext_parts hindex hvalue]⟩

/-- The metadata rows of a namespace are ordered by user key. -/
lemma spell_object_lt_iff (kind : ObjectKind) (space left right : Name) :
    (RowKey.object { kind, space, key := left }).spell <
        (RowKey.object { kind, space, key := right }).spell ↔ left.bytes < right.bytes := by
  rw [spell_object, spell_object]
  exact Fronts.append_lt_append_iff _

end Layout

section Walk

variable {σ : Type} {visitor : σ → UInt8 × Bytes → σ × Bool} {rest : List (Bytes × Bytes)}

/-- What a visitor that never stops leaves after these reports. -/
def visitAll (visitor : σ → UInt8 × Bytes → σ × Bool) (context : σ)
    (items : List (UInt8 × Bytes)) : σ :=
  items.foldl (fun context item => (visitor context item).1) context

/-- The row of an object on the walk. -/
lemma listNamespaceRow_object (hvisitor : ∀ context item, (visitor context item).2 = true)
    (walk : NamespaceWalk σ) (id : ObjectId) (value : Bytes) :
    listNamespaceRow visitor walk ((RowKey.object id).spell, value) =
      if walk.last = some id.spaceCode then .ok (walk, true)
      else .ok (walk.report id.spaceCode (visitor walk.context id.spaceCode).1, true) := by
  have hparts : verifyPairKey (RowKey.object id).spell 0 =
      .ok { kind := id.kind.code, space := id.space.bytes, key := id.key.bytes } :=
    verifyPairKey_pairKeyBytes objectKeyPrefix id.kind id.space id.key []
  rw [listNamespaceRow, if_neg (by simp [RowKey.head?_spell, RowKey.lead]), hparts]
  change (if walk.last = some id.spaceCode then _ else
    if (visitor walk.context id.spaceCode).2 = true then _ else _) = _
  rw [hvisitor, if_pos rfl]
  rfl

/-- The walk ends where the metadata rows do. -/
lemma foldRows_other (hrest : ∀ row ∈ rest.head?, row.1.head? ≠ some objectKeyPrefix)
    (walk : NamespaceWalk σ) : foldRows (listNamespaceRow visitor) rest walk = .ok walk := by
  cases rest with
  | nil => rfl
  | cons row rest =>
    have hstop : listNamespaceRow visitor walk row = .ok (walk, false) := if_pos (hrest row rfl)
    rw [foldRows, hstop]
    rfl

/-- The walk over the rows of objects, from a namespace already reported. -/
lemma foldRows_objects_reported (hvisitor : ∀ context item, (visitor context item).2 = true)
    (hrest : ∀ row ∈ rest.head?, row.1.head? ≠ some objectKeyPrefix) {rows : List (Bytes × Bytes)}
    {ids : List ObjectId} (hkeys : rows.map Prod.fst = ids.map fun id => (RowKey.object id).spell)
    {walk : NamespaceWalk σ} {item : UInt8 × Bytes} (hlast : walk.last = some item) :
    ∃ more last, (ids.map ObjectId.spaceCode).destutter' (· ≠ ·) item = item :: more ∧
      foldRows (listNamespaceRow visitor) (rows ++ rest) walk =
        .ok { last, emitted := walk.emitted + more.length
              context := visitAll visitor walk.context more } := by
  induction ids generalizing rows walk item with
  | nil =>
    obtain rfl := List.map_eq_nil_iff.mp hkeys
    exact ⟨[], walk.last, rfl, foldRows_other hrest walk⟩
  | cons id ids ih =>
    obtain ⟨⟨key, value⟩, tail, rfl, hkey, htail⟩ := List.map_eq_cons_iff.mp hkeys
    obtain rfl : key = (RowKey.object id).spell := hkey
    rw [cons_append, foldRows, listNamespaceRow_object hvisitor, hlast]
    by_cases hsame : item = id.spaceCode
    · obtain ⟨more, last, hmore, hfold⟩ := ih htail hlast
      refine ⟨more, last, ?_, ?_⟩
      · rw [map_cons, List.destutter'_cons_neg _ (not_not.mpr hsame), hmore]
      · rw [if_pos (congrArg some hsame)]
        exact hfold
    · have hreport : (walk.report id.spaceCode (visitor walk.context id.spaceCode).1).last =
          some id.spaceCode := rfl
      obtain ⟨more, last, hmore, hfold⟩ := ih htail hreport
      refine ⟨id.spaceCode :: more, last, ?_, ?_⟩
      · rw [map_cons, List.destutter'_cons_pos _ hsame, hmore]
      · rw [if_neg fun h => hsame (Option.some.inj h), length_cons, Nat.add_comm more.length,
          ← Nat.add_assoc]
        exact hfold

/-- A whole walk reports the namespaces of the rows without repeated neighbours. -/
lemma foldRows_objects (hvisitor : ∀ context item, (visitor context item).2 = true)
    {rows : List (Bytes × Bytes)} {ids : List ObjectId}
    (hkeys : rows.map Prod.fst = ids.map fun id => (RowKey.object id).spell)
    (hrest : ∀ row ∈ rest.head?, row.1.head? ≠ some objectKeyPrefix) (context : σ) :
    ∃ last, foldRows (listNamespaceRow visitor) (rows ++ rest)
        { last := none, emitted := 0, context } =
      .ok { last, emitted := ((ids.map ObjectId.spaceCode).destutter (· ≠ ·)).length
            context := visitAll visitor context
              ((ids.map ObjectId.spaceCode).destutter (· ≠ ·)) } := by
  cases ids with
  | nil =>
    obtain rfl := List.map_eq_nil_iff.mp hkeys
    exact ⟨none, foldRows_other hrest _⟩
  | cons id ids =>
    obtain ⟨⟨key, value⟩, tail, rfl, hkey, htail⟩ := List.map_eq_cons_iff.mp hkeys
    obtain rfl : key = (RowKey.object id).spell := hkey
    have hreport : (NamespaceWalk.report { last := none, emitted := 0, context } id.spaceCode
        (visitor context id.spaceCode).1).last = some id.spaceCode := rfl
    obtain ⟨more, last, hmore, hfold⟩ :=
      foldRows_objects_reported hvisitor hrest htail hreport
    refine ⟨last, ?_⟩
    rw [map_cons, destutter_cons', hmore, cons_append, foldRows,
      listNamespaceRow_object hvisitor, if_neg (by simp), length_cons,
      Nat.add_comm more.length, ← Nat.zero_add 1]
    exact hfold

end Walk

section Listing

variable {sha256 : Bytes → Bytes} {database : Database} {h : Nat} {tree : PageTree h}

/-- The database has a row of this key. -/
def Database.HasRow (database : Database) (row : RowKey) : Prop :=
  (btreeGet database.pager database.pager.superblock.rootPage row.spell 0).status ≠
    .error .notFound

instance Database.decidableHasRow (database : Database) (row : RowKey) :
    Decidable (database.HasRow row) := inferInstanceAs (Decidable (_ ≠ _))

lemma rowsFrom_eq_filter {key : Bytes} {rows : List (Bytes × Bytes)}
    (hsorted : SortedRows rows) : rowsFrom key rows = rows.filter fun row => key ≤ row.1 := by
  have hdown : ∀ left ∈ rows, ∀ right ∈ rows, left.1 < right.1 →
      decide (right.1 < key) = true → decide (left.1 < key) = true :=
    fun left _ right _ hlt hkey => decide_eq_true (hlt.trans (of_decide_eq_true hkey))
  rw [rowsFrom, (Fronts.takeWhile_eq_filter (List.pairwise_map.mp hsorted) hdown).2]
  congr 1
  funext row
  rw [← decide_not]
  exact decide_eq_decide.mpr not_lt

lemma head?_eq_some_iff {byte : UInt8} {bytes : Bytes} :
    bytes.head? = some byte ↔ [byte] <+: bytes := by
  cases bytes with
  | nil => simp
  | cons head bytes => simp [cons_prefix_cons, eq_comm]

lemma le_of_front {front bytes : Bytes} (h : front <+: bytes) : front ≤ bytes := by
  obtain ⟨rest, rfl⟩ := h
  induction front with
  | nil => exact not_lt.mp (not_lt_nil _)
  | cons item front ih =>
    rw [cons_append, ← not_lt, cons_lt_cons_iff]
    simpa using ih

/-- The metadata rows of a tree, in front of the rows that follow them. -/
lemma rowsFrom_objects {rows : List (Bytes × Bytes)} (hsorted : SortedRows rows) :
    ∃ rest, rowsFrom [objectKeyPrefix] rows =
        (rows.filter fun row => row.1.head? = some objectKeyPrefix) ++ rest ∧
      ∀ row ∈ rest, row.1.head? ≠ some objectKeyPrefix := by
  have hfrom : rowsFrom [objectKeyPrefix] rows = rows.filter fun row => [objectKeyPrefix] ≤ row.1 :=
    rowsFrom_eq_filter hsorted
  have hdown : ∀ left ∈ rowsFrom [objectKeyPrefix] rows,
      ∀ right ∈ rowsFrom [objectKeyPrefix] rows, left.1 < right.1 →
      decide (right.1.head? = some objectKeyPrefix) = true →
      decide (left.1.head? = some objectKeyPrefix) = true := by
    intro left hleft right _ hlt hright
    rw [hfrom, mem_filter] at hleft
    rw [decide_eq_true_eq, head?_eq_some_iff] at hright ⊢
    exact Fronts.front_of_between prefix_rfl hright (of_decide_eq_true hleft.2) hlt.le
  have hpairwise : (rowsFrom [objectKeyPrefix] rows).Pairwise (·.1 < ·.1) := by
    rw [hfrom]
    exact (List.pairwise_map.mp hsorted).filter _
  obtain ⟨htake, hdrop⟩ := Fronts.takeWhile_eq_filter hpairwise hdown
  refine ⟨(rowsFrom [objectKeyPrefix] rows).dropWhile
    fun row => decide (row.1.head? = some objectKeyPrefix), ?_, ?_⟩
  · have hsame : (rowsFrom [objectKeyPrefix] rows).filter
        (fun row => decide (row.1.head? = some objectKeyPrefix)) =
        rows.filter fun row => row.1.head? = some objectKeyPrefix := by
      rw [hfrom, filter_filter]
      refine filter_congr fun row _ => ?_
      by_cases hhead : row.1.head? = some objectKeyPrefix
      · simp [hhead, le_of_front (head?_eq_some_iff.mp hhead)]
      · simp [hhead]
    rw [← hsame, ← htake]
    exact (takeWhile_append_dropWhile).symm
  · intro row hrow
    rw [hdrop, mem_filter] at hrow
    simpa using hrow.2

lemma StoresTree.hasRow_iff (hstores : StoresTree database.pager [] tree) {row : RowKey} :
    database.HasRow row ↔ row.spell ∈ tree.rows.map Prod.fst := by
  have hsorted := hstores.holds.sortedRows
  have himplements : Implements tree fun key => tree.rows.lookup key := fun _ => rfl
  have hget : btreeGet database.pager database.pager.superblock.rootPage row.spell 0 =
      lookupAnswer (tree.rows.lookup row.spell) 0 :=
    hstores.agrees himplements row.spell 0 row.spell_length.1 row.spell_length.2
  rw [Database.HasRow, hget]
  cases hlookup : tree.rows.lookup row.spell with
  | none =>
    simp only [lookupAnswer, Lookup.failed, ne_eq, not_true_eq_false, false_iff]
    intro hmem
    obtain ⟨⟨key, value⟩, hrow, hkey⟩ := List.mem_map.mp hmem
    obtain rfl : key = row.spell := hkey
    rw [lookup_of_mem hsorted hrow] at hlookup
    cases hlookup
  | some value =>
    obtain ⟨left, right, hrows, _⟩ := List.lookup_eq_some_iff.mp hlookup
    have hmem : row.spell ∈ tree.rows.map Prod.fst := by simp [hrows]
    simp only [hmem, iff_true, lookupAnswer, Lookup.found]
    split <;> simp

/-- The namespaces of sorted metadata rows, without repeated neighbours, are all
different. -/
lemma spaceCodes_nodup {ids : List ObjectId}
    (hsorted : (ids.map fun id => (RowKey.object id).spell).Pairwise (· < ·)) :
    ((ids.map ObjectId.spaceCode).destutter (· ≠ ·)).Nodup := by
  have hfronts : (ids.map fun id => pairFront objectKeyPrefix id.spaceCode).Pairwise (· ≤ ·) := by
    rw [pairwise_map] at hsorted ⊢
    refine hsorted.imp fun {id id'} hlt => ?_
    by_cases hsame : id.spaceCode = id'.spaceCode
    · rw [hsame]
    · rw [spell_object, spell_object] at hlt
      exact (Fronts.front_lt ( prefix_append _ _) ( prefix_append _ _)
        (fun h => hsame (spaceCode_of_isPrefix h))
        (fun h => hsame (spaceCode_of_isPrefix h).symm) hlt).le
  have hnodup := Fronts.destutter_ne_nodup hfronts
  have hmap : ((ids.map ObjectId.spaceCode).destutter (· ≠ ·)).map (pairFront objectKeyPrefix) =
      (ids.map fun id => pairFront objectKeyPrefix id.spaceCode).destutter (· ≠ ·) := by
    rw [map_destutter_ne _ (pairFront_injective objectKeyPrefix), map_map]
    rfl
  rw [← hmap] at hnodup
  exact hnodup.of_map _

/-- Each kind and namespace with an object is listed, and listed once. -/
structure ListsOnce (database : Database) (reported : List (UInt8 × Bytes)) : Prop where
  nodup : reported.Nodup
  mem_iff : ∀ item, item ∈ reported ↔
    ∃ id : ObjectId, id.spaceCode = item ∧ database.HasRow (.object id)
  lists : ∀ (σ : Type) (visitor : σ → UInt8 × Bytes → σ × Bool) (context : σ),
    (∀ context item, (visitor context item).2 = true) →
    listNamespaces database visitor context =
      .ok (reported.length, visitAll visitor context reported)

lemma StoresTree.listsOnce (hstores : StoresTree database.pager [] tree)
    (hspelled : ∀ row ∈ tree.rows, Spelled row.1 row.2) :
    ∃ reported, ListsOnce database reported := by
  have hsorted := hstores.holds.sortedRows
  have hroot : tree.page = database.pager.superblock.rootPage := hstores.holds.root
  obtain ⟨rest, hfrom, hrest⟩ := rowsFrom_objects hsorted
  have hids : (tree.rows.filter fun row => row.1.head? = some objectKeyPrefix).map Prod.fst ∈
      Set.range (List.map fun id => (RowKey.object id).spell) := by
    rw [Set.range_list_map]
    intro key hkey
    obtain ⟨row, hrow, rfl⟩ := List.mem_map.mp hkey
    obtain ⟨hrow, hhead⟩ := List.mem_filter.mp hrow
    obtain ⟨rowKey, hspell⟩ := hspelled row hrow
    rw [← hspell, RowKey.head?_spell, decide_eq_true_eq, Option.some.injEq] at hhead
    cases rowKey with
    | object id => exact ⟨id, hspell⟩
    | _ => cases hhead
  obtain ⟨ids, hids⟩ := hids
  have hmem : ∀ id, id ∈ ids ↔ (RowKey.object id).spell ∈ tree.rows.map Prod.fst := by
    intro id
    have hinjective : Function.Injective fun id => (RowKey.object id).spell :=
      fun _ _ h => RowKey.object.inj (RowKey.spell_injective h)
    rw [← mem_map_of_injective hinjective, hids, mem_map, mem_map]
    refine exists_congr fun row => ?_
    rw [mem_filter, decide_eq_true_eq]
    constructor
    · rintro ⟨⟨hrow, _⟩, hkey⟩
      exact ⟨hrow, hkey⟩
    · rintro ⟨hrow, hkey⟩
      refine ⟨⟨hrow, ?_⟩, hkey⟩
      rw [hkey, RowKey.head?_spell]
      rfl
  refine ⟨(ids.map ObjectId.spaceCode).destutter (· ≠ ·), ?_, fun item => ?_, ?_⟩
  · apply spaceCodes_nodup
    rw [hids]
    exact List.Pairwise.sublist (List.filter_sublist.map Prod.fst) hsorted
  · rw [Fronts.mem_destutter_ne, mem_map]
    refine exists_congr fun id => ?_
    rw [and_comm, hstores.hasRow_iff, hmem]
  · intro σ visitor context hvisitor
    have hkey : [objectKeyPrefix].length ≠ 0 ∧ [objectKeyPrefix].length ≤ uint16Max := by decide
    obtain ⟨cursor, hseek, hat⟩ := btreeCursorSeek_at hstores.readsTree hkey
    have hrows : ∀ row ∈ rowsFrom [objectKeyPrefix] tree.rows, row ∈ tree.rows := by
      rw [rowsFrom_eq_filter hsorted]
      exact fun row hrow => (List.mem_filter.mp hrow).1
    have hlength : (rowsFrom [objectKeyPrefix] tree.rows).length <
        btreeRowLimit database.pager := by
      rw [rowsFrom_eq_filter hsorted]
      exact lt_of_le_of_lt (length_filter_le _ _) hstores.readsTree.rows_lt
    have hloop := btreeCursorLoop_at hstores.readsTree (listNamespaceRow visitor) hat hlength
      (fun row hrow => hstores.row_sizes (hrows row hrow)) { last := none, emitted := 0, context }
    obtain ⟨last, hfold⟩ := foldRows_objects hvisitor hids.symm
      (fun row hrow => hrest row (mem_of_mem_head? hrow)) context
    rw [hroot] at hseek
    rw [hfrom, hfold] at hloop
    exact Fallible.except_bind_eq_ok.mpr
      ⟨cursor, hseek, Fallible.except_bind_eq_ok.mpr ⟨_, hloop, rfl⟩⟩

/-- The composite keys: a key is read back to what it stands for, in full and by
`sdb_verify_pair_key`; the metadata rows of a namespace are one block ordered by user
key, the index entries of a term are one block; and `sdb_list_namespaces` reports every
kind and namespace with an object once. -/
theorem compositeKeys_laid_out (sha256 : Bytes → Bytes) :
    (∀ left right : RowKey, left.spell = right.spell → left = right) ∧
    (∀ (lead : UInt8) (kind : ObjectKind) (space key : Name) (suffix : Bytes),
      verifyPairKey (pairKeyBytes lead kind.code space.bytes key.bytes suffix) suffix.length =
        .ok { kind := kind.code, space := space.bytes, key := key.bytes }) ∧
    (∀ (kind : ObjectKind) (space : Name), Contiguous (SpaceBlock kind space)) ∧
    (∀ (kind : ObjectKind) (space left right : Name),
      (RowKey.object { kind, space, key := left }).spell <
        (RowKey.object { kind, space, key := right }).spell ↔ left.bytes < right.bytes) ∧
    (∀ (collection : Name) (term : Term), Contiguous (TermBlock collection term)) ∧
    ∀ database, Reached sha256 database → database.pager.needsRecovery = false →
      ∃ reported, ListsOnce database reported := by
  refine ⟨fun _ _ => RowKey.spell_injective, verifyPairKey_pairKeyBytes, spaceBlock_contiguous,
    spell_object_lt_iff, termBlock_contiguous, fun database hreached hservice => ?_⟩
  obtain ⟨h, tree, hstores, hspelled⟩ := hreached.stores hservice
  exact hstores.listsOnce hspelled

/-- A key-value object and a blob in namespaces of one name, committed together. -/
theorem compositeKeys_laid_out_kv_and_blob :
    ∃ database, Reached (fun _ => List.replicate 32 0) database ∧
      database.pager.needsRecovery = false ∧
      database.HasRow (.object ⟨.kv, ⟨[7], rfl⟩, ⟨[1], rfl⟩⟩) ∧
      database.HasRow (.object ⟨.blob, ⟨[7], rfl⟩, ⟨[1], rfl⟩⟩) ∧
      ∃ reported, ListsOnce database reported := by
  have hrun : (freshDatabase 4096 [1] false >>= fun pager =>
      let database := (engineMutation (transactionProgram (fun _ => List.replicate 32 0) true
        [.kvPut [7] [1] [5], .kvPut [7] [2] [], .blobPut [7] [1] []]) []
        { pager, nextObjectGeneration := 0 }).2
      .ok (database.pager.needsRecovery,
        decide (database.HasRow (.object ⟨.kv, ⟨[7], rfl⟩, ⟨[1], rfl⟩⟩)),
        decide (database.HasRow (.object ⟨.blob, ⟨[7], rfl⟩, ⟨[1], rfl⟩⟩)))) =
      .ok (false, true, true) := by
    decide +kernel
  simp only [Fallible.except_bind_eq_ok, Except.ok.injEq, Prod.mk.injEq, decide_eq_true_eq] at hrun
  obtain ⟨pager, hpager, hservice, hkv, hblob⟩ := hrun
  have hcreated : Reached (fun _ => List.replicate 32 0) { pager, nextObjectGeneration := 0 } :=
    .created hpager
  have hreached := hcreated.transacted
    [.kvPut [7] [1] [5], .kvPut [7] [2] [], .blobPut [7] [1] []] true []
  exact ⟨_, hreached, hservice, hkv, hblob,
    (compositeKeys_laid_out fun _ => List.replicate 32 0).2.2.2.2.2 _ hreached hservice⟩

end Listing

end ShibaDb
