/-
`sdb_index_visit`: a walk over the index entries of one value whose visitor may write
to the database.  The cursor is given up before the visitor runs and is set again
behind the last entry it saw, in whatever tree the visitor left.
-/
import ShibaDb.Engine.Namespaces

namespace ShibaDb

open LittleEndian CallProgram SepTree Fallible List

/-- Run an operation that only reads, outside any mutation. -/
def Database.read {α : Type} (database : Database) (operation : EngineM α) : Except SdbError α :=
  (operation.execute { database, batch := none, memory := [] }).1

/-- One call of the visitor: the database it was called on, the entry and what of it
the walk read. -/
structure IndexVisit where
  database : Database
  key : Bytes
  document : Bytes
  generation : UInt64

/-- The walk: the database as it is now, the context of the visitor, and the calls made
so far. -/
structure IndexWalk (σ : Type) where
  database : Database
  context : σ
  visits : List IndexVisit

/-- A visitor is shown a document id; it answers whether to go on, and may leave
another database behind the handle. -/
abbrev IndexVisitor (σ : Type) := σ → Bytes → Database → Bool × σ × Database

/-- What a walk is about: its collection, the front of the entries it asks for and the
capacity of its buffers. -/
structure IndexQuery where
  collection : Bytes
  front : Bytes
  capacity : Nat

/-- The document id and the generation behind the front of an index entry. -/
def indexEntryParts (front key value : Bytes) : Except SdbError (Bytes × UInt64) :=
  if value.length ≠ 0 || key.length < front.length + 10 then .error .corrupt
  else
    let documentSize := read (field front.length 2 key)
    if documentSize = 0 || key.length ≠ front.length + 2 + documentSize + 8 then .error .corrupt
    else
      .ok (field (front.length + 2) documentSize key,
        UInt64.ofNat (read (field (front.length + 2 + documentSize) 8 key)))

/-- Whether the document is there in the generation the entry names. -/
def indexEntryLive (database : Database) (collection document : Bytes) (generation : UInt64) :
    Except SdbError Bool :=
  match database.read (objectReadMetadata .document collection document) with
  | .ok metadata => .ok (metadata.generation = generation)
  | .error .notFound => .ok false
  | .error error => .error error

/-- Set the cursor behind the key in the tree as it is now. -/
def indexResume (database : Database) (capacity : Nat) (key : Bytes) :
    Except SdbError BTreeCursor := do
  let cursor ← btreeCursorSeek database.pager database.pager.superblock.rootPage key
  if !cursor.valid then .ok cursor
  else
    let (resumed, _) ← btreeCursorRead cursor capacity capacity
    if resumed = key then btreeCursorNext database.pager cursor else .ok cursor

/-- One turn of the loop: the cursor of the next turn, or none where the walk is over. -/
def indexVisitStep {σ : Type} (query : IndexQuery) (visitor : IndexVisitor σ)
    (cursor : BTreeCursor) (walk : IndexWalk σ) :
    Except SdbError (Option BTreeCursor) × IndexWalk σ :=
  if !cursor.valid then (.ok none, walk)
  else
    match btreeCursorRead cursor query.capacity query.capacity with
    | .error error => (.error error, walk)
    | .ok (key, value) =>
      if ¬query.front <+: key then (.ok none, walk)
      else
        match indexEntryParts query.front key value with
        | .error error => (.error error, walk)
        | .ok (document, generation) =>
          match indexEntryLive walk.database query.collection document generation with
          | .error error => (.error error, walk)
          | .ok false => ((btreeCursorNext walk.database.pager cursor).map some, walk)
          | .ok true =>
            let (keepVisiting, context, database) :=
              visitor walk.context document walk.database
            let visit : IndexVisit :=
              { database := walk.database, key, document, generation }
            let walk := { database, context, visits := walk.visits ++ [visit] }
            if keepVisiting then ((indexResume database query.capacity key).map some, walk)
            else (.ok none, walk)

/-- The loop, for so many turns; no status means that it is still at work. -/
def indexVisitLoop {σ : Type} (query : IndexQuery) (visitor : IndexVisitor σ) :
    Nat → BTreeCursor → IndexWalk σ → Option (Except SdbError Unit) × IndexWalk σ
  | 0, _, walk => (none, walk)
  | turns + 1, cursor, walk =>
    match indexVisitStep query visitor cursor walk with
    | (.error error, walk) => (some (.error error), walk)
    | (.ok none, walk) => (some (.ok ()), walk)
    | (.ok (some cursor), walk) => indexVisitLoop query visitor turns cursor walk

/-- `sdb_index_visit`, its allocations succeeding, for so many turns of its loop. -/
def indexVisit {σ : Type} (collection index value : Bytes) (visitor : IndexVisitor σ)
    (turns : Nat) (context : σ) (database : Database) :
    Option (Except SdbError Unit) × IndexWalk σ :=
  let walk : IndexWalk σ := { database, context, visits := [] }
  match database.read (indexBaseKey indexEntryPrefix collection index value []) with
  | .error error => (some (.error error), walk)
  | .ok front =>
    match btreeCursorSeek database.pager database.pager.superblock.rootPage front with
    | .error error => (some (.error error), walk)
    | .ok cursor =>
      indexVisitLoop { collection, front, capacity := pagerPayloadCapacity database.pager }
        visitor turns cursor walk

/-- The databases the operations of a client lead to, successful or not. -/
inductive Operates (sha256 : Bytes → Bytes) : Database → Database → Prop
  | done (database : Database) : Operates sha256 database database
  | step {database after : Database} (op : EngineOp) (memory : List Bool)
      (hrest : Operates sha256 (engineMutation (op.program sha256) memory database).2 after) :
      Operates sha256 database after

lemma Reached.operates {sha256 : Bytes → Bytes} {database after : Database}
    (hreached : Reached sha256 database) (hoperates : Operates sha256 database after) :
    Reached sha256 after := by
  induction hoperates with
  | done database => exact hreached
  | step op memory _ ih => exact ih (hreached.operated op memory)

section Entries

/-- The front of an index entry and what follows it. -/
lemma spell_entry (collection : Name) (term : Term) (document : Name) (generation : UInt64) :
    (RowKey.entry collection term document generation).spell =
      indexKeyBytes indexEntryPrefix collection.bytes term.index.bytes term.value.bytes [] ++
        entrySuffix document.bytes generation := by
  simp [RowKey.spell, indexKeyBytes]

/-- The parts of an entry are read back. -/
lemma indexEntryParts_entrySuffix (front : Bytes) (document : Name) (generation : UInt64) :
    indexEntryParts front (front ++ entrySuffix document.bytes generation) [] =
      .ok (document.bytes, generation) := by
  obtain ⟨hne, _, _⟩ := document.length_bounds
  have hlength : (front ++ entrySuffix document.bytes generation).length =
      front.length + 2 + document.bytes.length + 8 := by
    simp [entrySuffix]
    omega
  have hsize : read (field front.length 2 (front ++ entrySuffix document.bytes generation)) =
      document.bytes.length := by
    rw [field_skip _ le_rfl, Nat.sub_self, entrySuffix, field_head _ (write_length _ _),
      read_write_of_lt document.length_lt]
  have hdocument : field (front.length + 2) document.bytes.length
      (front ++ entrySuffix document.bytes generation) = document.bytes := by
    rw [field_skip _ (Nat.le_add_right _ _), Nat.add_sub_cancel_left, entrySuffix,
      field_skip _ (by simp), write_length, Nat.sub_self, field_head _ rfl]
  have hgeneration : field (front.length + 2 + document.bytes.length) 8
      (front ++ entrySuffix document.bytes generation) = write 8 generation.toNat := by
    rw [field_skip _ (by omega), entrySuffix, field_skip _ (by simp; omega), write_length,
      field_skip _ (by omega)]
    have hoffset : front.length + 2 + document.bytes.length - front.length - 2 -
        document.bytes.length = 0 := by omega
    rw [hoffset, field_full (write_length _ _)]
  rw [indexEntryParts, if_neg (by simp [hlength])]
  simp only [hsize, hlength]
  rw [if_neg (by simp [hne]), hdocument, hgeneration, read_write_of_lt generation.toNat_lt,
    UInt64.ofNat_toNat]

/-- Only an entry without a value has parts. -/
lemma indexEntryParts_value {front key value : Bytes} {parts : Bytes × UInt64}
    (hparts : indexEntryParts front key value = .ok parts) : value = [] := by
  obtain ⟨hguard, _⟩ := guard_eq_ok.mp hparts
  simp only [Bool.or_eq_true, not_or, decide_eq_true_eq, not_not] at hguard
  exact List.length_eq_zero_iff.mp hguard.1

end Entries

section Resume

variable {database : Database} {h : Nat} {tree : PageTree h} {key : Bytes} {cursor : BTreeCursor}

/-- A seek that succeeds finds the pager in service. -/
lemma btreeCursorSeek_inService {pager : Pager} {root : PageId}
    (hseek : btreeCursorSeek pager root key = .ok cursor) : pager.needsRecovery = false := by
  obtain ⟨_, hfloor, _⟩ := except_bind_eq_ok.mp hseek
  obtain ⟨_, hfloor⟩ := guard_eq_ok.mp hfloor
  obtain ⟨_, hdescend, _⟩ := except_bind_eq_ok.mp hfloor
  rw [btreeDescend] at hdescend
  obtain ⟨node, hread, _⟩ := except_bind_eq_ok.mp hdescend
  simp only [btreeReadNode, pagerRead, except_bind_eq_ok, guard_eq_ok] at hread
  obtain ⟨_, ⟨hguard, _⟩, _⟩ := hread
  simp only [Bool.or_eq_true, not_or, Bool.not_eq_true] at hguard
  exact hguard.1.1.2

/-- The walk goes on at the rows behind the key it resumes from. -/
lemma indexResume_at (hstores : StoresTree database.pager [] tree)
    (hkey : key.length ≠ 0 ∧ key.length ≤ uint16Max) {capacity : Nat}
    (hresume : indexResume database capacity key = .ok cursor) :
    CursorAt tree cursor (tree.rows.filter fun row => key < row.1) := by
  have hreads := hstores.readsTree
  have hsorted := hstores.holds.sortedRows
  have hroot : tree.page = database.pager.superblock.rootPage := hstores.holds.root
  obtain ⟨found, hseek, hat⟩ := btreeCursorSeek_at hreads hkey
  have hbehind : (rowsFrom key tree.rows).filter (fun row => decide (key < row.1)) =
      tree.rows.filter fun row => key < row.1 := by
    rw [rowsFrom_eq_filter hsorted, filter_filter]
    refine filter_congr fun row _ => ?_
    by_cases hlt : key < row.1
    · simp [hlt, hlt.le]
    · simp [hlt]
  have hrest : (rowsFrom key tree.rows).Pairwise (·.1 < ·.1) := by
    rw [rowsFrom_eq_filter hsorted]
    exact (List.pairwise_map.mp hsorted).filter _
  have habove : ∀ row ∈ rowsFrom key tree.rows, key ≤ row.1 := by
    rw [rowsFrom_eq_filter hsorted]
    exact fun row hrow => of_decide_eq_true (List.mem_filter.mp hrow).2
  rw [indexResume, ← hroot, hseek] at hresume
  rw [← hbehind]
  cases hrows : rowsFrom key tree.rows with
  | nil =>
    rw [hrows] at hat
    have hinvalid : found.valid = false := by
      rw [← Bool.not_eq_true, hat.valid_iff]
      simp
    simp only [except_bind_eq_ok, Except.ok.injEq] at hresume
    obtain ⟨_, rfl, hresume⟩ := hresume
    rw [hinvalid] at hresume
    obtain rfl := Except.ok.inj hresume
    exact hat
  | cons row rest =>
    rw [hrows] at hat hrest habove
    rw [pairwise_cons] at hrest
    have hvalid : found.valid = true := hat.valid_iff.mpr (cons_ne_nil row rest)
    simp only [except_bind_eq_ok, Except.ok.injEq] at hresume
    obtain ⟨_, rfl, hresume⟩ := hresume
    rw [hvalid] at hresume
    obtain ⟨⟨resumed, value⟩, hread, hresume⟩ := except_bind_eq_ok.mp hresume
    rw [btreeCursorRead_at hat] at hread
    obtain ⟨_, hread⟩ := guard_eq_ok.mp hread
    obtain rfl := Except.ok.inj hread
    by_cases hsame : resumed = key
    · obtain ⟨next, hnext, hnextAt⟩ := btreeCursorNext_at hreads hat
      rw [hsame] at hrest
      have hcursor : btreeCursorNext database.pager found = .ok cursor := by
        simpa [hsame] using hresume
      obtain rfl := Except.ok.inj (hnext.symm.trans hcursor)
      rw [filter_cons_of_neg (by simp [hsame]),
        List.filter_eq_self.mpr fun row hrow => decide_eq_true (hrest.1 row hrow)]
      exact hnextAt
    · have hcursor : found = cursor := by simpa [hsame] using hresume
      have hlt : key < resumed :=
        lt_of_le_of_ne (habove _ mem_cons_self) (Ne.symm hsame)
      rw [List.filter_eq_self.mpr, ← hcursor]
      · exact hat
      · rintro row hrow
        rcases List.mem_cons.mp hrow with rfl | hrow
        · exact decide_eq_true hlt
        · exact decide_eq_true (hlt.trans (hrest.1 row hrow))

end Resume

section Walk

variable {sha256 : Bytes → Bytes} {σ : Type} {visitor : IndexVisitor σ} {collection index : Name}
  {value : Bytes} {capacity : Nat} {database : Database} {visit : IndexVisit}

lemma indexEntryLive_iff {collection document : Bytes} {generation : UInt64} :
    indexEntryLive database collection document generation = .ok true ↔
      ∃ metadata, database.read (objectReadMetadata .document collection document) = .ok metadata ∧
        metadata.generation = generation := by
  unfold indexEntryLive
  cases database.read (objectReadMetadata .document collection document) with
  | ok metadata => simp
  | error error => cases error <;> simp

/-- The query for the entries of one value. -/
def entryQuery (collection index : Name) (value : Bytes) (capacity : Nat) : IndexQuery :=
  { collection := collection.bytes
    front := indexKeyBytes indexEntryPrefix collection.bytes index.bytes value [], capacity }

/-- A call of the visitor with a document whose entry was there and whose generation was
the one of the entry. -/
structure Reports (collection index : Name) (value : Bytes) (visit : IndexVisit) : Prop where
  entry : ∃ (term : Term) (document : Name), term.index = index ∧ term.value.bytes = value ∧
    visit.document = document.bytes ∧
    visit.key = (RowKey.entry collection term document visit.generation).spell ∧
    visit.database.HasRow (.entry collection term document visit.generation)
  live : ∃ metadata,
    visit.database.read (objectReadMetadata .document collection.bytes visit.document) =
        .ok metadata ∧ metadata.generation = visit.generation

/-- What holds of the calls made so far. -/
structure Told (collection index : Name) (value : Bytes) (visits : List IndexVisit) : Prop where
  sorted : (visits.map IndexVisit.key).Pairwise (· < ·)
  reports : ∀ visit ∈ visits, Reports collection index value visit

/-- The entry is there and live now and at every call so far. -/
def Persists (collection : Name) (term : Term) (document : Name) (generation : UInt64)
    (walk : IndexWalk σ) : Prop :=
  ∀ database ∈ walk.visits.map IndexVisit.database ++ [walk.database],
    database.HasRow (.entry collection term document generation) ∧
      indexEntryLive database collection.bytes document.bytes generation = .ok true

instance decidablePersists (collection : Name) (term : Term) (document : Name)
    (generation : UInt64) (walk : IndexWalk σ) :
    Decidable (Persists collection term document generation walk) :=
  inferInstanceAs (Decidable (∀ database ∈ _, _ ∧ _))

/-- Every entry of the value that persists is one of `keys`. -/
def Accounted (collection index : Name) (value : Bytes) (walk : IndexWalk σ) (keys : List Bytes) :
    Prop :=
  ∀ (term : Term) (document : Name) (generation : UInt64), term.index = index →
    term.value.bytes = value → Persists collection term document generation walk →
    (RowKey.entry collection term document generation).spell ∈ keys

/-- The cursor stands in front of `rest`: every call so far was about a smaller key, and
an entry that persists is ahead or has been reported. -/
structure Standing (collection index : Name) (value : Bytes) {h : Nat} (tree : PageTree h)
    (cursor : BTreeCursor) (rest : List (Bytes × Bytes)) (walk : IndexWalk σ) : Prop where
  stores : StoresTree walk.database.pager [] tree
  spelled : ∀ row ∈ tree.rows, Spelled row.1 row.2
  stands : CursorAt tree cursor rest
  sublist : rest.Sublist tree.rows
  above : ∀ row ∈ rest, indexKeyBytes indexEntryPrefix collection.bytes index.bytes value [] ≤ row.1
  fresh : ∀ visit ∈ walk.visits, ∀ row ∈ rest, visit.key < row.1
  accounted : Accounted collection index value walk
    (rest.map Prod.fst ++ walk.visits.map IndexVisit.key)

/-- What one turn leaves. -/
structure Turned (sha256 : Bytes → Bytes) (visitor : IndexVisitor σ) (collection index : Name)
    (value : Bytes) (outcome : Except SdbError (Option BTreeCursor)) (walk : IndexWalk σ) :
    Prop where
  reached : Reached sha256 walk.database
  told : Told collection index value walk.visits
  goesOn : ∀ cursor, outcome = .ok (some cursor) →
    ∃ (h : Nat) (tree : PageTree h) (rest : List (Bytes × Bytes)),
      Standing collection index value tree cursor rest walk
  ends : outcome = .ok none → (∀ context document database, (visitor context document database).1) →
    Accounted collection index value walk (walk.visits.map IndexVisit.key)

variable {h : Nat} {tree : PageTree h} {cursor : BTreeCursor} {rest : List (Bytes × Bytes)}
  {row : Bytes × Bytes} {walk : IndexWalk σ}

lemma Standing.sorted (hstanding : Standing collection index value tree cursor rest walk) :
    rest.Pairwise (·.1 < ·.1) :=
  List.Pairwise.sublist hstanding.sublist (List.pairwise_map.mp hstanding.stores.holds.sortedRows)

lemma Turned.failed (hreached : Reached sha256 walk.database)
    (htold : Told collection index value walk.visits) (error : SdbError) :
    Turned sha256 visitor collection index value (.error error) walk := by
  refine ⟨hreached, htold, ?_, ?_⟩
  · rintro _ ⟨⟩
  · rintro ⟨⟩

/-- Behind the last entry of the value nothing of it is ahead. -/
lemma Standing.over (hstanding : Standing collection index value tree cursor (row :: rest) walk)
    (hfront : ¬indexKeyBytes indexEntryPrefix collection.bytes index.bytes value [] <+: row.1) :
    Accounted collection index value walk (walk.visits.map IndexVisit.key) := by
  intro term document generation hindex hvalue hpersists
  have hkey := hstanding.accounted term document generation hindex hvalue hpersists
  rcases List.mem_append.mp hkey with hahead | hvisited
  · exfalso
    obtain ⟨found, hfound, heq⟩ := List.mem_map.mp hahead
    have hsorted := List.pairwise_cons.mp hstanding.sorted
    have hle : row.1 ≤ found.1 := by
      rcases List.mem_cons.mp hfound with rfl | hrest
      · exact le_rfl
      · exact (hsorted.1 found hrest).le
    refine hfront (Fronts.front_of_between prefix_rfl ?_
      (hstanding.above row mem_cons_self) hle)
    rw [heq, spell_entry, hindex, hvalue]
    exact prefix_append _ _
  · exact hvisited

/-- The entry under the cursor. -/
lemma Standing.entry (hvalue : value.length < 256 ^ 2)
    (hstanding : Standing collection index value tree cursor (row :: rest) walk)
    (hfront : indexKeyBytes indexEntryPrefix collection.bytes index.bytes value [] <+: row.1) :
    ∃ term document generation, term.index = index ∧ term.value.bytes = value ∧
      row.1 = (RowKey.entry collection term document generation).spell ∧
      walk.database.HasRow (.entry collection term document generation) := by
  have hrow : row ∈ tree.rows := hstanding.sublist.subset mem_cons_self
  obtain ⟨rowKey, hspell⟩ := hstanding.spelled row hrow
  rw [← hspell] at hfront
  obtain ⟨term, document, generation, hindex, hterm, rfl⟩ := entry_of_front hvalue hfront
  refine ⟨term, document, generation, hindex, hterm, hspell.symm, ?_⟩
  rw [hstanding.stores.hasRow_iff, hspell]
  exact mem_map_of_mem hrow

section

variable (hstanding : Standing collection index value tree cursor (row :: rest) walk)

include hstanding

/-- A stale entry is passed over. -/
lemma Standing.pass
    {term : Term} {document : Name} {generation : UInt64}
    (hkey : row.1 = (RowKey.entry collection term document generation).spell)
    (hstale : indexEntryLive walk.database collection.bytes document.bytes generation = .ok false)
    {cursor' : BTreeCursor} (hstands : CursorAt tree cursor' rest) :
    Standing collection index value tree cursor' rest walk where
  stores := hstanding.stores
  spelled := hstanding.spelled
  stands := hstands
  sublist := (sublist_cons_self row rest).trans hstanding.sublist
  above := fun row hrow => hstanding.above row (mem_cons_of_mem _ hrow)
  fresh := fun visit hvisit row hrow =>
    hstanding.fresh visit hvisit row (mem_cons_of_mem _ hrow)
  accounted := by
    intro term' document' generation' hindex hvalue hpersists
    have hmem := hstanding.accounted term' document' generation' hindex hvalue hpersists
    rcases List.mem_cons.mp hmem with heq | hmem
    · rw [hkey] at heq
      cases RowKey.spell_injective heq
      have hlive := (hpersists walk.database (by simp)).2
      rw [hstale] at hlive
      cases hlive
    · exact hmem

/-- After a call the walk stands behind the entry it reported, in the new tree. -/
lemma Standing.resume
    (hdatabase : visit.database = walk.database) (hkey : visit.key = row.1) {after : Database}
    (context : σ) {h' : Nat} {tree' : PageTree h'} (hstores : StoresTree after.pager [] tree')
    (hspelled : ∀ row ∈ tree'.rows, Spelled row.1 row.2) {cursor' : BTreeCursor}
    (hstands : CursorAt tree' cursor' (tree'.rows.filter fun other => row.1 < other.1)) :
    Standing collection index value tree' cursor' (tree'.rows.filter fun other => row.1 < other.1)
      { database := after, context, visits := walk.visits ++ [visit] } where
  stores := hstores
  spelled := hspelled
  stands := hstands
  sublist := filter_sublist
  above := fun other hother => (hstanding.above row mem_cons_self).trans
    (of_decide_eq_true (List.mem_filter.mp hother).2).le
  fresh := by
    intro past hpast other hother
    have hother : row.1 < other.1 := of_decide_eq_true (List.mem_filter.mp hother).2
    rcases List.mem_append.mp hpast with hpast | hpast
    · exact (hstanding.fresh past hpast row mem_cons_self).trans hother
    · rw [List.mem_singleton.mp hpast, hkey]
      exact hother
  accounted := by
    intro term document generation hindex hvalue hpersists
    have hbefore : Persists collection term document generation walk := by
      intro database hmem
      apply hpersists
      simp only [map_append, map_cons, map_nil, hdatabase] at hmem ⊢
      exact mem_append_left _ hmem
    have hrow : (RowKey.entry collection term document generation).spell ∈
        tree'.rows.map Prod.fst :=
      hstores.hasRow_iff.mp (hpersists after (by simp)).1
    have hmem := hstanding.accounted term document generation hindex hvalue hbefore
    rw [map_append, map_singleton, hkey]
    by_cases hbehind : row.1 < (RowKey.entry collection term document generation).spell
    · obtain ⟨found, hfound, heq⟩ := List.mem_map.mp hrow
      refine mem_append_left _ (List.mem_map.mpr ⟨found, List.mem_filter.mpr ⟨hfound, ?_⟩, heq⟩)
      exact decide_eq_true (heq ▸ hbehind)
    · rcases List.mem_append.mp hmem with hahead | hvisited
      · obtain ⟨found, hfound, heq⟩ := List.mem_map.mp hahead
        have hsorted := List.pairwise_cons.mp hstanding.sorted
        rcases List.mem_cons.mp hfound with rfl | hrest
        · simp [heq]
        · exact absurd (heq ▸ hsorted.1 found hrest) hbehind
      · exact mem_append_right _ (mem_append_left _ hvisited)

/-- The call of the visitor on the live entry under the cursor. -/
lemma Standing.told
    (htold : Told collection index value walk.visits) (hkey : visit.key = row.1)
    (hreports : Reports collection index value visit) :
    Told collection index value (walk.visits ++ [visit]) where
  sorted := by
    rw [map_append, pairwise_append]
    refine ⟨htold.sorted, pairwise_singleton _ _, ?_⟩
    intro past hpast new hnew
    obtain ⟨earlier, hearlier, rfl⟩ := List.mem_map.mp hpast
    rw [map_singleton, mem_singleton] at hnew
    rw [hnew, hkey]
    exact hstanding.fresh earlier hearlier row mem_cons_self
  reports := by
    intro other hother
    rcases List.mem_append.mp hother with hother | hother
    · exact htold.reports other hother
    · exact List.mem_singleton.mp hother ▸ hreports

/-- A turn that calls the visitor: it went on from the tree the visitor left, or the
visitor ended the walk. -/
lemma Standing.called
    (htold : Told collection index value walk.visits) (hdatabase : visit.database = walk.database)
    (hkey : visit.key = row.1) (hreports : Reports collection index value visit) {after : Database}
    (context : σ) (hreached : Reached sha256 after) : Turned sha256 visitor collection index value
      ((indexResume after capacity row.1).map some)
      { database := after, context, visits := walk.visits ++ [visit] } := by
  cases hresume : indexResume after capacity row.1 with
  | error error => exact .failed hreached (hstanding.told htold hkey hreports) error
  | ok cursor' =>
    refine ⟨hreached, hstanding.told htold hkey hreports, ?_, ?_⟩
    · rintro _ ⟨⟩
      obtain ⟨_, hseek, _⟩ := except_bind_eq_ok.mp hresume
      obtain ⟨h', tree', hstores, hspelled⟩ :=
        hreached.stores (btreeCursorSeek_inService hseek)
      obtain ⟨rowKey, hspell⟩ :=
        hstanding.spelled row (hstanding.sublist.subset mem_cons_self)
      have hstands := indexResume_at hstores (hspell ▸ rowKey.spell_length) hresume
      exact ⟨h', tree', _, hstanding.resume hdatabase hkey context hstores hspelled hstands⟩
    · rintro ⟨⟩

end

/-- One turn of the loop. -/
lemma indexVisitStep_turned (hvalue : value.length < 256 ^ 2)
    (hvisitor : ∀ context document database,
      Operates sha256 database (visitor context document database).2.2)
    (hreached : Reached sha256 walk.database) (htold : Told collection index value walk.visits)
    (hstanding : Standing collection index value tree cursor rest walk) :
    Turned sha256 visitor collection index value
      (indexVisitStep (entryQuery collection index value capacity) visitor cursor walk).1
      (indexVisitStep (entryQuery collection index value capacity) visitor cursor walk).2 := by
  unfold indexVisitStep
  by_cases hvalid : cursor.valid = true
  · rw [if_neg (by simp [hvalid])]
    obtain ⟨row, rest, rfl⟩ := exists_cons_of_ne_nil (hstanding.stands.valid_iff.mp hvalid)
    rw [btreeCursorRead_at hstanding.stands]
    split
    · exact .failed hreached htold _
    · rename_i key stored hread
      obtain ⟨_, hread⟩ := guard_eq_ok.mp hread
      obtain rfl := Except.ok.inj hread
      by_cases hfront : (entryQuery collection index value capacity).front <+: key
      · rw [if_neg (not_not.mpr hfront)]
        obtain ⟨term, document, generation, hindex, hterm, hkey, hrow⟩ :=
          hstanding.entry hvalue hfront
        cases hparts : indexEntryParts (entryQuery collection index value capacity).front key
            stored with
        | error error => exact .failed hreached htold error
        | ok parts =>
          obtain rfl : parts = (document.bytes, generation) := by
            rw [indexEntryParts_value hparts, show key = _ from hkey, spell_entry, hindex, hterm,
              entryQuery, indexEntryParts_entrySuffix] at hparts
            exact (Except.ok.inj hparts).symm
          dsimp only
          cases hlive : indexEntryLive walk.database
              (entryQuery collection index value capacity).collection document.bytes
              generation with
          | error error => exact .failed hreached htold error
          | ok live =>
            cases live with
            | false =>
              obtain ⟨next, hnext, hstands⟩ :=
                btreeCursorNext_at hstanding.stores.readsTree hstanding.stands
              dsimp only
              rw [hnext]
              refine ⟨hreached, htold, ?_, ?_⟩
              · rintro _ ⟨⟩
                exact ⟨_, tree, rest, hstanding.pass hkey hlive hstands⟩
              · rintro ⟨⟩
            | true =>
              have hreports : Reports collection index value
                  { database := walk.database, key, document := document.bytes,
                    generation } :=
                ⟨⟨term, document, hindex, hterm, rfl, hkey, hrow⟩, indexEntryLive_iff.mp hlive⟩
              have hafter := hreached.operates (hvisitor walk.context document.bytes walk.database)
              dsimp only
              rcases hcall : visitor walk.context document.bytes walk.database with
                ⟨keepVisiting, context, after⟩
              rw [hcall] at hafter
              cases keepVisiting with
              | true => exact hstanding.called htold rfl rfl hreports context hafter
              | false =>
                refine ⟨hafter, hstanding.told htold rfl hreports, ?_, fun _ halways => ?_⟩
                · rintro _ ⟨⟩
                · have hgoes := halways walk.context document.bytes walk.database
                  rw [hcall] at hgoes
                  cases hgoes
      · rw [if_pos hfront]
        refine ⟨hreached, htold, ?_, fun _ _ => hstanding.over hfront⟩
        rintro _ ⟨⟩
  · rw [if_pos (by simp [hvalid])]
    refine ⟨hreached, htold, ?_, fun _ _ => ?_⟩
    · rintro _ ⟨⟩
    · obtain rfl : rest = [] := by
        by_contra hne
        exact hvalid (hstanding.stands.valid_iff.mpr hne)
      exact hstanding.accounted

/-- What holds when the loop ends or is looked at after so many turns. -/
structure Visited (visitor : IndexVisitor σ) (collection index : Name) (value : Bytes)
    (status : Option (Except SdbError Unit)) (walk : IndexWalk σ) : Prop where
  told : Told collection index value walk.visits
  complete : status = some (.ok ()) →
    (∀ context document database, (visitor context document database).1) →
    Accounted collection index value walk (walk.visits.map IndexVisit.key)

lemma indexVisitLoop_visited (hvalue : value.length < 256 ^ 2)
    (hvisitor : ∀ context document database,
      Operates sha256 database (visitor context document database).2.2) {turns : Nat}
    (hreached : Reached sha256 walk.database) (htold : Told collection index value walk.visits)
    (hstanding : Standing collection index value tree cursor rest walk)
    {status : Option (Except SdbError Unit)} {final : IndexWalk σ}
    (hloop : indexVisitLoop (entryQuery collection index value capacity) visitor turns cursor
      walk = (status, final)) : Visited visitor collection index value status final := by
  induction turns generalizing h tree cursor rest walk with
  | zero =>
    obtain ⟨rfl, rfl⟩ := Prod.mk.inj hloop
    exact ⟨htold, fun hstatus => by cases hstatus⟩
  | succ turns ih =>
    have hturned : Turned sha256 visitor collection index value
        (indexVisitStep (entryQuery collection index value capacity) visitor cursor walk).1
        (indexVisitStep (entryQuery collection index value capacity) visitor cursor walk).2 :=
      indexVisitStep_turned hvalue hvisitor hreached htold hstanding
    rcases hstep : indexVisitStep (entryQuery collection index value capacity) visitor cursor
        walk with ⟨outcome, walk'⟩
    rw [hstep] at hturned
    simp only [indexVisitLoop, hstep] at hloop
    cases outcome with
    | error error =>
      obtain ⟨rfl, rfl⟩ := Prod.mk.inj hloop
      exact ⟨hturned.told, fun hstatus => by cases hstatus⟩
    | ok next =>
      cases next with
      | none =>
        obtain ⟨rfl, rfl⟩ := Prod.mk.inj hloop
        exact ⟨hturned.told, fun _ => hturned.ends rfl⟩
      | some cursor' =>
        obtain ⟨h', tree', rest', hstanding'⟩ := hturned.goesOn cursor' rfl
        exact ih hturned.reached hturned.told hstanding' hloop

/-- The first seek stands in front of everything at or above the front. -/
lemma standing_of_seek (hreached : Reached sha256 database) (context : σ)
    (hvalue : value.length ≤ engineMaxNameSize)
    (hseek : btreeCursorSeek database.pager database.pager.superblock.rootPage
      (indexKeyBytes indexEntryPrefix collection.bytes index.bytes value []) = .ok cursor) :
    ∃ (h : Nat) (tree : PageTree h) (rest : List (Bytes × Bytes)),
      Standing collection index value tree cursor rest { database, context, visits := [] } := by
  obtain ⟨h, tree, hstores, hspelled⟩ := hreached.stores (btreeCursorSeek_inService hseek)
  have hroot : tree.page = database.pager.superblock.rootPage := hstores.holds.root
  have hsorted := hstores.holds.sortedRows
  have hlength : (indexKeyBytes indexEntryPrefix collection.bytes index.bytes value []).length ≠ 0 ∧
      (indexKeyBytes indexEntryPrefix collection.bytes index.bytes value []).length ≤
        uint16Max := by
    have hcollection := collection.length_le
    have hindex := index.length_le
    rw [engineMaxNameSize] at hvalue
    rw [indexKeyBytes_length, uint16Max, length_nil]
    omega
  obtain ⟨found, hfound, hstands⟩ := btreeCursorSeek_at hstores.readsTree hlength
  rw [hroot] at hfound
  obtain rfl := Except.ok.inj (hfound.symm.trans hseek)
  have hfilter : rowsFrom (indexKeyBytes indexEntryPrefix collection.bytes index.bytes value [])
      tree.rows = tree.rows.filter fun row =>
        indexKeyBytes indexEntryPrefix collection.bytes index.bytes value [] ≤ row.1 :=
    rowsFrom_eq_filter hsorted
  refine ⟨h, tree, _, hstores, hspelled, hstands, ?_, ?_, ?_, ?_⟩
  · rw [hfilter]
    exact filter_sublist
  · rw [hfilter]
    exact fun row hrow => of_decide_eq_true (List.mem_filter.mp hrow).2
  · intro visit hvisit
    cases hvisit
  · intro term document generation hindex hterm hpersists
    have hrow := hstores.hasRow_iff.mp (hpersists database (by simp)).1
    obtain ⟨found, hfound, heq⟩ := List.mem_map.mp hrow
    rw [hfilter]
    refine mem_append_left _ (List.mem_map.mpr ⟨found, List.mem_filter.mpr ⟨hfound, ?_⟩, heq⟩)
    refine decide_eq_true (le_of_front ?_)
    rw [heq, spell_entry, hindex, hterm]
    exact prefix_append _ _

/-- The front of a walk is built from names. -/
lemma read_indexBaseKey {collection index value front : Bytes}
    (hread : database.read (indexBaseKey indexEntryPrefix collection index value []) = .ok front) :
    ∃ collection' index' : Name, collection'.bytes = collection ∧ index'.bytes = index ∧
      value.length ≤ engineMaxNameSize ∧
      front = indexKeyBytes indexEntryPrefix collection'.bytes index'.bytes value [] := by
  rw [indexBaseKey] at hread
  split at hread
  · cases hread
  · rename_i hvalid
    simp only [Bool.or_eq_true, Bool.not_eq_true', not_or, Bool.not_eq_false,
      decide_eq_true_eq, not_lt] at hvalid
    exact ⟨⟨collection, hvalid.1.1⟩, ⟨index, hvalid.1.2⟩, rfl, rfl, hvalid.2,
      (Except.ok.inj hread).symm⟩

/-- An index walk under a visitor that writes: the keys it reports increase, each
document it shows is there in the generation of its entry at that moment, and an entry
of the value that is there and live at every call and at the end is reported once. -/
theorem indexVisit_weakly_consistent {database : Database} (hreached : Reached sha256 database)
    (visitor : IndexVisitor σ) (hvisitor : ∀ context document database,
      Operates sha256 database (visitor context document database).2.2)
    (collection index value : Bytes) (turns : Nat) (context : σ)
    {status : Option (Except SdbError Unit)} {walk : IndexWalk σ}
    (hvisit : indexVisit collection index value visitor turns context database = (status, walk)) :
    (walk.visits.map IndexVisit.key).Pairwise (· < ·) ∧
    (∀ visit ∈ walk.visits, ∃ collection' index' : Name, collection'.bytes = collection ∧
      index'.bytes = index ∧ Reports collection' index' value visit) ∧ (status = some (.ok ()) →
      (∀ context document database, (visitor context document database).1) →
      ∀ (collection' : Name) (term : Term) (document : Name) (generation : UInt64),
        collection'.bytes = collection → term.index.bytes = index → term.value.bytes = value →
        Persists collection' term document generation walk → (walk.visits.map IndexVisit.key).count
          (RowKey.entry collection' term document generation).spell = 1) := by
  rw [indexVisit] at hvisit
  cases hfront : database.read (indexBaseKey indexEntryPrefix collection index value []) with
  | error error =>
    simp only [hfront, Prod.mk.injEq] at hvisit
    obtain ⟨rfl, rfl⟩ := hvisit
    exact ⟨List.Pairwise.nil, by simp, fun hstatus => by cases hstatus⟩
  | ok front =>
    obtain ⟨collection, index, rfl, rfl, hvalue, rfl⟩ := read_indexBaseKey hfront
    simp only [hfront] at hvisit
    cases hseek : btreeCursorSeek database.pager database.pager.superblock.rootPage
        (indexKeyBytes indexEntryPrefix collection.bytes index.bytes value []) with
    | error error =>
      simp only [hseek, Prod.mk.injEq] at hvisit
      obtain ⟨rfl, rfl⟩ := hvisit
      exact ⟨List.Pairwise.nil, by simp, fun hstatus => by cases hstatus⟩
    | ok cursor =>
      simp only [hseek] at hvisit
      obtain ⟨h, tree, rest, hstanding⟩ := standing_of_seek hreached context hvalue hseek
      have hshort : value.length < 256 ^ 2 := lt_of_le_of_lt hvalue (by decide)
      have hvisited := indexVisitLoop_visited hshort hvisitor hreached
        ⟨List.Pairwise.nil, by simp⟩ hstanding hvisit
      refine ⟨hvisited.told.sorted,
        fun visit hmem => ⟨collection, index, rfl, rfl, hvisited.told.reports visit hmem⟩, ?_⟩
      intro hstatus halways collection' term document generation hcollection hindex hterm hpersists
      obtain rfl := Name.ext_bytes hcollection
      have hmem := hvisited.complete hstatus halways term document generation
        (Name.ext_bytes hindex) hterm hpersists
      exact List.count_eq_one_of_mem (hvisited.told.sorted.imp fun hlt => hlt.ne) hmem

/-- A visitor that deletes each document it is shown but `[12]`. -/
def deletingVisitor : IndexVisitor Nat := fun count document database =>
  (true, count + 1, if document = [12] then database
    else (engineMutation (documentDelete [1] document) [] database).2)

/-- Three documents share a term; two are deleted when they are shown, and the entry of
the one that stays is reported once. -/
theorem indexVisit_weakly_consistent_deleting :
    ∃ database walk, Reached (fun _ => List.replicate 32 0) database ∧
      indexVisit [1] [2] [3] deletingVisitor 9 0 database = (some (.ok ()), walk) ∧
      walk.visits.length = 3 ∧ (walk.visits.map IndexVisit.key).Pairwise (· < ·) ∧
      Persists ⟨[1], rfl⟩ ⟨⟨[2], rfl⟩, ⟨[3], rfl⟩⟩ ⟨[12], rfl⟩ 1 walk ∧
      (walk.visits.map IndexVisit.key).count
        (RowKey.entry ⟨[1], rfl⟩ ⟨⟨[2], rfl⟩, ⟨[3], rfl⟩⟩ ⟨[12], rfl⟩ 1).spell = 1 := by
  have hrun : (freshDatabase 4096 [1] false >>= fun pager =>
      let database := (engineMutation (transactionProgram (fun _ => List.replicate 32 0) true
        [.indexCreate [1] [2] false, .documentPut [1] [12] [] [⟨[2], [3]⟩],
          .documentPut [1] [11] [7] [⟨[2], [3]⟩], .documentPut [1] [13] [] [⟨[2], [3]⟩]]) []
        { pager, nextObjectGeneration := 0 }).2
      let result := indexVisit [1] [2] [3] deletingVisitor 9 0 database
      .ok (result.1, result.2.visits.length, decide (Persists ⟨[1], rfl⟩
        ⟨⟨[2], rfl⟩, ⟨[3], rfl⟩⟩ ⟨[12], rfl⟩ 1 result.2))) = .ok (some (.ok ()), 3, true) := by
    decide +kernel
  simp only [except_bind_eq_ok, Except.ok.injEq, Prod.mk.injEq, decide_eq_true_eq] at hrun
  obtain ⟨pager, hpager, hstatus, hlength, hpersists⟩ := hrun
  have hcreated : Reached (fun _ => List.replicate 32 0) { pager, nextObjectGeneration := 0 } :=
    .created hpager
  have hreached := hcreated.transacted
    [.indexCreate [1] [2] false, .documentPut [1] [12] [] [⟨[2], [3]⟩],
      .documentPut [1] [11] [7] [⟨[2], [3]⟩], .documentPut [1] [13] [] [⟨[2], [3]⟩]] true []
  have hvisitor : ∀ context document database, Operates (fun _ => List.replicate 32 0) database
      (deletingVisitor context document database).2.2 := by
    intro context document database
    rw [deletingVisitor]
    split
    · exact .done _
    · exact .step (.documentDelete [1] document) [] (.done _)
  obtain ⟨hsorted, -, hcomplete⟩ := indexVisit_weakly_consistent hreached deletingVisitor hvisitor
    [1] [2] [3] 9 0 rfl
  exact ⟨_, _, hreached, Prod.ext hstatus rfl, hlength, hsorted, hpersists,
    hcomplete hstatus (fun _ _ _ => rfl) _ _ _ _ rfl rfl rfl hpersists⟩

end Walk

end ShibaDb
