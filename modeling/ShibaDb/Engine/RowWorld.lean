/-
The calls of the engine over a map of rows.  `rowEnv` says what a call may reply
where the tree is only known as the map it stores; a database that realizes such a
world answers every call in a way `rowEnv` allows, so what an operation meets over
`rowEnv` holds of its runs on the database.
-/
import ShibaDb.Engine.Documents
import ShibaDb.BTree.Runs

namespace ShibaDb

open LittleEndian CallProgram SepTree

/-- The rows an operation sees, the generation beside them, whether its mutation has
failed, and whether it has one. -/
structure RowWorld where
  rows : KeyMap
  generation : UInt64
  failed : Bool
  writable : Bool

def treeKeyValid (key : Bytes) : Bool := key.length ≠ 0 && key.length ≤ uint16Max

/-- A lookup of a map through a key the tree may refuse. -/
def rowLookup (rows : KeyMap) (key : Bytes) (capacity : Nat) : Lookup :=
  if treeKeyValid key then lookupAnswer (rows key) capacity else .failed .invalidArgument

/-- A write that did not happen: the mutation has failed, or the arguments were
refused. -/
structure WriteRefused (world : RowWorld) (refused : Prop) (reply : Except SdbError Unit)
    (after : RowWorld) : Prop where
  error : ∃ error, reply = .error error ∧ error ≠ .notFound
  generation : after.generation = world.generation
  writable : after.writable = world.writable
  cause : after.failed = true ∨ (after = world ∧ (refused ∨ world.writable = false))

/-- What a call may reply, for pages of `capacity` payload bytes; only where memory is
`faulty` may an allocation outside the tree's own writes fail. -/
def rowEnv (capacity : Nat) (faulty : Prop) : Environment EngineCall EngineReply RowWorld
  | .allocate, world, reply, after => after = world ∧ (reply = false → faulty)
  | .get key room, world, reply, after =>
    after = world ∧
      ((faulty ∧ reply = .failed .outOfMemory) ∨
        (world.failed = true ∧ reply = .failed .invalidArgument) ∨
        (world.failed = false ∧ reply = rowLookup world.rows key room))
  | .put key value, world, reply, after =>
    (reply = .ok () ∧ world.failed = false ∧ world.writable = true ∧
        after = { world with rows := Function.update world.rows key (some value) }) ∨
      WriteRefused world (treeKeyValid key = false ∨ uint32Max < value.length) reply after
  | .delete key, world, reply, after =>
    (reply = .ok () ∧ world.failed = false ∧ world.writable = true ∧ world.rows key ≠ none ∧
        after = { world with rows := Function.update world.rows key none }) ∨
      (reply = .error .notFound ∧ world.rows key = none ∧ after = world) ∨
      WriteRefused world (treeKeyValid key = false) reply after
  | .payloadCapacity, world, reply, after => reply = capacity ∧ after = world
  | .generation, world, reply, after => reply = world.generation ∧ after = world
  | .setGeneration next, world, _, after => after = { world with generation := next }
  | .stagedCount, world, _, after => after = world
  | .poison _, world, _, after => after = { world with failed := true } ∨ after = world
  | .legacyTerms _ _, world, _, after => after = world

/-- The database at work stores these rows. -/
structure Realizes (faulty : Prop) (pager : Pager) (world : EngineWorld) (abstract : RowWorld) :
    Prop where
  samePager : world.database.pager = pager
  generation : world.database.nextObjectGeneration = abstract.generation
  memory : faulty ∨ ∀ success ∈ world.memory, success = true
  reads : world.batch = none → abstract.writable = false ∧ abstract.failed = false ∧
    ∃ (h : Nat) (tree : PageTree h), StoresTree pager [] tree ∧ Implements tree abstract.rows
  writes : ∀ batch, world.batch = some batch → abstract.writable = true ∧
    abstract.failed = batch.failure.isSome ∧
    (batch.failure = none → ∃ (h : Nat) (tree : PageTree h),
      Working pager batch [] tree ∧ Implements tree abstract.rows)

section Simulation

variable {faulty : Prop} {pager : Pager} {world : EngineWorld} {abstract : RowWorld}
  {batch : BTreeBatch}

lemma treeKeyValid_iff {key : Bytes} :
    treeKeyValid key = true ↔ key.length ≠ 0 ∧ key.length ≤ uint16Max := by
  simp [treeKeyValid]

lemma batchKeyValid_iff {h : Nat} {tree : PageTree h} (hworking : Working pager batch [] tree)
    (key : Bytes) : batchKeyValid batch key = treeKeyValid key := by
  simp [batchKeyValid, treeKeyValid, hworking.active, hworking.failure]

section

variable (hreal : Realizes faulty pager world abstract)

include hreal

lemma Realizes.allocated : Realizes faulty pager world.allocated abstract :=
  ⟨hreal.samePager, hreal.generation,
    hreal.memory.imp_right fun hmemory success hsuccess =>
      hmemory success (List.mem_of_mem_tail hsuccess),
    hreal.reads, hreal.writes⟩

lemma Realizes.faulty_of_not_allocates (hfail : world.allocates = false) : faulty := by
  rcases hreal.memory with hfaulty | hmemory
  · exact hfaulty
  · cases hlist : world.memory with
    | nil => simp [EngineWorld.allocates, hlist] at hfail
    | cons success rest =>
      have hsuccess := hmemory success (by simp [hlist])
      simp [EngineWorld.allocates, hlist, hsuccess] at hfail

/-- A lookup on the database is one of the rows it stores. -/
lemma Realizes.lookup (key : Bytes) (capacity : Nat) :
    (abstract.failed = true ∧ world.lookup key capacity = .failed .invalidArgument) ∨
      (abstract.failed = false ∧
        world.lookup key capacity = rowLookup abstract.rows key capacity) := by
  rw [EngineWorld.lookup, hreal.samePager]
  cases hbatch : world.batch with
  | none =>
    obtain ⟨_, hfailed, h, tree, hstores, himplements⟩ := hreal.reads hbatch
    refine .inr ⟨hfailed, ?_⟩
    change btreeGet pager pager.superblock.rootPage key capacity = _
    by_cases hvalid : treeKeyValid key = true
    · obtain ⟨hne, hle⟩ := treeKeyValid_iff.mp hvalid
      rw [hstores.agrees himplements key capacity hne hle, rowLookup, if_pos hvalid]
    · rw [rowLookup, if_neg hvalid, btreeGet, if_pos]
      simp only [treeKeyValid, Bool.and_eq_true, decide_eq_true_eq, not_and_or, not_le] at hvalid
      simpa using hvalid
  | some batch =>
    obtain ⟨_, hfailed, hworks⟩ := hreal.writes batch hbatch
    change (_ ∧ btreeBatchGet pager batch key capacity = _) ∨
      (_ ∧ btreeBatchGet pager batch key capacity = _)
    cases hfailure : batch.failure with
    | some error =>
      refine .inl ⟨by rw [hfailed, hfailure]; rfl, ?_⟩
      simp [btreeBatchGet, batchKeyValid, hfailure]
    | none =>
      obtain ⟨h, tree, hworking, himplements⟩ := hworks hfailure
      refine .inr ⟨by rw [hfailed, hfailure]; rfl, ?_⟩
      by_cases hvalid : treeKeyValid key = true
      · have hkey := hworking.keyValid (treeKeyValid_iff.mp hvalid)
        rw [btreeBatchGet_eq hworking.holds hkey, himplements key, rowLookup, if_pos hvalid]
      · rw [rowLookup, if_neg hvalid, btreeBatchGet, if_pos]
        simp only [treeKeyValid, Bool.and_eq_true, decide_eq_true_eq] at hvalid
        rw [Bool.not_eq_true', Bool.eq_false_iff]
        intro hkey
        simp only [batchKeyValid, Bool.and_eq_true, decide_eq_true_eq] at hkey
        exact hvalid ⟨hkey.1.2, hkey.2⟩

/-- A write that the batch refuses or cannot finish. -/
lemma Realizes.refused {batch' : BTreeBatch}
    (hbatch : world.batch = some batch) (refused : Prop) {error : SdbError}
    (hne : error ≠ .notFound)
    (hcause : batch'.failure.isSome ∨ (batch' = batch ∧ (refused ∨ abstract.writable = false))) :
    ∃ after, WriteRefused abstract refused (.error error) after ∧
      Realizes faulty pager { world with batch := some batch', memory := world.memory.tail }
        after := by
  obtain ⟨hwritable, hfailed, hworks⟩ := hreal.writes batch hbatch
  rcases hcause with hfailure | ⟨rfl, hrefused⟩
  · refine ⟨{ abstract with failed := true }, ⟨⟨error, rfl, hne⟩, rfl, rfl, .inl rfl⟩,
      hreal.samePager, hreal.generation, hreal.allocated.memory, ?_, ?_⟩
    · rintro ⟨⟩
    · rintro _ ⟨⟩
      refine ⟨hwritable, hfailure.symm, ?_⟩
      intro hnone
      rw [hnone] at hfailure
      cases hfailure
  · refine ⟨abstract, ⟨⟨error, rfl, hne⟩, rfl, rfl, .inr ⟨rfl, hrefused⟩⟩,
      hreal.samePager, hreal.generation, hreal.allocated.memory, ?_, ?_⟩
    · rintro ⟨⟩
    · rintro _ ⟨⟩
      exact hreal.writes batch' hbatch

/-- A write of the batch that went through. -/
lemma Realizes.written {batch' : BTreeBatch}
    (hbatch : world.batch = some batch) (hfailure : batch.failure = none) {h : Nat}
    {tree : PageTree h} {rows : KeyMap} (hworking : Working pager batch' [] tree)
    (himplements : Implements tree rows) :
    Realizes faulty pager { world with batch := some batch', memory := world.memory.tail }
      { abstract with rows } := by
  obtain ⟨hwritable, hfailed, _⟩ := hreal.writes batch hbatch
  refine ⟨hreal.samePager, hreal.generation, hreal.allocated.memory, ?_, ?_⟩
  · rintro ⟨⟩
  · rintro _ ⟨⟩
    refine ⟨hwritable, ?_, fun _ => ⟨h, tree, hworking, himplements⟩⟩
    change abstract.failed = _
    rw [hfailed, hfailure, hworking.failure]

/-- A mutation step: where the batch is in order and memory suffices, the rest is the
step's own. -/
lemma Realizes.mutate
    {step : Pager → BTreeBatch → Except SdbError Unit × BTreeBatch} (refused : Prop)
    {outcome : Except SdbError Unit → RowWorld → Prop}
    (hrefused : ∀ reply after, WriteRefused abstract refused reply after → outcome reply after)
    (hstep : ∀ (batch : BTreeBatch) (h : Nat) (tree : PageTree h), world.batch = some batch →
      abstract.failed = false → abstract.writable = true → Working pager batch [] tree →
      Implements tree abstract.rows → ∃ after, outcome (step pager batch).1 after ∧
        Realizes faulty pager
          { world with batch := some (step pager batch).2, memory := world.memory.tail } after) :
    ∃ after, outcome (world.mutate step).1 after ∧
      Realizes faulty pager (world.mutate step).2 after := by
  cases hbatch : world.batch with
  | none =>
    obtain ⟨hwritable, _⟩ := hreal.reads hbatch
    have hrun : world.mutate step = (.error .invalidArgument, world.allocated) := by
      simp [EngineWorld.mutate, hbatch]
    rw [hrun]
    exact ⟨abstract, hrefused _ _ ⟨⟨_, rfl, by decide⟩, rfl, rfl, .inr ⟨rfl, .inr hwritable⟩⟩,
      hreal.allocated⟩
  | some batch =>
    obtain ⟨hwritable, hfailed, hworks⟩ := hreal.writes batch hbatch
    cases hfailure : batch.failure with
    | some error =>
      obtain ⟨after, hafter, hreal'⟩ := hreal.refused hbatch refused
        (show SdbError.invalidArgument ≠ .notFound by decide)
        (.inl (show batch.failure.isSome by rw [hfailure]; rfl))
      have hrun : world.mutate step =
          (.error .invalidArgument,
            { world with batch := some batch, memory := world.memory.tail }) := by
        simp [EngineWorld.mutate, hbatch, hfailure]
      rw [hrun]
      exact ⟨after, hrefused _ _ hafter, hreal'⟩
    | none =>
      obtain ⟨h, tree, hworking, himplements⟩ := hworks hfailure
      by_cases hmemory : world.allocates = true
      · have hrun : world.mutate step = ((step pager batch).1,
            { world with batch := some (step pager batch).2, memory := world.memory.tail }) := by
          simp [EngineWorld.mutate, hbatch, hfailure, hmemory, hworking.active, hreal.samePager]
        rw [hrun]
        refine hstep batch h tree hbatch ?_ hwritable hworking himplements
        rw [hfailed, hfailure]
        rfl
      · obtain ⟨after, hafter, hreal'⟩ := hreal.refused hbatch refused
          (show SdbError.outOfMemory ≠ .notFound by decide)
          (.inl (show ({ batch with failure := some .outOfMemory } :
            BTreeBatch).failure.isSome from rfl))
        have hrun : world.mutate step = (.error .outOfMemory,
            { world with
              batch := some { batch with failure := some .outOfMemory }
              memory := world.memory.tail }) := by
          simp [EngineWorld.mutate, hbatch, hfailure, hmemory, hworking.active]
        rw [hrun]
        exact ⟨after, hrefused _ _ hafter, hreal'⟩

lemma Realizes.put (key value : Bytes) (capacity : Nat) :
    ∃ after, rowEnv capacity faulty (.put key value) abstract
        (engineExec (.put key value) world).1 after ∧
      Realizes faulty pager (engineExec (.put key value) world).2 after := by
  refine hreal.mutate (treeKeyValid key = false ∨ uint32Max < value.length)
    (fun reply after hrefused => .inr hrefused) ?_
  intro batch h tree hbatch hfailed hwritable hworking himplements
  rcases hput : btreeBatchPut pager key value batch with ⟨status, batch'⟩
  rcases btreeBatchPut_cases hworking hput with
    ⟨rfl, h', tree', hworking', hputAt⟩ | ⟨rfl, rfl, hinvalid⟩ | ⟨error, rfl, hne, hfailure⟩
  · refine ⟨{ abstract with rows := Function.update abstract.rows key (some value) },
      .inl ⟨rfl, hfailed, hwritable, rfl⟩, ?_⟩
    exact hreal.written hbatch hworking.failure hworking'
      (implements_of_putAt hputAt hworking'.holds.sortedRows himplements)
  · rw [batchKeyValid_iff hworking] at hinvalid
    obtain ⟨after, hafter, hreal'⟩ := hreal.refused hbatch _
      (show SdbError.invalidArgument ≠ .notFound by decide) (.inr ⟨rfl, .inl hinvalid⟩)
    exact ⟨after, .inr hafter, hreal'⟩
  · obtain ⟨after, hafter, hreal'⟩ := hreal.refused hbatch _ hne
      (.inl (show batch'.failure.isSome by rw [hfailure]; rfl))
    exact ⟨after, .inr hafter, hreal'⟩

lemma Realizes.delete (key : Bytes) (capacity : Nat) :
    ∃ after, rowEnv capacity faulty (.delete key) abstract
        (engineExec (.delete key) world).1 after ∧
      Realizes faulty pager (engineExec (.delete key) world).2 after := by
  refine hreal.mutate (treeKeyValid key = false)
    (fun reply after hrefused => .inr (.inr hrefused)) ?_
  intro batch h tree hbatch hfailed hwritable hworking himplements
  rcases hdelete : btreeBatchDelete pager key batch with ⟨status, batch'⟩
  have hcases := btreeBatchDelete_cases hworking hdelete
  rw [himplements key, batchKeyValid_iff hworking] at hcases
  rcases hcases with ⟨rfl, rfl, hinvalid⟩ | ⟨rfl, rfl, habsent⟩ | ⟨hpresent, hcases⟩
  · obtain ⟨after, hafter, hreal'⟩ := hreal.refused hbatch _
      (show SdbError.invalidArgument ≠ .notFound by decide) (.inr ⟨rfl, .inl hinvalid⟩)
    exact ⟨after, .inr (.inr hafter), hreal'⟩
  · exact ⟨abstract, .inr (.inl ⟨rfl, habsent, rfl⟩),
      hreal.written hbatch hworking.failure hworking himplements⟩
  · rcases hcases with ⟨rfl, h', tree', hworking', hcut⟩ | ⟨error, rfl, hne, hfailure⟩
    · refine ⟨{ abstract with rows := Function.update abstract.rows key none },
        .inl ⟨rfl, hfailed, hwritable, hpresent, rfl⟩, ?_⟩
      exact hreal.written hbatch hworking.failure hworking'
        (implements_of_cutAt hcut hworking.holds.sortedRows himplements)
    · obtain ⟨after, hafter, hreal'⟩ := hreal.refused hbatch _ hne
        (.inl (show batch'.failure.isSome by rw [hfailure]; rfl))
      exact ⟨after, .inr (.inr hafter), hreal'⟩

lemma Realizes.poison (error : SdbError) (capacity : Nat) :
    ∃ after, rowEnv capacity faulty (.poison error) abstract () after ∧
      Realizes faulty pager (engineExec (.poison error) world).2 after := by
  cases hbatch : world.batch with
  | none =>
    refine ⟨abstract, .inr rfl, hreal.samePager, hreal.generation, hreal.memory, ?_, ?_⟩
    · intro _
      exact hreal.reads hbatch
    · intro batch hsome
      simp [engineExec, hbatch] at hsome
  | some batch =>
    refine ⟨{ abstract with failed := true }, .inl rfl, hreal.samePager, hreal.generation,
      hreal.memory, ?_, ?_⟩
    · intro hnone
      simp [engineExec, hbatch] at hnone
    · intro poisoned hsome
      have hpoisoned : { batch with failure := batch.failure.orElse fun _ => some error } =
          poisoned := by simpa [engineExec, hbatch] using hsome
      subst hpoisoned
      refine ⟨(hreal.writes batch hbatch).1, ?_, ?_⟩
      · cases hfailure : batch.failure <;> rfl
      · intro hnone
        cases hfailure : batch.failure <;> simp [hfailure] at hnone

end

/-- Every call on the database is one `rowEnv` allows. -/
lemma engineExec_allowed (call : EngineCall) (world : EngineWorld) (abstract : RowWorld)
    (hreal : Realizes faulty pager world abstract) :
    ∃ after, rowEnv (pagerPayloadCapacity pager) faulty call abstract
        (engineExec call world).1 after ∧
      Realizes faulty pager (engineExec call world).2 after := by
  cases call with
  | allocate =>
    exact ⟨abstract, ⟨rfl, hreal.faulty_of_not_allocates⟩, hreal.allocated⟩
  | get key capacity =>
    refine ⟨abstract, ⟨rfl, ?_⟩, hreal.allocated⟩
    by_cases hmemory : world.allocates = true
    · right
      have hreply : (engineExec (.get key capacity) world).1 = world.lookup key capacity := by
        simp [engineExec, hmemory]
      rw [hreply]
      exact hreal.lookup key capacity
    · left
      refine ⟨hreal.faulty_of_not_allocates (by simpa using hmemory), ?_⟩
      simp [engineExec, hmemory]
  | put key value => exact hreal.put key value _
  | delete key => exact hreal.delete key _
  | payloadCapacity =>
    exact ⟨abstract, ⟨congrArg pagerPayloadCapacity hreal.samePager, rfl⟩, hreal⟩
  | generation => exact ⟨abstract, ⟨hreal.generation, rfl⟩, hreal⟩
  | setGeneration next =>
    exact ⟨{ abstract with generation := next }, rfl,
      hreal.samePager, rfl, hreal.memory, hreal.reads, hreal.writes⟩
  | stagedCount => exact ⟨abstract, rfl, hreal⟩
  | poison error => exact hreal.poison error _
  | legacyTerms collection document => exact ⟨abstract, rfl, hreal.allocated⟩

/-- What an operation meets over the rows holds of its run on the database. -/
lemma execute_realizes {α : Type} {operation : EngineM α} {ok : α → RowWorld → Prop}
    {bad : SdbError → RowWorld → Prop} (hreal : Realizes faulty pager world abstract)
    (hmeets : operation.Meets (rowEnv (pagerPayloadCapacity pager) faulty) ok bad abstract) :
    ∃ after, Realizes faulty pager (operation.execute world).2 after ∧
      (∀ value, (operation.execute world).1 = .ok value → ok value after) ∧
      ∀ error, (operation.execute world).1 = .error error → bad error after :=
  hmeets.run_related engineExec_allowed hreal

end Simulation

end ShibaDb
