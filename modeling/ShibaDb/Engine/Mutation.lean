/-
A mutation of the engine: a batch is begun, an operation works on it, and the batch
is committed when the operation succeeded and given up when it failed.  Whatever the
operation does, the database serves a map of rows afterwards: the map before, or the
map the operation left; a property of all its rows survives when every row the
operation writes has it.
-/
import ShibaDb.Engine.RowWorld
import ShibaDb.BTree.Create

namespace ShibaDb

open LittleEndian CallProgram SepTree

/-- `sdb_engine_mutation_finish`. -/
def engineMutationFinish {α : Type} (result : Except SdbError α) (world : EngineWorld) :
    Except SdbError α × Database :=
  match world.batch with
  | none => (.error .invalidArgument, world.database)
  | some batch =>
    match result with
    | .ok value =>
      let (status, pager) := btreeBatchCommit world.database.pager batch
      (status.map fun _ => value, { world.database with pager })
    | .error error =>
      (.error error,
        { world.database with pager := btreeBatchAbort world.database.pager batch })

/-- An operation between `sdb_engine_mutation_begin` and `sdb_engine_mutation_finish`;
`memory` says which of its allocations succeed. -/
def engineMutation {α : Type} (operation : EngineM α) (memory : List Bool) (database : Database) :
    Except SdbError α × Database :=
  match btreeBatchBegin database.pager database.pager.superblock.rootPage with
  | .error error => (.error error, database)
  | .ok (batch, pager) =>
    let (result, world) := operation.execute
      { database := { database with pager }, batch := some batch, memory }
    engineMutationFinish result world

/-- A call that, where it writes a row, writes one in `ok`. -/
def Writes (ok : Bytes → Bytes → Prop) : EngineCall → Prop
  | .put key value => ok key value
  | _ => True

/-- What a call may reply on pages of this payload capacity. -/
def Answers (capacity : Nat) : (call : EngineCall) → EngineReply call → Prop
  | .payloadCapacity, reply => reply = capacity
  | _, _ => True

/-- The work of an operation writes rows in `ok` only. -/
def WritesOnly {α : Type} (ok : Bytes → Bytes → Prop) (capacity : Nat) (operation : EngineM α)
    (returns : α → Prop) : Prop :=
  operation.Issues (Writes ok) (Answers capacity) returns

/-- A call that changes neither the database nor the mutation. -/
def ReadCall : EngineCall → Prop
  | .put _ _ => False
  | .delete _ => False
  | .setGeneration _ => False
  | .poison _ => False
  | _ => True

/-- The work of an operation only reads. -/
def ReadsOnly {α : Type} (operation : EngineM α) (returns : α → Prop) : Prop :=
  operation.Issues ReadCall (fun _ _ => True) returns

/-- Every row of the map is in `ok`. -/
def RowsIn (ok : Bytes → Bytes → Prop) (rows : KeyMap) : Prop :=
  ∀ key value, rows key = some value → ok key value

section Preservation

variable {ok : Bytes → Bytes → Prop} {rows : KeyMap} {key value : Bytes}

lemma RowsIn.put (hrows : RowsIn ok rows) (hrow : ok key value) :
    RowsIn ok (Function.update rows key (some value)) := by
  intro other stored hstored
  by_cases hother : other = key
  · subst hother
    rw [Function.update_self, Option.some.injEq] at hstored
    exact hstored ▸ hrow
  · rw [Function.update_of_ne hother] at hstored
    exact hrows other stored hstored

lemma RowsIn.delete (hrows : RowsIn ok rows) : RowsIn ok (Function.update rows key none) := by
  intro other stored hstored
  by_cases hother : other = key
  · subst hother
    rw [Function.update_self] at hstored
    cases hstored
  · rw [Function.update_of_ne hother] at hstored
    exact hrows other stored hstored

/-- An operation at work: while its mutation is in order, its rows are in `ok`. -/
structure Stocked (ok : Bytes → Bytes → Prop) (world : RowWorld) : Prop where
  writable : world.writable = true
  rows : world.failed = false → RowsIn ok world.rows

variable {world after : RowWorld}

lemma Stocked.refused {refused : Prop} {reply : Except SdbError Unit}
    (hstocked : Stocked ok world) (hrefused : WriteRefused world refused reply after) :
    Stocked ok after := by
  refine ⟨hrefused.writable.trans hstocked.writable, fun hfailed => ?_⟩
  rcases hrefused.cause with hpoisoned | ⟨rfl, _⟩
  · rw [hfailed] at hpoisoned
    cases hpoisoned
  · exact hstocked.rows hfailed

/-- One call of an operation that writes rows in `ok` only. -/
lemma Stocked.step {capacity : Nat} {faulty : Prop} (call : EngineCall)
    {reply : EngineReply call} (hwrites : Writes ok call) (hstocked : Stocked ok world)
    (henv : rowEnv capacity faulty call world reply after) :
    Answers capacity call reply ∧ Stocked ok after := by
  cases call with
  | allocate => exact ⟨trivial, henv.1 ▸ hstocked⟩
  | get key room => exact ⟨trivial, henv.1 ▸ hstocked⟩
  | put key value =>
    refine ⟨trivial, ?_⟩
    rcases henv with ⟨_, hfailed, _, rfl⟩ | hrefused
    · exact ⟨hstocked.writable, fun _ => (hstocked.rows hfailed).put hwrites⟩
    · exact hstocked.refused hrefused
  | delete key =>
    refine ⟨trivial, ?_⟩
    rcases henv with ⟨_, hfailed, _, _, rfl⟩ | ⟨_, _, rfl⟩ | hrefused
    · exact ⟨hstocked.writable, fun _ => (hstocked.rows hfailed).delete⟩
    · exact hstocked
    · exact hstocked.refused hrefused
  | payloadCapacity => exact ⟨henv.1, henv.2 ▸ hstocked⟩
  | generation => exact ⟨trivial, henv.2 ▸ hstocked⟩
  | setGeneration next =>
    obtain rfl := henv
    exact ⟨trivial, hstocked.writable, hstocked.rows⟩
  | stagedCount => exact ⟨trivial, henv ▸ hstocked⟩
  | poison error =>
    refine ⟨trivial, ?_⟩
    rcases henv with rfl | rfl
    · exact ⟨hstocked.writable, fun hfailed => by cases hfailed⟩
    · exact hstocked
  | legacyTerms collection document => exact ⟨trivial, henv ▸ hstocked⟩

end Preservation

section Outcome

variable {ok : Bytes → Bytes → Prop} {database : Database} {map : KeyMap} {α : Type}
  {operation : EngineM α} {memory : List Bool} {returns : α → Prop} {h : Nat} {tree : PageTree h}

/-- The mutation at the end of its operation: it has failed, or its batch holds a tree
with rows in `ok`. -/
structure Worked (ok : Bytes → Bytes → Prop) (pager : Pager) (world : EngineWorld)
    (batch : BTreeBatch) : Prop where
  samePager : world.database.pager = pager
  running : world.batch = some batch
  holds : batch.failure = none → ∃ (rows : KeyMap) (h : Nat) (tree : PageTree h),
    RowsIn ok rows ∧ Working pager batch [] tree ∧ Implements tree rows

/-- The world of an operation whose mutation has just begun. -/
def Database.begun (database : Database) (memory : List Bool) : EngineWorld :=
  { database := { database with pager := { database.pager with transactionActive := true } }
    batch := some (freshBatch database.pager), memory }

section

variable (hstores : StoresTree database.pager [] tree) (himplements : Implements tree map)

include hstores himplements

lemma StoresTree.begun_realizes (memory : List Bool) :
    Realizes True { database.pager with transactionActive := true } (database.begun memory)
      { rows := map, generation := database.nextObjectGeneration, failed := false
        writable := true } := by
  refine ⟨rfl, rfl, .inl trivial, fun hnone => (Option.some_ne_none _ hnone).elim, ?_⟩
  rintro batch hbatch
  obtain rfl := Option.some.inj hbatch
  exact ⟨rfl, rfl, fun _ => ⟨h, tree, hstores.working, himplements⟩⟩

lemma execute_worked (hrows : RowsIn ok map)
    (hwrites : WritesOnly ok (pagerPayloadCapacity database.pager) operation returns)
    (memory : List Bool) : ∃ batch, Worked ok { database.pager with transactionActive := true }
      (operation.execute (database.begun memory)).2 batch := by
  have hmeets : operation.Meets (rowEnv (pagerPayloadCapacity database.pager) True)
      (fun value after => returns value ∧ Stocked ok after) (fun _ after => Stocked ok after)
      { rows := map, generation := database.nextObjectGeneration, failed := false
        writable := true } :=
    hwrites.meets (fun call _ _ _ hcall hstocked henv => hstocked.step call hcall henv)
      ⟨rfl, fun _ => hrows⟩
  obtain ⟨after, hreal, hdone, hfailed⟩ :=
    execute_realizes (hstores.begun_realizes himplements memory) hmeets
  have hstocked : Stocked ok after := by
    cases hresult : (operation.execute (database.begun memory)).1 with
    | ok value => exact (hdone value hresult).2
    | error error => exact hfailed error hresult
  cases hbatch : (operation.execute (database.begun memory)).2.batch with
  | none =>
    have hreadOnly := (hreal.reads hbatch).1
    rw [hstocked.writable] at hreadOnly
    cases hreadOnly
  | some batch =>
    obtain ⟨_, hsame, hholds⟩ := hreal.writes batch hbatch
    refine ⟨batch, hreal.samePager, hbatch, fun hfailure => ?_⟩
    obtain ⟨h', tree', hworking, himplements'⟩ := hholds hfailure
    refine ⟨after.rows, h', tree', hstocked.rows ?_, hworking, himplements'⟩
    rw [hsame, hfailure]
    rfl

/-- The end of a mutation leaves the map the database served, or serves the one its
batch held. -/
lemma engineMutationFinish_serves (hrows : RowsIn ok map) {world : EngineWorld}
    {batch : BTreeBatch}
    (hworked : Worked ok { database.pager with transactionActive := true } world batch)
    (result : Except SdbError α) :
    ∃ map', Serves (engineMutationFinish result world).2.pager map' ∧ RowsIn ok map' := by
  have hbefore : ∀ needsRecovery transactionActive,
      Serves { database.pager with needsRecovery, transactionActive } map :=
    fun needsRecovery transactionActive =>
      ⟨h, tree, hstores.unfenced needsRecovery transactionActive, himplements⟩
  have haborted : Serves (btreeBatchAbort world.database.pager batch) map := by
    obtain ⟨released, habort⟩ := btreeBatchAbort_eq world.database.pager batch
    rw [habort, hworked.samePager]
    exact hbefore database.pager.needsRecovery released
  rw [engineMutationFinish, hworked.running]
  cases result with
  | error error => exact ⟨map, haborted, hrows⟩
  | ok value =>
    rcases hcommit : btreeBatchCommit world.database.pager batch with ⟨status, pager'⟩
    simp only [hcommit]
    rw [hworked.samePager] at hcommit
    cases status with
    | error error =>
      obtain ⟨needsRecovery, released, rfl⟩ := btreeBatchCommit_eq_error hcommit
      exact ⟨map, hbefore needsRecovery released, hrows⟩
    | ok _ =>
      by_cases hfailure : batch.failure = none
      · obtain ⟨rows, h', tree', hrows', hworking, himplements'⟩ := hworked.holds hfailure
        exact ⟨rows, (commit_serves hstores hworking himplements' hcommit).1, hrows'⟩
      · obtain ⟨error, herror⟩ := Option.ne_none_iff_exists'.mp hfailure
        obtain ⟨⟨reason, hreason⟩, _⟩ :=
          btreeBatchCommit_failed { database.pager with transactionActive := true } herror
        rw [hcommit] at hreason
        cases hreason

end

/-- A mutation that writes rows in `ok` only leaves a database with rows in `ok`. -/
lemma engineMutation_serves (hserves : Serves database.pager map) (hrows : RowsIn ok map)
    (hwrites : WritesOnly ok (pagerPayloadCapacity database.pager) operation returns)
    (memory : List Bool) :
    ∃ map', Serves (engineMutation operation memory database).2.pager map' ∧ RowsIn ok map' := by
  rw [engineMutation]
  split
  · exact ⟨map, hserves, hrows⟩
  · rename_i batch pager hbegin
    obtain ⟨hservice, rfl, rfl⟩ := btreeBatchBegin_eq_ok hbegin
    obtain ⟨h, tree, hstores, himplements⟩ := hserves
    rw [Pager.unfenced_of_inService hservice] at hstores
    obtain ⟨batch, hworked⟩ := execute_worked hstores himplements hrows hwrites memory
    exact engineMutationFinish_serves hstores himplements hrows hworked _

end Outcome

end ShibaDb
