/-
A document put that its validation refuses.  The generation counter has been staged by
then, and the put poisons the transaction when that staged a page; so the transaction
survives exactly when the counter row was at hand in it.
-/
import ShibaDb.BTree.StagedPages
import ShibaDb.Engine.Operations

namespace ShibaDb

open LittleEndian CallProgram SepTree

section Reading

variable {α : Type} {operation : EngineM α} {returns : α → Prop}

lemma engineExec_reads {call : EngineCall} (hcall : ReadCall call) (world : EngineWorld) :
    (engineExec call world).2.database = world.database ∧
      (engineExec call world).2.batch = world.batch := by
  cases call with
  | put key value => exact hcall.elim
  | delete key => exact hcall.elim
  | setGeneration next => exact hcall.elim
  | poison error => exact hcall.elim
  | _ => exact ⟨rfl, rfl⟩

/-- An operation that only reads uses up memory at most. -/
lemma ReadsOnly.execute (h : ReadsOnly operation returns) (world : EngineWorld) :
    (operation.execute world).2.database = world.database ∧
      (operation.execute world).2.batch = world.batch := by
  unfold EngineM.execute
  induction operation generalizing world with
  | done result => exact ⟨rfl, rfl⟩
  | call request next ih =>
    obtain ⟨hdatabase, hbatch⟩ := engineExec_reads h.1 world
    obtain ⟨hdatabase', hbatch'⟩ := ih _ (h.2 (engineExec request world).1 trivial)
      (engineExec request world).2
    exact ⟨hdatabase'.trans hdatabase, hbatch'.trans hbatch⟩

lemma ReadsOnly.same {world after : EngineWorld} {result : Except SdbError α}
    (h : ReadsOnly operation returns) (hrun : operation.execute world = (result, after)) :
    after.database = world.database ∧ after.batch = world.batch := by
  have hkept := h.execute world
  rwa [hrun] at hkept

end Reading

section Counter

/-- The value of the counter row after the next generation is handed out. -/
def EngineWorld.counterValue (world : EngineWorld) : Bytes :=
  write 8 (world.database.nextObjectGeneration + 1).toNat

/-- The world with the counter advanced and its row staged. -/
def EngineWorld.countedUp (world : EngineWorld) : EngineWorld :=
  { world with
    database := { world.database with
      nextObjectGeneration := world.database.nextObjectGeneration + 1 }
    batch := world.batch.map fun batch =>
      (btreeBatchPut world.database.pager generationCounterKey world.counterValue batch).2 }

/-- The same world, with other allocations ahead. -/
def EngineWorld.withMemory (world : EngineWorld) (memory : List Bool) : EngineWorld :=
  { world with memory }

/-- Every node on the way to the counter row is staged, and its leaf has room for it. -/
def EngineWorld.CounterAtHand (world : EngineWorld) : Prop :=
  ∃ batch, world.batch = some batch ∧
    rowAtHand world.database.pager batch generationCounterKey world.counterValue 64
      batch.rootPage = true

variable {world after : EngineWorld}

/-- A step of the batch that went through. -/
lemma EngineWorld.mutate_ok {batch : BTreeBatch} (hbatch : world.batch = some batch)
    {step : Pager → BTreeBatch → Except SdbError Unit × BTreeBatch}
    (hrun : (world.mutate step).1 = .ok ()) : (step world.database.pager batch).1 = .ok () ∧
      world.mutate step = (.ok (), { world with
        batch := some (step world.database.pager batch).2, memory := world.memory.tail }) := by
  simp only [mutate, hbatch] at hrun ⊢
  by_cases hfailed : (!batch.active || batch.failure.isSome) = true
  · rw [if_pos hfailed] at hrun
    cases hrun
  · rw [if_neg hfailed] at hrun ⊢
    by_cases hmemory : world.allocates = true
    · rw [if_pos hmemory] at hrun ⊢
      exact ⟨hrun, by rw [hrun]⟩
    · rw [if_neg hmemory] at hrun
      cases hrun

/-- The next generation is handed out only after the counter row is staged. -/
lemma engineAllocGeneration_ok {generation : UInt64} {batch : BTreeBatch}
    (hbatch : world.batch = some batch)
    (hrun : engineAllocGeneration.execute world = (.ok generation, after)) :
    (btreeBatchPut world.database.pager generationCounterKey world.counterValue batch).1 = .ok () ∧
      after.database = world.countedUp.database ∧ after.batch = world.countedUp.batch := by
  unfold EngineM.execute engineAllocGeneration at hrun
  simp only [run_bind, run_request, resume_ok, engineExec] at hrun
  split at hrun
  · simp at hrun
  · obtain ⟨_, middle, hput, hrun⟩ := run_bind_ok hrun
    obtain ⟨status, _, hrequest, hstatus⟩ := run_bind_ok hput
    rw [run_request, Prod.mk.injEq, Except.ok.injEq] at hrequest
    obtain ⟨rfl, rfl⟩ := hrequest
    obtain ⟨hok, rfl⟩ := Prod.mk.inj hstatus
    obtain ⟨hstep, hmutate⟩ := EngineWorld.mutate_ok hbatch hok
    simp only [engineExec, hmutate, run_bind, run_request, resume_ok, run_pure,
      Prod.mk.injEq] at hrun
    obtain ⟨_, rfl⟩ := hrun
    refine ⟨hstep, rfl, ?_⟩
    rw [EngineWorld.countedUp, hbatch]
    rfl

lemma EngineWorld.countedUp_congr (hdatabase : after.database = world.database)
    (hbatch : after.batch = world.batch) : after.countedUp.database = world.countedUp.database ∧
      after.countedUp.batch = world.countedUp.batch := by
  simp only [countedUp, counterValue, hdatabase, hbatch, and_self]

end Counter

section Refusal

variable (sha256 : Bytes → Bytes) (collection document value : Bytes) (terms : List IndexTerm)
  {batch : BTreeBatch}

/-- What a document put does before it looks at its terms. -/
def documentPrepare : EngineM ObjectMetadata := do
  let _ ← objectFindMetadata .document collection document
  objectPlan sha256 .document collection document value

/-- The put has memory for its terms. -/
def EngineWorld.started (world : EngineWorld) : EngineWorld :=
  if terms = [] then world else world.allocated

/-- The check of the terms refuses the put. -/
structure RefusedByTerms (world : EngineWorld) (error : SdbError) : Prop where
  valid : engineBytesValid document = true
  count : terms.length ≤ uint16Max
  memory : terms ≠ [] → world.allocates = true
  prepared : ∃ metadata,
    ((documentPrepare sha256 collection document value).execute (world.started terms)).1 =
      .ok metadata
  refused : ((documentCheckTerms collection document terms).execute
    ((documentPrepare sha256 collection document value).execute (world.started terms)).2).1 =
      .error error

variable {sha256 collection document value terms} {world : EngineWorld} {error : SdbError}

lemma objectPlan_ok {kind : ObjectKind} {space key : Bytes} {metadata : ObjectMetadata}
    {after : EngineWorld} (hbatch : world.batch = some batch)
    (hrun : (objectPlan sha256 kind space key value).execute world = (.ok metadata, after)) :
    (btreeBatchPut world.database.pager generationCounterKey world.counterValue batch).1 = .ok () ∧
      after.database = world.countedUp.database ∧ after.batch = world.countedUp.batch := by
  obtain ⟨_, found, hfound, hrun⟩ := run_bind_ok hrun
  obtain ⟨generation, counted, hcounted, hrun⟩ := run_bind_ok hrun
  have hreads := (objectFindMetadata_readsOnly kind space key).same hfound
  obtain ⟨hput, hdatabase, hstaged⟩ := engineAllocGeneration_ok (hreads.2.trans hbatch) hcounted
  obtain ⟨hsame, hsame'⟩ := EngineWorld.countedUp_congr hreads.1 hreads.2
  have hkept : after.database = counted.database ∧ after.batch = counted.batch := by
    refine ReadsOnly.same (show ReadsOnly _ fun _ => True from ?_) hrun
    refine (enginePairKey_readsOnly _ _ _ _ _).bind fun sample _ => ?_
    refine (readsOnly_request (show ReadCall .payloadCapacity from trivial)).bind fun room _ => ?_
    refine (readsOnly_ofExcept _).bind fun size _ => ?_
    split
    · exact readsOnly_pure trivial
    · split
      · exact readsOnly_fail
      · exact readsOnly_pure trivial
  rw [EngineWorld.counterValue, hreads.1] at hput
  exact ⟨hput, hkept.1.trans (hdatabase.trans hsame), hkept.2.trans (hstaged.trans hsame')⟩

/-- The pages with a staged image. -/
def EngineWorld.stagedCount (world : EngineWorld) : Nat :=
  (world.batch.map fun batch => batch.items.length).getD 0

/-- Work that failed poisons the mutation if the number of staged pages is not the one it
started with. -/
lemma counted_error {α : Type} {work : EngineM α} {after : EngineWorld}
    (hwork : work.execute world = (.error error, after)) :
    EngineM.execute (Program.request EngineCall.stagedCount >>= fun countBefore =>
        work.attempt >>= mutationPoisonOnPartial countBefore) world =
      (.error error,
        if after.stagedCount ≠ world.stagedCount then (engineExec (.poison error) after).2
        else after) := by
  unfold EngineM.execute at hwork ⊢
  simp only [run_bind, run_request, resume_ok, run_attempt]
  rw [show (engineExec .stagedCount world).2 = world from rfl, hwork]
  simp only [mutationPoisonOnPartial, run_bind, run_request, resume_ok]
  rw [show (engineExec .stagedCount after).2 = after from rfl,
    show (engineExec .stagedCount after).1 = after.stagedCount from rfl,
    show (engineExec .stagedCount world).1 = world.stagedCount from rfl]
  split
  · simp only [run_bind, run_request, resume_ok, run_fail]
  · rw [run_fail]

lemma EngineWorld.started_same (terms : List IndexTerm) (world : EngineWorld) :
    (world.started terms).database = world.database ∧
      (world.started terms).batch = world.batch := by
  unfold EngineWorld.started
  split <;> exact ⟨rfl, rfl⟩

section

variable (hrefused : RefusedByTerms sha256 collection document value terms world error) (hbatch :
  world.batch = some batch)

include hrefused hbatch

/-- The rows of a refused put: only the counter row. -/
lemma RefusedByTerms.rows :
    (btreeBatchPut world.database.pager generationCounterKey world.counterValue batch).1 = .ok () ∧
      ∃ checked : EngineWorld, checked.database = world.countedUp.database ∧
        checked.batch = world.countedUp.batch ∧
        (documentPutRows sha256 collection document value terms).execute (world.started terms) =
          (.error error, checked) := by
  obtain ⟨hdatabase, hstarted⟩ := EngineWorld.started_same terms world
  obtain ⟨metadata, hmetadata⟩ := hrefused.prepared
  have herror := hrefused.refused
  rcases hprepare : (documentPrepare sha256 collection document value).execute
    (world.started terms) with ⟨result, planned⟩
  rw [hprepare] at hmetadata herror
  obtain rfl : result = .ok metadata := hmetadata
  rcases hcheck : (documentCheckTerms collection document terms).execute planned with
    ⟨result, checked⟩
  rw [hcheck] at herror
  obtain rfl : result = .error error := herror
  obtain ⟨previous, found, hfound, hplan⟩ := run_bind_ok hprepare
  have hreads := (objectFindMetadata_readsOnly _ _ _).same hfound
  obtain ⟨hput, hcounted, hstaged⟩ :=
    objectPlan_ok (hreads.2.trans (hstarted.trans hbatch)) hplan
  obtain ⟨hsame, hsame'⟩ := EngineWorld.countedUp_congr (hreads.1.trans hdatabase)
    (hreads.2.trans hstarted)
  have hchecked := (documentCheckTerms_readsOnly collection document terms).same hcheck
  rw [EngineWorld.counterValue, hreads.1, hdatabase] at hput
  refine ⟨hput, checked, hchecked.1.trans (hcounted.trans hsame),
    hchecked.2.trans (hstaged.trans hsame'), ?_⟩
  unfold EngineM.execute at hcheck ⊢
  rw [documentPutRows, run_bind, hfound, resume_ok, run_bind, hplan, resume_ok, run_bind, hcheck,
    resume_error]

/-- Where a put that its terms refuse leaves the database and the mutation. -/
lemma RefusedByTerms.execute :
    (btreeBatchPut world.database.pager generationCounterKey world.counterValue batch).1 = .ok () ∧
      ∃ checked : EngineWorld, checked.database = world.countedUp.database ∧
        checked.batch = world.countedUp.batch ∧
        (documentPut sha256 collection document value terms).execute world = (.error error,
            if checked.stagedCount ≠ world.stagedCount then (engineExec (.poison error) checked).2
            else checked) := by
  obtain ⟨hput, checked, hdatabase, hstaged, hrows⟩ := hrefused.rows hbatch
  refine ⟨hput, checked, hdatabase, hstaged, ?_⟩
  have hcount : (world.started terms).stagedCount = world.stagedCount := by
    rw [EngineWorld.stagedCount, (EngineWorld.started_same terms world).2]
    rfl
  have hcounted := counted_error hrows
  rw [hcount] at hcounted
  rw [← hcounted, documentPut, if_neg (by simp [hrefused.valid, hrefused.count])]
  by_cases hterms : terms = []
  · rw [if_neg (not_not.mpr hterms), EngineWorld.started, if_pos hterms]
  · rw [if_pos hterms, EngineWorld.started, if_neg hterms]
    unfold EngineM.execute
    rw [run_bind, engineAllocate, run_bind, run_request, resume_ok]
    rw [show (engineExec .allocate world).1 = true from hrefused.memory hterms]
    rfl

end

end Refusal

lemma exists_of_toBool {ε α : Type} {result : Except ε α} (h : result.toBool = true) :
    ∃ value, result = .ok value := by
  cases result with
  | ok value => exact ⟨value, rfl⟩
  | error error => cases h

section Transaction

variable {sha256 : Bytes → Bytes} {world : EngineWorld} {error : SdbError} {batch : BTreeBatch}

/-- The mutation is open and has not failed. -/
def EngineWorld.Healthy (world : EngineWorld) : Prop :=
  ∃ batch, world.batch = some batch ∧ batch.failure = none

/-- A transaction after these operations. -/
def transactionWorld (sha256 : Bytes → Bytes) (database : Database) (memory : List Bool)
    (ops : List EngineOp) : EngineWorld :=
  ((transactionProgram sha256 true ops).execute (database.begun memory)).2

/-- The operations stay within the limits of a transaction. -/
def WithinLimits (ops : List EngineOp) : Prop :=
  ops.length ≤ transactionMaxOperations ∧
    (ops.map EngineOp.logicalBytes).sum ≤ transactionMaxLogicalBytes

/-- Operations that nothing limits, each carried out behind the one before. -/
def operationsProgram (sha256 : Bytes → Bytes) : List EngineOp → EngineM Unit
  | [] => pure ()
  | op :: rest => do
      let _ ← (op.program sha256).attempt
      operationsProgram sha256 rest

/-- The rest of a transaction, and its commit. -/
def finishTransaction (sha256 : Bytes → Bytes) (ops : List EngineOp) (world : EngineWorld) :
    Except SdbError Unit × Database :=
  engineMutationFinish (.ok ()) ((operationsProgram sha256 ops).execute world).2

/-- Within the limits every operation is carried out. -/
lemma transactionFrom_within {count : TransactionCount} {ops : List EngineOp}
    (hcount : count.operationCount + ops.length ≤ transactionMaxOperations)
    (hbytes : count.logicalByteCount + (ops.map EngineOp.logicalBytes).sum ≤
      transactionMaxLogicalBytes) :
    transactionFrom sha256 true count ops = operationsProgram sha256 ops := by
  induction ops generalizing count with
  | nil => rfl
  | cons op rest ih =>
    rw [List.length_cons] at hcount
    rw [List.map_cons, List.sum_cons] at hbytes
    have hreserve : count.reserve op.logicalBytes = .ok
        { operationCount := count.operationCount + 1
          logicalByteCount := count.logicalByteCount + op.logicalBytes } := by
      rw [TransactionCount.reserve, if_neg]
      simp only [Bool.or_eq_true, decide_eq_true_eq]
      omega
    rw [transactionFrom, hreserve, operationsProgram]
    simp only
    rw [ih (by simp only; omega) (by simp only; omega)]

lemma transactionProgram_within {ops : List EngineOp} (h : WithinLimits ops) :
    transactionProgram sha256 true ops = operationsProgram sha256 ops := by
  refine transactionFrom_within ?_ ?_
  · simpa using h.1
  · simpa using h.2

lemma WithinLimits.left {before later : List EngineOp} (h : WithinLimits (before ++ later)) :
    WithinLimits before := by
  simp only [WithinLimits, List.length_append, List.map_append, List.sum_append] at h ⊢
  omega

lemma operationsProgram_append (ops rest : List EngineOp) (world : EngineWorld) :
    (operationsProgram sha256 (ops ++ rest)).execute world =
      (operationsProgram sha256 rest).execute ((operationsProgram sha256 ops).execute world).2 := by
  unfold EngineM.execute
  induction ops generalizing world with
  | nil => rfl
  | cons op ops ih =>
    simp only [List.cons_append, operationsProgram, run_bind, run_attempt, resume_ok]
    exact ih _

lemma operationsProgram_ok (ops : List EngineOp) (world : EngineWorld) :
    ((operationsProgram sha256 ops).execute world).1 = .ok () := by
  unfold EngineM.execute
  induction ops generalizing world with
  | nil => rfl
  | cons op ops ih =>
    simp only [operationsProgram, run_bind, run_attempt, resume_ok]
    exact ih _

/-- A transaction is its first operations, one more, and the rest with the commit. -/
lemma engineMutation_transaction {database : Database} {pager : Pager}
    (hbegin : btreeBatchBegin database.pager database.pager.superblock.rootPage =
      .ok (batch, pager)) (memory : List Bool) {before later : List EngineOp} {op : EngineOp}
    (hwithin : WithinLimits (before ++ op :: later)) :
    engineMutation (transactionProgram sha256 true (before ++ op :: later)) memory database =
      finishTransaction sha256 later
        ((op.program sha256).execute (transactionWorld sha256 database memory before)).2 := by
  obtain ⟨_, rfl, rfl⟩ := btreeBatchBegin_eq_ok hbegin
  rw [transactionWorld, transactionProgram_within hwithin, transactionProgram_within hwithin.left]
  have hok : ((operationsProgram sha256 (before ++ op :: later)).execute
      (database.begun memory)).1 = .ok () := operationsProgram_ok _ _
  have hsplit : (operationsProgram sha256 (before ++ op :: later)).execute
      (database.begun memory) = (operationsProgram sha256 (op :: later)).execute
        ((operationsProgram sha256 before).execute (database.begun memory)).2 :=
    operationsProgram_append _ _ _
  have hop : (operationsProgram sha256 (op :: later)).execute
      ((operationsProgram sha256 before).execute (database.begun memory)).2 =
        (operationsProgram sha256 later).execute ((op.program sha256).execute
          ((operationsProgram sha256 before).execute (database.begun memory)).2).2 := by
    unfold EngineM.execute
    rw [operationsProgram, run_bind, run_attempt, resume_ok]
  rw [engineMutation, hbegin, finishTransaction, ← hop, ← hsplit, ← hok]
  rfl

/-- A failed mutation stays as it is. -/
lemma engineExec_failed (hbatch : world.batch = some batch)
    (hfailure : batch.failure.isSome = true) (call : EngineCall) :
    (engineExec call world).2.batch = some batch := by
  cases call with
  | put key value => simp [engineExec, EngineWorld.mutate, hbatch, hfailure]
  | delete key => simp [engineExec, EngineWorld.mutate, hbatch, hfailure]
  | poison reason =>
    obtain ⟨error, herror⟩ := Option.isSome_iff_exists.mp hfailure
    obtain ⟨_, _, _, _, _⟩ := batch
    obtain rfl := herror
    rw [engineExec, hbatch]
    rfl
  | _ => exact hbatch

lemma execute_failed {α : Type} (hbatch : world.batch = some batch)
    (hfailure : batch.failure.isSome = true) (operation : EngineM α) :
    (operation.execute world).2.batch = some batch := by
  unfold EngineM.execute
  induction operation generalizing world with
  | done result => exact hbatch
  | call request next ih => exact ih _ (engineExec_failed hbatch hfailure request)

/-- While a transaction has not failed, its batch holds a tree. -/
lemma Reached.transaction_working {database : Database} (hreached : Reached sha256 database)
    {batch₀ : BTreeBatch} {pager : Pager}
    (hbegin : btreeBatchBegin database.pager database.pager.superblock.rootPage =
      .ok (batch₀, pager)) (memory : List Bool) (ops : List EngineOp)
    (hbatch : (transactionWorld sha256 database memory ops).batch = some batch)
    (hfailure : batch.failure = none) :
    (transactionWorld sha256 database memory ops).database.pager = pager ∧
      ∃ (rows : KeyMap) (h : Nat) (tree : PageTree h),
        Working pager batch [] tree ∧ Implements tree rows := by
  obtain ⟨hservice, rfl, rfl⟩ := btreeBatchBegin_eq_ok hbegin
  obtain ⟨map, ⟨h, tree, hstores, himplements⟩, hrows⟩ := hreached.serves
  rw [Pager.unfenced_of_inService hservice] at hstores
  obtain ⟨other, hworked⟩ := execute_worked hstores himplements hrows
    (transactionFrom_writesOnly true (fun op _ => op.writesOnly) _) memory
  obtain rfl : other = batch := Option.some.inj (hworked.running.symm.trans hbatch)
  obtain ⟨rows, h', tree', _, hworking, himplements'⟩ := hworked.holds hfailure
  exact ⟨hworked.samePager, rows, h', tree', hworking, himplements'⟩

section Outcome

variable {pager : Pager} {batch : BTreeBatch} {h : Nat} {tree : PageTree h} {rows : KeyMap}
  {collection document value : Bytes} {terms : List IndexTerm}

lemma realizes_working (hpager : world.database.pager = pager)
    (hbatch : world.batch = some batch) (hworking : Working pager batch [] tree)
    (himplements : Implements tree rows) :
    Realizes True pager world { rows, generation := world.database.nextObjectGeneration
                                failed := false, writable := true } := by
  refine ⟨hpager, rfl, .inl trivial, fun hnone => ?_, fun other hother => ?_⟩
  · rw [hbatch] at hnone
    cases hnone
  · obtain rfl := Option.some.inj (hbatch.symm.trans hother)
    exact ⟨rfl, by rw [hworking.failure]; rfl, fun _ => ⟨h, tree, hworking, himplements⟩⟩

/-- The refused put, as its batch leaves it. -/
lemma RefusedByTerms.outcome
    (hrefused : RefusedByTerms sha256 collection document value terms world error)
    (hpager : world.database.pager = pager) (hbatch : world.batch = some batch)
    (hworking : Working pager batch [] tree) (himplements : Implements tree rows) :
    ∃ counted, world.countedUp.batch = some counted ∧ counted.failure = none ∧
      counted.active = true ∧ Realizes True pager world.countedUp
        { rows := Function.update rows generationCounterKey (some world.counterValue)
          generation := world.database.nextObjectGeneration + 1
          failed := false, writable := true } ∧
      (world.CounterAtHand → ∃ rest,
        ((documentPut sha256 collection document value terms).execute world).2 =
          world.countedUp.withMemory rest) ∧
      (¬world.CounterAtHand →
        ((documentPut sha256 collection document value terms).execute world).2.batch =
          some { counted with failure := some error }) := by
  obtain ⟨hok, checked, hdatabase, hstaged, hexecute⟩ := hrefused.execute hbatch
  subst hpager
  rcases hput : btreeBatchPut world.database.pager generationCounterKey world.counterValue batch
    with ⟨status, counted⟩
  rw [hput] at hok
  obtain rfl : status = .ok () := hok
  have hcounted : world.countedUp.batch = some counted := by
    rw [EngineWorld.countedUp, hbatch, Option.map_some, hput]
  obtain ⟨h', tree', hworking', hputAt⟩ : ∃ (h' : Nat) (tree' : PageTree h'),
      Working world.database.pager counted [] tree' ∧
        PutAt generationCounterKey world.counterValue tree.rows tree'.rows := by
    rcases btreeBatchPut_cases hworking hput with ⟨_, hdone⟩ | ⟨hinvalid, _⟩ | ⟨_, herror, _⟩
    · exact hdone
    · cases hinvalid
    · cases herror
  have hhand : world.CounterAtHand ↔ checked.stagedCount = world.stagedCount := by
    rw [EngineWorld.stagedCount, hstaged, hcounted, EngineWorld.stagedCount, hbatch]
    refine Iff.trans ?_ (btreeBatchPut_stages hworking.holds hput).symm
    constructor
    · rintro ⟨other, hother, hat⟩
      obtain rfl := Option.some.inj (hbatch.symm.trans hother)
      exact hat
    · exact fun hat => ⟨batch, hbatch, hat⟩
  refine ⟨counted, hcounted, hworking'.failure, hworking'.active, ?_, fun hat => ?_, fun hnot => ?_⟩
  · exact realizes_working rfl hcounted hworking'
      (implements_of_putAt hputAt hworking'.holds.sortedRows himplements)
  · rw [hexecute, if_neg (not_not.mpr (hhand.mp hat))]
    rcases checked with ⟨database, staged, memory⟩
    obtain rfl : database = world.countedUp.database := hdatabase
    obtain rfl : staged = world.countedUp.batch := hstaged
    exact ⟨memory, rfl⟩
  · rw [hexecute, if_pos fun hsame => hnot (hhand.mpr hsame)]
    simp only [engineExec, hstaged, hcounted, Option.map_some, hworking'.failure]
    rfl

end Outcome

/-- A put of a document that the check of its terms refuses.  The transaction goes on as if
only the counter had been advanced if every node on the way to the counter row was staged
before, and the leaf has room for it; otherwise the put poisons the transaction, and its
commit fails whatever else is in it.  The put counts towards the limits of the transaction
either way. -/
theorem refusedPut_survives_iff {database : Database} (hreached : Reached sha256 database)
    {batch₀ : BTreeBatch} {pager : Pager}
    (hbegin : btreeBatchBegin database.pager database.pager.superblock.rootPage =
      .ok (batch₀, pager)) (memory : List Bool) (before : List EngineOp)
    (hworld : world = transactionWorld sha256 database memory before)
    (hhealthy : world.Healthy) {collection document value : Bytes} {terms : List IndexTerm}
    (hrefused : RefusedByTerms sha256 collection document value terms world error) :
    (((documentPut sha256 collection document value terms).execute world).2.Healthy ↔
      world.CounterAtHand) ∧ (world.CounterAtHand → (∃ rest, ∀ later,
        WithinLimits (before ++ .documentPut collection document value terms :: later) →
        engineMutation (transactionProgram sha256 true
            (before ++ .documentPut collection document value terms :: later)) memory database =
          finishTransaction sha256 later (world.countedUp.withMemory rest)) ∧ ∃ rows,
        Realizes True pager world
          { rows, generation := world.database.nextObjectGeneration
            failed := false, writable := true } ∧
        Realizes True pager world.countedUp
          { rows := Function.update rows generationCounterKey (some world.counterValue)
            generation := world.database.nextObjectGeneration + 1
            failed := false, writable := true }) ∧
    (¬world.CounterAtHand → ∀ later,
      WithinLimits (before ++ .documentPut collection document value terms :: later) →
      (engineMutation (transactionProgram sha256 true
        (before ++ .documentPut collection document value terms :: later)) memory database).1 =
          .error error) := by
  subst hworld
  obtain ⟨batch, hbatch, hfailure⟩ := hhealthy
  obtain ⟨hpager, rows, h, tree, hworking, himplements⟩ :=
    hreached.transaction_working hbegin memory before hbatch hfailure
  obtain ⟨counted, hcounted, hnone, hactive, hrealizes, hsurvives, hpoisons⟩ :=
    hrefused.outcome hpager hbatch hworking himplements
  refine ⟨⟨fun hafter => ?_, fun hat => ?_⟩, fun hat => ⟨?_, ?_⟩, fun hnot later hwithin => ?_⟩
  · by_contra hnot
    obtain ⟨other, hother, hopen⟩ := hafter
    obtain rfl := Option.some.inj ((hpoisons hnot).symm.trans hother)
    cases hopen
  · obtain ⟨rest, hafter⟩ := hsurvives hat
    rw [hafter]
    exact ⟨counted, hcounted, hnone⟩
  · obtain ⟨rest, hafter⟩ := hsurvives hat
    refine ⟨rest, fun later hwithin => ?_⟩
    rw [engineMutation_transaction hbegin memory hwithin, ← hafter]
    rfl
  · exact ⟨rows, realizes_working hpager hbatch hworking himplements, hrealizes⟩
  · rw [engineMutation_transaction hbegin memory hwithin, finishTransaction, engineMutationFinish,
      EngineOp.program, execute_failed (hpoisons hnot) rfl]
    simp only [btreeBatchCommit, hactive, Bool.not_true, Bool.false_eq_true, if_false]
    rfl

/-- After a put that succeeded the counter row is at hand. -/
theorem refusedPut_survives_iff_second : ∃ world : EngineWorld, world.Healthy ∧
      RefusedByTerms (fun _ => List.replicate 32 0) [9] [1] [5] [⟨[3], [4]⟩] world .notFound ∧
      world.CounterAtHand ∧
      ((documentPut (fun _ => List.replicate 32 0) [9] [1] [5] [⟨[3], [4]⟩]).execute
        world).2.Healthy := by
  have hrun : (freshDatabase 4096 [1] false >>= fun pager =>
      let world := transactionWorld (fun _ => List.replicate 32 0)
        { pager, nextObjectGeneration := 0 } [] [.kvPut [7] [1] [5]]
      let prepared := (documentPrepare (fun _ => List.replicate 32 0) [9] [1] [5]).execute
        (world.started [⟨[3], [4]⟩])
      .ok ((btreeBatchBegin pager pager.superblock.rootPage).toBool && world.allocates &&
          prepared.1.toBool,
        world.batch.map (fun batch => batch.failure.isNone && rowAtHand world.database.pager batch
          generationCounterKey world.counterValue 64 batch.rootPage),
        ((documentCheckTerms [9] [1] [⟨[3], [4]⟩]).execute prepared.2).1)) =
      .ok (true, some true, .error .notFound) := by
    decide +kernel
  simp only [Fallible.except_bind_eq_ok, Except.ok.injEq, Prod.mk.injEq, Bool.and_eq_true,
    Option.map_eq_some_iff, Option.isNone_iff_eq_none] at hrun
  obtain ⟨pager, hpager, ⟨⟨hbegin, hmemory⟩, hprepared⟩, ⟨batch, hbatch, hfailure, hhand⟩,
    hterms⟩ := hrun
  obtain ⟨⟨batch₀, begun⟩, hbegin⟩ := exists_of_toBool hbegin
  have hrefused : RefusedByTerms (fun _ => List.replicate 32 0) [9] [1] [5] [⟨[3], [4]⟩]
      (transactionWorld (fun _ => List.replicate 32 0) { pager, nextObjectGeneration := 0 } []
        [.kvPut [7] [1] [5]]) .notFound :=
    ⟨rfl, by decide, fun _ => hmemory, exists_of_toBool hprepared, hterms⟩
  exact ⟨_, ⟨batch, hbatch, hfailure⟩, hrefused, ⟨batch, hbatch, hhand⟩,
    (refusedPut_survives_iff (.created hpager) hbegin [] [.kvPut [7] [1] [5]] rfl
      ⟨batch, hbatch, hfailure⟩ hrefused).1.mpr ⟨batch, hbatch, hhand⟩⟩

/-- Both orders of a put that names an undefined index and of a put that succeeds: the
refused one poisons the transaction when it comes first, and not when it comes second. -/
theorem refusedPut_poisons_when_first : ∃ pager, freshDatabase 4096 [1] false = .ok pager ∧
      RefusedByTerms (fun _ => List.replicate 32 0) [9] [1] [5] [⟨[3], [4]⟩]
        (transactionWorld (fun _ => List.replicate 32 0) { pager, nextObjectGeneration := 0 } [] [])
        .notFound ∧
      (engineMutation (transactionProgram (fun _ => List.replicate 32 0) true
        [.documentPut [9] [1] [5] [⟨[3], [4]⟩], .kvPut [7] [1] [5]]) []
        { pager, nextObjectGeneration := 0 }).1 = .error .notFound ∧
      (engineMutation (transactionProgram (fun _ => List.replicate 32 0) true
        [.kvPut [7] [1] [5], .documentPut [9] [1] [5] [⟨[3], [4]⟩]]) []
        { pager, nextObjectGeneration := 0 }).1 = .ok () := by
  have hrun : (freshDatabase 4096 [1] false >>= fun pager =>
      let world := (transactionWorld (fun _ => List.replicate 32 0)
        { pager, nextObjectGeneration := 0 } [] []).started [⟨[3], [4]⟩]
      let prepared :=
        (documentPrepare (fun _ => List.replicate 32 0) [9] [1] [5]).execute world
      let first := engineMutation (transactionProgram (fun _ => List.replicate 32 0) true
        [.documentPut [9] [1] [5] [⟨[3], [4]⟩], .kvPut [7] [1] [5]]) []
        { pager, nextObjectGeneration := 0 }
      let second := engineMutation (transactionProgram (fun _ => List.replicate 32 0) true
        [.kvPut [7] [1] [5], .documentPut [9] [1] [5] [⟨[3], [4]⟩]]) []
        { pager, nextObjectGeneration := 0 }
      .ok (prepared.1.toBool,
        ((documentCheckTerms [9] [1] [⟨[3], [4]⟩]).execute prepared.2).1, first.1, second.1)) =
      .ok (true, .error .notFound, .error .notFound, .ok ()) := by
    decide +kernel
  simp only [Fallible.except_bind_eq_ok, Except.ok.injEq, Prod.mk.injEq] at hrun
  obtain ⟨pager, hpager, hprepared, hrefused, hfirst, hsecond⟩ := hrun
  exact ⟨pager, hpager, ⟨rfl, by decide, fun _ => rfl, exists_of_toBool hprepared, hrefused⟩,
    hfirst, hsecond⟩

end Transaction

end ShibaDb
