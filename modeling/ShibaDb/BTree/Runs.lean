/-
Sequences of batches over a new tree and the finite map they implement.
-/
import ShibaDb.BTree.Script

namespace ShibaDb

open SepTree Fallible Function

/-- The finite map a tree implements. -/
abbrev KeyMap := Bytes → Option Bytes

def BTreeOp.apply : BTreeOp → KeyMap → KeyMap
  | .put key value, map => Function.update map key (some value)
  | .delete key, map => Function.update map key none
  | .get _ _, map => map

def applyOps (ops : List BTreeOp) (map : KeyMap) : KeyMap :=
  ops.foldl (fun map op => op.apply map) map

/-- Keys of 1 to 65535 bytes and values of at most 2^32 - 1 bytes. -/
def BTreeOp.Valid : BTreeOp → Prop
  | .put key value =>
    (key.length ≠ 0 ∧ key.length ≤ uint16Max) ∧ value.length ≤ uint32Max
  | .delete key => key.length ≠ 0 ∧ key.length ≤ uint16Max
  | .get key _ => key.length ≠ 0 ∧ key.length ≤ uint16Max

/-- The result the map prescribes: a get answers from the map, a delete of an
absent key reports NOT_FOUND, and any other mutation succeeds or fails. -/
def BTreeOp.Answers (map : KeyMap) : BTreeOp → OpResult → Prop
  | .put _ _, result => result = .status (.ok ()) ∨ result.Failed
  | .delete key, result =>
    match map key with
    | none => result = .status (.error .notFound)
    | some _ => result = .status (.ok ()) ∨ result.Failed
  | .get key capacity, result => result = .lookup (lookupAnswer (map key) capacity)

/-- Every operation answers from the map as the operations before it left it, as
long as no mutation failed. -/
def AnswersAll : KeyMap → List BTreeOp → List OpResult → Prop
  | _, [], [] => True
  | map, op :: ops, result :: results =>
    op.Answers map result ∧ (¬result.Failed → AnswersAll (op.apply map) ops results)
  | _, _, _ => False

/-- The map after a batch: the batch counts when its commit succeeded. -/
def BatchRun.mapAfter (script : BatchScript) (run : BatchRun) (map : KeyMap) : KeyMap :=
  match script.ending, run.status with
  | .commit, .ok _ => applyOps script.ops map
  | _, _ => map

def runScripts : List BatchScript → Pager → KeyMap → Except SdbError (Pager × KeyMap)
  | [], pager, map => .ok (pager, map)
  | script :: rest, pager, map => do
      let run ← runScript pager script
      runScripts rest run.pager (run.mapAfter script map)

/-- `sdb_btree_get` returns what the map holds, for every key. -/
def Agrees (pager : Pager) (map : KeyMap) : Prop :=
  ∀ key capacity, key.length ≠ 0 → key.length ≤ uint16Max →
    btreeGet pager pager.superblock.rootPage key capacity =
      lookupAnswer (map key) capacity

/-- The rows of the tree are the map. -/
def Implements {h : Nat} (tree : PageTree h) (map : KeyMap) : Prop :=
  ∀ key, tree.rows.lookup key = map key

section Batch

variable {pager : Pager} {batch batch' : BTreeBatch} {h : Nat} {tree : PageTree h}
  {map : KeyMap}

lemma implements_of_putAt {h' : Nat} {tree' : PageTree h'} {key value : Bytes}
    (hput : PutAt key value tree.rows tree'.rows) (hsorted : SortedRows tree'.rows)
    (himplements : Implements tree map) :
    Implements tree' (Function.update map key (some value)) := by
  intro other
  by_cases hother : other = key
  · subst hother
    rw [update_self]
    exact hput.lookup_self hsorted
  · rw [update_of_ne hother, hput.lookup_of_ne hother]
    exact himplements other

lemma implements_of_cutAt {h' : Nat} {tree' : PageTree h'} {key : Bytes}
    (hcut : CutAt key tree.rows tree'.rows) (hsorted : SortedRows tree.rows)
    (himplements : Implements tree map) : Implements tree' (Function.update map key none) := by
  intro other
  by_cases hother : other = key
  · subst hother
    rw [update_self]
    exact hcut.lookup_self hsorted
  · rw [update_of_ne hother, hcut.lookup_of_ne hother]
    exact himplements other

/-- The batch holds a tree that implements `map`, or is poisoned. -/
def Tracks (pager : Pager) (map : KeyMap) (failed : Prop) (batch : BTreeBatch) : Prop :=
  (¬failed ∧ ∃ (h : Nat) (tree : PageTree h), Working pager batch [] tree ∧ Implements tree map) ∨
    (failed ∧ batch.failure ≠ none)

lemma runOp_tracks (hworking : Working pager batch [] tree)
    (himplements : Implements tree map) {op : BTreeOp} (hvalid : op.Valid) {result : OpResult}
    (hrun : runOp pager op batch = (result, batch')) :
    op.Answers map result ∧ Tracks pager (op.apply map) result.Failed batch' := by
  cases op with
  | put key value =>
    rcases hput : btreeBatchPut pager key value batch with ⟨status, after⟩
    simp only [runOp, hput, Prod.mk.injEq] at hrun
    obtain ⟨rfl, rfl⟩ := hrun
    rcases btreeBatchPut_cases hworking hput with
      ⟨rfl, h', tree', hworking', hput⟩ | ⟨_, _, hinvalid⟩ | ⟨error, rfl, hne, hfailure⟩
    · have himplements' := implements_of_putAt hput hworking'.holds.sortedRows himplements
      exact ⟨.inl rfl, .inl ⟨fun hfailed => hfailed, h', tree', hworking', himplements'⟩⟩
    · rw [hworking.keyValid hvalid.1] at hinvalid
      exact absurd hvalid.2 (not_le.mpr (by simpa using hinvalid))
    · exact ⟨.inr hne, .inr ⟨hne, by simp [hfailure]⟩⟩
  | delete key =>
    rcases hdelete : btreeBatchDelete pager key batch with ⟨status, after⟩
    simp only [runOp, hdelete, Prod.mk.injEq] at hrun
    obtain ⟨rfl, rfl⟩ := hrun
    have hcases := btreeBatchDelete_cases hworking hdelete
    rw [himplements key, hworking.keyValid hvalid] at hcases
    simp only [BTreeOp.Answers, BTreeOp.apply]
    rcases hcases with ⟨_, _, hinvalid⟩ | ⟨rfl, rfl, habsent⟩ | ⟨hpresent, hcases⟩
    · cases hinvalid
    · refine ⟨by rw [habsent], .inl ⟨fun hfailed => hfailed rfl, h, tree, hworking, ?_⟩⟩
      rw [← habsent, update_eq_self]
      exact himplements
    · obtain ⟨value, hvalue⟩ := Option.ne_none_iff_exists'.mp hpresent
      rw [hvalue]
      rcases hcases with ⟨rfl, h', tree', hworking', hcut⟩ | ⟨error, rfl, hne, hfailure⟩
      · have himplements' :=
          implements_of_cutAt hcut hworking.holds.sortedRows himplements
        exact ⟨.inl rfl, .inl ⟨fun hfailed => hfailed, h', tree', hworking', himplements'⟩⟩
      · exact ⟨.inr hne, .inr ⟨hne, by simp [hfailure]⟩⟩
  | get key capacity =>
    simp only [runOp, Prod.mk.injEq] at hrun
    obtain ⟨rfl, rfl⟩ := hrun
    refine ⟨?_, .inl ⟨fun hfailed => hfailed, h, tree, hworking, himplements⟩⟩
    rw [BTreeOp.Answers, btreeBatchGet_eq hworking.holds (hworking.keyValid hvalid),
      himplements key]

/-- A whole batch: as long as no mutation failed, the results are those of the
map and the batch holds a tree that implements it. -/
lemma runOps_tracks (hworking : Working pager batch [] tree) (himplements : Implements tree map)
    {ops : List BTreeOp} (hvalid : ∀ op ∈ ops, op.Valid) {results : List OpResult}
    (hrun : runOps pager ops batch = (results, batch')) : AnswersAll map ops results ∧
      Tracks pager (applyOps ops map) (∃ result ∈ results, result.Failed) batch' := by
  induction ops generalizing batch h tree map results with
  | nil =>
    obtain ⟨rfl, rfl⟩ := Prod.mk.inj hrun
    exact ⟨trivial, .inl ⟨by simp, h, tree, hworking, himplements⟩⟩
  | cons op ops ih =>
    rw [List.forall_mem_cons] at hvalid
    rcases hop : runOp pager op batch with ⟨result, middle⟩
    rcases hops : runOps pager ops middle with ⟨rest, after⟩
    simp only [runOps, hop, hops, Prod.mk.injEq] at hrun
    obtain ⟨rfl, rfl⟩ := hrun
    obtain ⟨hanswers, hmiddle⟩ := runOp_tracks hworking himplements hvalid.1 hop
    rcases hmiddle with ⟨hok, h', tree', hworking', himplements'⟩ | ⟨hfailed, hpoisoned⟩
    · obtain ⟨hrest, htracks⟩ := ih hworking' himplements' hvalid.2 hops
      refine ⟨⟨hanswers, fun _ => hrest⟩, ?_⟩
      simpa [Tracks, applyOps, hok] using htracks
    · refine ⟨⟨hanswers, fun hok => absurd hfailed hok⟩, .inr ⟨⟨result, by simp, hfailed⟩, ?_⟩⟩
      have hafter : after = middle :=
        (congrArg Prod.snd hops).symm.trans (runOps_poisoned hpoisoned ops)
      rwa [hafter]

end Batch

section Scripts

variable {pager pager' : Pager} {batch : BTreeBatch} {h : Nat} {tree : PageTree h}
  {map : KeyMap} {script : BatchScript} {run : BatchRun}

lemma StoresTree.agrees (hstores : StoresTree pager [] tree)
    (himplements : Implements tree map) : Agrees pager map := by
  intro key capacity hne hle
  rw [btreeGet, if_neg (by simp [List.ne_nil_of_length_pos (Nat.pos_of_ne_zero hne), hle]),
    ← himplements key]
  have hroot : tree.page = pager.superblock.rootPage := hstores.holds.root
  rw [← hroot]
  exact btreeLookup_eq hstores.holds.ordered hstores.holds.readable hstores.holds.height_lt
    key capacity

lemma lookupAnswer_inj {first second : Option Bytes}
    (hanswers : ∀ capacity, lookupAnswer first capacity = lookupAnswer second capacity) :
    first = second := by
  cases first with
  | none =>
    cases second with
    | none => rfl
    | some value =>
      have hanswer := congrArg Lookup.status (hanswers value.length)
      simp [lookupAnswer, Lookup.found, Lookup.failed] at hanswer
  | some value =>
    cases second with
    | none =>
      have hanswer := congrArg Lookup.status (hanswers value.length)
      simp [lookupAnswer, Lookup.found, Lookup.failed] at hanswer
    | some other =>
      have hanswer := congrArg Lookup.value (hanswers (max value.length other.length))
      simp only [lookupAnswer, Lookup.found] at hanswer
      rw [if_neg (not_lt.mpr (le_max_left _ _)), if_neg (not_lt.mpr (le_max_right _ _))] at hanswer
      exact congrArg some hanswer

/-- A batch that staged nothing still implements what the pager stores. -/
lemma implements_of_no_items {h' : Nat} {tree' : PageTree h'}
    (hholds : HoldsTree pager (freshBatch pager) [] tree) (hworking : Working pager batch [] tree')
    (hitems : batch.items = []) (himplements : Implements tree' map) : Implements tree map := by
  intro key
  rw [← himplements key]
  apply lookupAnswer_inj
  intro capacity
  have hread : btreeBatchReadNode pager batch = btreeBatchReadNode pager (freshBatch pager) := by
    funext page
    simp [btreeBatchReadNode, hitems, freshBatch]
  have hroot : tree'.page = tree.page := by
    rw [hworking.holds.root, hholds.root, hworking.rootPage]
    rfl
  have hlookup := btreeLookup_eq hworking.holds.ordered hworking.holds.readable
    hworking.holds.height_lt key capacity
  rw [hread, hroot] at hlookup
  rw [← hlookup]
  exact (btreeLookup_eq hholds.ordered hholds.readable hholds.height_lt key capacity).symm

/-- The committed state of the pager is a tree that implements the map. -/
def Serves (pager : Pager) (map : KeyMap) : Prop :=
  ∃ (h : Nat) (tree : PageTree h), StoresTree pager.unfenced [] tree ∧ Implements tree map

/-- What a batch that began leaves behind. -/
structure ScriptOutcome (pager : Pager) (map : KeyMap) (script : BatchScript) (run : BatchRun) :
    Prop where
  answers : AnswersAll map script.ops run.results
  committed : script.ending = .commit → run.status = .ok () →
    Serves run.pager (applyOps script.ops map) ∧
      (pager.superblock.generation + 1 < uint64Max → run.pager.needsRecovery = false)
  refused : script.ending = .commit → run.status ≠ .ok () → Serves run.pager map
  given : script.ending = .abort ∨ (∃ result ∈ run.results, result.Failed) →
    (∃ (h : Nat) (tree : PageTree h), StoresTree run.pager [] tree ∧ Implements tree map) ∧
      (script.ending = .commit → run.status ≠ .ok ())

/-- The outcome of the commit of a batch that held a tree. -/
lemma commit_serves (hstores : StoresTree pager [] tree) {h' : Nat} {tree' : PageTree h'}
    {active : Bool} (hworking : Working { pager with transactionActive := active } batch [] tree')
    (himplements : Implements tree' map)
    (hrun : btreeBatchCommit { pager with transactionActive := active } batch = (.ok (), pager')) :
    Serves pager' map ∧
      (pager.superblock.generation + 1 < uint64Max → pager'.needsRecovery = false) := by
  rcases btreeBatchCommit_cases hworking hrun with
    ⟨hitems, released, rfl⟩ | ⟨hpublished, hfenced⟩
  · refine ⟨⟨_, tree, hstores.unfenced pager.needsRecovery released, ?_⟩,
      fun _ => hstores.inService⟩
    exact implements_of_no_items (hstores.withActive active).holds hworking hitems himplements
  · exact ⟨⟨_, tree', hpublished.storesTree hworking, himplements⟩, fun hless =>
      eq_false_of_ne_true fun hfence => absurd hless (not_lt.mpr (hfenced hfence))⟩

lemma runScript_outcome (hserves : Serves pager map)
    (hvalid : ∀ op ∈ script.ops, op.Valid) (hrun : runScript pager script = .ok run) :
    ScriptOutcome pager map script run := by
  obtain ⟨hservice, hresults, hrun⟩ := runScript_eq_ok hrun
  obtain ⟨h, tree, hstores, himplements⟩ := hserves
  rw [Pager.unfenced_of_inService hservice] at hstores
  have hbefore : ∀ released, run.pager = { pager with transactionActive := released } →
      ∃ (h : Nat) (tree : PageTree h), StoresTree run.pager [] tree ∧ Implements tree map :=
    fun released heq => ⟨h, tree, heq ▸ hstores.withActive released, himplements⟩
  rcases hops : runOps { pager with transactionActive := true } script.ops
      (freshBatch pager) with ⟨results, batch⟩
  rw [hops] at hresults hrun
  obtain ⟨hanswers, htracks⟩ := runOps_tracks hstores.working himplements hvalid hops
  rw [← show run.results = results from hresults] at hanswers htracks
  rcases hrun with ⟨hending, _, released, heq⟩ | ⟨hending, hcommit⟩
  · refine ⟨hanswers, by simp [hending], by simp [hending], fun _ => ⟨?_, by simp [hending]⟩⟩
    exact hbefore released heq
  have hrefused : run.status ≠ .ok () → Serves run.pager map := by
    intro herror
    cases hstatus : run.status with
    | ok _ => exact absurd hstatus herror
    | error error =>
      rw [hstatus] at hcommit
      obtain ⟨needsRecovery, released, heq⟩ := btreeBatchCommit_eq_error hcommit
      rw [heq]
      exact ⟨h, tree, hstores.unfenced needsRecovery released, himplements⟩
  rcases htracks with ⟨hok, h', tree', hworking, himplements'⟩ | ⟨hfailed, hpoisoned⟩
  · refine ⟨hanswers, fun _ hstatus => ?_, fun _ => hrefused, fun hgiven => ?_⟩
    · rw [hstatus] at hcommit
      exact commit_serves hstores hworking himplements' hcommit
    · simp [hending, hok] at hgiven
  · obtain ⟨error, herror⟩ := Option.ne_none_iff_exists'.mp hpoisoned
    obtain ⟨⟨reason, hstatus⟩, released, hreleased⟩ :=
      btreeBatchCommit_failed { pager with transactionActive := true } herror
    rw [hcommit] at hstatus hreleased
    have hne : run.status ≠ .ok () := fun hok => by rw [hok] at hstatus; cases hstatus
    exact ⟨hanswers, fun _ hok => absurd hok hne, fun _ => hrefused,
      fun _ => ⟨hbefore released hreleased, fun _ => hne⟩⟩

lemma ScriptOutcome.serves (houtcome : ScriptOutcome pager map script run) :
    Serves run.pager (run.mapAfter script map) := by
  unfold BatchRun.mapAfter
  cases hending : script.ending with
  | abort =>
    obtain ⟨⟨h, tree, hstores, himplements⟩, _⟩ := houtcome.given (.inl hending)
    refine ⟨h, tree, ?_, himplements⟩
    rwa [Pager.unfenced_of_inService hstores.inService]
  | commit =>
    cases hstatus : run.status with
    | ok _ => exact (houtcome.committed hending hstatus).1
    | error error => exact houtcome.refused hending (by simp [hstatus])

lemma runScripts_serves {scripts : List BatchScript} {map' : KeyMap}
    (hserves : Serves pager map) (hvalid : ∀ script ∈ scripts, ∀ op ∈ script.ops, op.Valid)
    (hrun : runScripts scripts pager map = .ok (pager', map')) : Serves pager' map' := by
  induction scripts generalizing pager map with
  | nil =>
    obtain ⟨rfl, rfl⟩ := Prod.mk.inj (Except.ok.inj hrun)
    exact hserves
  | cons script scripts ih =>
    rw [List.forall_mem_cons] at hvalid
    simp only [runScripts, except_bind_eq_ok] at hrun
    obtain ⟨run, hscript, hrest⟩ := hrun
    exact ih (runScript_outcome hserves hvalid.1 hscript).serves hvalid.2 hrest

/-- The map of a new database. -/
def emptyMap : KeyMap := fun _ => none

lemma Created.serves (hcreated : Created pager) : Serves pager emptyMap :=
  ⟨0, emptyTree, hcreated.stores, fun _ => rfl⟩

/-- The B+tree refines a finite map, over every sequence of batches on a new
tree: the batches before (`history`) and one more. -/
theorem btree_refines_map {pageSize : Nat} {fileId : Bytes} {encrypted : Bool}
    {created : Pager} {history : List BatchScript}
    (hcreated : freshDatabase pageSize fileId encrypted = .ok created)
    (hvalid : ∀ batch ∈ script :: history, ∀ op ∈ batch.ops, op.Valid)
    (hhistory : runScripts history created emptyMap = .ok (pager, map))
    (hrun : runScript pager script = .ok run) : AnswersAll map script.ops run.results ∧
      (script.ending = .commit → run.status = .ok () → pager.superblock.generation + 1 < uint64Max →
        Agrees run.pager (applyOps script.ops map)) ∧
      (script.ending = .abort → Agrees run.pager map) ∧ ((∃ result ∈ run.results, result.Failed) →
        (script.ending = .commit → run.status ≠ .ok ()) ∧ Agrees run.pager map) := by
  rw [List.forall_mem_cons] at hvalid
  have hserves := runScripts_serves (freshDatabase_created hcreated).serves hvalid.2 hhistory
  have houtcome := runScript_outcome hserves hvalid.1 hrun
  have hgiven : script.ending = .abort ∨ (∃ result ∈ run.results, result.Failed) →
      Agrees run.pager map := fun hcase => by
    obtain ⟨⟨_, _, hstores, himplements⟩, _⟩ := houtcome.given hcase
    exact hstores.agrees himplements
  refine ⟨houtcome.answers, fun hending hstatus hroom => ?_, fun hending => hgiven (Or.inl hending),
    fun hfailed => ⟨(houtcome.given (Or.inr hfailed)).2, hgiven (Or.inr hfailed)⟩⟩
  obtain ⟨hafter, hservice⟩ := houtcome.committed hending hstatus
  obtain ⟨_, _, hstores, himplements⟩ := hafter
  rw [Pager.unfenced_of_inService (hservice hroom)] at hstores
  exact hstores.agrees himplements

/-- One batch that puts, deletes an absent key and reads back. -/
theorem btree_refines_map_one_batch : ∃ created run, freshDatabase 4096 [1] false = .ok created ∧
      runScript created ⟨[.put [1] [2], .delete [3], .get [1] 8], .commit⟩ = .ok run ∧
      run.status = .ok () ∧ Agrees run.pager (applyOps [.put [1] [2], .delete [3]] emptyMap) := by
  have hstatus : (freshDatabase 4096 [1] false >>= fun created =>
      runScript created ⟨[.put [1] [2], .delete [3], .get [1] 8], .commit⟩ >>= fun run =>
        .ok (run.status, created.superblock.generation)) = .ok (.ok (), 3) := by
    decide +kernel
  simp only [except_bind_eq_ok, Except.ok.injEq, Prod.mk.injEq] at hstatus
  obtain ⟨created, hcreated, run, hrun, hok, hgeneration⟩ := hstatus
  have hvalid : ∀ batch ∈ ([⟨[.put [1] [2], .delete [3], .get [1] 8], .commit⟩] :
      List BatchScript), ∀ op ∈ batch.ops, op.Valid := by
    simp [BTreeOp.Valid, uint16Max, uint32Max]
  refine ⟨created, run, hcreated, hrun, hok, ?_⟩
  refine (btree_refines_map hcreated hvalid rfl hrun).2.1 rfl hok ?_
  rw [hgeneration]
  decide

lemma runOps_append (ops ops' : List BTreeOp) (batch : BTreeBatch) :
    runOps pager (ops ++ ops') batch =
      ((runOps pager ops batch).1 ++ (runOps pager ops' (runOps pager ops batch).2).1,
        (runOps pager ops' (runOps pager ops batch).2).2) := by
  induction ops generalizing batch with
  | nil => rfl
  | cons op ops ih => simp [runOps, ih]

/-- A value of 2^32 bytes or more is refused, and the batch is not poisoned. -/
lemma runOps_put_too_large (ops : List BTreeOp) (key : Bytes) {value : Bytes}
    (hvalue : uint32Max < value.length) (batch : BTreeBatch) :
    runOps pager (ops ++ [.put key value]) batch =
      ((runOps pager ops batch).1 ++ [.status (.error .invalidArgument)],
        (runOps pager ops batch).2) := by
  rw [runOps_append]
  simp [runOps, runOp, btreeBatchPut, hvalue]

lemma runScript_put_too_large {ops : List BTreeOp} (key : Bytes) {value : Bytes}
    (hvalue : uint32Max < value.length) (hrun : runScript pager ⟨ops, .commit⟩ = .ok run) :
    runScript pager ⟨ops ++ [.put key value], .commit⟩ =
      .ok { run with results := run.results ++ [.status (.error .invalidArgument)] } := by
  simp only [runScript, except_bind_eq_ok, Except.ok.injEq] at hrun ⊢
  obtain ⟨⟨batch, working⟩, hbegin, rfl⟩ := hrun
  refine ⟨(batch, working), hbegin, ?_⟩
  rw [runOps_put_too_large ops key hvalue]

/-- Without the bound on values a batch persists after one of its mutations
failed; and a commit that succeeds can take the pager out of service when the
generation counter is exhausted. -/
theorem btree_refines_map_needs_bounds : (∃ created run,
      freshDatabase 4096 [1] false = .ok created ∧
      runScript created ⟨[.put [1] [2]] ++ [.put [3] (List.replicate (2 ^ 32) 0)], .commit⟩ =
        .ok run ∧ (∃ result ∈ run.results, result.Failed) ∧ run.status = .ok () ∧
      ¬Agrees run.pager emptyMap) ∧ ∃ pager run, StoresTree pager [] emptyTree ∧
      runScript pager ⟨[.put [1] [2]], .commit⟩ = .ok run ∧ run.status = .ok () ∧
      ¬Agrees run.pager (applyOps [.put [1] [2]] emptyMap) := by
  constructor
  · have hrun : (freshDatabase 4096 [1] false >>= fun created =>
        runScript created ⟨[.put [1] [2]], .commit⟩ >>= fun run =>
          .ok (run.status, (btreeGet run.pager run.pager.superblock.rootPage [1] 8).status)) =
        .ok (.ok (), .ok ()) := by
      decide +kernel
    simp only [except_bind_eq_ok, Except.ok.injEq, Prod.mk.injEq] at hrun
    obtain ⟨created, hcreated, run, hrun, hok, hget⟩ := hrun
    have hvalue : uint32Max < (List.replicate (2 ^ 32) (0 : UInt8)).length := by
      rw [List.length_replicate]
      decide
    refine ⟨created, _, hcreated, runScript_put_too_large [3] hvalue hrun,
      ⟨.status (.error .invalidArgument), by simp, by simp [OpResult.Failed]⟩, hok,
      fun hagrees => ?_⟩
    rw [hagrees [1] 8 (by decide) (by decide)] at hget
    simp [emptyMap, lookupAnswer, Lookup.failed] at hget
  · have hrun : (freshDatabase 4096 [1] false >>= fun created =>
        runScript { created with
            superblock := { created.superblock with generation := 2 ^ 64 - 2 }
            walTail := 4096000 } ⟨[.put [1] [2]], .commit⟩ >>= fun run =>
          .ok (run.status, (btreeGet run.pager run.pager.superblock.rootPage [1] 8).status)) =
        .ok (.ok (), .error .invalidArgument) := by
      decide +kernel
    simp only [except_bind_eq_ok, Except.ok.injEq, Prod.mk.injEq] at hrun
    obtain ⟨created, hcreated, run, hrun, hok, hget⟩ := hrun
    refine ⟨_, run, ((freshDatabase_created hcreated).counters _ _).storesTree, hrun, hok,
      fun hagrees => ?_⟩
    rw [hagrees [1] 8 (by decide) (by decide)] at hget
    simp [applyOps, BTreeOp.apply, lookupAnswer, Lookup.found] at hget

end Scripts

end ShibaDb
