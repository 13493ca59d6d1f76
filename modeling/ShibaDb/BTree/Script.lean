/-
Batches as scripts: any sequence of puts, deletes and gets, ended by a commit or
an abort.  Whatever a batch does, it holds a well-formed tree or is poisoned,
and the pager it leaves stores a well-formed tree or is out of service.
-/
import ShibaDb.BTree.Create
import ShibaDb.BTree.Delete
import ShibaDb.BTree.Errors
import ShibaDb.BTree.Put

namespace ShibaDb

open SepTree

inductive BTreeOp where
  | put (key value : Bytes)
  | delete (key : Bytes)
  | get (key : Bytes) (capacity : Nat)

/-- What an operation of a batch returns. -/
inductive OpResult where
  | status (status : Except SdbError Unit)
  | lookup (lookup : Lookup)

/-- A mutation that returned an error other than NOT_FOUND. -/
def OpResult.Failed : OpResult → Prop
  | .status (.error error) => error ≠ .notFound
  | .status (.ok _) => False
  | .lookup _ => False

inductive BatchEnd where
  | commit
  | abort
  deriving DecidableEq

structure BatchScript where
  ops : List BTreeOp
  ending : BatchEnd

def runOp (pager : Pager) : BTreeOp → BTreeBatch → OpResult × BTreeBatch
  | .put key value, batch =>
    let (status, batch) := btreeBatchPut pager key value batch
    (.status status, batch)
  | .delete key, batch =>
    let (status, batch) := btreeBatchDelete pager key batch
    (.status status, batch)
  | .get key capacity, batch => (.lookup (btreeBatchGet pager batch key capacity), batch)

def runOps (pager : Pager) : List BTreeOp → BTreeBatch → List OpResult × BTreeBatch
  | [], batch => ([], batch)
  | op :: rest, batch =>
    let (result, batch) := runOp pager op batch
    let (results, batch) := runOps pager rest batch
    (result :: results, batch)

/-- What a batch returned: one result for each operation, the status of its
commit, and the pager it left. -/
structure BatchRun where
  results : List OpResult
  status : Except SdbError Unit
  pager : Pager

def runScript (pager : Pager) (script : BatchScript) : Except SdbError BatchRun := do
  let (batch, pager) ← btreeBatchBegin pager pager.superblock.rootPage
  let (results, batch) := runOps pager script.ops batch
  match script.ending with
  | .commit =>
    let (status, pager) := btreeBatchCommit pager batch
    .ok { results, status, pager }
  | .abort => .ok { results, status := .ok (), pager := btreeBatchAbort pager batch }

section Batch

variable {pager : Pager} {batch batch' : BTreeBatch} {others : List PageId} {h : Nat}
  {tree : PageTree h} {key : Bytes}

section

variable (hworking : Working pager batch others tree)

include hworking

lemma Working.same {h' : Nat} {tree' : PageTree h'} (hsame : SameBatch batch batch')
    (hholds : HoldsTree pager batch' others tree') : Working pager batch' others tree' :=
  ⟨hworking.isOpen, hworking.inService, hworking.valid, hholds,
    hsame.rootPage.trans hworking.rootPage, hworking.target.trans hsame.target,
    hsame.active.trans hworking.active, hsame.failure.trans hworking.failure⟩

lemma Working.keyValid
    (hkey : key.length ≠ 0 ∧ key.length ≤ uint16Max) : batchKeyValid batch key = true := by
  simp [batchKeyValid, hworking.active, hworking.failure, hkey]

/-- A put writes the row, is refused for its arguments, or poisons the batch. -/
lemma btreeBatchPut_cases {value : Bytes} {status : Except SdbError Unit}
    (hrun : btreeBatchPut pager key value batch = (status, batch')) :
    (status = .ok () ∧ ∃ (h' : Nat) (tree' : PageTree h'), Working pager batch' others tree' ∧
        PutAt key value tree.rows tree'.rows) ∨ (status = .error .invalidArgument ∧ batch' = batch ∧
        (batchKeyValid batch key = false ∨ uint32Max < value.length)) ∨
      ∃ error, status = .error error ∧ error ≠ .notFound ∧ batch'.failure = some error := by
  unfold btreeBatchPut at hrun
  split at hrun
  · rename_i hguard
    obtain ⟨rfl, rfl⟩ := Prod.mk.inj hrun
    exact .inr (.inl ⟨rfl, rfl, by simpa using hguard⟩)
  rw [poisonOnError] at hrun
  have havoids : (btreePutBody pager key value batch).1 ≠ .error .notFound :=
    btreePutBody_avoids batch
  rcases hbody : btreePutBody pager key value batch with ⟨error | result, after⟩
  · rw [hbody] at hrun havoids
    obtain ⟨rfl, rfl⟩ := Prod.mk.inj hrun
    exact .inr (.inr ⟨error, rfl, fun heq => havoids (congrArg _ heq), rfl⟩)
  · rw [hbody] at hrun
    obtain ⟨rfl, rfl⟩ := Prod.mk.inj hrun
    obtain ⟨h', tree', hholds, hsame, hput⟩ := btreePutBody_holds hworking.holds hbody
    exact .inl ⟨rfl, h', tree', hworking.same hsame hholds, hput⟩

/-- A delete of an absent key changes nothing; of a present one it cuts the row or
poisons the batch. -/
lemma btreeBatchDelete_cases
    {status : Except SdbError Unit} (hrun : btreeBatchDelete pager key batch = (status, batch')) :
    (status = .error .invalidArgument ∧ batch' = batch ∧ batchKeyValid batch key = false) ∨
      (status = .error .notFound ∧ batch' = batch ∧ tree.rows.lookup key = none) ∨
      (tree.rows.lookup key ≠ none ∧ ((status = .ok () ∧ ∃ (h' : Nat) (tree' : PageTree h'),
            Working pager batch' others tree' ∧ CutAt key tree.rows tree'.rows) ∨
          ∃ error, status = .error error ∧ error ≠ .notFound ∧ batch'.failure = some error)) := by
  by_cases hvalid : batchKeyValid batch key = true
  swap
  · rw [btreeBatchDelete, if_pos (by simpa using hvalid)] at hrun
    obtain ⟨rfl, rfl⟩ := Prod.mk.inj hrun
    exact .inl ⟨rfl, rfl, by simpa using hvalid⟩
  have hrouted : RoutedTo .top tree tree key := ⟨rfl, within_none key⟩
  obtain ⟨context, page, rows, link, hdescend, hleaf⟩ := btreeDescend_eq_ok
    hworking.holds.readable hrouted (Nat.lt_succ_of_lt hworking.holds.height_lt)
  rw [hworking.holds.root] at hdescend
  change btreeDescend (btreeBatchReadNode pager batch) key 65 batch.rootPage [] = _ at hdescend
  rw [btreeBatchDelete, hvalid, hdescend] at hrun
  have hpresent := entryMatches_lowerBound link key (hleaf.leafSorted hworking.holds.ordered)
  rw [← hleaf.lookup hworking.holds.ordered] at hpresent
  simp only [Bool.not_true, Bool.false_eq_true, ↓reduceIte, hpresent] at hrun
  cases hlookup : tree.rows.lookup key with
  | none =>
    simp only [hlookup, Option.isSome_none, Bool.not_false, ↓reduceIte, Prod.mk.injEq] at hrun
    exact .inr (.inl ⟨hrun.1.symm, hrun.2.symm, rfl⟩)
  | some value =>
    refine .inr (.inr ⟨by simp, ?_⟩)
    simp only [hlookup, Option.isSome_some, Bool.not_true, Bool.false_eq_true, ↓reduceIte,
      poisonOnError] at hrun hpresent
    rcases hbody : btreeDeleteAt pager (cellNode (.leaf rows link)) page context.path
        (btreeLowerBound (cellNode (.leaf rows link)) key) batch with ⟨error | result, after⟩
    · rw [hbody] at hrun
      obtain ⟨rfl, rfl⟩ := Prod.mk.inj hrun
      have hne : error ≠ .notFound := by
        rintro rfl
        exact btreeDeleteAt_avoids batch (congrArg Prod.fst hbody)
      exact .inr ⟨error, rfl, hne, rfl⟩
    · rw [hbody] at hrun
      obtain ⟨rfl, rfl⟩ := Prod.mk.inj hrun
      obtain ⟨h', tree', hholds, hsame, hcut⟩ :=
        btreeDeleteAt_holds hworking.holds hleaf hpresent hbody
      exact .inl ⟨rfl, h', tree', hworking.same hsame hholds, hcut⟩

end

/-- The batch holds a well-formed tree, or is poisoned. -/
def Sound (pager : Pager) (others : List PageId) (batch : BTreeBatch) : Prop :=
  batch.failure ≠ none ∨ ∃ (h : Nat) (tree : PageTree h), Working pager batch others tree

/-- A poisoned batch stays poisoned. -/
lemma runOp_poisoned (hpoisoned : batch.failure ≠ none) (op : BTreeOp) :
    (runOp pager op batch).2 = batch := by
  have hkey : ∀ key, batchKeyValid batch key = false := by
    intro key
    obtain ⟨error, herror⟩ := Option.ne_none_iff_exists'.mp hpoisoned
    simp [batchKeyValid, herror]
  cases op with
  | put key value => simp [runOp, btreeBatchPut, hkey]
  | delete key => simp [runOp, btreeBatchDelete, hkey]
  | get key capacity => rfl

lemma runOps_poisoned (hpoisoned : batch.failure ≠ none) (ops : List BTreeOp) :
    (runOps pager ops batch).2 = batch := by
  induction ops with
  | nil => rfl
  | cons op ops ih =>
    simp only [runOps, runOp_poisoned hpoisoned op]
    exact ih

lemma runOp_sound (hsound : Sound pager others batch) (op : BTreeOp) :
    Sound pager others (runOp pager op batch).2 := by
  rcases hsound with hpoisoned | ⟨h, tree, hworking⟩
  · rw [runOp_poisoned hpoisoned]
    exact .inl hpoisoned
  cases op with
  | put key value =>
    rcases hput : btreeBatchPut pager key value batch with ⟨status, after⟩
    simp only [runOp, hput]
    rcases btreeBatchPut_cases hworking hput with
      ⟨_, h', tree', hworking', _⟩ | ⟨_, rfl, _⟩ | ⟨error, _, _, hfailure⟩
    · exact .inr ⟨h', tree', hworking'⟩
    · exact .inr ⟨h, tree, hworking⟩
    · exact .inl (by simp [hfailure])
  | delete key =>
    rcases hdelete : btreeBatchDelete pager key batch with ⟨status, after⟩
    simp only [runOp, hdelete]
    rcases btreeBatchDelete_cases hworking hdelete with
      ⟨_, rfl, _⟩ | ⟨_, rfl, _⟩ | ⟨_, ⟨_, h', tree', hworking', _⟩ | ⟨error, _, _, hfailure⟩⟩
    · exact .inr ⟨h, tree, hworking⟩
    · exact .inr ⟨h, tree, hworking⟩
    · exact .inr ⟨h', tree', hworking'⟩
    · exact .inl (by simp [hfailure])
  | get key capacity => exact .inr ⟨h, tree, hworking⟩

lemma runOps_sound (hsound : Sound pager others batch) (ops : List BTreeOp) :
    Sound pager others (runOps pager ops batch).2 := by
  induction ops generalizing batch with
  | nil => exact hsound
  | cons op ops ih => exact ih (runOp_sound hsound op)

end Batch

section Scripts

variable {pager pager' : Pager} {batch : BTreeBatch} {others : List PageId} {h : Nat}
  {tree : PageTree h} {script : BatchScript} {run : BatchRun}

/-- A commit that reports success publishes the batch or releases an empty one. -/
lemma btreeBatchCommit_cases {active : Bool}
    (hworking : Working { pager with transactionActive := active } batch others tree)
    (hrun : btreeBatchCommit { pager with transactionActive := active } batch = (.ok (), pager')) :
    (batch.items = [] ∧ ∃ released, pager' = { pager with transactionActive := released }) ∨
      (Published { pager with transactionActive := active } batch pager'.unfenced ∧
        (pager'.needsRecovery = true → uint64Max ≤ pager.superblock.generation + 1)) := by
  by_cases hitems : batch.items = []
  · simp only [btreeBatchCommit, hworking.active, hworking.failure, hitems, Bool.not_true,
      Bool.false_eq_true, ↓reduceIte, Prod.mk.injEq, true_and] at hrun
    obtain ⟨released, habort⟩ := btreeBatchAbort_eq { pager with transactionActive := active } batch
    rw [habort] at hrun
    exact .inl ⟨hitems, released, hrun.symm⟩
  · exact .inr (btreeBatchCommit_published hworking hitems hrun)

/-- What a batch left: the pager as it was, or the outcome of a commit. -/
lemma runScript_eq_ok (hrun : runScript pager script = .ok run) : pager.needsRecovery = false ∧
      run.results = (runOps { pager with transactionActive := true } script.ops
        (freshBatch pager)).1 ∧
      ((script.ending = .abort ∧ run.status = .ok () ∧
          ∃ released, run.pager = { pager with transactionActive := released }) ∨
        (script.ending = .commit ∧
          btreeBatchCommit { pager with transactionActive := true }
            (runOps { pager with transactionActive := true } script.ops (freshBatch pager)).2 =
              (run.status, run.pager))) := by
  simp only [runScript, Fallible.except_bind_eq_ok] at hrun
  obtain ⟨⟨batch, working⟩, hbegin, hrun⟩ := hrun
  obtain ⟨hservice, rfl, rfl⟩ := btreeBatchBegin_eq_ok hbegin
  refine ⟨hservice, ?_⟩
  rw [show ({ freshBatch pager with rootPage := pager.superblock.rootPage } : BTreeBatch) =
    freshBatch pager from rfl] at hrun
  cases hending : script.ending with
  | abort =>
    simp only [hending, Except.ok.injEq] at hrun
    subst hrun
    exact ⟨rfl, .inl ⟨rfl, rfl, btreeBatchAbort_eq _ _⟩⟩
  | commit =>
    simp only [hending, Except.ok.injEq] at hrun
    subst hrun
    exact ⟨rfl, .inr ⟨rfl, rfl⟩⟩

/-- The committed state of the pager stores a well-formed tree. -/
def Stores (pager : Pager) (others : List PageId) : Prop :=
  ∃ (h : Nat) (tree : PageTree h), StoresTree pager.unfenced others tree

/-- A commit that reports success leaves a stored tree at the same root, in service
unless the generation counter is exhausted. -/
lemma commit_stores (hstores : StoresTree pager others tree)
    (hsound : Sound { pager with transactionActive := true } others batch)
    (hrun : btreeBatchCommit { pager with transactionActive := true } batch = (.ok (), pager')) :
    Stores pager' others ∧ pager'.superblock.rootPage = pager.superblock.rootPage ∧
      (pager'.needsRecovery = true → uint64Max ≤ pager.superblock.generation + 1) := by
  rcases hsound with hpoisoned | ⟨h', tree', hworking⟩
  · obtain ⟨error, herror⟩ := Option.ne_none_iff_exists'.mp hpoisoned
    obtain ⟨⟨reason, hreason⟩, _⟩ :=
      btreeBatchCommit_failed { pager with transactionActive := true } herror
    rw [hrun] at hreason
    cases hreason
  · rcases btreeBatchCommit_cases hworking hrun with
      ⟨_, released, rfl⟩ | ⟨hpublished, hfenced⟩
    · exact ⟨⟨h, tree, hstores.unfenced pager.needsRecovery released⟩, rfl,
        fun hfenced => by simp [hstores.inService] at hfenced⟩
    · exact ⟨⟨h', tree', hpublished.storesTree hworking⟩,
        hpublished.target.rootPage.trans hworking.target.rootPage, hfenced⟩

lemma runScript_stores (hstores : Stores pager others)
    (hrun : runScript pager script = .ok run) : Stores run.pager others := by
  obtain ⟨h, tree, hstores⟩ := hstores
  obtain ⟨hservice, _, hrun⟩ := runScript_eq_ok hrun
  rw [Pager.unfenced_of_inService hservice] at hstores
  rcases hrun with ⟨_, _, released, heq⟩ | ⟨_, hcommit⟩
  · rw [heq]
    exact ⟨h, tree, hstores.unfenced pager.needsRecovery released⟩
  cases hstatus : run.status with
  | error error =>
    rw [hstatus] at hcommit
    obtain ⟨needsRecovery, released, heq⟩ := btreeBatchCommit_eq_error hcommit
    rw [heq]
    exact ⟨h, tree, hstores.unfenced needsRecovery released⟩
  | ok _ =>
    rw [hstatus] at hcommit
    exact (commit_stores hstores (runOps_sound (.inr ⟨h, tree, hstores.working⟩) script.ops)
      hcommit).1

/-- Batches one after another; the run stops at a pager out of service. -/
def runBatches : List BatchScript → Pager → Except SdbError Pager
  | [], pager => .ok pager
  | script :: rest, pager => do
      let run ← runScript pager script
      runBatches rest run.pager

lemma runBatches_stores {scripts : List BatchScript} (hstores : Stores pager others)
    (hrun : runBatches scripts pager = .ok pager') : Stores pager' others := by
  induction scripts generalizing pager with
  | nil =>
    obtain rfl := Except.ok.inj hrun
    exact hstores
  | cons script scripts ih =>
    obtain ⟨run, hscript, hrest⟩ := Fallible.except_bind_eq_ok.mp hrun
    exact ih (runScript_stores hstores hscript) hrest

end Scripts

end ShibaDb
