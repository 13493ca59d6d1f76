/-
Group commit: the tail of a deferred `sdb_txn_commit`, `sdb_pager_fsync_locked` and
`sdb_pager_commit_durable` in `pager.c`.  Any number of threads wait for their
transactions; one of them at a time leads, releases the mutex for its fsync and takes it
again.  A step is what a thread does between two operations on the mutex or the file.
-/
import ShibaDb.Status

namespace ShibaDb

namespace GroupCommit

/-- Where a thread stands in `sdb_pager_commit_durable`. -/
inductive Committer where
  | outside
  /-- Before the mutex, or asleep on the condition. -/
  | waiting (txnId : Nat)
  /-- Leading, off the mutex, with its snapshot of `written_lsn`; `began` is the last
  transaction in the log when the fsync started. -/
  | syncing (txnId target : Nat) (began : Option Nat)
  | synced (txnId target : Nat) (status : Except SdbError Unit)
  | returned (txnId : Nat) (status : Except SdbError Unit)

def Committer.leads : Committer → Bool
  | .syncing _ _ _ => true
  | .synced _ _ _ => true
  | _ => false

/-- The coordinator of a pager, with the log it commits to. -/
structure Coordinator (Thread : Type) where
  writtenLsn : Nat
  durableLsn : Nat
  /-- `commit_error` where `commit_failed` is set. -/
  commitError : Option SdbError
  leaderActive : Bool
  syncRelaxed : Bool
  /-- The last transaction whose bytes are in the log file. -/
  currentLsn : Nat
  /-- The transaction whose bytes were just written, under the engine mutex. -/
  staging : Option Nat
  /-- The last transaction in the log when an fsync started that succeeded. -/
  safeLsn : Nat
  threads : Thread → Committer

inductive Event (Thread : Type) where
  /-- The bytes of the next transaction are written, under the engine mutex. -/
  | write
  /-- A deferred commit records what it wrote. -/
  | stage
  /-- The fsync of a synchronous commit or of a checkpoint, under the engine mutex. -/
  | barrier (status : Except SdbError Unit)
  | enter (thread : Thread) (txnId : Nat)
  /-- A thread goes on; `status` is what an fsync that ends here returns. -/
  | act (thread : Thread) (status : Except SdbError Unit)

variable {Thread : Type} {s s' : Coordinator Thread}

namespace Coordinator

section Steps

variable [DecidableEq Thread]

def move (s : Coordinator Thread) (thread : Thread) (committer : Committer) : Coordinator Thread :=
  { s with threads := Function.update s.threads thread committer }

/-- After `sdb_pager_open` at this checkpoint. -/
def opened (checkpointLsn : Nat) (syncRelaxed : Bool) : Coordinator Thread :=
  { writtenLsn := checkpointLsn, durableLsn := checkpointLsn, commitError := none
    leaderActive := false, syncRelaxed, currentLsn := checkpointLsn, staging := none
    safeLsn := checkpointLsn, threads := fun _ => .outside }

/-- The end of a deferred `sdb_txn_commit`. -/
def prepareTail (s : Coordinator Thread) (txnId : Nat) : Coordinator Thread :=
  if s.commitError.isSome then s else { s with writtenLsn := max s.writtenLsn txnId }

/-- One turn of the loop of `sdb_pager_commit_durable`; a leader that has nothing to sync,
or needs no sync, is through before it would release the mutex. -/
def commitTurn (s : Coordinator Thread) (thread : Thread) (txnId : Nat) : Coordinator Thread :=
  if s.durableLsn ≥ txnId then s.move thread (.returned txnId (.ok ()))
  else
    match s.commitError with
    | some error => s.move thread (.returned txnId (.error error))
    | none =>
      if s.leaderActive then s
      else if s.durableLsn ≥ s.writtenLsn then s
      else if s.syncRelaxed then { s with durableLsn := s.writtenLsn }
      else { s with leaderActive := true }.move thread (.syncing txnId s.writtenLsn none)

/-- The end of `sdb_pager_fsync_locked`, and of the leader's turn. -/
def fsyncTail (s : Coordinator Thread) (thread : Thread) (txnId target : Nat)
    (status : Except SdbError Unit) : Coordinator Thread :=
  let s :=
    match status with
    | .ok _ => { s with durableLsn := max s.durableLsn target }
    | .error error => { s with commitError := some error }
  { s with leaderActive := false }.move thread (.waiting txnId)

/-- A thread inside `sdb_pager_commit_durable` goes on. -/
def act (s : Coordinator Thread) (thread : Thread) (status : Except SdbError Unit) :
    Coordinator Thread :=
  match s.threads thread with
  | .outside => s
  | .waiting txnId => s.commitTurn thread txnId
  | .syncing txnId target none => s.move thread (.syncing txnId target (some s.currentLsn))
  | .syncing txnId target (some began) =>
    { s with safeLsn := if status.toBool then max s.safeLsn began else s.safeLsn }.move thread
      (.synced txnId target status)
  | .synced txnId target status => s.fsyncTail thread txnId target status
  | .returned _ _ => s.move thread .outside

/-- What is not possible where the system stands changes nothing. -/
def step (s : Coordinator Thread) : Event Thread → Coordinator Thread
  | .write =>
    if s.staging.isSome then s
    else { s with currentLsn := s.currentLsn + 1, staging := some (s.currentLsn + 1) }
  | .stage =>
    match s.staging with
    | none => s
    | some txnId => { s.prepareTail txnId with staging := none }
  | .barrier status =>
    { s with safeLsn := if status.toBool then s.currentLsn else s.safeLsn, staging := none }
  | .enter thread txnId =>
    match s.threads thread with
    | .outside =>
      s.move thread (if txnId = 0 || txnId > s.writtenLsn then
        .returned txnId (.error .invalidArgument) else .waiting txnId)
    | _ => s
  | .act thread status => s.act thread status

def run (s : Coordinator Thread) (events : List (Event Thread)) : Coordinator Thread :=
  events.foldl step s

end Steps

end Coordinator

open Coordinator

/-- What is known of a thread where it stands. -/
def Standing (s : Coordinator Thread) : Committer → Prop
  | .syncing _ target began =>
    target ≤ s.writtenLsn ∧ ∀ last, began = some last → target ≤ last ∧ last ≤ s.currentLsn
  | .synced _ target status => target ≤ s.writtenLsn ∧ (status = .ok () → target ≤ s.safeLsn)
  | .returned txnId status => status = .ok () → txnId ≤ s.durableLsn
  | _ => True

/-- The counters in their order. -/
structure Ordered (relaxed : Bool) (s : Coordinator Thread) : Prop where
  mode : s.syncRelaxed = relaxed
  durable : s.durableLsn ≤ s.writtenLsn
  written : s.writtenLsn ≤ s.currentLsn
  safe : s.safeLsn ≤ s.currentLsn
  staged : ∀ txnId, s.staging = some txnId → txnId ≤ s.currentLsn
  synced : relaxed = false → s.durableLsn ≤ s.safeLsn

/-- The invariant of the protocol. -/
structure Sound (relaxed : Bool) (s : Coordinator Thread) : Prop where
  ordered : Ordered relaxed s
  standing : ∀ thread, Standing s (s.threads thread)
  oneLeader : ∀ left right, (s.threads left).leads = true → (s.threads right).leads = true →
    left = right
  leading : ∀ thread, (s.threads thread).leads = true →
    s.leaderActive = true ∧ s.commitError = none
  led : s.leaderActive = true → ∃ thread, (s.threads thread).leads = true

variable {relaxed : Bool}

lemma Standing.mono {committer : Committer} (h : Standing s committer)
    (hwritten : s.writtenLsn ≤ s'.writtenLsn) (hcurrent : s.currentLsn ≤ s'.currentLsn)
    (hsafe : s.safeLsn ≤ s'.safeLsn) (hdurable : s.durableLsn ≤ s'.durableLsn) :
    Standing s' committer := by
  cases committer with
  | outside => trivial
  | waiting txnId => trivial
  | syncing txnId target began =>
    exact ⟨h.1.trans hwritten, fun last hlast =>
      ⟨(h.2 last hlast).1, (h.2 last hlast).2.trans hcurrent⟩⟩
  | synced txnId target status =>
    exact ⟨h.1.trans hwritten, fun hok => (h.2 hok).trans hsafe⟩
  | returned txnId status => exact fun hok => (h hok).trans hdurable

/-- The counters move on, and no thread does. -/
lemma Sound.count (hs : Sound relaxed s) {writtenLsn durableLsn currentLsn safeLsn : Nat}
    {staging : Option Nat}
    (hordered : Ordered relaxed
      { s with writtenLsn, durableLsn, currentLsn, safeLsn, staging })
    (hwritten : s.writtenLsn ≤ writtenLsn) (hcurrent : s.currentLsn ≤ currentLsn)
    (hsafe : s.safeLsn ≤ safeLsn) (hdurable : s.durableLsn ≤ durableLsn) :
    Sound relaxed { s with writtenLsn, durableLsn, currentLsn, safeLsn, staging } :=
  ⟨hordered, fun thread => (hs.standing thread).mono hwritten hcurrent hsafe hdurable,
    hs.oneLeader, hs.leading, hs.led⟩

lemma opened_sound (checkpointLsn : Nat) (relaxed : Bool) :
    Sound relaxed (opened checkpointLsn relaxed : Coordinator Thread) :=
  ⟨⟨rfl, le_rfl, le_rfl, le_rfl, nofun, fun _ => le_rfl⟩, fun _ => trivial, nofun, nofun, nofun⟩

variable [DecidableEq Thread] {thread : Thread}

lemma move_threads (committer : Committer) (other : Thread) :
    (s.move thread committer).threads other =
      if other = thread then committer else s.threads other :=
  Function.update_apply ..

section

variable (hs : Sound relaxed s)

include hs

/-- A thread moves on, and leads after if it led before. -/
lemma Sound.move {before committer : Committer}
    (hthread : s.threads thread = before) (hstanding : Standing s committer)
    (hleads : committer.leads = before.leads) : Sound relaxed (s.move thread committer) := by
  have hsame : ∀ other, ((s.move thread committer).threads other).leads =
      (s.threads other).leads := by
    intro other
    rw [move_threads]
    split
    · rename_i heq
      rw [heq, hleads, hthread]
    · rfl
  refine ⟨{ hs.ordered with }, fun other => ?_, ?_, ?_, ?_⟩
  · rw [move_threads]
    split
    · exact hstanding.mono le_rfl le_rfl le_rfl le_rfl
    · exact (hs.standing other).mono le_rfl le_rfl le_rfl le_rfl
  all_goals simp only [hsame]
  · exact hs.oneLeader
  · exact hs.leading
  · exact hs.led

/-- A thread takes the lead or gives it up while no other leads. -/
lemma Sound.handOver (committer : Committer) {durableLsn : Nat}
    {commitError : Option SdbError}
    (hordered : Ordered relaxed { s with durableLsn, commitError, leaderActive := committer.leads })
    (hothers : ∀ other, other ≠ thread → (s.threads other).leads = false)
    (hstanding : Standing { s with durableLsn } committer)
    (hgood : committer.leads = true → commitError = none) (hdurable : s.durableLsn ≤ durableLsn) :
    Sound relaxed ({ s with durableLsn, commitError, leaderActive := committer.leads }.move thread
      committer) := by
  have hleads : ∀ other, (if other = thread then committer else s.threads other).leads = true →
      other = thread ∧ committer.leads = true := by
    intro other hother
    split at hother
    · rename_i heq
      exact ⟨heq, hother⟩
    · rename_i hne
      rw [hothers other hne] at hother
      cases hother
  refine ⟨{ hordered with }, fun other => ?_, ?_, ?_, fun hled => ⟨thread, ?_⟩⟩
  · rw [move_threads]
    split
    · exact hstanding.mono le_rfl le_rfl le_rfl le_rfl
    · exact (hs.standing other).mono le_rfl le_rfl le_rfl hdurable
  · simp only [move_threads]
    intro left right hleft hright
    rw [(hleads left hleft).1, (hleads right hright).1]
  · simp only [move_threads]
    exact fun other hother => ⟨(hleads other hother).2, hgood (hleads other hother).2⟩
  · rw [move_threads, if_pos rfl]
    exact hled

lemma Sound.commitTurn {txnId : Nat}
    (hthread : s.threads thread = .waiting txnId) :
    Sound relaxed (s.commitTurn thread txnId) := by
  rw [Coordinator.commitTurn]
  split
  · rename_i hdone
    exact hs.move hthread (fun _ => hdone) rfl
  split
  · exact hs.move hthread nofun rfl
  rename_i hgood
  split
  · exact hs
  rename_i hfree
  split
  · exact hs
  rename_i hbehind
  split
  · rename_i hrelaxed
    refine hs.count { hs.ordered with durable := le_rfl, synced := ?_ } le_rfl le_rfl le_rfl
      hs.ordered.durable
    rw [← hs.ordered.mode, hrelaxed]
    nofun
  · refine hs.handOver (.syncing txnId s.writtenLsn none) { hs.ordered with } ?_ ⟨le_rfl, nofun⟩
      (fun _ => hgood) le_rfl
    intro other _
    rw [Bool.eq_false_iff]
    exact fun hleads => hfree (hs.leading other hleads).1

lemma Sound.fsyncTail {txnId target : Nat} {status : Except SdbError Unit}
    (hthread : s.threads thread = .synced txnId target status) :
    Sound relaxed (s.fsyncTail thread txnId target status) := by
  have hstanding := hs.standing thread
  rw [hthread] at hstanding
  have hothers : ∀ other, other ≠ thread → (s.threads other).leads = false := by
    intro other hne
    rw [Bool.eq_false_iff]
    exact fun hleads => hne (hs.oneLeader other thread hleads (by rw [hthread]; rfl))
  cases status with
  | ok _ =>
    exact hs.handOver (.waiting txnId) { hs.ordered with
      durable := max_le hs.ordered.durable hstanding.1
      synced := fun hfull => max_le (hs.ordered.synced hfull) (hstanding.2 rfl) } hothers
      trivial nofun (le_max_left _ _)
  | error error =>
    exact hs.handOver (.waiting txnId) { hs.ordered with } hothers trivial nofun le_rfl

lemma Sound.act (status : Except SdbError Unit) :
    Sound relaxed (s.act thread status) := by
  have hstanding := hs.standing thread
  unfold Coordinator.act
  split
  · exact hs
  · rename_i hthread
    exact hs.commitTurn hthread
  · rename_i hthread
    rw [hthread] at hstanding
    refine hs.move hthread ⟨hstanding.1, ?_⟩ rfl
    rintro last ⟨⟩
    exact ⟨hstanding.1.trans hs.ordered.written, le_rfl⟩
  · rename_i began hthread
    rw [hthread] at hstanding
    obtain ⟨hwritten, hbegan⟩ := hstanding
    obtain ⟨htarget, hcurrent⟩ := hbegan began rfl
    cases status with
    | error error => exact hs.move hthread ⟨hwritten, nofun⟩ rfl
    | ok _ =>
      have hsafe : Sound relaxed { s with safeLsn := max s.safeLsn began } :=
        hs.count { hs.ordered with
          safe := max_le hs.ordered.safe hcurrent
          synced := fun hfull => (hs.ordered.synced hfull).trans (le_max_left _ _) }
          le_rfl le_rfl (le_max_left _ _) le_rfl
      exact hsafe.move hthread ⟨hwritten, fun _ => htarget.trans (le_max_right _ _)⟩ rfl
  · rename_i hthread
    exact hs.fsyncTail hthread
  · rename_i hthread
    exact hs.move hthread trivial rfl

/-- Every step keeps the invariant. -/
lemma Sound.step (event : Event Thread) : Sound relaxed (s.step event) := by
  cases event with
  | write =>
    simp only [Coordinator.step]
    split
    · exact hs
    · refine hs.count { hs.ordered with
        written := hs.ordered.written.trans (Nat.le_succ _)
        safe := hs.ordered.safe.trans (Nat.le_succ _)
        staged := ?_ } le_rfl (Nat.le_succ _) le_rfl le_rfl
      rintro txnId ⟨⟩
      exact le_rfl
  | stage =>
    simp only [Coordinator.step]
    split
    · exact hs
    · rename_i txnId hstaged
      rw [prepareTail]
      split
      · exact hs.count { hs.ordered with staged := nofun } le_rfl le_rfl le_rfl le_rfl
      · exact hs.count { hs.ordered with
          durable := hs.ordered.durable.trans (le_max_left _ _)
          written := max_le hs.ordered.written (hs.ordered.staged txnId hstaged)
          staged := nofun } (le_max_left _ _) le_rfl le_rfl le_rfl
  | barrier status =>
    cases status with
    | ok _ =>
      exact hs.count { hs.ordered with
        safe := le_rfl
        staged := nofun
        synced := fun hfull => (hs.ordered.synced hfull).trans hs.ordered.safe }
        le_rfl le_rfl hs.ordered.safe le_rfl
    | error error =>
      exact hs.count { hs.ordered with staged := nofun } le_rfl le_rfl le_rfl le_rfl
  | enter thread txnId =>
    simp only [Coordinator.step]
    split
    · rename_i hthread
      split
      · exact hs.move hthread nofun rfl
      · exact hs.move hthread trivial rfl
    · exact hs
  | act thread status => exact hs.act status

lemma Sound.run (events : List (Event Thread)) : Sound relaxed (s.run events) := by
  induction events generalizing s with
  | nil => exact hs
  | cons event events ih => exact ih (hs.step event)

/-- Once an fsync has failed nothing more is acknowledged. -/
lemma Sound.step_failed (hfailed : s.commitError.isSome = true) (event : Event Thread) :
    (s.step event).durableLsn = s.durableLsn ∧ (s.step event).commitError = s.commitError := by
  obtain ⟨error, herror⟩ := Option.isSome_iff_exists.mp hfailed
  cases event with
  | write =>
    simp only [Coordinator.step]
    split <;> exact ⟨rfl, rfl⟩
  | stage =>
    simp only [Coordinator.step, prepareTail, if_pos hfailed]
    split <;> exact ⟨rfl, rfl⟩
  | barrier status => exact ⟨rfl, rfl⟩
  | enter thread txnId =>
    simp only [Coordinator.step]
    split <;> exact ⟨rfl, rfl⟩
  | act thread status =>
    -- no thread leads any more
    have hthread : (s.threads thread).leads ≠ true := fun hleads => by
      simp [(hs.leading thread hleads).2] at hfailed
    cases hcommitter : s.threads thread with
    | outside => simp [Coordinator.step, Coordinator.act, hcommitter]
    | returned txnId status =>
      simp [Coordinator.step, Coordinator.act, hcommitter, Coordinator.move]
    | syncing txnId target began => exact absurd (by rw [hcommitter]; rfl) hthread
    | synced txnId target status => exact absurd (by rw [hcommitter]; rfl) hthread
    | waiting txnId =>
      simp only [Coordinator.step, Coordinator.act, hcommitter, Coordinator.commitTurn, herror]
      split <;> exact ⟨rfl, herror⟩

lemma Sound.run_failed (hfailed : s.commitError.isSome = true) (events : List (Event Thread)) :
    (s.run events).durableLsn = s.durableLsn ∧ (s.run events).commitError = s.commitError := by
  induction events generalizing s with
  | nil => exact ⟨rfl, rfl⟩
  | cons event events ih =>
    obtain ⟨hdurable, herror⟩ := hs.step_failed hfailed event
    obtain ⟨hdurable', herror'⟩ := ih (hs.step event) (by rwa [herror])
    exact ⟨hdurable'.trans hdurable, herror'.trans herror⟩

end

/-- Whatever the threads do and in whichever order, a transaction reported committed, and
with it every earlier one, was in the log when an fsync started that succeeded; and
`leader_active` is set exactly while one thread leads. -/
theorem groupCommit_acknowledges_synced (checkpointLsn : Nat) (events : List (Event Thread)) :
    (∀ thread txnId, ((opened checkpointLsn false).run events).threads thread =
        .returned txnId (.ok ()) → txnId ≤ ((opened checkpointLsn false).run events).safeLsn) ∧
      (((opened checkpointLsn false).run events).leaderActive = true ↔
        ∃! thread, (((opened checkpointLsn false).run events).threads thread).leads = true) := by
  have hs := (opened_sound checkpointLsn false).run events
  refine ⟨fun thread txnId hreturned => ?_, fun hactive => ?_, fun ⟨thread, hleads, _⟩ => ?_⟩
  · have hstanding := hs.standing thread
    rw [hreturned] at hstanding
    exact (hstanding rfl).trans (hs.ordered.synced rfl)
  · obtain ⟨thread, hleads⟩ := hs.led hactive
    exact ⟨thread, hleads, fun other hother => hs.oneLeader other thread hother hleads⟩
  · exact (hs.leading thread hleads).1

/-- After a failed fsync the error and the durable LSN stay as they are on the handle, and
only what was durable before is acknowledged. -/
theorem groupCommit_failure_final (checkpointLsn : Nat) (relaxed : Bool)
    (events later : List (Event Thread))
    (hfailed : ((opened checkpointLsn relaxed).run events).commitError.isSome = true) :
    ((opened checkpointLsn relaxed).run (events ++ later)).commitError =
        ((opened checkpointLsn relaxed).run events).commitError ∧
      ((opened checkpointLsn relaxed).run (events ++ later)).durableLsn =
        ((opened checkpointLsn relaxed).run events).durableLsn ∧
      ∀ thread txnId, ((opened checkpointLsn relaxed).run (events ++ later)).threads thread =
        .returned txnId (.ok ()) →
          txnId ≤ ((opened checkpointLsn relaxed).run events).durableLsn := by
  have hs := (opened_sound checkpointLsn relaxed).run events
  have happend : (opened checkpointLsn relaxed).run (events ++ later) =
      ((opened checkpointLsn relaxed).run events).run later := List.foldl_append
  obtain ⟨hdurable, herror⟩ := hs.run_failed hfailed later
  rw [happend]
  refine ⟨herror, hdurable, fun thread txnId hreturned => ?_⟩
  have hstanding := (hs.run later).standing thread
  rw [hreturned] at hstanding
  exact (hstanding rfl).trans_eq hdurable

/-- One thread leads and its fsync fails. -/
def failedLead : List (Event Bool) :=
  [.write, .stage, .enter true 8, .act true (.ok ()), .act true (.ok ()), .act true (.error .io),
    .act true (.ok ())]

/-- What the checkpoint covers is still reported. -/
theorem groupCommit_failure_final_leader : ∃ later : List (Event Bool),
    ((opened 7 false).run (failedLead ++ later)).threads false = .returned 7 (.ok ()) ∧
      7 ≤ ((opened 7 false).run failedLead).durableLsn := by
  have hreturned : ((opened 7 false).run (failedLead ++
      [.enter false 7, .act false (.ok ())])).threads false = .returned 7 (.ok ()) := rfl
  exact ⟨_, hreturned, (groupCommit_failure_final 7 false failedLead _ rfl).2.2 false 7 hreturned⟩

end GroupCommit

end ShibaDb
