/-
A medium whose failures are planned: for each call to come the plan says whether it
works, and if not, what a write leaves in its place.
-/
import ShibaDb.Lib.FileSystem

namespace FileSystem

open CallProgram
open LittleEndian (Bytes)

/-- For each call in turn the bytes it leaves when it fails, `none` where it works. -/
abbrev FaultPlan := Nat → Option Bytes

/-- The plan behind the next call. -/
def FaultPlan.rest (plan : FaultPlan) : FaultPlan := fun call => plan (call + 1)

@[simp] lemma FaultPlan.rest_apply (plan : FaultPlan) (call : Nat) :
    plan.rest call = plan (call + 1) := rfl

section Planned

variable {Name Kind : Type} [DecidableEq Name] [DecidableEq Kind]

/-- What a failing call leaves: a write some bytes within its range, any other call
nothing. -/
def interrupted : Call Name Kind → Bytes → Disk Name Kind → Disk Name Kind
  | .writeFull inode offset data, left, disk =>
    disk.editFile inode (.write offset (left.take data.length))
  | _, _, disk => disk

def execPlanned (request : Call Name Kind) (world : Disk Name Kind × FaultPlan) :
    request.Reply × (Disk Name Kind × FaultPlan) :=
  match world.2 0 with
  | none => ((exec request world.1).1, (exec request world.1).2, world.2.rest)
  | some left => (.error .failed, interrupted request left world.1, world.2.rest)

variable {disk after : Disk Name Kind} {plan plan' : FaultPlan} {request : Call Name Kind}

lemma execPlanned_works (h : plan 0 = none) : execPlanned request (disk, plan) =
      ((exec request disk).1, (exec request disk).2, plan.rest) := by
  simp only [execPlanned, h]

lemma execPlanned_fails {left : Bytes} (h : plan 0 = some left) :
    execPlanned request (disk, plan) =
      (.error .failed, interrupted request left disk, plan.rest) := by
  simp only [execPlanned, h]

lemma interrupted_spoiled (request : Call Name Kind) (left : Bytes) (disk : Disk Name Kind) :
    Spoiled request disk (interrupted request left disk) := by
  cases request with
  | writeFull inode offset data => exact ⟨_, rfl⟩
  | resize inode size => exact ⟨disk.files inode, by simp [interrupted]⟩
  | createNew name kind => exact .inl rfl
  | remove name => exact .inl rfl
  | openExisting name => rfl
  | size inode => rfl
  | readFull inode offset size => rfl
  | sync inode => rfl
  | syncDirectory => rfl

/-- A planned failure is one a medium that may fail allows. -/
lemma finishes_of_planned {ε α : Type} {program : Program (Call Name Kind) Call.Reply ε α}
    {result : Except ε α} (h : program.run execPlanned (disk, plan) = (result, after, plan')) :
    program.Finishes faulty disk result after := by
  induction program generalizing disk plan with
  | done value =>
    obtain ⟨rfl, hworld⟩ := Prod.mk.inj h
    exact ⟨rfl, (Prod.mk.inj hworld).1.symm⟩
  | call request next ih =>
    rw [Program.run] at h
    cases hplan : plan 0 with
    | none =>
      rw [execPlanned_works hplan] at h
      exact ⟨_, _, .inl rfl, ih _ h⟩
    | some left =>
      rw [execPlanned_fails hplan] at h
      exact ⟨_, _, .inr ⟨rfl, interrupted_spoiled request left disk⟩, ih _ h⟩

end Planned

end FileSystem
