/-
Contents whose edits reach the medium only at the next sync.  A crash keeps,
loses or tears each edit that was not synced, independently of the others.
-/
import Mathlib

namespace Durable

variable {C E : Type}

/-- What is on the medium and the edits issued since the last sync. -/
structure Buffered (C E : Type) where
  durable : C
  pending : List E

namespace Buffered

/-- The contents a reader sees. -/
def current (apply : E → C → C) (buffered : Buffered C E) : C :=
  buffered.pending.foldl (fun contents edit => apply edit contents) buffered.durable

def edit (buffered : Buffered C E) (e : E) : Buffered C E :=
  { buffered with pending := buffered.pending ++ [e] }

def sync (apply : E → C → C) (buffered : Buffered C E) : Buffered C E :=
  ⟨buffered.current apply, []⟩

@[simp] lemma current_edit (apply : E → C → C) (buffered : Buffered C E) (e : E) :
    (buffered.edit e).current apply = apply e (buffered.current apply) := by
  simp [current, edit]

@[simp] lemma current_sync (apply : E → C → C) (buffered : Buffered C E) :
    (buffered.sync apply).current apply = buffered.current apply := rfl

end Buffered

/-- What a crash may leave of `contents` with the pending edits `edits`. -/
inductive Survives (apply : E → C → C) (tears : E → C → C → Prop) : C → List E → C → Prop
  | nil {contents : C} : Survives apply tears contents [] contents
  | kept {contents after : C} {e : E} {edits : List E}
      (rest : Survives apply tears (apply e contents) edits after) :
      Survives apply tears contents (e :: edits) after
  | lost {contents after : C} {e : E} {edits : List E}
      (rest : Survives apply tears contents edits after) :
      Survives apply tears contents (e :: edits) after
  | torn {contents middle after : C} {e : E} {edits : List E} (tear : tears e contents middle)
      (rest : Survives apply tears middle edits after) :
      Survives apply tears contents (e :: edits) after

variable {apply : E → C → C} {tears : E → C → C → Prop} {contents after : C} {edits : List E}

@[simp] lemma survives_nil : Survives apply tears contents [] after ↔ after = contents := by
  constructor
  · intro h
    cases h
    rfl
  · rintro rfl
    exact .nil

/-- One pending edit is kept, lost or torn. -/
lemma survives_singleton {e : E} : Survives apply tears contents [e] after ↔
    after = apply e contents ∨ after = contents ∨ tears e contents after := by
  constructor
  · intro h
    cases h with
    | kept rest => exact .inl (survives_nil.mp rest)
    | lost rest => exact .inr (.inl (survives_nil.mp rest))
    | torn tear rest => exact .inr (.inr (survives_nil.mp rest ▸ tear))
  · rintro (rfl | rfl | htear)
    · exact .kept .nil
    · exact .lost .nil
    · exact .torn htear .nil

end Durable
