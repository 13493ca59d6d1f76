/-
State passing with failure.  A failed computation keeps the state it reached,
as imperative code does when it returns an error after a partial update.
-/
import Mathlib

universe u

/-- A computation that updates a state and returns a value or an error. -/
def Fallible (ε σ α : Type u) : Type u := σ → Except ε α × σ

namespace Fallible

variable {ε σ α β : Type u} {result : α} {before after : σ} {error : ε}

instance : Monad (Fallible ε σ) where
  pure value := fun state => (.ok value, state)
  bind first next := fun state =>
    match first state with
    | (.ok value, state) => next value state
    | (.error error, state) => (.error error, state)

/-- Stop with an error and leave the state as it is. -/
def fail (error : ε) : Fallible ε σ α := fun state => (.error error, state)

/-- A computation that only reads the state. -/
def query (read : σ → Except ε α) : Fallible ε σ α := fun state => (read state, state)

/-- A total update of the state. -/
def update (change : σ → σ) : Fallible ε σ PUnit :=
  fun state => (.ok ⟨⟩, change state)

@[simp]
lemma pure_eq_ok {value : α} : (pure value : Fallible ε σ α) before = (.ok result, after) ↔
      value = result ∧ before = after := by
  change ((Except.ok value : Except ε α), before) = (.ok result, after) ↔ _
  simp

/-- A sequence succeeds exactly when both parts do. -/
@[simp]
lemma bind_eq_ok {first : Fallible ε σ α} {next : α → Fallible ε σ β} {result : β} :
    (first >>= next) before = (.ok result, after) ↔
      ∃ value middle, first before = (.ok value, middle) ∧
        next value middle = (.ok result, after) := by
  change (match first before with
    | (.ok value, state) => next value state
    | (.error error, state) => (.error error, state)) = _ ↔ _
  rcases first before with ⟨_ | value, middle⟩ <;> simp

@[simp]
lemma fail_eq_ok : (fail error : Fallible ε σ α) before = (.ok result, after) ↔ False := by
  simp [fail]

@[simp]
lemma query_eq_ok {read : σ → Except ε α} :
    (query read : Fallible ε σ α) before = (.ok result, after) ↔
      read before = .ok result ∧ before = after := by
  simp [query]

@[simp]
lemma update_eq_ok {change : σ → σ} {result : PUnit} :
    (update change : Fallible ε σ PUnit) before = (.ok result, after) ↔ change before = after := by
  simp [update]

/-- Run the first part of a sequence. -/
lemma bind_run {first : Fallible ε σ α} {next : α → Fallible ε σ β} {value : α} {middle : σ}
    (hfirst : first before = (.ok value, middle)) :
    (first >>= next) before = next value middle := by
  change (match first before with
    | (.ok value, state) => next value state
    | (.error error, state) => (.error error, state)) = _
  rw [hfirst]

lemma bind_run_error {first : Fallible ε σ α} {next : α → Fallible ε σ β} {middle : σ}
    (hfirst : first before = (.error error, middle)) :
    (first >>= next) before = (.error error, middle) := by
  change (match first before with
    | (.ok value, state) => next value state
    | (.error error, state) => (.error error, state)) = _
  rw [hfirst]

@[simp]
lemma except_bind_eq_ok {first : Except ε α} {next : α → Except ε β} {result : β} :
    (first >>= next) = .ok result ↔ ∃ value, first = .ok value ∧ next value = .ok result := by
  cases first <;> simp [bind, Except.bind]

/-- A guard that fails with an error was passed. -/
lemma guard_eq_ok {p : Prop} [Decidable p] {rest : Except ε α} :
    (if p then .error error else rest) = .ok result ↔ ¬p ∧ rest = .ok result := by
  split <;> simp_all

section Avoids

/-- The computation never stops with `error`. -/
def Avoids (error : ε) (body : Fallible ε σ α) : Prop :=
  ∀ state, (body state).1 ≠ .error error

variable {error : ε}

lemma avoids_pure (value : α) : Avoids error (pure value : Fallible ε σ α) :=
  fun _ => nofun

lemma avoids_fail {other : ε} (hne : other ≠ error) :
    Avoids error (fail other : Fallible ε σ α) := fun _ heq => hne (Except.error.inj heq)

lemma avoids_query {read : σ → Except ε α} (hread : ∀ state, read state ≠ .error error) :
    Avoids error (query read) := hread

lemma avoids_update (change : σ → σ) :
    Avoids error (update change : Fallible ε σ PUnit) := fun _ => nofun

lemma Avoids.bind {first : Fallible ε σ α} {next : α → Fallible ε σ β}
    (hfirst : Avoids error first) (hnext : ∀ value, Avoids error (next value)) :
    Avoids error (first >>= next) := by
  intro state
  change (match first state with
    | (.ok value, state) => next value state
    | (.error error, state) => (.error error, state)).1 ≠ _
  have hstate := hfirst state
  rcases hrun : first state with ⟨_ | value, middle⟩
  · simpa [hrun] using hstate
  · exact hnext value middle

lemma except_bind_ne_error {first : Except ε α} {next : α → Except ε β}
    (hfirst : first ≠ .error error) (hnext : ∀ value, next value ≠ .error error) :
    (first >>= next) ≠ .error error := by
  cases first with
  | error other => exact fun heq => hfirst (congrArg _ (Except.error.inj heq))
  | ok value => exact hnext value

end Avoids

section Safe

variable {error : ε} {post : α → σ → Prop} {state : σ}

/-- From `state` the computation does not stop with `error`, and what it returns and
the state it leaves satisfy `post`. -/
structure Safe (error : ε) (post : α → σ → Prop) (body : Fallible ε σ α) (state : σ) :
    Prop where
  ne_error : (body state).1 ≠ .error error
  returns : ∀ value after, body state = (.ok value, after) → post value after

lemma Safe.mono {post' : α → σ → Prop} {body : Fallible ε σ α}
    (hsafe : Safe error post body state)
    (hpost : ∀ value after, post value after → post' value after) : Safe error post' body state :=
  ⟨hsafe.ne_error, fun value after hrun => hpost value after (hsafe.returns value after hrun)⟩

lemma safe_pure {value : α} (hpost : post value state) :
    Safe error post (pure value : Fallible ε σ α) state := by
  refine ⟨nofun, fun result after hrun => ?_⟩
  obtain ⟨rfl, rfl⟩ := pure_eq_ok.mp hrun
  exact hpost

lemma safe_fail {other : ε} (hne : other ≠ error) :
    Safe error post (fail other : Fallible ε σ α) state :=
  ⟨fun heq => hne (Except.error.inj heq), nofun⟩

lemma safe_update {change : σ → σ} {post : PUnit → σ → Prop} (hpost : post ⟨⟩ (change state)) :
    Safe error post (update change : Fallible ε σ PUnit) state := by
  refine ⟨nofun, fun result after hrun => ?_⟩
  obtain rfl := update_eq_ok.mp hrun
  exact hpost

lemma safe_query {read : σ → Except ε α} (hread : read state ≠ .error error)
    (hpost : ∀ value, read state = .ok value → post value state) :
    Safe error post (query read) state := by
  refine ⟨hread, fun value after hrun => ?_⟩
  obtain ⟨hvalue, rfl⟩ := query_eq_ok.mp hrun
  exact hpost value hvalue

lemma Safe.bind {middle : α → σ → Prop} {post : β → σ → Prop} {first : Fallible ε σ α}
    {next : α → Fallible ε σ β} (hfirst : Safe error middle first state)
    (hnext : ∀ value after, middle value after → Safe error post (next value) after) :
    Safe error post (first >>= next) state := by
  constructor
  · change (match first state with
      | (.ok value, state) => next value state
      | (.error error, state) => (.error error, state)).1 ≠ _
    rcases hrun : first state with ⟨other | value, after⟩
    · simpa [hrun] using hfirst.ne_error
    · exact (hnext value after (hfirst.returns value after hrun)).ne_error
  · intro result after hrun
    obtain ⟨value, between, hvalue, hrest⟩ := bind_eq_ok.mp hrun
    exact (hnext value between (hfirst.returns value between hvalue)).returns result after hrest

/-- Read the state and go on with what was read. -/
lemma safe_query_bind {post : β → σ → Prop} {read : σ → Except ε α}
    {next : α → Fallible ε σ β} (hread : read state ≠ .error error)
    (hnext : ∀ value, read state = .ok value → Safe error post (next value) state) :
    Safe error post (query read >>= next) state := by
  have hfirst : Safe error (fun value after => read state = .ok value ∧ after = state)
      (query read) state := safe_query hread fun _ hvalue => ⟨hvalue, rfl⟩
  refine hfirst.bind ?_
  rintro value _ ⟨hvalue, rfl⟩
  exact hnext value hvalue

end Safe

section Preserves

variable {inv : σ → Prop}

/-- Whatever its outcome, the computation leaves a state that satisfies `inv`. -/
def Preserves (inv : σ → Prop) (body : Fallible ε σ α) : Prop :=
  ∀ state, inv state → inv (body state).2

lemma preserves_fail (error : ε) : Preserves inv (fail error : Fallible ε σ α) :=
  fun _ hstate => hstate

lemma preserves_query (read : σ → Except ε α) : Preserves inv (query read) :=
  fun _ hstate => hstate

lemma preserves_update {change : σ → σ} (hchange : ∀ state, inv state → inv (change state)) :
    Preserves inv (update change : Fallible ε σ PUnit) := hchange

lemma Preserves.bind {first : Fallible ε σ α} {next : α → Fallible ε σ β}
    (hfirst : Preserves inv first) (hnext : ∀ value, Preserves inv (next value)) :
    Preserves inv (first >>= next) := by
  intro state hstate
  change inv (match first state with
    | (.ok value, state) => next value state
    | (.error error, state) => (.error error, state)).2
  have hmiddle := hfirst state hstate
  rcases hrun : first state with ⟨error | value, middle⟩ <;> rw [hrun] at hmiddle
  · exact hmiddle
  · exact hnext value middle hmiddle

end Preserves

/-- What a computation that succeeds returned. -/
lemma eq_ok_getD {result : Except ε α} (default : α) (h : result.toOption.isSome = true) :
    result = .ok (result.toOption.getD default) := by
  cases result with
  | error error => cases h
  | ok value => rfl

end Fallible
