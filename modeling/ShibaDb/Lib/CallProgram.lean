/-
Programs that issue calls to an environment and may fail.  An environment says
which replies and which next worlds a call may have; a program finishes in some of
them and visits others on the way, which is what a crash may see.
-/
import Mathlib

namespace CallProgram

/-- A result, or a call whose reply decides how the program goes on. -/
inductive Program (Call : Type) (Reply : Call → Type) (ε α : Type) where
  | done (result : Except ε α)
  | call (request : Call) (next : Reply request → Program Call Reply ε α)

/-- Which replies and next worlds a call may have. -/
abbrev Environment (Call : Type) (Reply : Call → Type) (World : Type) :=
  (request : Call) → World → Reply request → World → Prop

variable {Call : Type} {Reply : Call → Type} {ε α β World : Type}

namespace Program

def bind : Program Call Reply ε α → (α → Program Call Reply ε β) → Program Call Reply ε β
  | .done (.ok value), next => next value
  | .done (.error error), _ => .done (.error error)
  | .call request next, after => .call request fun reply => (next reply).bind after

instance : Monad (Program Call Reply ε) where
  pure value := .done (.ok value)
  bind := bind

def fail (error : ε) : Program Call Reply ε α := .done (.error error)

/-- Issue one call and return its reply. -/
def request (c : Call) : Program Call Reply ε (Reply c) := .call c fun reply => .done (.ok reply)

/-- Run a program and return its outcome as a value. -/
def attempt : Program Call Reply ε α → Program Call Reply ε (Except ε α)
  | .done result => .done (.ok result)
  | .call request next => .call request fun reply => (next reply).attempt

/-- The program may end with `result` in `after`. -/
def Finishes (env : Environment Call Reply World) :
    Program Call Reply ε α → World → Except ε α → World → Prop
  | .done result, world, result', after => result' = result ∧ after = world
  | .call request next, world, result', after =>
    ∃ reply middle, env request world reply middle ∧
      (next reply).Finishes env middle result' after

/-- The program may pass through `visited`: the first world, the worlds between
two calls and the last one. -/
def Visits (env : Environment Call Reply World) :
    Program Call Reply ε α → World → World → Prop
  | .done _, world, visited => visited = world
  | .call request next, world, visited =>
    visited = world ∨ ∃ reply middle, env request world reply middle ∧
      (next reply).Visits env middle visited

/-- Run against an environment given by a function. -/
def run (exec : (c : Call) → World → Reply c × World) :
    Program Call Reply ε α → World → Except ε α × World
  | .done result, world => (result, world)
  | .call request next, world =>
    (next (exec request world).1).run exec (exec request world).2

/-- Every call the run issues satisfies `q`. -/
def AllCalls (exec : (c : Call) → World → Reply c × World) (q : Call → Prop) :
    Program Call Reply ε α → World → Prop
  | .done _, _ => True
  | .call request next, world =>
    q request ∧ (next (exec request world).1).AllCalls exec q (exec request world).2

end Program

open Program

variable {env : Environment Call Reply World} {post : Except ε α → World → Prop}
  {always : World → Prop} {world : World}

section Run

variable {exec : (c : Call) → World → Reply c × World} {next : α → Program Call Reply ε β}
  {value : α} {world : World} {error : ε} {program : Program Call Reply ε α}

/-- Go on with `next` after an outcome. -/
def Program.resume (exec : (c : Call) → World → Reply c × World)
    (next : α → Program Call Reply ε β) : Except ε α × World → Except ε β × World
  | (.ok value, world) => (next value).run exec world
  | (.error error, world) => (.error error, world)

@[simp] lemma resume_ok : resume exec next (.ok value, world) = (next value).run exec world := rfl

@[simp] lemma resume_error : resume exec next (.error error, world) = (.error error, world) := rfl

@[simp] lemma run_pure :
    (pure value : Program Call Reply ε α).run exec world = (.ok value, world) := rfl

@[simp] lemma run_fail :
    (fail error : Program Call Reply ε α).run exec world = (.error error, world) := rfl

@[simp] lemma run_request {c : Call} :
    (request c : Program Call Reply ε (Reply c)).run exec world =
      (.ok (exec c world).1, (exec c world).2) := rfl

@[simp] lemma run_bind :
    (program >>= next).run exec world = resume exec next (program.run exec world) := by
  change (program.bind next).run exec world = _
  induction program generalizing world with
  | done result =>
    cases result with
    | ok value => rfl
    | error error => rfl
  | call request continuation ih => exact ih _

/-- A sequence that succeeds has a first part that does. -/
lemma run_bind_ok {value : β} {after : World}
    (h : (program >>= next).run exec world = (.ok value, after)) :
    ∃ first middle, program.run exec world = (.ok first, middle) ∧
      (next first).run exec middle = (.ok value, after) := by
  rw [run_bind] at h
  rcases hrun : program.run exec world with ⟨error | first, middle⟩
  · rw [hrun, resume_error] at h
    cases (Prod.mk.inj h).1
  · rw [hrun, resume_ok] at h
    exact ⟨first, middle, rfl, h⟩

@[simp] lemma run_attempt : program.attempt.run exec world =
      (.ok (program.run exec world).1, (program.run exec world).2) := by
  induction program generalizing world with
  | done result => rfl
  | call request continuation ih => exact ih _

variable {q : Call → Prop}

lemma allCalls_pure : (pure value : Program Call Reply ε α).AllCalls exec q world := trivial

lemma allCalls_fail : (fail error : Program Call Reply ε α).AllCalls exec q world := trivial

lemma allCalls_request {c : Call} :
    (request c : Program Call Reply ε (Reply c)).AllCalls exec q world ↔ q c :=
  and_iff_left trivial

/-- The calls of a sequence are those of the first part, and those of the second
where the first succeeds. -/
lemma allCalls_bind : (program >>= next).AllCalls exec q world ↔
      program.AllCalls exec q world ∧ ∀ value after, program.run exec world = (.ok value, after) →
        (next value).AllCalls exec q after := by
  change (program.bind next).AllCalls exec q world ↔ _
  induction program generalizing world with
  | done result =>
    cases result with
    | ok value => simp [Program.bind, AllCalls, Program.run]
    | error error => simp [Program.bind, AllCalls, Program.run]
  | call request continuation ih =>
    simp only [Program.bind, AllCalls, Program.run, ih, and_assoc]

lemma allCalls_bind_ok {after : World} (hrun : program.run exec world = (.ok value, after)) :
    (program >>= next).AllCalls exec q world ↔
      program.AllCalls exec q world ∧ (next value).AllCalls exec q after := by
  simp [allCalls_bind, hrun]

lemma Program.AllCalls.mono {q' : Call → Prop} (h : program.AllCalls exec q world)
    (hq : ∀ c, q c → q' c) : program.AllCalls exec q' world := by
  induction program generalizing world with
  | done result => trivial
  | call request next ih => exact ⟨hq request h.1, ih _ h.2⟩

/-- What every call allowed by `q` keeps, the run keeps. -/
lemma Program.AllCalls.invariant {inv : World → Prop} (h : program.AllCalls exec q world)
    (hworld : inv world) (hstep : ∀ c world, q c → inv world → inv (exec c world).2) :
    inv (program.run exec world).2 := by
  induction program generalizing world with
  | done result => exact hworld
  | call request next ih => exact ih _ h.2 (hstep request world h.1 hworld)

lemma allCalls_attempt :
    program.attempt.AllCalls exec q world ↔ program.AllCalls exec q world := by
  induction program generalizing world with
  | done result => exact Iff.rfl
  | call request next ih => exact and_congr_right fun _ => ih _

end Run

/-- A run against a function is a run against any environment that allows what
the function does. -/
lemma run_finishes {exec : (c : Call) → World → Reply c × World}
    (hexec : ∀ request world, env request world (exec request world).1 (exec request world).2)
    (program : Program Call Reply ε α) (world : World) :
    program.Finishes env world (program.run exec world).1 (program.run exec world).2 := by
  induction program generalizing world with
  | done result => exact ⟨rfl, rfl⟩
  | call request next ih => exact ⟨_, _, hexec request world, ih _ _⟩

section Visits

variable {exec : (c : Call) → World → Reply c × World}

/-- What a sequence passes through: the worlds of the first part, and those of the
second where the first succeeds. -/
lemma visits_bind
    (henv : ∀ c world reply after, env c world reply after → (reply, after) = exec c world)
    {program : Program Call Reply ε α} {next : α → Program Call Reply ε β} {visited : World}
    (h : (program >>= next).Visits env world visited) :
    program.Visits env world visited ∨ ∃ value after,
      program.run exec world = (.ok value, after) ∧ (next value).Visits env after visited := by
  change (program.bind next).Visits env world visited at h
  induction program generalizing world with
  | done result =>
    cases result with
    | ok value => exact .inr ⟨value, world, rfl, h⟩
    | error error => exact .inl h
  | call request continuation ih =>
    rcases h with rfl | ⟨reply, middle, hreply, h⟩
    · exact .inl (.inl rfl)
    · have hexec := henv request world reply middle hreply
      rcases ih reply h with hfirst | ⟨value, after, hrun, hsecond⟩
      · exact .inl (.inr ⟨reply, middle, hreply, hfirst⟩)
      · refine .inr ⟨value, after, ?_, hsecond⟩
        rw [Program.run, ← hexec]
        exact hrun

lemma visits_attempt {program : Program Call Reply ε α} {visited : World} :
    program.attempt.Visits env world visited ↔ program.Visits env world visited := by
  induction program generalizing world with
  | done result => exact Iff.rfl
  | call request next ih => simp only [attempt, Visits, ih]

end Visits

section Meets

variable {program : Program Call Reply ε α}

/-- Every run that returns a value satisfies `ok`, and every run that stops with an
error satisfies `bad`. -/
def Program.Meets (env : Environment Call Reply World) :
    Program Call Reply ε α → (α → World → Prop) → (ε → World → Prop) → World → Prop
  | .done (.ok value), ok, _, world => ok value world
  | .done (.error error), _, bad, world => bad error world
  | .call request next, ok, bad, world =>
    ∀ reply after, env request world reply after → (next reply).Meets env ok bad after

variable {ok : α → World → Prop} {bad : ε → World → Prop}

lemma meets_pure {value : α} (h : ok value world) :
    (pure value : Program Call Reply ε α).Meets env ok bad world := h

lemma meets_fail {error : ε} (h : bad error world) :
    (fail error : Program Call Reply ε α).Meets env ok bad world := h

lemma meets_request {c : Call} {ok : Reply c → World → Prop}
    (h : ∀ reply after, env c world reply after → ok reply after) :
    (request c : Program Call Reply ε (Reply c)).Meets env ok bad world := h

lemma meets_bind {program : Program Call Reply ε β} {next : β → Program Call Reply ε α}
    (h : program.Meets env (fun value after => (next value).Meets env ok bad after) bad world) :
    (program >>= next).Meets env ok bad world := by
  change (program.bind next).Meets env ok bad world
  induction program generalizing world with
  | done result =>
    cases result with
    | ok value => exact h
    | error error => exact h
  | call request continuation ih =>
    intro reply after henv
    exact ih reply (h reply after henv)

lemma meets_attempt {ok : Except ε α → World → Prop}
    (h : program.Meets env (fun value => ok (.ok value)) (fun error => ok (.error error)) world) :
    program.attempt.Meets env ok bad world := by
  induction program generalizing world with
  | done result =>
    cases result with
    | ok value => exact h
    | error error => exact h
  | call request continuation ih =>
    intro reply after henv
    exact ih reply (h reply after henv)

lemma Program.Meets.mono {ok' : α → World → Prop} {bad' : ε → World → Prop}
    (h : program.Meets env ok bad world) (hok : ∀ value after, ok value after → ok' value after)
    (hbad : ∀ error after, bad error after → bad' error after) :
    program.Meets env ok' bad' world := by
  induction program generalizing world with
  | done result =>
    cases result with
    | ok value => exact hok value world h
    | error error => exact hbad error world h
  | call request next ih =>
    intro reply after henv
    exact ih reply (h reply after henv)

lemma Program.Meets.finishes (h : program.Meets env ok bad world) {result : Except ε α}
    {after : World} (hrun : program.Finishes env world result after) :
    (∀ value, result = .ok value → ok value after) ∧
      ∀ error, result = .error error → bad error after := by
  induction program generalizing world with
  | done result' =>
    obtain ⟨rfl, rfl⟩ := hrun
    constructor
    · rintro value rfl
      exact h
    · rintro error rfl
      exact h
  | call request next ih =>
    obtain ⟨reply, middle, henv, hrun⟩ := hrun
    exact ih reply (h reply middle henv) hrun

/-- A run against a function that an environment over other worlds allows: where the
worlds are related before, they are after, and what the program meets holds. -/
lemma Program.Meets.run_related {World' : Type} {exec : (c : Call) → World' → Reply c × World'}
    {related : World' → World → Prop} (hexec : ∀ c concrete abstract, related concrete abstract →
      ∃ after, env c abstract (exec c concrete).1 after ∧ related (exec c concrete).2 after)
    (h : program.Meets env ok bad world) {concrete : World'} (hrelated : related concrete world) :
    ∃ after, related (program.run exec concrete).2 after ∧
      (∀ value, (program.run exec concrete).1 = .ok value → ok value after) ∧
      ∀ error, (program.run exec concrete).1 = .error error → bad error after := by
  induction program generalizing world concrete with
  | done result =>
    refine ⟨world, hrelated, ?_, ?_⟩
    · rintro value rfl
      exact h
    · rintro error rfl
      exact h
  | call request next ih =>
    obtain ⟨after, henv, hafter⟩ := hexec request concrete world hrelated
    exact ih _ (h _ after henv) hafter

end Meets

section Issues

variable {program : Program Call Reply ε α}

/-- As long as the replies are among `answers`, the program makes only calls in `q`, and
what it returns satisfies `returns`. -/
def Program.Issues (q : Call → Prop) (answers : (c : Call) → Reply c → Prop) :
    Program Call Reply ε α → (α → Prop) → Prop
  | .done (.ok value), returns => returns value
  | .done (.error _), _ => True
  | .call request next, returns =>
    q request ∧ ∀ reply, answers request reply → (next reply).Issues q answers returns

variable {q : Call → Prop} {answers : (c : Call) → Reply c → Prop} {returns : α → Prop}

lemma issues_request {c : Call} {returns : Reply c → Prop} (hcall : q c)
    (h : ∀ reply, answers c reply → returns reply) :
    (request c : Program Call Reply ε (Reply c)).Issues q answers returns := ⟨hcall, h⟩

lemma issues_bind {program : Program Call Reply ε β} {next : β → Program Call Reply ε α}
    (h : program.Issues q answers fun value => (next value).Issues q answers returns) :
    (program >>= next).Issues q answers returns := by
  change (program.bind next).Issues q answers returns
  induction program with
  | done result =>
    cases result with
    | ok value => exact h
    | error error => trivial
  | call request continuation ih =>
    exact ⟨h.1, fun reply hreply => ih reply (h.2 reply hreply)⟩

lemma issues_attempt {returns : Except ε α → Prop}
    (h : program.Issues q answers fun value => returns (.ok value))
    (herror : ∀ error, returns (.error error)) : program.attempt.Issues q answers returns := by
  induction program with
  | done result =>
    cases result with
    | ok value => exact h
    | error error => exact herror error
  | call request continuation ih =>
    exact ⟨h.1, fun reply hreply => ih reply (h.2 reply hreply)⟩

lemma Program.Issues.mono {returns' : α → Prop} (h : program.Issues q answers returns)
    (himp : ∀ value, returns value → returns' value) : program.Issues q answers returns' := by
  induction program with
  | done result =>
    cases result with
    | ok value => exact himp value h
    | error error => trivial
  | call request continuation ih =>
    exact ⟨h.1, fun reply hreply => ih reply (h.2 reply hreply)⟩

/-- Fewer calls are made than are allowed, on whatever replies. -/
lemma Program.Issues.weaken {q' : Call → Prop} {answers' : (c : Call) → Reply c → Prop}
    (h : program.Issues q answers returns) (hcalls : ∀ c, q c → q' c)
    (hanswers : ∀ c reply, answers' c reply → answers c reply) :
    program.Issues q' answers' returns := by
  induction program with
  | done result =>
    cases result with
    | ok value => exact h
    | error error => trivial
  | call request continuation ih =>
    exact ⟨hcalls request h.1, fun reply hreply => ih reply (h.2 reply (hanswers _ _ hreply))⟩

/-- What the calls a program makes preserve, its runs preserve. -/
lemma Program.Issues.meets {inv : World → Prop} (h : program.Issues q answers returns)
    (hcall : ∀ c world reply after, q c → inv world → env c world reply after →
      answers c reply ∧ inv after) (hinv : inv world) :
    program.Meets env (fun value after => returns value ∧ inv after) (fun _ after => inv after)
      world := by
  induction program generalizing world with
  | done result =>
    cases result with
    | ok value => exact ⟨h, hinv⟩
    | error error => exact hinv
  | call request continuation ih =>
    intro reply after henv
    obtain ⟨hreply, hafter⟩ := hcall request world reply after h.1 hinv henv
    exact ih reply (h.2 reply hreply) hafter

end Issues

end CallProgram
