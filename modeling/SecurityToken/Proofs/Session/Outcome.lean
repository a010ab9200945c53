import SecurityToken.Session

/-!
# What a run comes to

A run takes a session to an answer and a session. The equations below say what each step of a run
does to both, so that a proof about a run goes from step to step and never opens the monad. The
answer of an action that fails is final: what follows it leaves no mark.
-/

namespace SecurityToken

variable {σ ρ α β : Type}

namespace Session

def noting (session : Session σ ρ) (call : Call) : Session σ ρ :=
  { session with calls := session.calls ++ [call] }

def withSuite (session : Session σ ρ) (suite : σ) : Session σ ρ :=
  { session with suite }

def withReplay (session : Session σ ρ) (replay : ρ) : Session σ ρ :=
  { session with replay }

end Session

namespace Run

/-- The answer of a run and the session that it leaves. -/
def outcome (run : Run σ ρ α) (session : Session σ ρ) : Except Fault α × Session σ ρ :=
  StateT.run (ExceptT.run run) session

@[simp]
theorem outcome_pure (value : α) (session : Session σ ρ) :
    outcome (pure value) session = (.ok value, session) := rfl

@[simp]
theorem outcome_throw (fault : Fault) (session : Session σ ρ) :
    outcome (throw fault : Run σ ρ α) session = (.error fault, session) := rfl

@[simp]
theorem outcome_lift (answer : Except Fault α) (session : Session σ ρ) :
    outcome (liftM answer : Run σ ρ α) session = (answer, session) := rfl

@[simp]
theorem outcome_note (call : Call) (session : Session σ ρ) :
    outcome (note call) session = (.ok (), session.noting call) := rfl

@[simp]
theorem outcome_ask (call : Call) (request : StateM σ α) (session : Session σ ρ) :
    outcome (ask call request) session =
      (.ok (request.run session.suite).1,
        (session.withSuite (request.run session.suite).2).noting call) := rfl

@[simp]
theorem outcome_claim (store : ReplayStore ρ) (digest : String) (expires now : Instant)
    (session : Session σ ρ) :
    outcome (claim store digest expires now) session =
      (.ok ((store.claim digest expires now).run session.replay).1,
        (session.withReplay ((store.claim digest expires now).run session.replay).2).noting
          (.claimReplay store.name digest expires now)) := rfl

@[simp]
theorem outcome_adapting (change : Fault → Fault) (run : Run σ ρ α) (session : Session σ ρ) :
    outcome (adapting change run) session =
      ((outcome run session).1.mapError change, (outcome run session).2) := rfl

theorem outcome_bind (run : Run σ ρ α) (next : α → Run σ ρ β) (session : Session σ ρ) :
    outcome (run >>= next) session =
      match outcome run session with
      | (.ok value, after) => outcome (next value) after
      | (.error fault, after) => (.error fault, after) := by
  rcases hrun : outcome run session with ⟨_ | _, after⟩
  all_goals
    simp only [outcome, ExceptT.run_bind, StateT.run_bind] at hrun ⊢
    rw [hrun]
    rfl

theorem outcome_bind_eq_ok {run : Run σ ρ α} {next : α → Run σ ρ β} {before after : Session σ ρ}
    {result : β} :
    outcome (run >>= next) before = (.ok result, after) ↔
      ∃ value middle, outcome run before = (.ok value, middle) ∧
        outcome (next value) middle = (.ok result, after) := by
  rw [outcome_bind]
  rcases outcome run before with ⟨fault | value, middle⟩
  · simp
  · simp only [Prod.mk.injEq, Except.ok.injEq, and_assoc, exists_and_left, exists_eq_left']

theorem outcome_bind_eq_error {run : Run σ ρ α} {next : α → Run σ ρ β}
    {before after : Session σ ρ} {fault : Fault} :
    outcome (run >>= next) before = (.error fault, after) ↔
      outcome run before = (.error fault, after) ∨
        ∃ value middle, outcome run before = (.ok value, middle) ∧
          outcome (next value) middle = (.error fault, after) := by
  rw [outcome_bind]
  rcases outcome run before with ⟨fault' | value, middle⟩
  · simp
  · simp only [Prod.mk.injEq, reduceCtorEq, false_and, false_or, Except.ok.injEq, and_assoc,
      exists_and_left, exists_eq_left']

/-- Two runs answer alike if their first parts do, and what comes next does after any value. -/
theorem answer_bind_eq {run run' : Run σ ρ α} {next next' : α → Run σ ρ β}
    {before before' : Session σ ρ} (hanswer : (run.outcome before).1 = (run'.outcome before').1)
    (hnext : ∀ value, ((next value).outcome (run.outcome before).2).1 =
      ((next' value).outcome (run'.outcome before').2).1) :
    ((run >>= next).outcome before).1 = ((run' >>= next').outcome before').1 := by
  rw [outcome_bind, outcome_bind]
  rcases hrun : run.outcome before with ⟨answer, middle⟩
  rcases hrun' : run'.outcome before' with ⟨answer', middle'⟩
  rw [hrun, hrun'] at hanswer hnext
  obtain rfl : answer = answer' := hanswer
  cases answer with
  | error fault => rfl
  | ok value => exact hnext value

theorem outcome_adapting_eq_ok {change : Fault → Fault} {run : Run σ ρ α}
    {before after : Session σ ρ} {value : α} :
    outcome (adapting change run) before = (.ok value, after) ↔
      outcome run before = (.ok value, after) := by
  rw [outcome_adapting]
  rcases outcome run before with ⟨fault | value', middle⟩
  · constructor
    · intro h
      exact nomatch (Prod.mk.inj h).1
    · intro h
      exact nomatch (Prod.mk.inj h).1
  · exact Iff.rfl

theorem outcome_adapting_eq_error {change : Fault → Fault} {run : Run σ ρ α}
    {before after : Session σ ρ} {fault : Fault} :
    outcome (adapting change run) before = (.error fault, after) ↔
      ∃ inner, outcome run before = (.error inner, after) ∧ change inner = fault := by
  rw [outcome_adapting]
  rcases outcome run before with ⟨inner | value, middle⟩
  · constructor
    · intro h
      obtain ⟨hfault, rfl⟩ := Prod.mk.inj h
      exact ⟨inner, rfl, Except.error.inj hfault⟩
    · rintro ⟨_, h, rfl⟩
      obtain ⟨hfault, rfl⟩ := Prod.mk.inj h
      obtain rfl := Except.error.inj hfault
      rfl
  · constructor
    · intro h
      exact nomatch (Prod.mk.inj h).1
    · rintro ⟨_, h, _⟩
      exact nomatch (Prod.mk.inj h).1

end Run

end SecurityToken
