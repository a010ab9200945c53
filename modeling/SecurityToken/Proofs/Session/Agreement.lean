import SecurityToken.Proofs.Session.Outcome

/-!
# Runs that agree

Two runs agree along a relation of sessions when related sessions give the same answer and lead to
related sessions again. One notion serves two ends. Along "the one suite remembers what the other
builds" it says that a memory shows in no answer. Along "both are one session in which a property
holds" it says that a run keeps the property.
-/

namespace SecurityToken

variable {σ τ ρ α β : Type}

/-- Related sessions give the same answer and lead to related sessions. -/
def Run.Agree (same : Session σ ρ → Session τ ρ → Prop) (left : Run σ ρ α) (right : Run τ ρ α) :
    Prop :=
  ∀ ⦃before before'⦄, same before before' →
    (left.outcome before).1 = (right.outcome before').1 ∧
      same (left.outcome before).2 (right.outcome before').2

def Requests.Agree (same : Session σ ρ → Session τ ρ → Prop) (left : StateM σ α)
    (right : StateM τ α) : Prop :=
  ∀ ⦃before before'⦄, same before before' →
    (left.run before.suite).1 = (right.run before'.suite).1 ∧
      same (before.withSuite (left.run before.suite).2)
        (before'.withSuite (right.run before'.suite).2)

/-- Suites that give the same answers for certain keys, along a relation that no call on record
breaks. -/
structure CryptoSuite.Agree (same : Session σ ρ → Session τ ρ → Prop) (left : CryptoSuite σ)
    (right : CryptoSuite τ) (known : Key → Prop) : Prop where
  note : ∀ {before before'} (call : Call), same before before' →
    same (before.noting call) (before'.noting call)
  signature : ∀ {key : Key} (name : String) (forSigning : Bool), known key →
    Requests.Agree same (left.signature key name forSigning) (right.signature key name forSigning)
  keyManagement : ∀ {key : Key} (name : String), known key →
    Requests.Agree same (left.keyManagement key name) (right.keyManagement key name)
  content : ∀ name : String, Requests.Agree same (left.content name) (right.content name)

namespace Run.Agree

variable {same : Session σ ρ → Session τ ρ → Prop}

theorem answer_eq {left : Run σ ρ α} {right : Run τ ρ α} (hrun : Run.Agree same left right)
    {before : Session σ ρ} {before' : Session τ ρ} (hsame : same before before') :
    (left.outcome before).1 = (right.outcome before').1 :=
  (hrun hsame).1

theorem pure (value : α) : Run.Agree same (Pure.pure value) (Pure.pure value) :=
  fun _ _ hsame => ⟨rfl, hsame⟩

theorem throw (fault : Fault) :
    Run.Agree same (MonadExcept.throw fault : Run σ ρ α) (MonadExcept.throw fault) :=
  fun _ _ hsame => ⟨rfl, hsame⟩

theorem lift (answer : Except Fault α) :
    Run.Agree same (liftM answer : Run σ ρ α) (liftM answer) :=
  fun _ _ hsame => ⟨rfl, hsame⟩

theorem bind {left : Run σ ρ α} {right : Run τ ρ α} {next : α → Run σ ρ β}
    {next' : α → Run τ ρ β} (hfirst : Run.Agree same left right)
    (hnext : ∀ value, Run.Agree same (next value) (next' value)) :
    Run.Agree same (left >>= next) (right >>= next') := by
  intro before before' hsame
  obtain ⟨hanswer, hafter⟩ := hfirst hsame
  rw [outcome_bind, outcome_bind]
  rcases hleft : left.outcome before with ⟨answer, middle⟩
  rcases hright : right.outcome before' with ⟨answer', middle'⟩
  rw [hleft, hright] at hanswer hafter
  simp only at hanswer hafter
  subst hanswer
  cases answer with
  | error fault => exact ⟨rfl, hafter⟩
  | ok value => exact hnext value hafter

theorem ite {condition : Prop} [Decidable condition] {left leftElse : Run σ ρ α}
    {right rightElse : Run τ ρ α} (hthen : Run.Agree same left right)
    (helse : Run.Agree same leftElse rightElse) :
    Run.Agree same (if condition then left else leftElse)
      (if condition then right else rightElse) := by
  by_cases hcondition : condition
  · rw [if_pos hcondition, if_pos hcondition]
    exact hthen
  · rw [if_neg hcondition, if_neg hcondition]
    exact helse

theorem adapting {left : Run σ ρ α} {right : Run τ ρ α} (change : Fault → Fault)
    (hrun : Run.Agree same left right) :
    Run.Agree same (Run.adapting change left) (Run.adapting change right) := by
  intro before before' hsame
  obtain ⟨hanswer, hafter⟩ := hrun hsame
  rw [outcome_adapting, outcome_adapting]
  exact ⟨by rw [hanswer], hafter⟩

theorem atStage {left : Run σ ρ α} {right : Run τ ρ α} (stage : String)
    (hrun : Run.Agree same left right) :
    Run.Agree same (Run.atStage stage left) (Run.atStage stage right) :=
  hrun.adapting _

theorem note (call : Call)
    (hnote : ∀ {before before'}, same before before' →
      same (before.noting call) (before'.noting call)) :
    Run.Agree same (Run.note call) (Run.note call) :=
  fun _ _ hsame => ⟨rfl, hnote hsame⟩

theorem ask {left : StateM σ α} {right : StateM τ α} (call : Call)
    (hnote : ∀ {before before'}, same before before' →
      same (before.noting call) (before'.noting call))
    (hrequest : Requests.Agree same left right) :
    Run.Agree same (Run.ask call left) (Run.ask call right) := by
  intro before before' hsame
  obtain ⟨hanswer, hafter⟩ := hrequest hsame
  rw [outcome_ask, outcome_ask]
  exact ⟨congrArg _ hanswer, hnote hafter⟩

end Run.Agree

def Session.Alike (holds : Session σ ρ → Prop) (left right : Session σ ρ) : Prop :=
  left = right ∧ holds left

def Run.Keeps (holds : Session σ ρ → Prop) (run : Run σ ρ α) : Prop :=
  ∀ ⦃before answer after⦄, run.outcome before = (answer, after) → holds before → holds after

theorem Run.Agree.keeps {holds : Session σ ρ → Prop} {run : Run σ ρ α}
    (hrun : Run.Agree (Session.Alike holds) run run) : Run.Keeps holds run := by
  intro before answer after houtcome hbefore
  have hafter : holds (run.outcome before).2 := (hrun ⟨rfl, hbefore⟩).2.2
  rwa [houtcome] at hafter

theorem CryptoSuite.agree_self {holds : Session σ ρ → Prop} (suite : CryptoSuite σ)
    (known : Key → Prop)
    (hnote : ∀ {session} (call : Call), holds session → holds (session.noting call))
    (hsignature : ∀ {session key} (name : String) (forSigning : Bool), known key → holds session →
      holds (session.withSuite ((suite.signature key name forSigning).run session.suite).2))
    (hkey : ∀ {session key} (name : String), known key → holds session →
      holds (session.withSuite ((suite.keyManagement key name).run session.suite).2))
    (hcontent : ∀ {session} (name : String), holds session →
      holds (session.withSuite ((suite.content name).run session.suite).2)) :
    CryptoSuite.Agree (Session.Alike holds) suite suite known where
  note call := by
    rintro ⟨rfl, hholds⟩
    exact ⟨rfl, hnote call hholds⟩
  signature name forSigning hknown := by
    rintro before _ ⟨rfl, hholds⟩
    exact ⟨rfl, rfl, hsignature name forSigning hknown hholds⟩
  keyManagement name hknown := by
    rintro before _ ⟨rfl, hholds⟩
    exact ⟨rfl, rfl, hkey name hknown hholds⟩
  content name := by
    rintro before _ ⟨rfl, hholds⟩
    exact ⟨rfl, rfl, hcontent name hholds⟩

end SecurityToken
