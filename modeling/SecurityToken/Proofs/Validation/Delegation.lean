import Mathlib.Logic.Function.Iterate
import SecurityToken.Proofs.Validation.Memory

/-!
# An actor's token is validated like any other

A token with an actor is accepted when the token is accepted by itself and the actor's token is
accepted by itself, under the demands on actors, by a handler that goes one level less deep. The
depth at which a validation runs shows only in the limit that a fault prints where tokens lie too
deep. So each level down a chain of actors puts one wrapper around the fault that the last of them
fails with alone, and changes nothing else.
-/

namespace SecurityToken

variable {σ ρ α β : Type}

/-- A handler that differs in nothing but how deep tokens may lie. -/
def Handler.withMaximumDepth (handler : Handler σ) (limit : Nat) : Handler σ :=
  { handler with settings := { handler.settings with maximumNestingDepth := limit } }

/-- The same demands on a token, and none on its actor. -/
def Policy.withoutActors (policy : Policy ρ) : Policy ρ :=
  { policy with validateActor := false }

/-! ### Faults that differ in a limit -/

/-- Faults that are equal but for the limit that is printed where tokens lie too deep, be it in the
fault or in one behind it. -/
inductive Fault.SameButLimit (settings settings' : Settings) : Fault → Fault → Prop where
  | same (fault : Fault) : SameButLimit settings settings' fault fault
  | tooDeep (context : Table String) :
      SameButLimit settings settings' { settings.tooDeep with context }
        { settings'.tooDeep with context }
  | behind (outer : Fault) {inner inner' : Fault}
      (hinner : SameButLimit settings settings' inner inner') :
      SameButLimit settings settings' (outer.wrapping inner) (outer.wrapping inner')

namespace Fault.SameButLimit

variable {settings settings' : Settings} {fault fault' : Fault}

theorem kind_eq (hfaults : SameButLimit settings settings' fault fault') :
    fault.kind = fault'.kind := by
  cases hfaults with
  | same _ => rfl
  | tooDeep _ => rfl
  | behind _ _ => rfl

theorem withContext (hfaults : SameButLimit settings settings' fault fault') (key value : String) :
    SameButLimit settings settings' (fault.withContext key value)
      (fault'.withContext key value) := by
  cases hfaults with
  | same fault => exact .same _
  | tooDeep context => exact .tooDeep (context.insert key value)
  | behind outer hinner => exact .behind (outer.withContext key value) hinner

theorem ofActor (hfaults : SameButLimit settings settings' fault fault') :
    SameButLimit settings settings' fault.ofActor fault'.ofActor := by
  unfold Fault.ofActor
  rw [hfaults.kind_eq]
  exact .behind _ hfaults

end Fault.SameButLimit

theorem Fault.kind_iterate_ofActor (depth : Nat) (fault : Fault) :
    (Fault.ofActor^[depth] fault).kind = fault.kind := by
  induction depth generalizing fault with
  | zero => rfl
  | succ depth ih => exact ih fault.ofActor

inductive AnswersButLimit (settings settings' : Settings) :
    Except Fault α → Except Fault α → Prop where
  | accepted (value : α) : AnswersButLimit settings settings' (.ok value) (.ok value)
  | refused {fault fault' : Fault} (hfaults : Fault.SameButLimit settings settings' fault fault') :
      AnswersButLimit settings settings' (.error fault) (.error fault')

/-- Related sessions give the same answer, but for the limit in a fault, and lead to related sessions
again. -/
def Run.AgreeButLimit (settings settings' : Settings) (same : Session σ ρ → Session σ ρ → Prop)
    (left right : Run σ ρ α) : Prop :=
  ∀ ⦃before before'⦄, same before before' →
    AnswersButLimit settings settings' (left.outcome before).1 (right.outcome before').1 ∧
      same (left.outcome before).2 (right.outcome before').2

namespace Run.AgreeButLimit

variable {settings settings' : Settings} {same : Session σ ρ → Session σ ρ → Prop}
  {left right : Run σ ρ α}

theorem ofAgree (hrun : Run.Agree same left right) :
    Run.AgreeButLimit settings settings' same left right := by
  intro before before' hsame
  obtain ⟨hanswer, hafter⟩ := hrun hsame
  refine ⟨?_, hafter⟩
  rw [hanswer]
  cases (right.outcome before').1 with
  | error fault => exact .refused (.same fault)
  | ok value => exact .accepted value

theorem throw {fault fault' : Fault} (hfaults : Fault.SameButLimit settings settings' fault fault') :
    Run.AgreeButLimit settings settings' same (MonadExcept.throw fault : Run σ ρ α)
      (MonadExcept.throw fault') :=
  fun _ _ hsame => ⟨.refused hfaults, hsame⟩

theorem bind {next next' : α → Run σ ρ β}
    (hfirst : Run.AgreeButLimit settings settings' same left right)
    (hnext : ∀ value, Run.AgreeButLimit settings settings' same (next value) (next' value)) :
    Run.AgreeButLimit settings settings' same (left >>= next) (right >>= next') := by
  intro before before' hsame
  obtain ⟨hanswer, hafter⟩ := hfirst hsame
  rw [outcome_bind, outcome_bind]
  generalize left.outcome before = outcome at hanswer hafter ⊢
  generalize right.outcome before' = outcome' at hanswer hafter ⊢
  obtain ⟨answer, middle⟩ := outcome
  obtain ⟨answer', middle'⟩ := outcome'
  cases hanswer with
  | accepted value => exact hnext value hafter
  | refused hfaults => exact ⟨.refused hfaults, hafter⟩

theorem ite {condition : Prop} [Decidable condition] {leftElse rightElse : Run σ ρ α}
    (hthen : Run.AgreeButLimit settings settings' same left right)
    (helse : Run.AgreeButLimit settings settings' same leftElse rightElse) :
    Run.AgreeButLimit settings settings' same (if condition then left else leftElse)
      (if condition then right else rightElse) := by
  by_cases hcondition : condition
  · rw [if_pos hcondition, if_pos hcondition]
    exact hthen
  · rw [if_neg hcondition, if_neg hcondition]
    exact helse

theorem adapting {change : Fault → Fault}
    (hchange : ∀ {fault fault'}, Fault.SameButLimit settings settings' fault fault' →
      Fault.SameButLimit settings settings' (change fault) (change fault'))
    (hrun : Run.AgreeButLimit settings settings' same left right) :
    Run.AgreeButLimit settings settings' same (Run.adapting change left)
      (Run.adapting change right) := by
  intro before before' hsame
  obtain ⟨hanswer, hafter⟩ := hrun hsame
  rw [outcome_adapting, outcome_adapting]
  refine ⟨?_, hafter⟩
  generalize (left.outcome before).1 = answer at hanswer ⊢
  generalize (right.outcome before').1 = answer' at hanswer ⊢
  cases hanswer with
  | accepted value => exact .accepted value
  | refused hfaults => exact .refused (hchange hfaults)

theorem atStage (stage : String) (hrun : Run.AgreeButLimit settings settings' same left right) :
    Run.AgreeButLimit settings settings' same (Run.atStage stage left) (Run.atStage stage right) :=
  hrun.adapting fun hfaults => hfaults.withContext _ _

end Run.AgreeButLimit

/-! ### A validation under another limit -/

namespace Handler

section Limit

variable (handler : Handler σ) (policy : Policy ρ) (limit : Nat)

theorem openWith_withMaximumDepth (algorithm : String) (cipher : ContentCipher)
    (content : SealedContent) (associated : Bytes) (keys : List Key) (tried : Nat) :
    ((handler.withMaximumDepth limit).openWith algorithm cipher content associated tried keys :
      Run σ ρ Bytes) = handler.openWith algorithm cipher content associated tried keys := by
  induction keys generalizing tried with
  | nil => rfl
  | cons key rest ih =>
      rw [openWith, openWith]
      simp only [ih]
      rfl

theorem verifyWith_withMaximumDepth (algorithm : String) (token : Token) (keys : List Key)
    (tried : Nat) :
    ((handler.withMaximumDepth limit).verifyWith algorithm token tried keys : Run σ ρ Key) =
      handler.verifyWith algorithm token tried keys := by
  induction keys generalizing tried with
  | nil => rfl
  | cons key rest ih =>
      rw [verifyWith, verifyWith]
      simp only [ih]
      rfl

theorem payload_withMaximumDepth (token : Token) :
    (handler.withMaximumDepth limit).payload policy token = handler.payload policy token := by
  unfold payload plaintext
  simp only [openWith_withMaximumDepth]
  rfl

theorem assess_withMaximumDepth (token : Token) :
    (handler.withMaximumDepth limit).assess policy token = handler.assess policy token := by
  unfold assess verify verifySigned
  simp only [verifyWith_withMaximumDepth]

theorem decrypt_withoutActors (remaining : Nat) (token : Token) :
    handler.decrypt policy.withoutActors remaining token =
      handler.decrypt policy remaining token := by
  induction remaining generalizing token with
  | zero =>
      rw [decrypt, decrypt]
      rfl
  | succ remaining ih =>
      rw [decrypt, decrypt]
      simp only [ih]
      rfl

theorem validateAlone_withoutActors (remaining : Nat) (raw : String) :
    handler.validateAlone policy.withoutActors remaining raw =
      handler.validateAlone policy remaining raw := by
  unfold validateAlone openToken
  simp only [decrypt_withoutActors]
  rfl

/-- Without actors a validation is that of the token alone. -/
theorem outcome_validate_withoutActors (raw : String) (before : Session σ ρ) :
    (handler.validate policy.withoutActors raw).outcome before =
      (handler.validateAlone policy handler.settings.maximumNestingDepth raw).outcome before := by
  rw [validate, outcome_validateWithin_of_not_validateActor rfl, validateAlone_withoutActors]

end Limit

section Agreement

variable {same : Session σ ρ → Session σ ρ → Prop} {known : Key → Prop} {handler : Handler σ}
  (hsuite : CryptoSuite.Agree same handler.suite handler.suite known)
  (hrecord : Session.SharesRecord same) {policy : Policy ρ} (limit : Nat)

include hsuite

/-- By induction on the layers that remain. The limit is printed where none does. -/
theorem decrypt_butLimit (hpolicy : policy.OffersOnly known) (remaining : Nat) (token : Token) :
    Run.AgreeButLimit (handler.withMaximumDepth limit).settings handler.settings same
      ((handler.withMaximumDepth limit).decrypt policy remaining token)
      (handler.decrypt policy remaining token) := by
  induction remaining generalizing token with
  | zero =>
      rw [decrypt, decrypt, payload_withMaximumDepth]
      apply Run.AgreeButLimit.bind (.ofAgree (payload_agree hsuite hpolicy token))
      intro payload
      apply Run.AgreeButLimit.ite
      · cases Decryption.claims? payload with
        | none => exact .ofAgree (Run.Agree.throw _)
        | some claims => exact .ofAgree (Run.Agree.pure _)
      · exact .throw (.tooDeep ∅)
  | succ remaining ih =>
      rw [decrypt, decrypt, payload_withMaximumDepth]
      apply Run.AgreeButLimit.bind (.ofAgree (payload_agree hsuite hpolicy token))
      intro payload
      apply Run.AgreeButLimit.ite
      · cases Decryption.claims? payload with
        | none => exact .ofAgree (Run.Agree.throw _)
        | some claims => exact .ofAgree (Run.Agree.pure _)
      · apply Run.AgreeButLimit.bind (.ofAgree (parse_agree hsuite payload))
        intro nested
        apply Run.AgreeButLimit.ite
        · apply Run.AgreeButLimit.bind (ih nested)
          intro opened
          exact .ofAgree (Run.Agree.pure _)
        · exact .ofAgree (Run.Agree.pure _)

theorem openToken_butLimit (hpolicy : policy.OffersOnly known) (remaining : Nat) (raw : String) :
    Run.AgreeButLimit (handler.withMaximumDepth limit).settings handler.settings same
      ((handler.withMaximumDepth limit).openToken policy remaining raw)
      (handler.openToken policy remaining raw) := by
  apply Run.AgreeButLimit.bind (.ofAgree (Run.Agree.atStage _ (Run.Agree.lift _)))
  intro _
  apply Run.AgreeButLimit.bind
    (.ofAgree (Run.Agree.atStage _ (Run.Agree.adapting _ (parse_agree hsuite raw))))
  intro token
  exact .ite (.atStage _ (decrypt_butLimit hsuite limit hpolicy remaining token))
    (.ofAgree (Run.Agree.pure _))

include hrecord

theorem validateAlone_butLimit (hpolicy : policy.OffersOnly known) (remaining : Nat)
    (raw : String) :
    Run.AgreeButLimit (handler.withMaximumDepth limit).settings handler.settings same
      ((handler.withMaximumDepth limit).validateAlone policy remaining raw)
      (handler.validateAlone policy remaining raw) := by
  rw [validateAlone_eq_examine, validateAlone_eq_examine, examine_eq_assess, examine_eq_assess]
  apply Run.AgreeButLimit.bind
  · apply Run.AgreeButLimit.bind (openToken_butLimit hsuite limit hpolicy remaining raw)
    intro opened
    rw [assess_withMaximumDepth]
    exact .ofAgree (assess_agree hsuite hpolicy opened.innermost)
  intro examined
  apply Run.AgreeButLimit.bind
    (.ofAgree (Run.Agree.atStage _
      (Validation.checkReplay_agree hrecord hsuite.note raw examined.expires)))
  intro _
  exact .ofAgree (Run.Agree.pure _)

/-- By induction on the levels that remain, with the policy for the actors of each. -/
theorem validateWithin_butLimit (hpolicy : policy.AlwaysOffersOnly known) (remaining : Nat)
    (raw : String) :
    Run.AgreeButLimit (handler.withMaximumDepth limit).settings handler.settings same
      ((handler.withMaximumDepth limit).validateWithin policy remaining raw)
      (handler.validateWithin policy remaining raw) := by
  induction remaining generalizing policy raw with
  | zero =>
      rw [validateWithin_eq_attend, validateWithin_eq_attend]
      apply Run.AgreeButLimit.bind
        (validateAlone_butLimit hsuite hrecord limit hpolicy.offersOnly 0 raw)
      intro own
      unfold attend
      cases own.token.claims.actorToken? with
      | none => exact .ofAgree (Run.Agree.pure _)
      | some actorRaw =>
          exact .ite (.throw (Fault.SameButLimit.tooDeep ∅).ofActor) (.ofAgree (Run.Agree.pure _))
  | succ remaining ih =>
      rw [validateWithin_eq_attend, validateWithin_eq_attend]
      apply Run.AgreeButLimit.bind
        (validateAlone_butLimit hsuite hrecord limit hpolicy.offersOnly _ raw)
      intro own
      unfold attend
      cases own.token.claims.actorToken? with
      | none => exact .ofAgree (Run.Agree.pure _)
      | some actorRaw =>
          apply Run.AgreeButLimit.ite _ (.ofAgree (Run.Agree.pure _))
          apply Run.AgreeButLimit.bind (.ofAgree (Run.Agree.note _ (hsuite.note _)))
          intro _
          apply Run.AgreeButLimit.bind
            (.adapting Fault.SameButLimit.ofActor (ih hpolicy.actorPolicy actorRaw))
          intro actor
          exact .ofAgree (Run.Agree.pure _)

end Agreement

/-! ### A token and its actor's token, each by itself -/

end Handler

/-- What the identity that a token has of its own and the answer for its actor's token make
together. -/
def Identity.delegating (own : Identity) : Except Fault Identity → Except Fault Identity
  | .ok actor => .ok { own with actor := some actor }
  | .error fault => .error fault.ofActor

namespace Handler

/-- A chain of tokens, each that of the actor of the one before, so many levels long. Each but the
last is accepted by itself, by a handler that goes as many levels less deep as it lies deep. Each of
these validations starts from a session like that which the one before has left. -/
inductive Delegates (handler : Handler σ) (alike : σ → σ → Prop) (limit : Nat) :
    Nat → Policy ρ → String → Session σ ρ → Policy ρ → String → Session σ ρ → Prop where
  | here (policy : Policy ρ) (raw : String) (start : Session σ ρ) :
      Delegates handler alike limit 0 policy raw start policy raw start
  | actor {depth : Nat} {policy last : Policy ρ} {raw actorRaw lastRaw : String}
      {start after next final : Session σ ρ} {own : Identity} (hactor : policy.validateActor = true)
      (halone : ((handler.withMaximumDepth (limit + depth + 1)).validate policy.withoutActors
        raw).outcome start = (.ok own, after))
      (htoken : own.token.claims.actorToken? = some actorRaw)
      (hnext : Session.Likened alike Eq next after)
      (hrest : Delegates handler alike limit depth policy.actorPolicy actorRaw next last lastRaw
        final) :
      Delegates handler alike limit (depth + 1) policy raw start last lastRaw final

section Composition

variable {handler : Handler σ} {policy : Policy ρ} {raw actorRaw : String} {limit : Nat}
  {before middle alone rested start : Session σ ρ} {own : Identity}

theorem outcome_validateWithin_of_validateAlone
    (halone : (handler.validateAlone policy (limit + 1) raw).outcome before = (.ok own, middle))
    (hactor : policy.validateActor = true)
    (htoken : own.token.claims.actorToken? = some actorRaw) :
    ((handler.validateWithin policy (limit + 1) raw).outcome before).1 =
      own.delegating ((handler.validateWithin policy.actorPolicy limit actorRaw).outcome
        (middle.noting (.enterActor actorRaw))).1 := by
  rw [validateWithin, Run.outcome_bind, halone]
  simp only [htoken, if_pos hactor, Run.outcome_bind, Run.outcome_note, Run.outcome_adapting]
  rcases (handler.validateWithin policy.actorPolicy limit actorRaw).outcome
    (middle.noting (.enterActor actorRaw)) with ⟨fault | actor, after⟩
  · rfl
  · rfl

variable {alike : σ → σ → Prop} {known : Key → Prop}
  (hsuite : handler.suite.Respects alike known)

include hsuite

/-- What a handler under another limit accepts by itself, the handler accepts by itself. -/
theorem outcome_validateAlone_of_withoutActors (hpolicy : policy.OffersOnly known)
    (hsame : Session.Likened alike Eq alone before)
    (halone : ((handler.withMaximumDepth limit).validate policy.withoutActors raw).outcome alone =
      (.ok own, rested)) :
    ∃ middle, (handler.validateAlone policy limit raw).outcome before = (.ok own, middle) ∧
      Session.Likened alike Eq rested middle := by
  rw [outcome_validate_withoutActors] at halone
  obtain ⟨hanswer, hafter⟩ := validateAlone_butLimit (hsuite.agree Eq)
    (Session.sharesRecord_likened alike) limit hpolicy limit raw hsame
  change ((handler.withMaximumDepth limit).validateAlone policy limit raw).outcome alone = _
    at halone
  rw [halone] at hanswer hafter
  rcases hrun : (handler.validateAlone policy limit raw).outcome before with ⟨answer, middle⟩
  rw [hrun] at hanswer hafter
  cases hanswer with
  | accepted _ => exact ⟨middle, rfl, hafter⟩

/-- A handler fails with what it fails with under another limit, but for that limit. -/
theorem answer_validateWithin_of_error (hpolicy : policy.AlwaysOffersOnly known)
    (hsame : Session.Likened alike Eq alone before) {fault : Fault}
    (halone : (((handler.withMaximumDepth limit).validate policy raw).outcome alone).1 =
      .error fault) :
    ∃ nested, Fault.SameButLimit (handler.withMaximumDepth limit).settings handler.settings fault
        nested ∧
      ((handler.validateWithin policy limit raw).outcome before).1 = .error nested := by
  have hanswers := (validateWithin_butLimit (hsuite.agree Eq) (Session.sharesRecord_likened alike)
    limit hpolicy limit raw hsame).1
  change (((handler.withMaximumDepth limit).validateWithin policy limit raw).outcome alone).1 = _
    at halone
  rw [halone] at hanswers
  generalize ((handler.validateWithin policy limit raw).outcome before).1 = answer at hanswers ⊢
  cases hanswers with
  | refused hfaults => exact ⟨_, hfaults, rfl⟩

theorem answer_validateWithin_of_ok (hpolicy : policy.AlwaysOffersOnly known)
    (hsame : Session.Likened alike Eq alone before) {identity : Identity}
    (halone : (((handler.withMaximumDepth limit).validate policy raw).outcome alone).1 =
      .ok identity) :
    ((handler.validateWithin policy limit raw).outcome before).1 = .ok identity := by
  have hanswers := (validateWithin_butLimit (hsuite.agree Eq) (Session.sharesRecord_likened alike)
    limit hpolicy limit raw hsame).1
  change (((handler.withMaximumDepth limit).validateWithin policy limit raw).outcome alone).1 = _
    at halone
  rw [halone] at hanswers
  generalize ((handler.validateWithin policy limit raw).outcome before).1 = answer at hanswers ⊢
  cases hanswers with
  | accepted _ => rfl

/-- At the end of a chain the validation of its first token is at its last one, in a session like
that in which the last one is validated by itself. By induction on the chain: each level puts one
wrapper around a fault. -/
theorem Delegates.reaches {depth : Nat} {last : Policy ρ} {lastRaw : String}
    {final : Session σ ρ}
    (hchain : handler.Delegates alike limit depth policy raw alone last lastRaw final)
    (hpolicy : policy.AlwaysOffersOnly known) (hsame : Session.Likened alike Eq alone before) :
    last.AlwaysOffersOnly known ∧ ∃ middle, Session.Likened alike Eq final middle ∧
      ∀ fault, ((handler.validateWithin last limit lastRaw).outcome middle).1 = .error fault →
        ((handler.validateWithin policy (limit + depth) raw).outcome before).1 =
          .error (Fault.ofActor^[depth] fault) := by
  induction hchain generalizing before with
  | here policy raw start => exact ⟨hpolicy, before, hsame, fun fault hfault => hfault⟩
  | actor hactor halone htoken hnext hrest ih =>
      rename_i depth policy last raw actorRaw lastRaw start after next final own
      obtain ⟨middle, hown, hafter⟩ :=
        outcome_validateAlone_of_withoutActors hsuite hpolicy.offersOnly hsame halone
      have hentered : Session.Likened alike Eq next (middle.noting (.enterActor actorRaw)) :=
        (hnext.trans hsuite hafter).notingRight _
      obtain ⟨hlast, arrived, hfinal, hfaults⟩ := ih hpolicy.actorPolicy hentered
      refine ⟨hlast, arrived, hfinal, fun fault hfault => ?_⟩
      rw [← Nat.add_assoc, outcome_validateWithin_of_validateAlone hown hactor htoken,
        hfaults fault hfault, Function.iterate_succ_apply']
      rfl

/-- What a token is rejected for by itself it is rejected for with its actor. -/
theorem answer_validate_of_withoutActors (hpolicy : policy.OffersOnly known)
    (hsame : Session.Likened alike Eq alone before) {fault : Fault}
    (halone : ((handler.validate policy.withoutActors raw).outcome alone).1 = .error fault) :
    ((handler.validate policy raw).outcome before).1 = .error fault := by
  have hagree : CryptoSuite.Agree (Session.Likened alike (@Eq ρ)) handler.suite handler.suite
      known :=
    hsuite.agree Eq
  have hanswer := (validateAlone_agree hagree hpolicy
    (Validation.checkReplay_agree (Session.sharesRecord_likened alike) hagree.note raw)
    handler.settings.maximumNestingDepth).answer_eq hsame
  rw [outcome_validate_withoutActors] at halone
  rw [halone] at hanswer
  rw [validate, validateWithin, Run.outcome_bind]
  rcases hrun : (handler.validateAlone policy handler.settings.maximumNestingDepth raw).outcome
    before with ⟨answer, after⟩
  have heq : Except.error fault = answer := hanswer.trans (congrArg Prod.fst hrun)
  subst heq
  rfl

/-- The validation of a token with its actor is that of the token by itself and that of the actor's
token by itself, under a limit that is one less. -/
theorem validate_delegated (hpolicy : policy.AlwaysOffersOnly known)
    (hactor : policy.validateActor = true)
    (hlimit : handler.settings.maximumNestingDepth = limit + 1)
    (hsame : Session.Likened alike Eq alone before) (raw : String) :
    (∀ fault, ((handler.validate policy.withoutActors raw).outcome alone).1 = .error fault →
      ((handler.validate policy raw).outcome before).1 = .error fault) ∧
    (∀ own rested actorRaw start,
      (handler.validate policy.withoutActors raw).outcome alone = (.ok own, rested) →
      own.token.claims.actorToken? = some actorRaw → Session.Likened alike Eq start rested →
      (∀ identity, ((handler.validate policy raw).outcome before).1 = .ok identity ↔
        ∃ actor, (((handler.withMaximumDepth limit).validate policy.actorPolicy actorRaw).outcome
          start).1 = .ok actor ∧ identity = { own with actor := some actor }) ∧
      ∀ fault, (((handler.withMaximumDepth limit).validate policy.actorPolicy actorRaw).outcome
          start).1 = .error fault →
        ∃ nested,
          Fault.SameButLimit (handler.withMaximumDepth limit).settings handler.settings fault
            nested ∧
          ((handler.validate policy raw).outcome before).1 = .error nested.ofActor ∧
          nested.ofActor.kind = fault.kind ∧
          nested.ofActor.context.get? Detail.stage = some "actor" ∧
          nested.ofActor.nested = some nested) ∧
    ∀ depth rest last lastRaw final fault, handler.settings.maximumNestingDepth = rest + depth →
      handler.Delegates alike rest depth policy raw alone last lastRaw final →
      (((handler.withMaximumDepth rest).validate last lastRaw).outcome final).1 = .error fault →
      ∃ nested,
        Fault.SameButLimit (handler.withMaximumDepth rest).settings handler.settings fault nested ∧
        ((handler.validate policy raw).outcome before).1 = .error (Fault.ofActor^[depth] nested) ∧
        ∀ level, (Fault.ofActor^[level] nested).kind = fault.kind := by
  refine ⟨fun fault halone => ?_, ?_, ?_⟩
  · exact answer_validate_of_withoutActors hsuite hpolicy.offersOnly hsame halone
  · intro own rested actorRaw start halone htoken hstart
    have hstandalone : ((handler.withMaximumDepth handler.settings.maximumNestingDepth).validate
        policy.withoutActors raw).outcome alone = (.ok own, rested) := halone
    obtain ⟨middle, hown, hrested⟩ :=
      outcome_validateAlone_of_withoutActors hsuite hpolicy.offersOnly hsame hstandalone
    have hentered : Session.Likened alike Eq start (middle.noting (.enterActor actorRaw)) :=
      (hstart.trans hsuite hrested).notingRight _
    have hanswer : ((handler.validate policy raw).outcome before).1 =
        own.delegating ((handler.validateWithin policy.actorPolicy limit actorRaw).outcome
          (middle.noting (.enterActor actorRaw))).1 := by
      rw [hlimit] at hown
      rw [validate, hlimit]
      exact outcome_validateWithin_of_validateAlone hown hactor htoken
    rw [hanswer]
    refine ⟨fun identity => ?_, fun fault hfault => ?_⟩
    · cases halone' : (((handler.withMaximumDepth limit).validate policy.actorPolicy
          actorRaw).outcome start).1 with
      | error fault =>
          obtain ⟨nested, _, hnested⟩ :=
            answer_validateWithin_of_error hsuite hpolicy.actorPolicy hentered halone'
          rw [hnested]
          simp [Identity.delegating]
      | ok actor =>
          rw [answer_validateWithin_of_ok hsuite hpolicy.actorPolicy hentered halone']
          simp [Identity.delegating, eq_comm]
    · obtain ⟨nested, hfaults, hnested⟩ :=
        answer_validateWithin_of_error hsuite hpolicy.actorPolicy hentered hfault
      rw [hnested]
      exact ⟨nested, hfaults, rfl, hfaults.kind_eq.symm, Fault.stage_ofActor nested, rfl⟩
  · intro depth rest last lastRaw final fault hdepth hchain hfault
    obtain ⟨hlast, middle, hfinal, hfaults⟩ := hchain.reaches hsuite hpolicy hsame
    obtain ⟨nested, hnested, hrun⟩ := answer_validateWithin_of_error hsuite hlast hfinal hfault
    refine ⟨nested, hnested, ?_, fun level => ?_⟩
    · rw [validate, hdepth]
      exact hfaults nested hrun
    · rw [Fault.kind_iterate_ofActor, hnested.kind_eq]

end Composition

/-! ### A token with an actor whose actor's token is malformed -/

def delegatingHandler : Handler SchemeCache := { suite := .caching fun _ => true }

def delegatingPolicy : Policy Unit :=
  { Policy.lenient Instant.earliest with validateActor := true }

def delegatingText : String :=
  "eyJhbGciOiJub25lIn0.eyJhY3RvcnQiOiJleUpoYkdjaU9pSnViMjVsSW4wLmV5SmhZM1J2Y25RaU9pSjRJbjAuIn0."

def delegatingSession : Session SchemeCache Unit := ⟨∅, (), []⟩

/-- The session that the token leaves by itself. -/
def delegatedSession : Session SchemeCache Unit :=
  ((delegatingHandler.validate delegatingPolicy.withoutActors delegatingText).outcome
    delegatingSession).2

/-- The session that its actor's token leaves by itself after that. -/
def actingSession : Session SchemeCache Unit :=
  (((delegatingHandler.withMaximumDepth 1).validate delegatingPolicy.withoutActors
    actorTextSample).outcome delegatedSession).2

theorem exists_actorToken {answer : Except Fault Identity} {raw : String}
    (hraw : (answer.toOption.bind fun own => own.token.claims.actorToken?) = some raw) :
    ∃ own, answer = .ok own ∧ own.token.claims.actorToken? = some raw := by
  cases answer with
  | error fault => exact nomatch hraw
  | ok own => exact ⟨own, rfl, hraw⟩

set_option maxRecDepth 10000 in
theorem delegates_delegatingText :
    delegatingHandler.Delegates Eq 0 2 delegatingPolicy delegatingText delegatingSession
      delegatingPolicy "x" actingSession := by
  obtain ⟨own, hown, htoken⟩ : ∃ own,
      ((delegatingHandler.validate delegatingPolicy.withoutActors delegatingText).outcome
        delegatingSession).1 = .ok own ∧ own.token.claims.actorToken? = some actorTextSample :=
    exists_actorToken (by decide +kernel)
  obtain ⟨inner, hinner, hactor⟩ : ∃ own,
      (((delegatingHandler.withMaximumDepth 1).validate delegatingPolicy.withoutActors
        actorTextSample).outcome delegatedSession).1 = .ok own ∧
      own.token.claims.actorToken? = some "x" :=
    exists_actorToken (by decide +kernel)
  exact .actor rfl (Prod.ext hown rfl) htoken ⟨rfl, rfl⟩
    (.actor rfl (Prod.ext hinner rfl) hactor ⟨rfl, rfl⟩ (.here _ _ _))

/-- The last of the three texts is no token, so two wrappers stand around its fault. -/
theorem validate_delegated_delegatingText :
    ∃ fault nested,
      (((delegatingHandler.withMaximumDepth 0).validate delegatingPolicy "x").outcome
        actingSession).1 = .error fault ∧
      ((delegatingHandler.validate delegatingPolicy delegatingText).outcome
        delegatingSession).1 = .error (Fault.ofActor^[2] nested) ∧ nested.kind = fault.kind := by
  have hfails : (((delegatingHandler.withMaximumDepth 0).validate delegatingPolicy "x").outcome
      actingSession).1.isOk = false := by
    decide +kernel
  cases hanswer : (((delegatingHandler.withMaximumDepth 0).validate delegatingPolicy "x").outcome
      actingSession).1 with
  | ok identity =>
      rw [hanswer] at hfails
      exact nomatch hfails
  | error fault =>
      have hpolicy : delegatingPolicy.AlwaysOffersOnly fun _ => True :=
        fun depth => Policy.offersOnly_true _
      have hlimit : delegatingHandler.settings.maximumNestingDepth = 1 + 1 := rfl
      have hsame : Session.Likened Eq Eq delegatingSession delegatingSession := ⟨rfl, rfl⟩
      obtain ⟨_, _, hchain⟩ :=
        validate_delegated (CryptoSuite.respects_eq _) hpolicy rfl hlimit hsame delegatingText
      obtain ⟨nested, _, hrun, hkinds⟩ :=
        hchain 2 0 _ _ _ fault rfl delegates_delegatingText hanswer
      exact ⟨fault, nested, rfl, hrun, hkinds 0⟩

end Handler

end SecurityToken
