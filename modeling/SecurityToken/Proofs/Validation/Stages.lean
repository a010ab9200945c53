import SecurityToken.Proofs.Validation.Agreement

/-!
# The stages of a validation, one after another

What an accepted token went through, what a rejected one failed at, and what each stage leaves
alone. The record of presented tokens changes at the stage of replay and nowhere before it, and a
stage that fails puts its name on the fault.
-/

namespace SecurityToken

variable {σ ρ α β : Type}

theorem CryptoSuite.agree_replay (suite : CryptoSuite σ) (replay : ρ) :
    CryptoSuite.Agree (Session.Alike fun session : Session σ ρ => session.replay = replay) suite
      suite fun _ => True :=
  suite.agree_self _ (fun _ hreplay => hreplay) (fun _ _ _ hreplay => hreplay)
    (fun _ _ hreplay => hreplay) (fun _ hreplay => hreplay)

/-- The stages of a token's own, in order. -/
def ownStages : List String :=
  ["size", "parse", "decrypt", "signature", "issuer", "audience", "lifetime", "replay"]

def Run.FailsAt (stages : List String) (run : Run σ ρ α) : Prop :=
  ∀ ⦃before fault after⦄, run.outcome before = (.error fault, after) →
    ∃ stage ∈ stages, fault.context.get? Detail.stage = some stage

namespace Run.FailsAt

variable {stages : List String}

theorem pure {value : α} : Run.FailsAt stages (Pure.pure value : Run σ ρ α) := by
  intro before fault after hrun
  simp at hrun

theorem bind {run : Run σ ρ α} {next : α → Run σ ρ β} (hrun : Run.FailsAt stages run)
    (hnext : ∀ value, Run.FailsAt stages (next value)) : Run.FailsAt stages (run >>= next) := by
  intro before fault after hfails
  rcases Run.outcome_bind_eq_error.1 hfails with hfails | ⟨value, middle, _, hfails⟩
  · exact hrun hfails
  · exact hnext value hfails

theorem ite {condition : Prop} [Decidable condition] {run other : Run σ ρ α}
    (hrun : Run.FailsAt stages run) (hother : Run.FailsAt stages other) :
    Run.FailsAt stages (if condition then run else other) := by
  by_cases hcondition : condition
  · rwa [if_pos hcondition]
  · rwa [if_neg hcondition]

theorem atStage {stage : String} {run : Run σ ρ α} (hstage : stage ∈ stages) :
    Run.FailsAt stages (Run.atStage stage run) := by
  intro before fault after hfails
  obtain ⟨inner, _, rfl⟩ := Run.outcome_adapting_eq_error.1 hfails
  exact ⟨stage, hstage, by simp [Fault.withContext, Table.get?_insert]⟩

end Run.FailsAt

theorem Fault.stage_ofActor (inner : Fault) :
    inner.ofActor.context.get? Detail.stage = some "actor" := by
  change (Table.insert _ Detail.stage "actor").get? Detail.stage = some "actor"
  rw [Table.get?_insert, if_pos rfl]

/-- What a validation knows of a token by the time it is to be put on record. -/
structure Examined where
  verified : Verified
  issuer : String
  expires : Option Instant

namespace Handler

def examine (handler : Handler σ) (policy : Policy ρ) (remaining : Nat) (raw : String) :
    Run σ ρ Examined := do
  let opened ← handler.openToken policy remaining raw
  let verified ← Run.atStage "signature" (handler.verify policy opened.innermost)
  let issuer ← Run.atStage "issuer" (Validation.checkIssuer policy verified.token)
  Run.atStage "audience" (Validation.checkAudience policy verified.token)
  let expires ← Run.atStage "lifetime" (Validation.checkLifetime policy verified.token)
  return ⟨verified, issuer, expires⟩

/-- What is examined of a token once it is open. -/
def assess (handler : Handler σ) (policy : Policy ρ) (token : Token) : Run σ ρ Examined := do
  let verified ← Run.atStage "signature" (handler.verify policy token)
  let issuer ← Run.atStage "issuer" (Validation.checkIssuer policy verified.token)
  Run.atStage "audience" (Validation.checkAudience policy verified.token)
  let expires ← Run.atStage "lifetime" (Validation.checkLifetime policy verified.token)
  return ⟨verified, issuer, expires⟩

theorem examine_eq_assess (handler : Handler σ) (policy : Policy ρ) (remaining : Nat)
    (raw : String) :
    handler.examine policy remaining raw = (do
      let opened ← handler.openToken policy remaining raw
      handler.assess policy opened.innermost) :=
  rfl

def identify (handler : Handler σ) (policy : Policy ρ) (raw : String) (examined : Examined) :
    Identity where
  claims := handler.mapping.extract examined.verified.token.claims examined.issuer
    handler.settings.mapInboundClaims
  issuer := examined.issuer
  bootstrapToken := if policy.keepToken then some raw else none
  actor := none
  signingKey := examined.verified.key
  nameClaimType := handler.settings.nameClaimType
  roleClaimType := handler.settings.roleClaimType
  token := examined.verified.token

/-- What is left to do for a token that has an identity of its own: to validate its actor's. -/
def attend (handler : Handler σ) (policy : Policy ρ) (remaining : Nat) (own : Identity) :
    Run σ ρ Identity :=
  match own.token.claims.actorToken? with
  | none => return own
  | some actorRaw =>
      if policy.validateActor then
        match remaining with
        | 0 => throw handler.settings.tooDeep.ofActor
        | remaining + 1 => do
            Run.note (.enterActor actorRaw)
            let actor ← Run.adapting Fault.ofActor
              (handler.validateWithin policy.actorPolicy remaining actorRaw)
            return { own with actor := some actor }
      else return own

variable {handler : Handler σ} {policy : Policy ρ} {remaining : Nat} {raw : String}
  {before after : Session σ ρ} {identity : Identity} {examined : Examined} {fault : Fault}

theorem validateWithin_eq_attend (handler : Handler σ) (policy : Policy ρ) (remaining : Nat)
    (raw : String) :
    handler.validateWithin policy remaining raw = (do
      let own ← handler.validateAlone policy remaining raw
      handler.attend policy remaining own) := by
  rw [validateWithin]
  rfl

theorem validateAlone_eq_examine (handler : Handler σ) (policy : Policy ρ) (remaining : Nat)
    (raw : String) :
    handler.validateAlone policy remaining raw = (do
      let examined ← handler.examine policy remaining raw
      Run.atStage "replay" (Validation.checkReplay policy raw examined.expires)
      return handler.identify policy raw examined) := by
  simp only [validateAlone, examine, bind_assoc, pure_bind]
  rfl

theorem validateAlone_eq_ok
    (hrun : (handler.validateAlone policy remaining raw).outcome before = (.ok identity, after)) :
    ∃ examined middle,
      (handler.examine policy remaining raw).outcome before = (.ok examined, middle) ∧
      (Validation.checkReplay policy raw examined.expires).outcome middle = (.ok (), after) ∧
      identity = handler.identify policy raw examined := by
  rw [validateAlone_eq_examine] at hrun
  obtain ⟨examined, middle, hexamine, hrun⟩ := Run.outcome_bind_eq_ok.1 hrun
  obtain ⟨_, last, hreplay, hrun⟩ := Run.outcome_bind_eq_ok.1 hrun
  simp only [Run.outcome_pure, Prod.mk.injEq, Except.ok.injEq] at hrun
  obtain ⟨rfl, rfl⟩ := hrun
  exact ⟨examined, middle, hexamine, Run.outcome_adapting_eq_ok.1 hreplay, rfl⟩

theorem validateAlone_of_examine {middle : Session σ ρ}
    (hexamine : (handler.examine policy remaining raw).outcome before = (.ok examined, middle))
    (hreplay : (Validation.checkReplay policy raw examined.expires).outcome middle =
      (.ok (), after)) :
    (handler.validateAlone policy remaining raw).outcome before =
      (.ok (handler.identify policy raw examined), after) := by
  rw [validateAlone_eq_examine]
  exact Run.outcome_bind_eq_ok.2 ⟨examined, middle, hexamine,
    Run.outcome_bind_eq_ok.2 ⟨(), after, Run.outcome_adapting_eq_ok.2 hreplay, rfl⟩⟩

/-- A token that fails at a stage of its own fails before it is put on record, or because it is on
record already. -/
theorem validateAlone_eq_error
    (hrun : (handler.validateAlone policy remaining raw).outcome before = (.error fault, after)) :
    (∃ inner, (handler.examine policy remaining raw).outcome before = (.error inner, after)) ∨
      ∃ examined middle inner,
        (handler.examine policy remaining raw).outcome before = (.ok examined, middle) ∧
        (Validation.checkReplay policy raw examined.expires).outcome middle =
          (.error inner, after) := by
  rw [validateAlone_eq_examine] at hrun
  rcases Run.outcome_bind_eq_error.1 hrun with hexamine | ⟨examined, middle, hexamine, hrun⟩
  · exact .inl ⟨fault, hexamine⟩
  rcases Run.outcome_bind_eq_error.1 hrun with hreplay | ⟨_, last, _, hrun⟩
  · obtain ⟨inner, hinner, _⟩ := Run.outcome_adapting_eq_error.1 hreplay
    exact .inr ⟨examined, middle, inner, hexamine, hinner⟩
  · exact nomatch (Prod.mk.inj hrun).1

theorem examine_eq_ok
    (hrun : (handler.examine policy remaining raw).outcome before = (.ok examined, after)) :
    ∃ opened s₁ s₂ s₃ s₄,
      (handler.openToken policy remaining raw).outcome before = (.ok opened, s₁) ∧
      (handler.verify policy opened.innermost).outcome s₁ = (.ok examined.verified, s₂) ∧
      (Validation.checkIssuer policy examined.verified.token).outcome s₂ =
        (.ok examined.issuer, s₃) ∧
      (Validation.checkAudience policy examined.verified.token).outcome s₃ = (.ok (), s₄) ∧
      (Validation.checkLifetime policy examined.verified.token).outcome s₄ =
        (.ok examined.expires, after) := by
  unfold examine at hrun
  obtain ⟨opened, s₁, hopen, hrun⟩ := Run.outcome_bind_eq_ok.1 hrun
  obtain ⟨verified, s₂, hverify, hrun⟩ := Run.outcome_bind_eq_ok.1 hrun
  obtain ⟨issuer, s₃, hissuer, hrun⟩ := Run.outcome_bind_eq_ok.1 hrun
  obtain ⟨_, s₄, haudience, hrun⟩ := Run.outcome_bind_eq_ok.1 hrun
  obtain ⟨expires, s₅, hlifetime, hrun⟩ := Run.outcome_bind_eq_ok.1 hrun
  simp only [Run.outcome_pure, Prod.mk.injEq, Except.ok.injEq] at hrun
  obtain ⟨rfl, rfl⟩ := hrun
  exact ⟨opened, s₁, s₂, s₃, s₄, hopen, Run.outcome_adapting_eq_ok.1 hverify,
    Run.outcome_adapting_eq_ok.1 hissuer, Run.outcome_adapting_eq_ok.1 haudience,
    Run.outcome_adapting_eq_ok.1 hlifetime⟩

theorem verifySigned_token {token : Token} {verified : Verified}
    (hrun : (handler.verifySigned policy token).outcome before = (.ok verified, after)) :
    verified.token = token := by
  unfold verifySigned at hrun
  obtain ⟨keys, _, _, hrun⟩ := Run.outcome_bind_eq_ok.1 hrun
  split at hrun
  · exact nomatch (Prod.mk.inj hrun).1
  obtain ⟨key, _, _, hrun⟩ := Run.outcome_bind_eq_ok.1 hrun
  obtain ⟨_, _, _, hrun⟩ := Run.outcome_bind_eq_ok.1 hrun
  obtain rfl := Except.ok.inj (Prod.mk.inj hrun).1
  rfl

/-- The handler's own check of a signature hands on the token that it was given. -/
theorem verify_token (hvalidator : policy.signatureValidator = none) {token : Token}
    {verified : Verified}
    (hrun : (handler.verify policy token).outcome before = (.ok verified, after)) :
    verified.token = token := by
  unfold verify at hrun
  rw [hvalidator] at hrun
  simp only at hrun
  split at hrun
  · exact verifySigned_token hrun
  · split at hrun
    · exact nomatch (Prod.mk.inj hrun).1
    · obtain rfl := Except.ok.inj (Prod.mk.inj hrun).1
      rfl

/-! ### What the stages leave alone -/

section Frame

variable {τ : Type} {same : Session σ ρ → Session τ ρ → Prop} {known : Key → Prop}
  {suite : CryptoSuite τ}

theorem assess_agree (hsuite : CryptoSuite.Agree same handler.suite suite known)
    (hpolicy : policy.OffersOnly known) (token : Token) :
    Run.Agree same (handler.assess policy token)
      ((handler.withSuite suite).assess policy token) := by
  apply Run.Agree.bind (Run.Agree.atStage _ (verify_agree hsuite token (hpolicy _ _ _)))
  intro verified
  apply Run.Agree.bind (Run.Agree.atStage _ (Validation.checkIssuer_agree hsuite.note _))
  intro issuer
  apply Run.Agree.bind (Run.Agree.atStage _ (Validation.checkAudience_agree hsuite.note _))
  intro _
  apply Run.Agree.bind (Run.Agree.atStage _ (Validation.checkLifetime_agree hsuite.note _))
  intro expires
  exact Run.Agree.pure _

theorem examine_agree (hsuite : CryptoSuite.Agree same handler.suite suite known)
    (hpolicy : policy.OffersOnly known) (remaining : Nat) (raw : String) :
    Run.Agree same (handler.examine policy remaining raw)
      ((handler.withSuite suite).examine policy remaining raw) := by
  rw [examine_eq_assess, examine_eq_assess]
  apply Run.Agree.bind (openToken_agree hsuite hpolicy remaining raw)
  intro opened
  exact assess_agree hsuite hpolicy opened.innermost

/-- The actor's token is validated one level down, under the policy for actors. -/
theorem attend_agree (hsuite : CryptoSuite.Agree same handler.suite suite known)
    (hactors : policy.validateActor = true → ∀ fewer actorRaw, remaining = fewer + 1 →
      Run.Agree same (handler.validateWithin policy.actorPolicy fewer actorRaw)
        ((handler.withSuite suite).validateWithin policy.actorPolicy fewer actorRaw))
    (own : Identity) :
    Run.Agree same (handler.attend policy remaining own)
      ((handler.withSuite suite).attend policy remaining own) := by
  unfold attend
  cases own.token.claims.actorToken? with
  | none => exact Run.Agree.pure _
  | some actorRaw =>
      by_cases hactor : policy.validateActor = true
      · simp only [if_pos hactor]
        cases remaining with
        | zero => exact Run.Agree.throw _
        | succ fewer =>
            apply Run.Agree.bind (Run.Agree.note _ (hsuite.note _))
            intro _
            apply Run.Agree.bind (Run.Agree.adapting _ (hactors hactor fewer actorRaw rfl))
            intro actor
            exact Run.Agree.pure _
      · simp only [if_neg hactor]
        exact Run.Agree.pure _

theorem examine_keeps_replay (replay : ρ) :
    Run.Keeps (fun session => session.replay = replay) (handler.examine policy remaining raw) :=
  (examine_agree (handler.suite.agree_replay replay) policy.offersOnly_true remaining raw).keeps

end Frame

/-! ### Where a validation fails -/

theorem examine_fails : Run.FailsAt ownStages (handler.examine policy remaining raw) := by
  apply Run.FailsAt.bind
  · apply Run.FailsAt.bind (Run.FailsAt.atStage (by decide))
    intro _
    apply Run.FailsAt.bind (Run.FailsAt.atStage (by decide))
    intro token
    exact Run.FailsAt.ite (Run.FailsAt.atStage (by decide)) Run.FailsAt.pure
  intro opened
  apply Run.FailsAt.bind (Run.FailsAt.atStage (by decide))
  intro verified
  apply Run.FailsAt.bind (Run.FailsAt.atStage (by decide))
  intro issuer
  apply Run.FailsAt.bind (Run.FailsAt.atStage (by decide))
  intro _
  apply Run.FailsAt.bind (Run.FailsAt.atStage (by decide))
  intro expires
  exact Run.FailsAt.pure

theorem validateAlone_fails :
    Run.FailsAt ownStages (handler.validateAlone policy remaining raw) := by
  rw [validateAlone_eq_examine]
  apply Run.FailsAt.bind examine_fails
  intro examined
  apply Run.FailsAt.bind (Run.FailsAt.atStage (by decide))
  intro _
  exact Run.FailsAt.pure

/-! ### The actor -/

/-- The courses that a validation can take. -/
inductive Course (handler : Handler σ) (policy : Policy ρ) (raw : String) (before : Session σ ρ) :
    Nat → Except Fault Identity → Session σ ρ → Prop where
  | rejected {remaining : Nat} {fault : Fault} {after : Session σ ρ}
      (halone : (handler.validateAlone policy remaining raw).outcome before =
        (.error fault, after)) :
      Course handler policy raw before remaining (.error fault) after
  | withoutActor {remaining : Nat} {own : Identity} {after : Session σ ρ}
      (halone : (handler.validateAlone policy remaining raw).outcome before = (.ok own, after))
      (hnone : policy.validateActor = true → own.token.claims.actorToken? = none) :
      Course handler policy raw before remaining (.ok own) after
  | tooDeep {own : Identity} {actorRaw : String} {after : Session σ ρ}
      (halone : (handler.validateAlone policy 0 raw).outcome before = (.ok own, after))
      (hactor : policy.validateActor = true)
      (htoken : own.token.claims.actorToken? = some actorRaw) :
      Course handler policy raw before 0 (.error handler.settings.tooDeep.ofActor) after
  | withActor {remaining : Nat} {own actor : Identity} {actorRaw : String}
      {middle after : Session σ ρ}
      (halone : (handler.validateAlone policy (remaining + 1) raw).outcome before =
        (.ok own, middle))
      (hactor : policy.validateActor = true)
      (htoken : own.token.claims.actorToken? = some actorRaw)
      (hinner : (handler.validateWithin policy.actorPolicy remaining actorRaw).outcome
        (middle.noting (.enterActor actorRaw)) = (.ok actor, after)) :
      Course handler policy raw before (remaining + 1) (.ok { own with actor := some actor }) after
  | actorRejected {remaining : Nat} {own : Identity} {inner : Fault} {actorRaw : String}
      {middle after : Session σ ρ}
      (halone : (handler.validateAlone policy (remaining + 1) raw).outcome before =
        (.ok own, middle))
      (hactor : policy.validateActor = true)
      (htoken : own.token.claims.actorToken? = some actorRaw)
      (hinner : (handler.validateWithin policy.actorPolicy remaining actorRaw).outcome
        (middle.noting (.enterActor actorRaw)) = (.error inner, after)) :
      Course handler policy raw before (remaining + 1) (.error inner.ofActor) after

theorem validateWithin_course (handler : Handler σ) (policy : Policy ρ) (remaining : Nat)
    (raw : String) (before : Session σ ρ) :
    Course handler policy raw before remaining
      ((handler.validateWithin policy remaining raw).outcome before).1
      ((handler.validateWithin policy remaining raw).outcome before).2 := by
  rw [validateWithin, Run.outcome_bind]
  rcases halone : (handler.validateAlone policy remaining raw).outcome before with
    ⟨fault | own, middle⟩
  · exact .rejected halone
  · simp only
    cases htoken : own.token.claims.actorToken? with
    | none => exact .withoutActor halone fun _ => htoken
    | some actorRaw =>
        by_cases hactor : policy.validateActor = true
        · simp only [if_pos hactor]
          cases remaining with
          | zero => exact .tooDeep halone hactor htoken
          | succ remaining =>
              simp only [Run.outcome_bind, Run.outcome_note, Run.outcome_adapting]
              rcases hinner : (handler.validateWithin policy.actorPolicy remaining actorRaw).outcome
                  (middle.noting (.enterActor actorRaw)) with ⟨inner | actor, after⟩
              · exact .actorRejected halone hactor htoken hinner
              · exact .withActor halone hactor htoken hinner
        · simp only [if_neg hactor]
          exact .withoutActor halone fun h => absurd h hactor

/-- An accepted token passed the stages of its own; an actor is all that its identity may gain. -/
theorem validateWithin_eq_ok
    (hrun : (handler.validateWithin policy remaining raw).outcome before = (.ok identity, after)) :
    ∃ own middle, (handler.validateAlone policy remaining raw).outcome before = (.ok own, middle) ∧
      identity = { own with actor := identity.actor } := by
  have hcourse := validateWithin_course handler policy remaining raw before
  rw [hrun] at hcourse
  cases hcourse with
  | withoutActor halone _ =>
      refine ⟨identity, after, halone, ?_⟩
      cases identity
      rfl
  | withActor halone _ _ _ => exact ⟨_, _, halone, rfl⟩

theorem examine_of_openToken_error
    (hopen : (handler.openToken policy remaining raw).outcome before = (.error fault, after)) :
    (handler.examine policy remaining raw).outcome before = (.error fault, after) := by
  unfold examine
  exact Run.outcome_bind_eq_error.2 (.inl hopen)

/-- What fails before the stage of replay fails the validation, with the same fault. -/
theorem validateWithin_of_examine_error
    (hexamine : (handler.examine policy remaining raw).outcome before = (.error fault, after)) :
    (handler.validateWithin policy remaining raw).outcome before = (.error fault, after) := by
  rw [validateWithin, validateAlone_eq_examine]
  exact Run.outcome_bind_eq_error.2 (.inl (Run.outcome_bind_eq_error.2 (.inl hexamine)))

theorem outcome_validateWithin_of_not_validateActor (hactor : policy.validateActor = false) :
    (handler.validateWithin policy remaining raw).outcome before =
      (handler.validateAlone policy remaining raw).outcome before := by
  rw [validateWithin, Run.outcome_bind]
  rcases halone : (handler.validateAlone policy remaining raw).outcome before with
    ⟨fault | own, middle⟩
  · rfl
  · simp only
    cases own.token.claims.actorToken? with
    | none => rfl
    | some actorRaw =>
        simp only [hactor]
        rfl

end Handler

end SecurityToken
