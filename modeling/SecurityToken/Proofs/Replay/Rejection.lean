import SecurityToken.Crypto.Suite.Cache
import SecurityToken.Proofs.Validation.Record
import SecurityToken.Proofs.Validation.Stages

/-!
# What a failed validation leaves on record

A token goes on record at the last stage of its own, and the token of its actor is validated after
that. So a token that fails at a stage of its own leaves the ledgers as they were. A token whose
actor's token fails stays on record, for it was presented; and in the same way the actor's token has
left what it has.
-/

namespace SecurityToken

variable {σ ρ : Type}

def Policy.actorAt (policy : Policy ρ) : Nat → Policy ρ
  | 0 => policy
  | depth + 1 => policy.actorPolicy.actorAt depth

/-- Whether actors are validated down to a depth. -/
def Policy.AttendsTo (policy : Policy ρ) (depth : Nat) : Prop :=
  ∀ level < depth, (policy.actorAt level).validateActor = true

theorem Policy.attendsTo_zero (policy : Policy ρ) : policy.AttendsTo 0 :=
  fun level hlevel => absurd hlevel level.not_lt_zero

theorem Policy.AttendsTo.succ {policy : Policy ρ} {depth : Nat}
    (hactor : policy.validateActor = true) (hdepth : policy.actorPolicy.AttendsTo depth) :
    policy.AttendsTo (depth + 1) := by
  intro level hlevel
  cases level with
  | zero => exact hactor
  | succ level => exact hdepth level (Nat.lt_of_succ_lt_succ hlevel)

/-- Whether every store of a policy and of its demands on actors is a ledger. -/
def Policy.KeepsLedgers (policy : Policy Ledgers) : Prop :=
  ∀ depth, (policy.actorAt depth).KeepsLedger

theorem Policy.KeepsLedgers.keepsLedger {policy : Policy Ledgers} (hledgers : policy.KeepsLedgers) :
    policy.KeepsLedger :=
  hledgers 0

theorem Policy.KeepsLedgers.actorPolicy {policy : Policy Ledgers} (hledgers : policy.KeepsLedgers) :
    policy.actorPolicy.KeepsLedgers :=
  fun depth => hledgers (depth + 1)

namespace Handler

/-- A token that names an actor's token and passed every stage of its own, that of replay included,
so that it is on record. -/
structure Passed (handler : Handler σ) (policy : Policy Ledgers) (remaining : Nat) (raw : String)
    (before after : Session σ Ledgers) (actorRaw : String) (expires : Option Instant) : Prop where
  accepted : ∃ own, (handler.validateAlone policy remaining raw).outcome before = (.ok own, after) ∧
    own.token.claims.actorToken? = some actorRaw ∧ own.token.claims.expires = .ok expires
  recorded : after.replay = policy.recording raw expires before.replay

/-- How the ledgers stand after a failed validation. -/
inductive Leaves (handler : Handler σ) :
    Policy Ledgers → Nat → String → Session σ Ledgers → Fault → Ledgers → Prop where
  /-- A stage of the token's own fails: nothing has changed. -/
  | own {policy : Policy Ledgers} {remaining : Nat} {raw stage : String}
      {before : Session σ Ledgers} {fault : Fault} (hstage : stage ∈ ownStages)
      (hfault : fault.context.get? Detail.stage = some stage) :
      Leaves handler policy remaining raw before fault before.replay
  /-- The actor's token lies too deep to be looked at: the token is on record. -/
  | tooDeep {policy : Policy Ledgers} {raw actorRaw : String} {before after : Session σ Ledgers}
      {expires : Option Instant} (hactor : policy.validateActor = true)
      (hpassed : handler.Passed policy 0 raw before after actorRaw expires) :
      Leaves handler policy 0 raw before handler.settings.tooDeep.ofActor after.replay
  /-- The actor's token fails: it leaves what it leaves when the token is on record. -/
  | actor {policy : Policy Ledgers} {remaining : Nat} {raw actorRaw : String}
      {before middle : Session σ Ledgers} {expires : Option Instant} {inner : Fault}
      {ledgers : Ledgers} (hactor : policy.validateActor = true)
      (hpassed : handler.Passed policy (remaining + 1) raw before middle actorRaw expires)
      (hinner : Leaves handler policy.actorPolicy remaining actorRaw
        (middle.noting (.enterActor actorRaw)) inner ledgers) :
      Leaves handler policy (remaining + 1) raw before inner.ofActor ledgers

variable {handler : Handler σ} {policy : Policy Ledgers} {raw actorRaw : String} {remaining : Nat}
  {before after : Session σ Ledgers} {fault : Fault} {identity : Identity}

theorem Leaves.eq_of_stage_ne {ledgers : Ledgers}
    (hleaves : handler.Leaves policy remaining raw before fault ledgers)
    (hstage : fault.context.get? Detail.stage ≠ some "actor") : ledgers = before.replay := by
  cases hleaves with
  | own _ _ => rfl
  | tooDeep _ _ => exact absurd (Fault.stage_ofActor _) hstage
  | actor _ _ _ => exact absurd (Fault.stage_ofActor _) hstage

theorem validateAlone_leaves (hledger : policy.KeepsLedger)
    (hrun : (handler.validateAlone policy remaining raw).outcome before = (.error fault, after)) :
    handler.Leaves policy remaining raw before fault after.replay := by
  obtain ⟨stage, hstage, hfault⟩ := validateAlone_fails hrun
  have hreplay : after.replay = before.replay := by
    rcases validateAlone_eq_error hrun with
      ⟨_, hexamine⟩ | ⟨examined, middle, _, hexamine, hreplay⟩
    · exact examine_keeps_replay before.replay hexamine rfl
    · rw [(Validation.checkReplay_eq_error hledger hreplay).2]
      exact examine_keeps_replay before.replay hexamine rfl
  rw [hreplay]
  exact .own hstage hfault

/-- A token that passed the stages of its own is on record. -/
theorem validateAlone_passed (hledger : policy.KeepsLedger)
    (hrun : (handler.validateAlone policy remaining raw).outcome before = (.ok identity, after))
    (htoken : identity.token.claims.actorToken? = some actorRaw) :
    ∃ expires, handler.Passed policy remaining raw before after actorRaw expires := by
  obtain ⟨examined, middle, hexamine, hreplay, hidentity⟩ := validateAlone_eq_ok hrun
  obtain ⟨_, _, _, _, _, _, _, _, _, hlifetime⟩ := examine_eq_ok hexamine
  have hexpires : identity.token.claims.expires = .ok examined.expires := by
    rw [hidentity]
    exact (Validation.checkLifetime_eq_ok hlifetime).1
  have hmiddle : middle.replay = before.replay :=
    examine_keeps_replay before.replay hexamine rfl
  have hledgers := (Validation.checkReplay_eq_ok hledger hreplay).2
  rw [hmiddle] at hledgers
  exact ⟨examined.expires, ⟨identity, hrun, htoken, hexpires⟩, hledgers⟩

/-- By induction on the levels that remain: the actor's token is validated one level down, in the
session that the token's own stages have left. -/
theorem validateWithin_leaves (hledgers : policy.KeepsLedgers)
    (hrun : (handler.validateWithin policy remaining raw).outcome before = (.error fault, after)) :
    handler.Leaves policy remaining raw before fault after.replay := by
  induction remaining generalizing policy raw before fault after with
  | zero =>
      have hcourse := validateWithin_course handler policy 0 raw before
      rw [hrun] at hcourse
      cases hcourse with
      | rejected halone => exact validateAlone_leaves hledgers.keepsLedger halone
      | tooDeep halone hactor htoken =>
          obtain ⟨expires, hpassed⟩ := validateAlone_passed hledgers.keepsLedger halone htoken
          exact .tooDeep hactor hpassed
  | succ remaining ih =>
      have hcourse := validateWithin_course handler policy (remaining + 1) raw before
      rw [hrun] at hcourse
      cases hcourse with
      | rejected halone => exact validateAlone_leaves hledgers.keepsLedger halone
      | actorRejected halone hactor htoken hinner =>
          obtain ⟨expires, hpassed⟩ := validateAlone_passed hledgers.keepsLedger halone htoken
          exact .actor hactor hpassed (ih hledgers.actorPolicy hinner)

/-- A failed validation leaves the ledgers as they were, unless it is the actor's token that failed.
Then the token itself stays on record, and so do the tokens between it and the one that failed; that
one leaves nothing. -/
theorem validate_leaves (hledgers : policy.KeepsLedgers)
    (hrun : (handler.validate policy raw).outcome before = (.error fault, after)) :
    (fault.context.get? Detail.stage ≠ some "actor" → after.replay = before.replay) ∧
      handler.Leaves policy handler.settings.maximumNestingDepth raw before fault after.replay :=
  ⟨(validateWithin_leaves hledgers hrun).eq_of_stage_ne, validateWithin_leaves hledgers hrun⟩

/-! ### A token with a malformed actor's token -/

def actorPolicySample : Policy Ledgers :=
  { Policy.lenient Instant.earliest with
    validateActor := true
    detectReplay := true
    replayStore := some (.ofLedger "seen") }

def actorHandlerSample : Handler SchemeCache := { suite := .caching fun _ => true }

def actorTextSample : String := "eyJhbGciOiJub25lIn0.eyJhY3RvcnQiOiJ4In0."

theorem keepsLedgers_actorPolicySample : actorPolicySample.KeepsLedgers := by
  have hsame : ∀ depth, actorPolicySample.actorAt depth = actorPolicySample := by
    intro depth
    induction depth with
    | zero => rfl
    | succ depth ih => exact ih
  intro depth store hstore
  rw [hsame depth] at hstore
  obtain rfl := Option.some.inj hstore
  exact ⟨"seen", rfl⟩

/-- The validation fails, and one ledger is there that was not. -/
theorem outcome_actorTextSample :
    ∃ fault after, (actorHandlerSample.validate actorPolicySample actorTextSample).outcome
      ⟨∅, ∅, []⟩ = (.error fault, after) ∧ after.replay.size = 1 := by
  have hfails : ((actorHandlerSample.validate actorPolicySample actorTextSample).outcome
      ⟨∅, ∅, []⟩).1.isOk = false := by
    decide +kernel
  have hsize : ((actorHandlerSample.validate actorPolicySample actorTextSample).outcome
      ⟨∅, ∅, []⟩).2.replay.size = 1 := by
    decide +kernel
  rcases hrun : (actorHandlerSample.validate actorPolicySample actorTextSample).outcome
    ⟨∅, ∅, []⟩ with ⟨fault | identity, after⟩
  · rw [hrun] at hsize
    exact ⟨fault, after, rfl, hsize⟩
  · rw [hrun] at hfails
    exact nomatch hfails

theorem validate_leaves_actorTextSample :
    ∃ fault after, (actorHandlerSample.validate actorPolicySample actorTextSample).outcome
      ⟨∅, ∅, []⟩ = (.error fault, after) ∧
      actorHandlerSample.Leaves actorPolicySample
        actorHandlerSample.settings.maximumNestingDepth actorTextSample ⟨∅, ∅, []⟩ fault
        after.replay := by
  obtain ⟨fault, after, hrun, _⟩ := outcome_actorTextSample
  exact ⟨fault, after, hrun, (validate_leaves keepsLedgers_actorPolicySample hrun).2⟩

theorem not_forall_failed_unchanged :
    ¬∀ (handler : Handler SchemeCache) (policy : Policy Ledgers) (raw : String)
        (before after : Session SchemeCache Ledgers) (fault : Fault), policy.KeepsLedgers →
      (handler.validate policy raw).outcome before = (.error fault, after) →
      after.replay = before.replay := by
  intro hunchanged
  obtain ⟨fault, after, hrun, hsize⟩ := outcome_actorTextSample
  have hreplay := hunchanged _ _ _ _ _ _ keepsLedgers_actorPolicySample hrun
  rw [hreplay] at hsize
  exact nomatch hsize

end Handler

end SecurityToken
