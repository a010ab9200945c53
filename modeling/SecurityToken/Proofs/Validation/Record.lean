import SecurityToken.Proofs.Validation.Lifetime

/-!
# Putting a token on record

The stage of replay over ledgers. It fails when the token is on record and then leaves the ledgers
as they were; otherwise the token is on record afterwards, up to the last instant at which its
lifetime could be accepted.
-/

namespace SecurityToken

variable {σ : Type} {policy : Policy Ledgers} {raw name : String} {expires notBefore : Option Instant}
  {before after : Session σ Ledgers}

namespace Policy

def KeepsLedger (policy : Policy Ledgers) : Prop :=
  ∀ store, policy.replayStore = some store → ∃ name, store = .ofLedger name

/-- The ledgers after a policy has had a token put on record, if it has. -/
def recording (policy : Policy Ledgers) (raw : String) (expires : Option Instant)
    (ledgers : Ledgers) : Ledgers :=
  if policy.detectReplay then
    match policy.replayStore with
    | some store =>
        ledgers.recording store.name (ReplayLedger.digest raw) (policy.recordUntil expires)
    | none => ledgers
  else ledgers

theorem recording_off (hoff : policy.detectReplay = false ∨ policy.replayStore = none)
    (ledgers : Ledgers) : policy.recording raw expires ledgers = ledgers := by
  unfold Policy.recording
  rcases hoff with hdetect | hstore
  · rw [hdetect]
    rfl
  · rw [hstore]
    split <;> rfl

theorem recording_on (hdetect : policy.detectReplay = true)
    (hstore : policy.replayStore = some (.ofLedger name)) (ledgers : Ledgers) :
    policy.recording raw expires ledgers =
      ledgers.recording name (ReplayLedger.digest raw) (policy.recordUntil expires) := by
  unfold Policy.recording
  rw [if_pos hdetect, hstore]
  rfl

/-- A policy asks no store for anything, or it has one that it asks. -/
theorem asks_or_off {ρ : Type} (policy : Policy ρ) :
    (policy.detectReplay = false ∨ policy.replayStore = none) ∨
      policy.detectReplay = true ∧ ∃ store, policy.replayStore = some store := by
  cases policy.detectReplay with
  | false => exact .inl (.inl rfl)
  | true =>
      cases policy.replayStore with
      | none => exact .inl (.inr rfl)
      | some store => exact .inr ⟨rfl, store, rfl⟩

theorem KeepsLedger.cases (hledger : policy.KeepsLedger) :
    (policy.detectReplay = false ∨ policy.replayStore = none) ∨
      policy.detectReplay = true ∧ ∃ name, policy.replayStore = some (.ofLedger name) := by
  rcases policy.asks_or_off with hoff | ⟨hdetect, store, hstore⟩
  · exact .inl hoff
  · obtain ⟨name, rfl⟩ := hledger store hstore
    exact .inr ⟨hdetect, name, hstore⟩

theorem now_le_recordUntil (hdefect : policy.lifetimeDefect? notBefore expires = none) :
    policy.now ≤ policy.recordUntil expires := by
  cases expires with
  | none => exact Instant.le_latest policy.now
  | some stop => exact (lifetimeDefect?_eq_none_iff.1 hdefect).2.2.2 stop rfl

end Policy

namespace Validation

theorem outcome_checkReplay_off {ρ : Type} {policy : Policy ρ} {before : Session σ ρ}
    (hoff : policy.detectReplay = false ∨ policy.replayStore = none) :
    (checkReplay policy raw expires).outcome before = (.ok (), before) := by
  unfold checkReplay
  rcases hoff with hdetect | hstore
  · rw [hdetect]
    rfl
  · rw [hstore]
    split <;> rfl

theorem outcome_checkReplay_store {ρ : Type} {policy : Policy ρ} {store : ReplayStore ρ}
    {before : Session σ ρ} (hdetect : policy.detectReplay = true)
    (hstore : policy.replayStore = some store) :
    (checkReplay policy raw expires).outcome before =
      (if ((store.claim (ReplayLedger.digest raw) (policy.recordUntil expires) policy.now).run
          before.replay).1 then .error (.new .tokenReplayed "token was already presented")
        else .ok (),
        (before.withReplay ((store.claim (ReplayLedger.digest raw) (policy.recordUntil expires)
          policy.now).run before.replay).2).noting (.claimReplay store.name
            (ReplayLedger.digest raw) (policy.recordUntil expires) policy.now)) := by
  unfold checkReplay
  rw [if_pos hdetect, hstore]
  simp only [Run.outcome_bind, Run.outcome_claim]
  split
  · rfl
  · rfl

theorem outcome_checkReplay (hdetect : policy.detectReplay = true)
    (hstore : policy.replayStore = some (.ofLedger name)) :
    (checkReplay policy raw expires).outcome before =
      if (before.replay.ledger name).holds (ReplayLedger.digest raw) policy.now then
        (.error (.new .tokenReplayed "token was already presented"), before.noting
          (.claimReplay name (ReplayLedger.digest raw) (policy.recordUntil expires) policy.now))
      else
        (.ok (), (before.withReplay (before.replay.recording name (ReplayLedger.digest raw)
          (policy.recordUntil expires))).noting
          (.claimReplay name (ReplayLedger.digest raw) (policy.recordUntil expires)
            policy.now)) := by
  rw [outcome_checkReplay_store hdetect hstore, Ledgers.run_claim]
  split
  · rfl
  · rfl

theorem checkReplay_eq_ok (hledger : policy.KeepsLedger)
    (hrun : (checkReplay policy raw expires).outcome before = (.ok (), after)) :
    after.suite = before.suite ∧ after.replay = policy.recording raw expires before.replay := by
  rcases hledger.cases with hoff | ⟨hdetect, name, hstore⟩
  · rw [outcome_checkReplay_off hoff] at hrun
    obtain rfl := (Prod.mk.inj hrun).2
    exact ⟨rfl, (Policy.recording_off hoff _).symm⟩
  · rw [outcome_checkReplay hdetect hstore] at hrun
    split at hrun
    · exact nomatch (Prod.mk.inj hrun).1
    · obtain rfl := (Prod.mk.inj hrun).2
      exact ⟨rfl, (Policy.recording_on hdetect hstore _).symm⟩

theorem checkReplay_eq_error (hledger : policy.KeepsLedger) {fault : Fault}
    (hrun : (checkReplay policy raw expires).outcome before = (.error fault, after)) :
    after.suite = before.suite ∧ after.replay = before.replay := by
  rcases hledger.cases with hoff | ⟨hdetect, name, hstore⟩
  · rw [outcome_checkReplay_off hoff] at hrun
    exact nomatch (Prod.mk.inj hrun).1
  · rw [outcome_checkReplay hdetect hstore] at hrun
    split at hrun
    · obtain rfl := (Prod.mk.inj hrun).2
      exact ⟨rfl, rfl⟩
    · exact nomatch (Prod.mk.inj hrun).1

theorem checkReplay_free (hdetect : policy.detectReplay = true)
    (hstore : policy.replayStore = some (.ofLedger name))
    (hrun : (checkReplay policy raw expires).outcome before = (.ok (), after)) :
    (before.replay.ledger name).holds (ReplayLedger.digest raw) policy.now = false := by
  rw [outcome_checkReplay hdetect hstore] at hrun
  split at hrun
  · exact nomatch (Prod.mk.inj hrun).1
  next hfree => exact Bool.not_eq_true _ ▸ hfree

theorem checkLifetime_eq_ok {ρ : Type} {policy : Policy ρ} {before after : Session σ ρ}
    {token : Token}
    (hrun : (checkLifetime policy token).outcome before = (.ok expires, after)) :
    token.claims.expires = .ok expires ∧
      (policy.validateLifetime = true → policy.lifetimeValidator = none →
        ∃ notBefore, policy.lifetimeDefect? notBefore expires = none) := by
  unfold checkLifetime at hrun
  obtain ⟨notBefore, _, _, hrun⟩ := Run.outcome_bind_eq_ok.1 hrun
  obtain ⟨stop, _, hstop, hrun⟩ := Run.outcome_bind_eq_ok.1 hrun
  have hread : token.claims.expires = .ok stop := (Prod.mk.inj hstop).1
  by_cases hlifetime : policy.validateLifetime = true
  · rw [if_pos hlifetime] at hrun
    cases hvalidator : policy.lifetimeValidator with
    | none =>
        rw [hvalidator] at hrun
        obtain ⟨_, _, haccept, hrun⟩ := Run.outcome_bind_eq_ok.1 hrun
        obtain rfl := Except.ok.inj (Prod.mk.inj hrun).1
        have haccept : policy.acceptLifetime notBefore stop = .ok () := (Prod.mk.inj haccept).1
        unfold Policy.acceptLifetime at haccept
        split at haccept
        · exact nomatch haccept
        next hdefect => exact ⟨hread, fun _ _ => ⟨notBefore, hdefect⟩⟩
    | some validate =>
        rw [hvalidator] at hrun
        obtain ⟨_, _, _, hrun⟩ := Run.outcome_bind_eq_ok.1 hrun
        obtain ⟨accepted, _, _, hrun⟩ := Run.outcome_bind_eq_ok.1 hrun
        refine ⟨?_, fun _ hnone => nomatch hnone⟩
        cases accepted with
        | false => exact nomatch (Prod.mk.inj hrun).1
        | true =>
            obtain rfl := Except.ok.inj (Prod.mk.inj hrun).1
            exact hread
  · rw [if_neg hlifetime] at hrun
    obtain rfl := Except.ok.inj (Prod.mk.inj hrun).1
    exact ⟨hread, fun h => absurd h hlifetime⟩

end Validation

end SecurityToken
