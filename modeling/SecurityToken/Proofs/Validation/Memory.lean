import SecurityToken.Proofs.Replay.Rejection
import SecurityToken.Proofs.Suite.Likeness

/-!
# A whole validation, with a memory of schemes and without

Every stage but that of replay agrees with itself under two suites that agree. The stage of replay
does too where the sessions have the same record of presented tokens, and so does the validation of a
token with all its actors. It follows that a handler whose suite has a faithful memory answers as
one whose suite has none. What is shown of the latter, whose suite has no state, holds of the
former.
-/

namespace SecurityToken

variable {σ τ ρ : Type}

/-- Whether every key that a policy may offer, for a token or for the tokens of its actors, has a
property. -/
def Policy.AlwaysOffersOnly (policy : Policy ρ) (known : Key → Prop) : Prop :=
  ∀ depth, (policy.actorAt depth).OffersOnly known

namespace Policy.AlwaysOffersOnly

variable {policy : Policy ρ} {known : Key → Prop}

theorem offersOnly (hpolicy : policy.AlwaysOffersOnly known) : policy.OffersOnly known :=
  hpolicy 0

theorem actorPolicy (hpolicy : policy.AlwaysOffersOnly known) :
    policy.actorPolicy.AlwaysOffersOnly known :=
  fun depth => hpolicy (depth + 1)

end Policy.AlwaysOffersOnly

/-- Whether a policy leaves every judgement to the handler: it names no function and no store, and
demands of actors what it demands of any token. -/
structure Policy.SelfContained (policy : Policy ρ) : Prop where
  signingKeyResolver : policy.signingKeyResolver = none
  decryptionKeyResolver : policy.decryptionKeyResolver = none
  signatureValidator : policy.signatureValidator = none
  signingKeyValidator : policy.signingKeyValidator = none
  issuerValidator : policy.issuerValidator = none
  audienceValidator : policy.audienceValidator = none
  lifetimeValidator : policy.lifetimeValidator = none
  replayStore : policy.replayStore = none
  actor : policy.actor = none

namespace Policy.SelfContained

variable {policy : Policy ρ} (hcontained : policy.SelfContained)

include hcontained

theorem resolver? (use : KeyUse) : policy.resolver? use = none := by
  cases use with
  | signing => exact hcontained.signingKeyResolver
  | decryption => exact hcontained.decryptionKeyResolver

theorem actorPolicy : policy.actorPolicy = policy := by
  rw [Policy.actorPolicy, hcontained.actor, Option.getD_none]

theorem actorAt (depth : Nat) : policy.actorAt depth = policy := by
  induction depth with
  | zero => rfl
  | succ depth ih =>
      rw [Policy.actorAt, hcontained.actorPolicy]
      exact ih

theorem alwaysOffersOnly {known : Key → Prop} (hkeys : ∀ use, ∀ key ∈ policy.keys use, known key) :
    policy.AlwaysOffersOnly known := by
  intro depth
  rw [hcontained.actorAt depth]
  exact Policy.offersOnly_of_keys hcontained.resolver? hkeys

end Policy.SelfContained

/-- Whether a relation of sessions is one of sessions with the same record, and is kept when both
records change alike. -/
structure Session.SharesRecord (same : Session σ ρ → Session τ ρ → Prop) : Prop where
  replay : ∀ {before before'}, same before before' → before.replay = before'.replay
  withReplay : ∀ {before before'} (replay : ρ), same before before' →
    same (before.withReplay replay) (before'.withReplay replay)

theorem Session.sharesRecord_likened (alike : σ → σ → Prop) :
    Session.SharesRecord (Session.Likened alike (@Eq ρ)) where
  replay hsame := hsame.replay
  withReplay _ hsame := ⟨hsame.suite, rfl⟩

namespace Validation

variable {same : Session σ ρ → Session τ ρ → Prop} {policy : Policy ρ}

theorem claim_agree (hrecord : Session.SharesRecord same)
    (hnote : ∀ {before before'} (call : Call), same before before' →
      same (before.noting call) (before'.noting call))
    (store : ReplayStore ρ) (digest : String) (expires now : Instant) :
    Run.Agree same (Run.claim store digest expires now) (Run.claim store digest expires now) := by
  intro before before' hsame
  rw [Run.outcome_claim, Run.outcome_claim, hrecord.replay hsame]
  exact ⟨rfl, hnote _ (hrecord.withReplay _ hsame)⟩

theorem checkReplay_agree (hrecord : Session.SharesRecord same)
    (hnote : ∀ {before before'} (call : Call), same before before' →
      same (before.noting call) (before'.noting call))
    (raw : String) (expires : Option Instant) :
    Run.Agree same (checkReplay policy raw expires) (checkReplay policy raw expires) := by
  unfold checkReplay
  apply Run.Agree.ite _ (Run.Agree.pure _)
  cases policy.replayStore with
  | none => exact Run.Agree.pure _
  | some store =>
      apply Run.Agree.bind (claim_agree hrecord hnote _ _ _ _)
      intro presented
      exact Run.Agree.ite (Run.Agree.throw _) (Run.Agree.pure _)

end Validation

namespace Handler

section Agreement

variable {same : Session σ ρ → Session τ ρ → Prop} {known : Key → Prop} {handler : Handler σ}
  {suite : CryptoSuite τ} (hsuite : CryptoSuite.Agree same handler.suite suite known)
  {policy : Policy ρ}

include hsuite

theorem validateAlone_agree (hpolicy : policy.OffersOnly known) {raw : String}
    (hreplay : ∀ expires, Run.Agree same (Validation.checkReplay policy raw expires)
      (Validation.checkReplay policy raw expires)) (remaining : Nat) :
    Run.Agree same (handler.validateAlone policy remaining raw)
      ((handler.withSuite suite).validateAlone policy remaining raw) := by
  rw [validateAlone_eq_examine, validateAlone_eq_examine]
  apply Run.Agree.bind (examine_agree hsuite hpolicy remaining raw)
  intro examined
  apply Run.Agree.bind (Run.Agree.atStage _ (hreplay examined.expires))
  intro _
  exact Run.Agree.pure _

/-- By induction on the levels that remain, with the policy for the actors of each. -/
theorem validateWithin_agree (hpolicy : policy.AlwaysOffersOnly known)
    (hreplay : ∀ depth, policy.AttendsTo depth → ∀ raw expires,
      Run.Agree same (Validation.checkReplay (policy.actorAt depth) raw expires)
        (Validation.checkReplay (policy.actorAt depth) raw expires))
    (remaining : Nat) (raw : String) :
    Run.Agree same (handler.validateWithin policy remaining raw)
      ((handler.withSuite suite).validateWithin policy remaining raw) := by
  induction remaining generalizing policy raw with
  | zero =>
      rw [validateWithin_eq_attend, validateWithin_eq_attend]
      apply Run.Agree.bind (validateAlone_agree hsuite hpolicy.offersOnly
        (hreplay 0 policy.attendsTo_zero raw) 0)
      exact attend_agree hsuite fun _ fewer actorRaw hfewer => nomatch hfewer
  | succ remaining ih =>
      rw [validateWithin_eq_attend, validateWithin_eq_attend]
      apply Run.Agree.bind (validateAlone_agree hsuite hpolicy.offersOnly
        (hreplay 0 policy.attendsTo_zero raw) _)
      apply attend_agree hsuite
      rintro hactor fewer actorRaw hfewer
      obtain rfl := Nat.succ.inj hfewer
      exact ih hpolicy.actorPolicy
        (fun depth hdepth => hreplay (depth + 1) (.succ hactor hdepth)) actorRaw

end Agreement

end Handler

/-! ### With a memory and without -/

/-- A session with a faithful memory, and one without memory that has the same record. -/
structure Session.Recalls (ring : KeyRing) (left : Session SchemeCache ρ)
    (right : Session Unit ρ) : Prop where
  faithful : left.suite.Faithful ring
  replay : left.replay = right.replay

theorem Session.sharesRecord_recalls (ring : KeyRing) :
    Session.SharesRecord (@Session.Recalls ρ ring) where
  replay hrecalls := hrecalls.replay
  withReplay _ hrecalls := ⟨hrecalls.faithful, rfl⟩

theorem CryptoSuite.caching_agree_recalls (ring : KeyRing) (isLive : KeyHandle → Bool) :
    CryptoSuite.Agree (@Session.Recalls ρ ring) (caching isLive) standard ring.Has where
  note _ hrecalls := ⟨hrecalls.faithful, hrecalls.replay⟩
  signature name forSigning hkey _ _ hrecalls := by
    obtain ⟨hanswer, hafter⟩ := hrecalls.faithful.signature isLive hkey name forSigning
    exact ⟨hanswer, hafter, hrecalls.replay⟩
  keyManagement name hkey _ _ hrecalls := by
    obtain ⟨hanswer, hafter⟩ := hrecalls.faithful.keyManagement isLive hkey name
    exact ⟨hanswer, hafter, hrecalls.replay⟩
  content name _ _ hrecalls := by
    obtain ⟨hanswer, hafter⟩ := hrecalls.faithful.content name
    exact ⟨hanswer, hafter, hrecalls.replay⟩

namespace Handler

variable {handler : Handler SchemeCache} {policy : Policy ρ} {isLive : KeyHandle → Bool}
  {ring : KeyRing}

/-- What a validation with a memory answers is what it answers without. -/
theorem validate_standard (hsuite : handler.suite = .caching isLive)
    (hkeys : policy.AlwaysOffersOnly ring.Has) {before : Session SchemeCache ρ}
    (hcache : before.suite.Faithful ring) (raw : String) (calls : List Call) :
    ((handler.validate policy raw).outcome before).1 =
      (((handler.withSuite .standard).validate policy raw).outcome ⟨(), before.replay, calls⟩).1 := by
  have hagree : CryptoSuite.Agree (@Session.Recalls ρ ring) handler.suite .standard ring.Has := by
    rw [hsuite]
    exact CryptoSuite.caching_agree_recalls ring isLive
  exact (validateWithin_agree hagree hkeys
    (fun _ _ => Validation.checkReplay_agree (Session.sharesRecord_recalls ring) hagree.note)
    handler.settings.maximumNestingDepth raw).answer_eq ⟨hcache, rfl⟩

end Handler

end SecurityToken
