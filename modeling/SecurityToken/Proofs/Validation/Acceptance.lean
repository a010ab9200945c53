import SecurityToken.Proofs.Crypto.Signature
import SecurityToken.Proofs.Suite.Cache
import SecurityToken.Proofs.Validation.Lifetime
import SecurityToken.Proofs.Validation.Opening
import SecurityToken.Proofs.Validation.Record
import SecurityToken.Proofs.Validation.Stages

/-!
# What is enough to be accepted

A handler that is left to itself accepts a signed token as soon as one of the keys that are given
verifies it, its issuer and one of its audiences are accepted ones, and the clock stands within its
lifetime. Keys that do not fit are passed over on the way to one that does, and a memory of schemes
makes no difference there.
-/

namespace SecurityToken

variable {ρ : Type}

/-- Whether a claim set states a lifetime: it has an end, and no start after that. -/
structure ClaimSet.Lasts (claims : ClaimSet) (notBefore : Option Instant) (expires : Instant) :
    Prop where
  starts : claims.notBefore = .ok notBefore
  ends : claims.expires = .ok (some expires)
  ordered : ∀ start ∈ notBefore, start ≤ expires

namespace Policy

variable {policy : Policy ρ} {notBefore : Option Instant} {expires : Instant}

/-- Whether a policy leaves a validation to the handler: no function takes the place of a check, no
record is kept, and actors are let be. -/
structure Unaided (policy : Policy ρ) : Prop where
  signingKeyResolver : policy.signingKeyResolver = none
  signatureValidator : policy.signatureValidator = none
  signingKeyValidator : policy.signingKeyValidator = none
  issuerValidator : policy.issuerValidator = none
  audienceValidator : policy.audienceValidator = none
  lifetimeValidator : policy.lifetimeValidator = none
  replayStore : policy.replayStore = none
  validateActor : policy.validateActor = false

/-- Whether the clock stands within a lifetime, give or take the skew. -/
structure Within (policy : Policy ρ) (notBefore : Option Instant) (expires : Instant) : Prop where
  started : ∀ start ∈ notBefore,
    start.nanoseconds - policy.clockSkew.nanoseconds ≤ policy.now.nanoseconds
  current : policy.now.nanoseconds ≤ expires.nanoseconds + policy.clockSkew.nanoseconds

theorem Within.lifetimeDefect?_eq_none (hwithin : policy.Within notBefore expires)
    (hordered : ∀ start ∈ notBefore, start ≤ expires) :
    policy.lifetimeDefect? notBefore (some expires) = none := by
  refine lifetimeDefect?_eq_none_iff.2 ⟨fun _ => rfl, fun start hstart stop hstop => ?_,
    fun start hstart => earliest_le_now_iff.2 (.inl (hwithin.started start hstart)),
    fun stop hstop => ?_⟩
  · obtain rfl := Option.some.inj hstop
    exact hordered start hstart
  · obtain rfl := Option.some.inj hstop
    exact now_le_latest_iff.2 (.inl hwithin.current)

theorem not_isBlank_of_mem_accepted {single : Option String} {many : List String} {value : String}
    (hvalue : value ∈ accepted single many) : (!Text.isBlank value) = true :=
  (List.mem_filter.1 hvalue).2

theorem acceptIssuer_of_mem {issuer : String} (hissuer : issuer ∈ policy.acceptedIssuers) :
    policy.acceptIssuer (some issuer) = .ok issuer := by
  unfold acceptIssuer
  simp only [if_neg (not_isEmpty_of_mem hissuer), List.contains_iff_mem, if_pos hissuer]

theorem acceptAudience_of_mem {audiences : List String} {audience : String}
    (haudience : audience ∈ policy.acceptedAudiences) (hmem : audience ∈ audiences) :
    policy.acceptAudience audiences = .ok () := by
  have hany : audiences.any policy.acceptedAudiences.contains = true :=
    List.any_eq_true.2 ⟨audience, hmem, List.contains_iff_mem.2 haudience⟩
  unfold acceptAudience
  rw [if_neg (not_isEmpty_of_mem haudience), if_neg (not_isEmpty_of_mem hmem), if_pos hany]

end Policy

namespace Validation

variable {σ : Type} {policy : Policy ρ} {token : Token} {session : Session σ ρ}

theorem outcome_checkIssuer {issuer : String} (hvalidator : policy.issuerValidator = none)
    (hissuer : issuer ∈ policy.acceptedIssuers) (htoken : token.claims.issuer? = some issuer) :
    (checkIssuer policy token).outcome session = (.ok issuer, session) := by
  have hnonBlank : nonBlank? token.claims.issuer? = some issuer := by
    rw [nonBlank?, htoken]
    exact Option.filter_eq_some_iff.2 ⟨rfl, Policy.not_isBlank_of_mem_accepted hissuer⟩
  unfold checkIssuer
  rw [hvalidator, hnonBlank]
  by_cases hvalidate : policy.validateIssuer = true
  · simp only [if_pos hvalidate, Run.outcome_lift, Policy.acceptIssuer_of_mem hissuer]
  · simp only [if_neg hvalidate, Option.getD_some, Run.outcome_pure]

theorem outcome_checkAudience {audience : String} (hvalidator : policy.audienceValidator = none)
    (haudience : audience ∈ policy.acceptedAudiences) (htoken : audience ∈ token.claims.audiences) :
    (checkAudience policy token).outcome session = (.ok (), session) := by
  have hmem : audience ∈ token.claims.audiences.filter fun audience => !Text.isBlank audience :=
    List.mem_filter.2 ⟨htoken, Policy.not_isBlank_of_mem_accepted haudience⟩
  unfold checkAudience
  rw [hvalidator]
  by_cases hvalidate : policy.validateAudience = true
  · simp only [if_pos hvalidate, Run.outcome_lift, Policy.acceptAudience_of_mem haudience hmem]
  · simp only [if_neg hvalidate, Run.outcome_pure]

theorem outcome_checkLifetime {notBefore : Option Instant} {expires : Instant}
    (hvalidator : policy.lifetimeValidator = none) (hlasts : token.claims.Lasts notBefore expires)
    (hwithin : policy.Within notBefore expires) :
    (checkLifetime policy token).outcome session = (.ok (some expires), session) := by
  have haccept : policy.acceptLifetime notBefore (some expires) = .ok () := by
    unfold Policy.acceptLifetime
    rw [hwithin.lifetimeDefect?_eq_none hlasts.ordered]
  unfold checkLifetime
  rw [hlasts.starts, hlasts.ends, hvalidator]
  simp only [Run.outcome_bind, Run.outcome_lift]
  by_cases hvalidate : policy.validateLifetime = true
  · simp only [if_pos hvalidate, Run.outcome_bind, Run.outcome_lift, haccept, Run.outcome_pure]
  · simp only [if_neg hvalidate, Run.outcome_pure]

end Validation

/-- Whether a key verifies the signature of a token under an algorithm. -/
def Key.Verifies (key : Key) (algorithm : SignatureAlgorithm) (token : Token) : Prop :=
  ∃ scheme, key.signatureScheme algorithm false = .ok scheme ∧
    scheme.verify (Bytes.ofText (Compact.signingInput token.raw)) token.signature = true

namespace Handler

variable {handler : Handler SchemeCache} {policy : Policy ρ} {before : Session SchemeCache ρ}
  {isLive : KeyHandle → Bool} {ring : KeyRing} {algorithm : SignatureAlgorithm} {token : Token}

/-- One step of the search: a key without a scheme is passed over, and one whose scheme does not
verify the signature counts. -/
theorem outcome_verifyWith_cons {handler : Handler Unit} (hsuite : handler.suite = .standard)
    (algorithm : SignatureAlgorithm) (token : Token) (tried : Nat) (key : Key) (rest : List Key)
    (before : Session Unit ρ) :
    (handler.verifyWith algorithm.name token tried (key :: rest)).outcome before =
      match key.signatureScheme algorithm false with
      | .error _ =>
          (handler.verifyWith algorithm.name token tried rest).outcome
            (before.noting (.signatureScheme algorithm.name))
      | .ok scheme =>
          if scheme.verify (Bytes.ofText (Compact.signingInput token.raw)) token.signature then
            (.ok key, before.noting (.signatureScheme algorithm.name))
          else
            (handler.verifyWith algorithm.name token (tried + 1) rest).outcome
              (before.noting (.signatureScheme algorithm.name)) := by
  have hanswer : ((CryptoSuite.standard.signature key algorithm.name false).run ()).1 =
      key.signatureScheme algorithm false :=
    CryptoSuite.standard_signature_name key algorithm false
  rw [verifyWith, Run.outcome_bind, Run.outcome_ask, hsuite]
  simp only [hanswer]
  cases hscheme : key.signatureScheme algorithm false with
  | error fault =>
      simp only [Key.isUnsupported_of_error hscheme, Bool.false_eq_true, if_false]
      rfl
  | ok scheme =>
      by_cases hverify : scheme.verify (Bytes.ofText (Compact.signingInput token.raw))
          token.signature = true
      · simp only [if_pos hverify]
        rfl
      · simp only [if_neg hverify]
        rfl

/-- By induction on the keys: of those that verify the signature the first one is taken. -/
theorem verifyWith_standard_of_verifies {handler : Handler Unit} {before : Session Unit ρ}
    (hsuite : handler.suite = .standard) {keys : List Key}
    (hverifies : ∃ key ∈ keys, key.Verifies algorithm token) (tried : Nat) :
    ∃ found ∈ keys, ∃ after,
      (handler.verifyWith algorithm.name token tried keys).outcome before = (.ok found, after) := by
  induction keys generalizing tried before with
  | nil =>
      obtain ⟨_, hmem, _⟩ := hverifies
      exact absurd hmem List.not_mem_nil
  | cons first rest ih =>
      have hlater : ¬first.Verifies algorithm token → ∀ tried (middle : Session Unit ρ),
          ∃ found ∈ first :: rest, ∃ after,
            (handler.verifyWith algorithm.name token tried rest).outcome middle =
              (.ok found, after) := by
        intro hfirst tried middle
        obtain ⟨key, hmem, hkey⟩ := hverifies
        rcases List.mem_cons.1 hmem with rfl | hmem
        · exact absurd hkey hfirst
        obtain ⟨found, hfound, hrun⟩ := @ih middle ⟨key, hmem, hkey⟩ tried
        exact ⟨found, List.mem_cons_of_mem _ hfound, hrun⟩
      rw [outcome_verifyWith_cons hsuite]
      cases hscheme : first.signatureScheme algorithm false with
      | error fault =>
          have hunfit : ¬first.Verifies algorithm token := by
            rintro ⟨scheme, hfound, _⟩
            cases hscheme.symm.trans hfound
          exact hlater hunfit _ _
      | ok scheme =>
          by_cases hverify : scheme.verify (Bytes.ofText (Compact.signingInput token.raw))
              token.signature = true
          · simp only [if_pos hverify]
            exact ⟨first, List.mem_cons_self, _, rfl⟩
          · have hunfit : ¬first.Verifies algorithm token := by
              rintro ⟨found, hfound, hfoundVerify⟩
              obtain rfl := Except.ok.inj (hscheme.symm.trans hfound)
              exact hverify hfoundVerify
            simp only [if_neg hverify]
            exact hlater hunfit _ _

theorem verifyWith_of_verifies (hsuite : handler.suite = .caching isLive)
    (hcache : before.suite.Faithful ring) {keys : List Key} (hkeys : ∀ key ∈ keys, ring.Has key)
    (hverifies : ∃ key ∈ keys, key.Verifies algorithm token) (tried : Nat) :
    ∃ found ∈ keys, ∃ after,
      (handler.verifyWith algorithm.name token tried keys).outcome before = (.ok found, after) := by
  have hbeside : Session.FaithfulBeside ring before ⟨(), before.replay, []⟩ := hcache
  have hstandard : (handler.withSuite .standard).suite = .standard := rfl
  obtain ⟨found, hfound, after, hrun⟩ := verifyWith_standard_of_verifies hstandard hverifies tried
  have hanswer := (verifyWith_agree (CryptoSuite.agree_standard_of_caching hsuite) algorithm.name
    token hkeys tried).answer_eq hbeside
  rw [hrun] at hanswer
  exact ⟨found, hfound, _, Prod.ext hanswer rfl⟩

theorem outcome_checkSigningKey {σ : Type} {policy : Policy ρ}
    (hvalidator : policy.signingKeyValidator = none) (key : Key) (token : Token)
    (session : Session σ ρ) :
    (checkSigningKey policy key token).outcome session = (.ok (), session) := by
  unfold checkSigningKey
  rw [hvalidator]
  split <;> rfl

variable {issuer audience raw : String} {notBefore : Option Instant} {expires : Instant}

theorem verify_of_verifies (hunaided : policy.Unaided) (hsuite : handler.suite = .caching isLive)
    (hcache : before.suite.Faithful ring) (hkeys : ∀ key ∈ policy.signingKeys, ring.Has key)
    (hsigned : token.hasSignature = true)
    (halgorithm : token.header.algorithm? = some algorithm.name)
    (hverifies : ∃ key ∈ policy.signingKeys, key.Verifies algorithm token) :
    ∃ key ∈ policy.signingKeys, ∃ after,
      (handler.verify policy token).outcome before = (.ok ⟨token, some key⟩, after) := by
  have hresolver : policy.resolver? .signing = none := hunaided.signingKeyResolver
  have hmem : ∀ {key : Key}, key ∈ policy.candidates .signing token.raw token.header ↔
      key ∈ policy.signingKeys :=
    Policy.mem_candidates hresolver
  obtain ⟨key, hkey, hkeyVerifies⟩ := hverifies
  obtain ⟨found, hfound, after, hrun⟩ := verifyWith_of_verifies hsuite hcache
    (fun key hkey => hkeys key (hmem.1 hkey)) ⟨key, hmem.2 hkey, hkeyVerifies⟩ 0
  have hsome := not_isEmpty_of_mem hfound
  refine ⟨found, hmem.1 hfound, after, ?_⟩
  unfold verify
  rw [hunaided.signatureValidator]
  simp only [if_pos hsigned]
  unfold verifySigned
  simp only [candidates_eq_pure hresolver, pure_bind, Run.outcome_bind, if_neg hsome, halgorithm,
    Option.getD_some, hrun, outcome_checkSigningKey hunaided.signingKeyValidator, Run.outcome_pure]

/-- The opening of a text that is not too large and reads as a token. -/
theorem outcome_openToken {name : String}
    (hformat : handler.format = { TokenFormat.compact with name })
    (hsize : raw.utf8ByteSize ≤ policy.maximumTokenSize.getD handler.settings.maximumTokenSize)
    (hparse : Compact.parse (!policy.requireSignature) raw = .ok token) (remaining : Nat)
    (before : Session SchemeCache ρ) :
    (handler.openToken policy remaining raw).outcome before =
      (if token.isEncrypted then Run.atStage "decrypt" (handler.decrypt policy remaining token)
        else pure token).outcome (before.noting (.parse (!policy.requireSignature) raw)) := by
  have hchecked : Compact.checkSize raw
      (policy.maximumTokenSize.getD handler.settings.maximumTokenSize) = .ok () :=
    Compact.checkSize_eq_ok.2 hsize
  have hformatted : handler.format.parse (!policy.requireSignature) raw = .ok token := by
    rw [hformat]
    exact Compact.compact_parse_eq_ok.2 hparse
  unfold openToken parse Run.atStage
  simp only [hchecked, hformatted, Run.outcome_bind, Run.outcome_adapting, Run.outcome_note,
    Run.outcome_lift]
  rfl

theorem openToken_of_parse {name : String}
    (hformat : handler.format = { TokenFormat.compact with name })
    (hsize : raw.utf8ByteSize ≤ policy.maximumTokenSize.getD handler.settings.maximumTokenSize)
    (hparse : Compact.parse (!policy.requireSignature) raw = .ok token)
    (hencrypted : ¬token.isEncrypted = true) (remaining : Nat) :
    ∃ after : Session SchemeCache ρ, after.suite = before.suite ∧
      (handler.openToken policy remaining raw).outcome before = (.ok token, after) := by
  refine ⟨before.noting (.parse (!policy.requireSignature) raw), rfl, ?_⟩
  rw [outcome_openToken hformat hsize hparse, if_neg hencrypted, Run.outcome_pure]

/-- A signed token that a policy has everything for is accepted as it is. -/
theorem validate_of_verifies (hunaided : policy.Unaided) {name : String}
    (hformat : handler.format = { TokenFormat.compact with name })
    (hsuite : handler.suite = .caching isLive) (hcache : before.suite.Faithful ring)
    (hkeys : ∀ key ∈ policy.signingKeys, ring.Has key)
    (hsize : raw.utf8ByteSize ≤ policy.maximumTokenSize.getD handler.settings.maximumTokenSize)
    (hparse : Compact.parse (!policy.requireSignature) raw = .ok token)
    (hencrypted : ¬token.isEncrypted = true) (hsigned : token.hasSignature = true)
    (halgorithm : token.header.algorithm? = some algorithm.name)
    (hverifies : ∃ key ∈ policy.signingKeys, key.Verifies algorithm token)
    (hissuer : issuer ∈ policy.acceptedIssuers) (htokenIssuer : token.claims.issuer? = some issuer)
    (haudience : audience ∈ policy.acceptedAudiences)
    (htokenAudience : audience ∈ token.claims.audiences)
    (hlasts : token.claims.Lasts notBefore expires) (hwithin : policy.Within notBefore expires) :
    ∃ identity after, (handler.validate policy raw).outcome before = (.ok identity, after) ∧
      identity.issuer = issuer ∧ identity.token = token ∧
      ∃ key ∈ policy.signingKeys, identity.signingKey = some key := by
  obtain ⟨opened, hopened, hopen⟩ := openToken_of_parse hformat hsize hparse hencrypted
    handler.settings.maximumNestingDepth
  obtain ⟨key, hkey, after, hverify⟩ := verify_of_verifies hunaided hsuite
    (hopened ▸ hcache) hkeys hsigned halgorithm hverifies
  have hexamine : (handler.examine policy handler.settings.maximumNestingDepth raw).outcome before =
      (.ok ⟨⟨token, some key⟩, issuer, some expires⟩, after) := by
    have hinnermost : (handler.verify policy token.innermost).outcome opened =
        (.ok ⟨token, some key⟩, after) := by
      rwa [innermost_of_not_encrypted hencrypted]
    unfold examine
    refine Run.outcome_bind_eq_ok.2 ⟨token, opened, hopen, ?_⟩
    refine Run.outcome_bind_eq_ok.2 ⟨_, after, Run.outcome_adapting_eq_ok.2 hinnermost, ?_⟩
    refine Run.outcome_bind_eq_ok.2 ⟨issuer, after, Run.outcome_adapting_eq_ok.2
      (Validation.outcome_checkIssuer hunaided.issuerValidator hissuer htokenIssuer), ?_⟩
    refine Run.outcome_bind_eq_ok.2 ⟨(), after, Run.outcome_adapting_eq_ok.2
      (Validation.outcome_checkAudience hunaided.audienceValidator haudience htokenAudience), ?_⟩
    exact Run.outcome_bind_eq_ok.2 ⟨some expires, after, Run.outcome_adapting_eq_ok.2
      (Validation.outcome_checkLifetime hunaided.lifetimeValidator hlasts hwithin), rfl⟩
  have halone := validateAlone_of_examine hexamine
    (Validation.outcome_checkReplay_off (.inr hunaided.replayStore))
  refine ⟨handler.identify policy raw ⟨⟨token, some key⟩, issuer, some expires⟩, after, ?_, rfl,
    rfl, key, hkey, rfl⟩
  unfold validate
  rw [validateWithin]
  refine Run.outcome_bind_eq_ok.2 ⟨_, _, halone, ?_⟩
  rw [hunaided.validateActor]
  split
  · rfl
  · rfl

end Handler

end SecurityToken
