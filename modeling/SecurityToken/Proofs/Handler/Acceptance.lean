import SecurityToken.Proofs.Handler.Reading
import SecurityToken.Proofs.Handler.Statement

/-!
# A created token is accepted

What a handler creates and signs, it accepts again under any policy that trusts the signer, the
issuer and one of the audiences, as long as the clock stands within the lifetime that was written.
The maker and the judge meet in the text only: the one puts a signature behind the parts that it
wrote, the other finds the parts in the text, and with them the algorithm under which a key of the
policy is asked.
-/

namespace SecurityToken

variable {ρ : Type}

/-- Whether a policy trusts a draft that is signed with a key: it has the key or its public half,
and accepts the issuer and one of the audiences. -/
structure Policy.Trusts (policy : Policy ρ) (draft : Draft) (signer : Key) : Prop where
  key : ∃ key ∈ policy.signingKeys, key.Counterpart signer
  issuer : ∃ issuer ∈ policy.acceptedIssuers, draft.issuer = some issuer
  audience : ∃ audience ∈ policy.acceptedAudiences, audience ∈ draft.audiences

namespace Handler

open Creation

variable {handler : Handler SchemeCache} {isLive : KeyHandle → Bool} {ring : KeyRing}
  {entropy : Entropy} {now : Instant} {draft : Draft} {credential : SigningCredential}
  {before after : Session SchemeCache ρ} {token : Token}

theorem signature_eq_ok (hsuite : handler.suite = .caching isLive)
    (hcache : before.suite.Faithful ring) (hsigning : draft.signing = some credential)
    (hkey : ring.Has credential.key) {input : String} {signature : Bytes}
    (hrun : (handler.signature entropy draft input).outcome before = (.ok signature, after)) :
    after.suite.Faithful ring ∧ ∃ (algorithm : SignatureAlgorithm) (scheme : SignatureScheme),
      handler.algorithmName credential.algorithm = algorithm.name ∧
      credential.key.signatureScheme algorithm true = .ok scheme ∧
      scheme.sign entropy (Bytes.ofText input) = .ok signature := by
  obtain ⟨hanswer, hcache'⟩ := hcache.signature isLive hkey
    (handler.algorithmName credential.algorithm) true
  unfold Handler.signature at hrun
  rw [hsigning, hsuite] at hrun
  obtain ⟨scheme, hasked, hrun⟩ := outcome_ask_serve_eq_ok.1 hrun
  obtain ⟨hsign, rfl⟩ := outcome_serve_eq_ok.1 hrun
  obtain ⟨algorithm, hname, hscheme⟩ :=
    CryptoSuite.standard_signature_eq_ok (hanswer.symm.trans hasked)
  exact ⟨hcache', algorithm, scheme, hname, hscheme, hsign⟩

/-- A token that is not encrypted comes from its claims and its signature alone. -/
theorem create_eq_ok (hencrypting : draft.encrypting = none)
    (hcreate : outcome (handler.create entropy now draft) before = (.ok token, after)) :
    ∃ claims, draft.claimSet handler.mapping handler.settings now = .ok claims ∧
      (handler.sign entropy draft claims).outcome before = (.ok token, after) := by
  obtain ⟨claims, hclaims, hrun⟩ := outcome_create_eq_ok.1 hcreate
  obtain ⟨signed, middle, hsign, hrun⟩ := Run.outcome_bind_eq_ok.1 hrun
  rw [hencrypting] at hrun
  obtain ⟨rfl, rfl⟩ := outcome_pure_eq_ok.1 hrun
  exact ⟨claims, hclaims, hsign⟩

/-- A signed token names the algorithm under which the counterparts of its signer verify it. -/
theorem verifies_of_sign (hsuite : handler.suite = .caching isLive)
    (hcache : before.suite.Faithful ring) (hsigning : draft.signing = some credential)
    (hkey : ring.Has credential.key) {claims : ClaimSet}
    (hsign : (handler.sign entropy draft claims).outcome before = (.ok token, after)) :
    after.suite.Faithful ring ∧ token.claims = claims ∧ token.hasSignature = true ∧
      ¬token.isEncrypted = true ∧ ∃ algorithm : SignatureAlgorithm,
        token.header.algorithm? = some algorithm.name ∧
        ∀ key : Key, key.Counterpart credential.key → key.Verifies algorithm token := by
  obtain ⟨signature, hsignature, rfl⟩ := outcome_sign_eq_ok.1 hsign
  obtain ⟨hafter, algorithm, scheme, hname, hscheme, hsigned⟩ :=
    signature_eq_ok hsuite hcache hsigning hkey hsignature
  have hnil := (Key.verify_of_sign (.inl rfl) hscheme hsigned).1
  refine ⟨hafter, rfl, ?_, Bool.false_ne_true, algorithm, ?_, ?_⟩
  · unfold Token.hasSignature Token.signature
    rw [Bool.not_eq_true', List.isEmpty_eq_false_iff]
    exact hnil
  · refine (algorithm?_signedHeader draft _).trans (congrArg some ?_)
    rw [signingAlgorithm, hsigning]
    exact hname
  · intro key hcounterpart
    obtain ⟨verifier, hverifier, hverify⟩ := (Key.verify_of_sign hcounterpart hscheme hsigned).2
    refine ⟨verifier, hverifier, ?_⟩
    rw [Token.raw, Compact.signingInput_writeSigned]
    exact hverify

theorem createText_of_create {name : String}
    (hformat : handler.format = { TokenFormat.compact with name })
    (hcreate : outcome (handler.create entropy now draft) before = (.ok token, after)) :
    outcome (handler.createText entropy now draft) before = (.ok token.raw, after) := by
  refine outcome_createText_eq_ok.2 ⟨token, hcreate, ?_⟩
  unfold write
  rw [hformat]
  exact congrArg Except.ok (Compact.write_eq_raw token)

/-- What was created and signed is accepted from its text, with every other key that the policy may
have and in whatever order. -/
theorem validate_createText {ρ' : Type} {policy : Policy ρ'} {name : String}
    (hformat : handler.format = { TokenFormat.compact with name })
    (hsuite : handler.suite = .caching isLive) (hcache : before.suite.Faithful ring)
    (hdraft : draft.Plain) (hsigning : draft.signing = some credential)
    (hkey : ring.Has credential.key) (hencrypting : draft.encrypting = none)
    (hcreate : outcome (handler.create entropy now draft) before = (.ok token, after))
    (hsize : token.raw.utf8ByteSize ≤
      policy.maximumTokenSize.getD handler.settings.maximumTokenSize)
    (hunaided : policy.Unaided) (hkeys : ∀ key ∈ policy.signingKeys, ring.Has key)
    (htrusts : policy.Trusts draft credential.key)
    (hlasts : draft.Schedules handler.settings token.claims ∨
      ∃ notBefore expires, token.claims.Lasts notBefore expires)
    (hclock : ∀ notBefore expires, token.claims.Lasts notBefore expires →
      policy.Within notBefore expires) :
    outcome (handler.createText entropy now draft) before = (.ok token.raw, after) ∧
      after.suite.Faithful ring ∧
      ∀ session : Session SchemeCache ρ', session.suite.Faithful ring →
        ∃ identity last,
          (handler.validate policy token.raw).outcome session = (.ok identity, last) ∧
          draft.issuer = some identity.issuer ∧ identity.token = token ∧
          ∃ key ∈ policy.signingKeys, identity.signingKey = some key := by
  obtain ⟨claims, hclaims, hsign⟩ := create_eq_ok hencrypting hcreate
  have hread := parse_of_sign hdraft (hdraft.ofText?_claims hclaims) hsign (!policy.requireSignature)
  obtain ⟨hafter, rfl, hsigned, hencrypted, algorithm, halgorithm, hverifies⟩ :=
    verifies_of_sign hsuite hcache hsigning hkey hsign
  -- From here on the token is one that was read, and it does not matter who wrote it.
  obtain ⟨notBefore, expires, hlasts⟩ : ∃ notBefore expires, token.claims.Lasts notBefore expires :=
    hlasts.elim (·.lasts hclaims) id
  obtain ⟨verifier, hverifier, hcounterpart⟩ := htrusts.key
  obtain ⟨issuer, hissuer, hdraftIssuer⟩ := htrusts.issuer
  obtain ⟨audience, haudience, hdraftAudience⟩ := htrusts.audience
  have htokenAudience : audience ∈ token.claims.audiences := by
    rwa [Draft.audiences_claimSet hclaims (List.ne_nil_of_mem hdraftAudience)]
  refine ⟨createText_of_create hformat hcreate, hafter, fun session hsession => ?_⟩
  obtain ⟨identity, last, hvalidate, hidentity, htoken, hfound⟩ := validate_of_verifies hunaided
    hformat hsuite hsession hkeys hsize hread hencrypted hsigned halgorithm
    ⟨verifier, hverifier, hverifies verifier hcounterpart⟩ hissuer
    (Draft.issuer?_claimSet hclaims hdraftIssuer) haudience htokenAudience hlasts
    (hclock notBefore expires hlasts)
  exact ⟨identity, last, hvalidate, hidentity ▸ hdraftIssuer, htoken, hfound⟩

/-! ### A token that is accepted with the second of two keys -/

def signer : Key where
  handle := 0
  material := .secret (List.replicate 16 7)

def stranger : Key where
  handle := 1
  material := .secret (List.replicate 16 8)

def signedHandler : Handler SchemeCache where
  suite := .caching fun _ => true
  mapping := .empty
  settings := { Settings.standard with defaultTimes := false }

def signedDraft : Draft where
  issuer := some "issuer"
  audiences := ["first", "second"]
  notBefore := some default
  expires := some ⟨3600500000000, by decide, by decide⟩
  signing := some ⟨signer, "HS256"⟩

def trustingPolicy (limit : Nat) : Policy Unit where
  issuer := some "issuer"
  audience := some "second"
  signingKeys := [stranger, signer]
  maximumTokenSize := some limit
  now := default

theorem plain_signedDraft : signedDraft.Plain where
  claims := fun _ hclaim => absurd hclaim List.not_mem_nil
  header := fun _ hmember => absurd hmember List.not_mem_nil
  distinct := fun _ hmember => absurd hmember List.not_mem_nil

theorem trusts_signedDraft (limit : Nat) : (trustingPolicy limit).Trusts signedDraft signer where
  key := ⟨signer, List.mem_cons_of_mem _ List.mem_cons_self, .inl rfl⟩
  issuer := ⟨"issuer", show "issuer" ∈ Policy.accepted (some "issuer") [] by decide, rfl⟩
  audience := ⟨"second", show "second" ∈ Policy.accepted (some "second") [] by decide, by decide⟩

set_option maxRecDepth 10000 in
theorem create_signedDraft :
    (outcome (signedHandler.create ⟨fun _ _ => 0⟩ default signedDraft)
      (⟨∅, (), []⟩ : Session SchemeCache Unit)).1.toOption.any
        (fun token => token.claims.notBefore.toOption == some (some default) &&
          token.claims.expires.toOption == some (some ⟨3600000000000, by decide, by decide⟩)) =
      true := by
  decide +kernel

theorem validate_createText_signedDraft :
    ∃ token after identity last,
      outcome (signedHandler.create ⟨fun _ _ => 0⟩ default signedDraft)
        (⟨∅, (), []⟩ : Session SchemeCache Unit) = (.ok token, after) ∧
      (signedHandler.validate (trustingPolicy token.raw.utf8ByteSize) token.raw).outcome after =
        (.ok identity, last) ∧
      identity.issuer = "issuer" ∧ identity.token = token := by
  have hsample := create_signedDraft
  rcases hcreate : outcome (signedHandler.create ⟨fun _ _ => 0⟩ default signedDraft)
    (⟨∅, (), []⟩ : Session SchemeCache Unit) with ⟨fault | token, after⟩
  · rw [hcreate] at hsample
    cases hsample
  rw [hcreate] at hsample
  have hkeys : ∀ key ∈ (trustingPolicy token.raw.utf8ByteSize).signingKeys,
      KeyRing.Has (fun handle => if handle = 0 then signer.material else stranger.material) key := by
    intro key hkey
    rcases List.mem_cons.1 hkey with rfl | hkey
    · rfl
    · obtain rfl := List.mem_singleton.1 hkey
      rfl
  have hclock : ∀ notBefore expires, token.claims.Lasts notBefore expires →
      (trustingPolicy token.raw.utf8ByteSize).Within notBefore expires := by
    intro notBefore expires hlasts
    obtain ⟨hstart, hstop⟩ := Bool.and_eq_true_iff.1 hsample
    rw [hlasts.starts, beq_iff_eq] at hstart
    rw [hlasts.ends, beq_iff_eq] at hstop
    obtain rfl := Option.some.inj hstart
    obtain rfl := Option.some.inj (Option.some.inj hstop)
    constructor
    · rintro _ ⟨⟩
      exact show (0 : Int) - 300 * 1000000000 ≤ 0 by decide
    · exact show (0 : Int) ≤ 3600000000000 + 300 * 1000000000 by decide
  obtain ⟨_, hafter, haccepted⟩ := validate_createText rfl rfl (SchemeCache.faithful_empty _)
    plain_signedDraft rfl (hkeys signer (List.mem_cons_of_mem _ List.mem_cons_self)) rfl hcreate
    le_rfl ⟨rfl, rfl, rfl, rfl, rfl, rfl, rfl, rfl⟩ hkeys (trusts_signedDraft _)
    (.inl ⟨.inl rfl, .inl rfl⟩) hclock
  obtain ⟨identity, last, hvalidate, hissuer, htoken, _⟩ := haccepted after hafter
  exact ⟨token, after, identity, last, rfl, hvalidate, (Option.some.inj hissuer).symm, htoken⟩

end Handler

end SecurityToken
