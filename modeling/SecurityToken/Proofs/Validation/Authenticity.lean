import SecurityToken.Proofs.Suite.Cache
import SecurityToken.Proofs.Validation.Opening
import SecurityToken.Proofs.Validation.Stages

/-!
# The authenticity of accepted tokens

The text that was presented, the token that was verified and the token whose claims are handed out
are three things once one token lies inside another. Under a policy that requires a signature and
leaves the judgement of it to the handler they belong together: the claims are those of the verified
token, and that token was read from the text or from one that lies inside it.
-/

namespace SecurityToken

variable {σ ρ : Type}

/-- What makes a signature good: a candidate key that supports the algorithm which the header names
verifies it over what the token says. -/
structure Policy.Voucher (policy : Policy ρ) (token : Token) where
  key : Key
  candidate : key ∈ policy.candidates .signing token.raw token.header
  algorithm : SignatureAlgorithm
  namesAlgorithm : token.header.algorithm? = some algorithm.name
  supports : key.supportsSignature algorithm = true
  scheme : SignatureScheme
  serves : key.signatureScheme algorithm false = .ok scheme
  verifies : scheme.verify (Bytes.ofText (Compact.signingInput token.raw)) token.signature = true

/-! ### The claims -/

theorem ClaimMapping.withIssuer_lengthen (mapping : ClaimMapping) (name issuer : String)
    (claim : Claim) :
    (mapping.lengthen name claim).withIssuer issuer =
      mapping.lengthen name (claim.withIssuer issuer) := by
  unfold ClaimMapping.lengthen
  cases mapping.inbound.get? name with
  | none => rfl
  | some long => rfl

theorem ClaimMapping.map_withIssuer_extractMember (mapping : ClaimMapping)
    (first second : String) (mapped : Bool) (member : String × Json) :
    (mapping.extractMember first mapped member).map (·.withIssuer second) =
      mapping.extractMember second mapped member := by
  unfold ClaimMapping.extractMember
  by_cases hignored : mapping.ignores member.1 = true
  · rw [if_pos hignored, if_pos hignored, List.map_nil]
  · rw [if_neg hignored, if_neg hignored, List.map_map]
    apply List.map_congr_left
    intro claim _
    cases mapped with
    | false => rfl
    | true => exact mapping.withIssuer_lengthen member.1 second _

theorem ClaimMapping.map_withIssuer_extract (mapping : ClaimMapping) (claims : ClaimSet)
    (first second : String) (mapped : Bool) :
    (mapping.extract claims first mapped).map (·.withIssuer second) =
      mapping.extract claims second mapped := by
  unfold ClaimMapping.extract
  have hmembers : (fun member => (mapping.extractMember first mapped member).map
      (·.withIssuer second)) = mapping.extractMember second mapped := by
    funext member
    exact mapping.map_withIssuer_extractMember first second mapped member
  rw [List.map_flatMap, hmembers]

/-! ### The signature -/

namespace Handler

section Standard

variable {handler : Handler Unit} {policy : Policy ρ} {before after : Session Unit ρ}

theorem verifyWith_eq_ok (hsuite : handler.suite = .standard) {algorithm : String} {token : Token}
    {tried : Nat} {keys : List Key} {key : Key}
    (hrun : (handler.verifyWith algorithm token tried keys).outcome before = (.ok key, after)) :
    key ∈ keys ∧ ∃ (found : SignatureAlgorithm) (scheme : SignatureScheme),
      algorithm = found.name ∧ key.signatureScheme found false = .ok scheme ∧
        scheme.verify (Bytes.ofText (Compact.signingInput token.raw)) token.signature = true := by
  induction keys generalizing tried before with
  | nil =>
      rw [verifyWith, Run.outcome_throw] at hrun
      cases (Prod.mk.inj hrun).1
  | cons first rest ih =>
      rw [verifyWith] at hrun
      obtain ⟨answer, middle, hask, hrun⟩ := Run.outcome_bind_eq_ok.1 hrun
      have hanswer : ((CryptoSuite.standard.signature first algorithm false).run ()).1 =
          answer := by
        rw [hsuite, Run.outcome_ask] at hask
        exact Except.ok.inj (Prod.mk.inj hask).1
      cases answer with
      | error fault =>
          simp only at hrun
          split at hrun
          · cases (Prod.mk.inj hrun).1
          · obtain ⟨hkey, hverifies⟩ := ih hrun
            exact ⟨List.mem_cons_of_mem _ hkey, hverifies⟩
      | ok scheme =>
          simp only at hrun
          split at hrun
          next hverifies =>
            obtain rfl := Except.ok.inj (Prod.mk.inj hrun).1
            obtain ⟨found, hname, hscheme⟩ := CryptoSuite.standard_signature_eq_ok hanswer
            exact ⟨List.mem_cons_self, found, scheme, hname, hscheme, hverifies⟩
          next =>
            obtain ⟨hkey, hverifies⟩ := ih hrun
            exact ⟨List.mem_cons_of_mem _ hkey, hverifies⟩

theorem verifySigned_eq_ok (hsuite : handler.suite = .standard) {token : Token}
    {verified : Verified}
    (hrun : (handler.verifySigned policy token).outcome before = (.ok verified, after)) :
    ∃ voucher : policy.Voucher token, verified.key = some voucher.key := by
  unfold verifySigned at hrun
  obtain ⟨keys, _, hkeys, hrun⟩ := Run.outcome_bind_eq_ok.1 hrun
  obtain rfl := candidates_eq_ok hkeys
  split at hrun
  · exact nomatch (Prod.mk.inj hrun).1
  obtain ⟨key, _, hverify, hrun⟩ := Run.outcome_bind_eq_ok.1 hrun
  obtain ⟨_, _, _, hrun⟩ := Run.outcome_bind_eq_ok.1 hrun
  obtain rfl := Except.ok.inj (Prod.mk.inj hrun).1
  obtain ⟨hkey, algorithm, scheme, hname, hscheme, hverifies⟩ := verifyWith_eq_ok hsuite hverify
  have halgorithm := SignatureAlgorithm.eq_some_of_getD hname
  exact ⟨⟨key, hkey, algorithm, halgorithm, Key.supportsSignature_of_scheme hscheme, scheme,
    hscheme, hverifies⟩, rfl⟩

theorem verify_eq_ok (hsuite : handler.suite = .standard) (hrequire : policy.requireSignature = true)
    (hvalidator : policy.signatureValidator = none) {token : Token} {verified : Verified}
    (hrun : (handler.verify policy token).outcome before = (.ok verified, after)) :
    token.hasSignature = true ∧
      ∃ voucher : policy.Voucher token, verified.key = some voucher.key := by
  unfold verify at hrun
  rw [hvalidator] at hrun
  simp only at hrun
  by_cases hsigned : token.hasSignature = true
  · rw [if_pos hsigned] at hrun
    exact ⟨hsigned, verifySigned_eq_ok hsuite hrun⟩
  · rw [if_neg hsigned, if_pos hrequire] at hrun
    exact nomatch (Prod.mk.inj hrun).1

/-- The token that an examination ends with is authentic. -/
theorem examine_authentic (hformat : handler.format = .compact)
    (hsuite : handler.suite = .standard) (hrequire : policy.requireSignature = true)
    (hvalidator : policy.signatureValidator = none) {remaining : Nat} {raw : String}
    {examined : Examined}
    (hrun : (handler.examine policy remaining raw).outcome before = (.ok examined, after)) :
    (∃ text, policy.Reaches raw text ∧
      Compact.parse false text = .ok examined.verified.token) ∧
    ∃ voucher : policy.Voucher examined.verified.token,
      examined.verified.key = some voucher.key := by
  obtain ⟨opened, _, _, _, _, hopen, hverify, _⟩ := examine_eq_ok hrun
  obtain ⟨hsigned, hvoucher⟩ := verify_eq_ok hsuite hrequire hvalidator hverify
  rw [verify_token hvalidator hverify]
  refine ⟨?_, hvoucher⟩
  rcases openToken_eq_ok hformat hsuite hopen with hunsigned | ⟨text, hreach, htext⟩
  · rw [hsigned] at hunsigned
    exact nomatch hunsigned
  · rw [hrequire] at htext
    exact ⟨text, hreach, htext⟩

end Standard

/-! ### The memory of the suite -/

variable {handler : Handler SchemeCache} {policy : Policy ρ} {before after : Session SchemeCache ρ}

theorem examine_standard {isLive : KeyHandle → Bool} {ring : KeyRing}
    (hsuite : handler.suite = .caching isLive) (hkeys : policy.OffersOnly ring.Has)
    (hcache : before.suite.Faithful ring) {remaining : Nat} {raw : String} {examined : Examined}
    (hrun : (handler.examine policy remaining raw).outcome before = (.ok examined, after)) :
    ∃ before' after' : Session Unit ρ,
      ((handler.withSuite .standard).examine policy remaining raw).outcome before' =
        (.ok examined, after') := by
  have hbeside : Session.FaithfulBeside ring before ⟨(), before.replay, []⟩ := hcache
  have hanswer := (examine_agree (CryptoSuite.agree_standard_of_caching hsuite) hkeys remaining
    raw).answer_eq hbeside
  rw [hrun] at hanswer
  exact ⟨_, _, Prod.ext hanswer.symm rfl⟩

/-- An accepted token is authentic. It was read from the text that was presented, or from a text
inside it that candidate keys opened layer by layer; a candidate key verified its signature under an
algorithm that the key supports; and the identity's claims are its claims, under the issuer of the
identity. -/
theorem validate_authentic {isLive : KeyHandle → Bool} {ring : KeyRing} {raw : String}
    {identity : Identity} (hformat : handler.format = .compact)
    (hsuite : handler.suite = .caching isLive) (hcache : before.suite.Faithful ring)
    (hkeys : policy.OffersOnly ring.Has) (hrequire : policy.requireSignature = true)
    (hvalidator : policy.signatureValidator = none)
    (hrun : (handler.validate policy raw).outcome before = (.ok identity, after)) :
    (∃ text, policy.Reaches raw text ∧ Compact.parse false text = .ok identity.token) ∧
    (∃ voucher : policy.Voucher identity.token, identity.signingKey = some voucher.key) ∧
    identity.claims = (handler.mapping.extract identity.token.claims Claim.localAuthority
      handler.settings.mapInboundClaims).map (·.withIssuer identity.issuer) ∧
    ∀ claim ∈ identity.claims,
      claim.issuer = identity.issuer ∧ claim.originalIssuer = identity.issuer := by
  obtain ⟨own, middle, halone, hidentity⟩ := validateWithin_eq_ok hrun
  obtain ⟨examined, _, hexamine, _, rfl⟩ := validateAlone_eq_ok halone
  obtain ⟨_, _, hstandard⟩ := examine_standard hsuite hkeys hcache hexamine
  obtain ⟨hreach, hvoucher⟩ := examine_authentic hformat rfl hrequire hvalidator hstandard
  have hclaims : identity.claims = (handler.mapping.extract identity.token.claims
      Claim.localAuthority handler.settings.mapInboundClaims).map
        (·.withIssuer identity.issuer) := by
    rw [hidentity, ClaimMapping.map_withIssuer_extract]
    rfl
  refine ⟨?_, ?_, hclaims, ?_⟩
  · rw [hidentity]
    exact hreach
  · rw [hidentity]
    exact hvoucher
  · intro claim hclaim
    rw [hclaims, List.mem_map] at hclaim
    obtain ⟨extracted, _, rfl⟩ := hclaim
    exact ⟨rfl, rfl⟩

/-! ### A signed token -/

def sampleKey : Key := { handle := 1, material := .secret (List.replicate 16 7) }

def samplePolicy : Policy Unit :=
  { Policy.lenient Instant.earliest with
    requireSignature := true
    signingKeys := [sampleKey] }

def sampleHandler : Handler SchemeCache := { suite := .caching fun _ => true }

def sampleSession : Session SchemeCache Unit := { suite := ∅, replay := () }

def sampleText : String := "eyJhbGciOiJIUzI1NiJ9.e30.W9O5T_GK_cDhDYwGwTVhGtX4pbZJ_YXl-Eme6zLJPT4"

set_option maxRecDepth 10000 in
theorem isOk_validate_sample :
    ((sampleHandler.validate samplePolicy sampleText).outcome sampleSession).1.isOk = true := by
  decide +kernel

theorem validate_authentic_sample :
    ∃ identity after,
      (sampleHandler.validate samplePolicy sampleText).outcome sampleSession =
        (.ok identity, after) ∧
      (∃ text, samplePolicy.Reaches sampleText text ∧
        Compact.parse false text = .ok identity.token) ∧
      ∃ voucher : samplePolicy.Voucher identity.token, identity.signingKey = some voucher.key := by
  have hok := isOk_validate_sample
  rcases hrun : (sampleHandler.validate samplePolicy sampleText).outcome sampleSession with
    ⟨fault | identity, after⟩
  · rw [hrun] at hok
    exact nomatch hok
  have hkeys : samplePolicy.OffersOnly (KeyRing.Has fun _ => sampleKey.material) := by
    apply Policy.offersOnly_of_keys
    · intro use
      cases use <;> rfl
    · intro use key hkey
      cases use with
      | signing =>
          obtain rfl := List.mem_singleton.1 hkey
          rfl
      | decryption => exact absurd hkey List.not_mem_nil
  obtain ⟨hreach, hvoucher, _⟩ := validate_authentic rfl rfl
    (SchemeCache.faithful_empty _) hkeys rfl rfl hrun
  exact ⟨identity, after, rfl, hreach, hvoucher⟩

end Handler

end SecurityToken
