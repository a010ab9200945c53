import SecurityToken.Proofs.Validation.Concealment

/-!
# The order of the candidate keys

The search for the key of a token ends early in two ways. One is a key that fits. The other is an
algorithm that has no scheme for any key, and that is known from the first key as well as from any
other. So the order of the keys is of no consequence, nor are the ids and thumbprints by which a
header may put some of them first. Whether a signature is accepted, and else with which fault it is
refused, is computed from the materials of the keys alone. The fault of a sealed token that no key
opens is computed from the keys in whatever order.
-/

namespace SecurityToken

variable {ρ : Type}

/-- Keys of the same materials, in another order and under other names. -/
def Key.Rearranged (keys keys' : List Key) : Prop :=
  (keys.map Key.material).Perm (keys'.map Key.material)

theorem Key.rearranged_map {keys keys' : List Key} (hperm : keys.Perm keys') {rename : Key → Key}
    (hrename : ∀ key, (rename key).material = key.material) :
    Key.Rearranged keys (keys'.map rename) := by
  unfold Rearranged
  rw [List.map_map]
  exact (hperm.map _).trans (List.Perm.of_eq (List.map_congr_left fun key _ => (hrename key).symm))

/-! ### What a material verifies -/

namespace KeyMaterial

variable {material : KeyMaterial} {algorithm : SignatureAlgorithm} {token : Token}

/-- The scheme that a material makes to verify signatures with. -/
def verifier? (material : KeyMaterial) (algorithm : SignatureAlgorithm) : Option SignatureScheme :=
  (({ handle := 0, material } : Key).signatureScheme algorithm false).toOption

def verifies (material : KeyMaterial) (algorithm : SignatureAlgorithm) (token : Token) : Bool :=
  (material.verifier? algorithm).any fun scheme =>
    scheme.verify (Bytes.ofText (Compact.signingInput token.raw)) token.signature

end KeyMaterial

namespace Key

variable {key : Key} {algorithm : SignatureAlgorithm} {token : Token}

theorem toOption_signatureScheme (key : Key) (algorithm : SignatureAlgorithm) :
    (key.signatureScheme algorithm false).toOption = key.material.verifier? algorithm := by
  ext scheme
  unfold KeyMaterial.verifier?
  rw [except_toOption_eq_some, except_toOption_eq_some, signatureScheme_eq_ok,
    signatureScheme_eq_ok]

theorem isOk_signatureScheme (key : Key) (algorithm : SignatureAlgorithm) :
    (key.signatureScheme algorithm false).isOk = (key.material.verifier? algorithm).isSome := by
  rw [← toOption_signatureScheme]
  cases key.signatureScheme algorithm false <;> rfl

theorem verifies_iff :
    key.Verifies algorithm token ↔ key.material.verifies algorithm token = true := by
  unfold Verifies KeyMaterial.verifies
  simp only [← toOption_signatureScheme, Option.any_eq_true, except_toOption_eq_some]

end Key

/-! ### The verdict on a signature -/

namespace Token

variable {token : Token} {required : Bool}

def unserved (algorithm : String) : Fault :=
  (Fault.new .unsupportedAlgorithm ("no signature provider for '" ++ algorithm ++ "'"))
    |>.withContext Detail.algorithm algorithm

def unverified (algorithm : String) (tried : Nat) : Fault :=
  (Fault.new .invalidSignature "signature verification failed")
    |>.withContext Detail.algorithm algorithm
    |>.withContext Detail.keysTried (toString tried)

/-- The verdict of a search for a key that verifies the signature under an algorithm. -/
def searchVerdict (token : Token) (algorithm : String) (materials : List KeyMaterial) :
    Except Fault Unit :=
  match SignatureAlgorithm.ofName algorithm with
  | .error _ => .error (unserved algorithm)
  | .ok known =>
      if materials.any fun material => material.verifies known token then .ok ()
      else .error (unverified algorithm
        (materials.countP fun material => (material.verifier? known).isSome))

/-- The verdict on the signature of a token, which is required or not, under keys of the given
materials. -/
def verdict (token : Token) (required : Bool) (materials : List KeyMaterial) :
    Except Fault Unit :=
  if token.hasSignature then
    if materials.isEmpty then
      .error ((Fault.new .noSignatureKeyAvailable "no key available to verify the signature")
        |>.withContext Detail.algorithm (token.header.algorithm?.getD "")
        |>.withContext? Detail.keyId token.header.keyId?)
    else token.searchVerdict (token.header.algorithm?.getD "") materials
  else if required then .error (.new .signatureRequiredButMissing "token is not signed")
  else .ok ()

theorem verdict_perm {materials materials' : List KeyMaterial} (hperm : materials.Perm materials') :
    token.verdict required materials = token.verdict required materials' := by
  unfold verdict searchVerdict
  simp only [hperm.isEmpty_eq, hperm.any_eq, hperm.countP_eq]

theorem any_verifies_iff {algorithm : SignatureAlgorithm} {keys : List Key} :
    (keys.map Key.material).any (fun material => material.verifies algorithm token) = true ↔
      ∃ key ∈ keys, key.Verifies algorithm token := by
  simp only [List.any_map, List.any_eq_true, Key.verifies_iff, Function.comp_apply]

/-- A signature is accepted just if a key verifies it under the algorithm of the header. -/
theorem verdict_isOk_iff (hsigned : token.hasSignature = true) (keys : List Key) :
    (token.verdict required (keys.map Key.material)).isOk = true ↔
      ∃ key ∈ keys, ∃ algorithm : SignatureAlgorithm,
        token.header.algorithm? = some algorithm.name ∧ key.Verifies algorithm token := by
  unfold verdict
  rw [if_pos hsigned]
  constructor
  · intro haccepted
    split at haccepted
    · cases haccepted
    unfold searchVerdict at haccepted
    cases hname : SignatureAlgorithm.ofName (token.header.algorithm?.getD "") with
    | error fault =>
        rw [hname] at haccepted
        cases haccepted
    | ok algorithm =>
        simp only [hname] at haccepted
        split at haccepted
        next hany =>
          obtain ⟨key, hkey, hverifies⟩ := any_verifies_iff.1 hany
          have hgiven := SignatureAlgorithm.name_of_ofName hname
          exact ⟨key, hkey, algorithm, SignatureAlgorithm.eq_some_of_getD hgiven, hverifies⟩
        · cases haccepted
  · rintro ⟨key, hkey, algorithm, halgorithm, hverifies⟩
    have hsome : ¬(keys.map Key.material).isEmpty = true :=
      not_isEmpty_of_mem (List.mem_map_of_mem hkey)
    rw [if_neg hsome, halgorithm, Option.getD_some]
    unfold searchVerdict
    simp only [SignatureAlgorithm.ofName_name, if_pos (any_verifies_iff.2 ⟨key, hkey, hverifies⟩)]
    rfl

end Token

namespace Decryption

/-- The fault of a token that none of the keys opens, also where it lacks what opening needs. -/
def sealedFault (token : Token) (keys : List Key) : Fault :=
  match token.header.algorithm?, token.header.encryption?, token.content? with
  | some algorithm, some encryption, some _ => refusal algorithm encryption keys
  | _, _, _ => .malformed "encrypted token is missing 'alg', 'enc' or parts"

theorem sealedFault_perm {keys keys' : List Key} (hperm : keys.Perm keys') (token : Token) :
    sealedFault token keys = sealedFault token keys' := by
  unfold sealedFault
  simp only [refusal_perm hperm]

end Decryption

namespace Handler

section Standard

variable {handler : Handler Unit} {policy : Policy ρ} {before : Session Unit ρ} {token : Token}
  {algorithm : SignatureAlgorithm}

/-- By induction on the keys: none of them is what the search ends at, and those that get a scheme
count. -/
theorem answer_verifyWith_of_not_verifies (hsuite : handler.suite = .standard) {keys : List Key}
    (hnone : ∀ key ∈ keys, ¬key.Verifies algorithm token) (tried : Nat) :
    ((handler.verifyWith algorithm.name token tried keys).outcome before).1 =
      .error (Token.unverified algorithm.name
        (tried + keys.countP fun key => (key.signatureScheme algorithm false).isOk)) := by
  induction keys generalizing tried before with
  | nil => rfl
  | cons key rest ih =>
      have hrest : ∀ other ∈ rest, ¬other.Verifies algorithm token :=
        fun other hother => hnone other (List.mem_cons_of_mem _ hother)
      rw [outcome_verifyWith_cons hsuite, List.countP_cons]
      cases hscheme : key.signatureScheme algorithm false with
      | error fault => exact ih hrest tried
      | ok scheme =>
          have hverify : ¬scheme.verify (Bytes.ofText (Compact.signingInput token.raw))
              token.signature = true :=
            fun hverify => hnone key List.mem_cons_self ⟨scheme, hscheme, hverify⟩
          have hcount (count : Nat) : tried + 1 + count = tried + (count + 1) := by
            omega
          simp only [if_neg hverify]
          rw [ih hrest (tried + 1), hcount]
          rfl

theorem answer_verifyWith_of_unknown (hsuite : handler.suite = .standard) {name : String}
    {fault : CryptoFault} (hname : SignatureAlgorithm.ofName name = .error fault) (key : Key)
    (rest : List Key) (tried : Nat) :
    ((handler.verifyWith name token tried (key :: rest)).outcome before).1 =
      .error (Token.unserved name) := by
  have hanswer : ((CryptoSuite.standard.signature key name false).run ()).1 = .error fault := by
    change (SignatureAlgorithm.ofName name >>= fun found => key.signatureScheme found false) = _
    rw [hname]
    rfl
  have hunsupported : fault.isUnsupported = true := SignatureAlgorithm.isUnsupported_of_error hname
  rw [verifyWith, Run.outcome_bind, Run.outcome_ask, hsuite]
  simp only [hanswer, if_pos hunsupported]
  rfl

theorem answer_verifyWith (hsuite : handler.suite = .standard) {name : String} {keys : List Key}
    (hsome : keys ≠ []) :
    ((handler.verifyWith name token 0 keys).outcome before).1.map (fun _ => ()) =
      token.searchVerdict name (keys.map Key.material) := by
  unfold Token.searchVerdict
  cases hname : SignatureAlgorithm.ofName name with
  | error fault =>
      obtain ⟨key, rest, rfl⟩ := List.exists_cons_of_ne_nil hsome
      rw [answer_verifyWith_of_unknown hsuite hname]
      rfl
  | ok known =>
      obtain rfl := SignatureAlgorithm.name_of_ofName hname
      by_cases hverifies : ∃ key ∈ keys, key.Verifies known token
      · obtain ⟨found, _, after, hrun⟩ : ∃ found ∈ keys, ∃ after,
            (handler.verifyWith known.name token 0 keys).outcome before = (.ok found, after) :=
          verifyWith_standard_of_verifies hsuite hverifies 0
        simp only [if_pos (Token.any_verifies_iff.2 hverifies), hrun]
        rfl
      · have hnone : ∀ key ∈ keys, ¬key.Verifies known token :=
          fun key hkey hverify => hverifies ⟨key, hkey, hverify⟩
        simp only [if_neg fun hany => hverifies (Token.any_verifies_iff.1 hany),
          answer_verifyWith_of_not_verifies hsuite hnone, List.countP_map, Nat.zero_add,
          Key.isOk_signatureScheme]
        rfl

theorem answer_verify (hsuite : handler.suite = .standard)
    (hvalidator : policy.signatureValidator = none)
    (hkeyValidator : policy.signingKeyValidator = none)
    (hresolver : policy.signingKeyResolver = none) :
    ((handler.verify policy token).outcome before).1.map (fun _ => ()) =
      token.verdict policy.requireSignature (policy.signingKeys.map Key.material) := by
  have hgiven : policy.resolver? .signing = none := hresolver
  have hperm : (policy.candidates .signing token.raw token.header).Perm policy.signingKeys :=
    Policy.candidates_perm hgiven token.raw token.header
  -- The search goes through the candidates, which the header has put in an order of their own.
  rw [← Token.verdict_perm (hperm.map Key.material)]
  unfold verify Token.verdict
  rw [hvalidator]
  by_cases hsigned : token.hasSignature = true
  · simp only [if_pos hsigned, List.isEmpty_map]
    unfold verifySigned
    simp only [candidates_eq_pure hgiven, pure_bind]
    by_cases hempty : (policy.candidates .signing token.raw token.header).isEmpty = true
    · simp only [if_pos hempty]
      rfl
    · simp only [if_neg hempty]
      rw [← answer_verifyWith hsuite fun hnil => hempty (List.isEmpty_iff.2 hnil), Run.outcome_bind]
      rcases (handler.verifyWith (token.header.algorithm?.getD "") token 0
        (policy.candidates .signing token.raw token.header)).outcome before with ⟨_ | key, after⟩
      · rfl
      · simp only [Run.outcome_bind, outcome_checkSigningKey hkeyValidator]
        rfl
  · simp only [if_neg hsigned]
    split <;> rfl

theorem answer_plaintext (hsuite : handler.suite = .standard)
    (hresolver : policy.decryptionKeyResolver = none)
    (hsealed : ∀ key ∈ policy.decryptionKeys, ¬token.OpenedBy key) :
    ((handler.plaintext policy token).outcome before).1 =
      .error (Decryption.sealedFault token policy.decryptionKeys) := by
  unfold Decryption.sealedFault
  split
  next algorithm encryption content halgorithm hencryption hcontent =>
    exact answer_plaintext_of_sealed hsuite hresolver halgorithm hencryption hcontent hsealed
  next hmissing =>
    unfold plaintext
    split
    next algorithm encryption content halgorithm hencryption hcontent =>
      exact absurd hcontent (hmissing _ _ _ halgorithm hencryption)
    next => rfl

end Standard

/-! ### Under a suite that remembers -/

variable {handler : Handler SchemeCache} {policy : Policy ρ} {isLive : KeyHandle → Bool}
  {ring : KeyRing} {before start : Session SchemeCache ρ}

theorem verify_answer_eq (hsuite : handler.suite = .caching isLive)
    (hresolver : policy.signingKeyResolver = none) (hkeys : ∀ key ∈ policy.signingKeys, ring.Has key)
    (hcache : before.suite.Faithful ring) (token : Token) :
    ((handler.verify policy token).outcome before).1 =
      (((handler.withSuite .standard).verify policy token).outcome ⟨(), before.replay, []⟩).1 := by
  have hgiven : policy.resolver? .signing = none := hresolver
  exact (verify_agree (CryptoSuite.agree_standard_of_caching hsuite) token fun key hkey =>
    hkeys key ((Policy.mem_candidates hgiven).1 hkey)).answer_eq hcache

/-- The check of a signature comes to its verdict, whatever is remembered of the keys. -/
theorem answer_verify_caching (hsuite : handler.suite = .caching isLive)
    (hvalidator : policy.signatureValidator = none)
    (hkeyValidator : policy.signingKeyValidator = none)
    (hresolver : policy.signingKeyResolver = none) (hkeys : ∀ key ∈ policy.signingKeys, ring.Has key)
    (hcache : before.suite.Faithful ring) (token : Token) :
    ((handler.verify policy token).outcome before).1.map (fun _ => ()) =
      token.verdict policy.requireSignature (policy.signingKeys.map Key.material) := by
  rw [verify_answer_eq hsuite hresolver hkeys hcache]
  exact answer_verify rfl hvalidator hkeyValidator hresolver

theorem answer_decrypt_caching (hsuite : handler.suite = .caching isLive)
    (hresolver : policy.decryptionKeyResolver = none)
    (hkeys : ∀ key ∈ policy.decryptionKeys, ring.Has key) (hcache : before.suite.Faithful ring)
    {token : Token} (hsealed : ∀ key ∈ policy.decryptionKeys, ¬token.OpenedBy key)
    (remaining : Nat) :
    ((handler.decrypt policy remaining token).outcome before).1 =
      .error (Decryption.sealedFault token policy.decryptionKeys) := by
  have hanswer : ((handler.plaintext policy token).outcome before).1 =
      .error (Decryption.sealedFault token policy.decryptionKeys) := by
    rw [plaintext_answer_eq hsuite hresolver hkeys hcache]
    exact answer_plaintext rfl hresolver hsealed
  rcases hplaintext : (handler.plaintext policy token).outcome before with ⟨answer, after⟩
  rw [hplaintext] at hanswer
  obtain rfl : answer = _ := hanswer
  exact congrArg Prod.fst (decrypt_of_plaintext_error hplaintext)

/-- The keys of a policy in another order, those for signatures under other names as well, lead to
the same verdict on a signature, and to the same fault of a token that none of them opens. -/
theorem keys_rearranged (hsuite : handler.suite = .caching isLive)
    (hresolvers : ∀ use, policy.resolver? use = none)
    (hvalidator : policy.signatureValidator = none)
    (hkeyValidator : policy.signingKeyValidator = none)
    (hkeys : ∀ use, ∀ key ∈ policy.keys use, ring.Has key) (hcache : before.suite.Faithful ring)
    (token : Token) :
    (∀ (keys : List Key) (start : Session SchemeCache ρ), Key.Rearranged policy.signingKeys keys →
      (∀ key ∈ keys, ring.Has key) → start.suite.Faithful ring →
      ((handler.verify { policy with signingKeys := keys } token).outcome start).1.map
          (fun _ => ()) =
        ((handler.verify policy token).outcome before).1.map fun _ => ()) ∧
    (token.hasSignature = true →
      (((handler.verify policy token).outcome before).1.isOk = true ↔
        ∃ key ∈ policy.signingKeys, ∃ algorithm : SignatureAlgorithm,
          token.header.algorithm? = some algorithm.name ∧ key.Verifies algorithm token)) ∧
    ((∀ key ∈ policy.decryptionKeys, ¬token.OpenedBy key) →
      ∃ fault, ∀ (keys : List Key) (start : Session SchemeCache ρ) (remaining : Nat),
        policy.decryptionKeys.Perm keys → start.suite.Faithful ring →
        ((handler.decrypt { policy with decryptionKeys := keys } remaining token).outcome start).1 =
          .error fault) := by
  have hverdict := answer_verify_caching hsuite hvalidator hkeyValidator (hresolvers .signing)
    (hkeys .signing) hcache token
  refine ⟨?_, ?_, ?_⟩
  · intro keys start hrearranged hring hstart
    have hunaided : ({ policy with signingKeys := keys } : Policy ρ).signatureValidator = none :=
      hvalidator
    rw [hverdict, Token.verdict_perm hrearranged]
    exact answer_verify_caching hsuite hunaided hkeyValidator (hresolvers .signing) hring hstart
      token
  · intro hsigned
    rw [← Token.verdict_isOk_iff hsigned, ← hverdict]
    cases ((handler.verify policy token).outcome before).1 <;> rfl
  · intro hsealed
    refine ⟨Decryption.sealedFault token policy.decryptionKeys, ?_⟩
    intro keys start remaining hperm hstart
    have hresolver : ({ policy with decryptionKeys := keys } : Policy ρ).decryptionKeyResolver =
        none := hresolvers .decryption
    rw [Decryption.sealedFault_perm hperm]
    exact answer_decrypt_caching hsuite hresolver
      (fun key hkey => hkeys .decryption key (hperm.mem_iff.2 hkey)) hstart
      (fun key hkey => hsealed key (hperm.mem_iff.2 hkey)) remaining

/-! ### Two keys, the one named by the header and the other fit -/

def firstKey : Key :=
  { handle := 1, keyId := some "first", material := .secret (List.replicate 16 7) }

def secondKey : Key := { handle := 2, material := .secret (List.replicate 16 9) }

def twoKeyRing : KeyRing
  | 1 => firstKey.material
  | _ => secondKey.material

def twoKeyPolicy : Policy Unit :=
  { Policy.standard Instant.earliest with
    signingKeys := [firstKey, secondKey]
    decryptionKeys := [firstKey, secondKey] }

def secondToken : Token :=
  .signed "head.payload.signature"
    ((Header.empty.insertText "alg" "HS256").insertText "kid" "first") .empty
    (SignatureAlgorithm.hs256.digest.hmac (List.replicate 16 9)
      (Bytes.ofText (Compact.signingInput "head.payload.signature")))

def sealedToken : Token :=
  .encrypted "head" ((Header.empty.insertText "alg" "dir").insertText "enc" "A128GCM")
    ⟨[0], List.replicate 12 0, [], List.replicate 16 0⟩ none

theorem verifies_secondToken : secondKey.Verifies .hs256 secondToken := by
  refine ⟨_, Key.signatureScheme_eq_ok.2 (.secret rfl (by decide)), ?_⟩
  simp only [secondToken, Token.raw, Token.signature, beq_self_eq_true]

theorem hasSignature_secondToken : secondToken.hasSignature = true := by
  unfold Token.hasSignature secondToken Token.signature
  rw [Bool.not_eq_true', List.isEmpty_eq_false_iff]
  apply List.ne_nil_of_length_pos
  rw [Digest.length_hmac]
  exact Digest.size_pos _

theorem not_openedBy_sealedToken :
    ∀ key ∈ twoKeyPolicy.decryptionKeys, ¬sealedToken.OpenedBy key := by
  decide +kernel

def renamed (key : Key) : Key := { key with keyId := some "other" }

/-- The header of the one token names a key that did not sign it, and the other token is opened by
neither. -/
theorem keys_rearranged_twoKeys :
    (((concealedHandler.verify
        { twoKeyPolicy with signingKeys := [secondKey, firstKey].map renamed }
        secondToken).outcome concealedSession).1.map fun _ => ()) = .ok () ∧
    ∃ fault, ∀ keys ∈ [[firstKey, secondKey], [secondKey, firstKey]],
      ((concealedHandler.decrypt { twoKeyPolicy with decryptionKeys := keys } 2
        sealedToken).outcome concealedSession).1 = .error fault := by
  have hkeys : ∀ use, ∀ key ∈ twoKeyPolicy.keys use, twoKeyRing.Has key := by
    intro use key hkey
    have hmem : key ∈ [firstKey, secondKey] := by cases use <;> exact hkey
    rcases List.mem_pair.1 hmem with rfl | rfl
    · rfl
    · rfl
  have hswap : [firstKey, secondKey].Perm [secondKey, firstKey] := List.Perm.swap _ _ _
  have hgiven : ∀ use, twoKeyPolicy.resolver? use = none := by
    intro use
    cases use <;> rfl
  have hfaithful : concealedSession.suite.Faithful twoKeyRing := SchemeCache.faithful_empty _
  have hsuite : concealedHandler.suite = .caching fun _ => true := rfl
  constructor
  · obtain ⟨hverdict, haccepted, _⟩ :=
      keys_rearranged hsuite hgiven rfl rfl hkeys hfaithful secondToken
    have hrearranged : Key.Rearranged twoKeyPolicy.signingKeys
        ([secondKey, firstKey].map renamed) := Key.rearranged_map hswap fun _ => rfl
    have hrenamed : ∀ key ∈ [secondKey, firstKey].map renamed, twoKeyRing.Has key := by
      intro key hkey
      rcases List.mem_pair.1 hkey with rfl | rfl
      · rfl
      · rfl
    rw [hverdict _ concealedSession hrearranged hrenamed hfaithful]
    have hok := (haccepted hasSignature_secondToken).2
      ⟨secondKey, List.mem_cons_of_mem _ List.mem_cons_self, .hs256, by decide,
        verifies_secondToken⟩
    cases hanswer : ((concealedHandler.verify twoKeyPolicy secondToken).outcome
      concealedSession).1 with
    | error fault =>
        rw [hanswer] at hok
        cases hok
    | ok verified => rfl
  · obtain ⟨_, _, hsealed⟩ := keys_rearranged hsuite hgiven rfl rfl hkeys hfaithful sealedToken
    obtain ⟨fault, hfault⟩ := hsealed not_openedBy_sealedToken
    refine ⟨fault, fun keys hkeys => hfault keys concealedSession 2 ?_ hfaithful⟩
    rcases List.mem_pair.1 hkeys with rfl | rfl
    · exact List.Perm.refl _
    · exact hswap

end Handler

end SecurityToken
