import Mathlib.NumberTheory.LucasLehmer
import SecurityToken.Proofs.Crypto.RsaRecovery
import SecurityToken.Proofs.Handler.Acceptance
import SecurityToken.Proofs.Validation.Transparency

/-!
# An encrypted token is validated as the token inside

The maker of an encrypted token seals the text of a signed one, and the judge who has the key comes
to that very text: the header names the algorithms that the maker used, its encoding is
authenticated along with the content, the content key comes out as it was put in, and so does the
content. The text inside is made of segments and dots, so it is not taken for a bare object, nor is
it encrypted once more. From there the validation is that of the text inside.
-/

namespace SecurityToken

variable {ρ : Type}

/-- A written token begins with no brace, for there is none in it. -/
theorem Compact.isCore_writeSigned (header : Header) (claims : ClaimSet) (signature : Bytes) :
    IsCore (writeSigned (encodeParts header claims) signature) where
  notFive := by
    simp [segments_writeSigned]
  notObject := by
    intro hobject
    rw [Decryption.isObject, beq_iff_eq] at hobject
    have hmem := (List.dropWhile_sublist _).subset (List.mem_of_mem_head? hobject)
    rw [← join_segments (writeSigned _ _), segments_writeSigned] at hmem
    rcases eq_dot_or_mem_of_mem_join hmem with hdot | ⟨part, hpart, hin⟩
    · exact absurd hdot (by decide)
    · obtain ⟨bytes, _, rfl⟩ := List.mem_map.1 hpart
      exact absurd (List.all_eq_true.1 (all_isSymbol_encodeSegment bytes) '{' hin) (by decide)

theorem Compact.writeSigned_ne_empty (header : Header) (claims : ClaimSet) (signature : Bytes) :
    writeSigned (encodeParts header claims) signature ≠ "" := by
  intro hempty
  have hcount := congrArg List.length (segments_writeSigned header claims signature)
  rw [hempty] at hcount
  cases hcount

namespace Handler

open Creation

variable {handler : Handler SchemeCache} {isLive : KeyHandle → Bool} {ring : KeyRing}
  {entropy : Entropy} {now : Instant} {draft : Draft} {claims : ClaimSet}
  {credential : EncryptingCredential} {opener : Key} {before after : Session SchemeCache ρ}
  {token : Token}

theorem faithful_sign (hsuite : handler.suite = .caching isLive)
    (hcache : before.suite.Faithful ring)
    (hsigner : ∀ signing ∈ draft.signing, ring.Has signing.key)
    (hrun : (handler.sign entropy draft claims).outcome before = (.ok token, after)) :
    after.suite.Faithful ring := by
  obtain ⟨signature, hsignature, _⟩ := outcome_sign_eq_ok.1 hrun
  cases hsigning : draft.signing with
  | none =>
      unfold Handler.signature at hsignature
      rw [hsigning] at hsignature
      obtain ⟨_, rfl⟩ := outcome_pure_eq_ok.1 hsignature
      exact hcache
  | some signing =>
      exact (signature_eq_ok hsuite hcache hsigning (hsigner signing hsigning) hsignature).1

/-- What is signed for a draft is what the draft comes to when it is not to be encrypted. -/
theorem outcome_create_of_sign {now : Instant}
    (hclaims : draft.claimSet handler.mapping handler.settings now = .ok claims)
    (hrun : (handler.sign entropy draft claims).outcome before = (.ok token, after)) :
    outcome (handler.create entropy now { draft with encrypting := none }) before =
      (.ok token, after) := by
  have hpassed : (handler.signAndEncrypt entropy { draft with encrypting := none } claims).outcome
      before = (.ok token, after) :=
    Run.outcome_bind_eq_ok.2 ⟨token, after, hrun, rfl⟩
  exact outcome_create_eq_ok.2 ⟨claims, hclaims, hpassed⟩

theorem core_of_sign
    (hrun : (handler.sign entropy draft claims).outcome before = (.ok token, after)) :
    Compact.IsCore token.raw ∧ token.raw ≠ "" ∧ token.innermost = token := by
  obtain ⟨signature, _, rfl⟩ := outcome_sign_eq_ok.1 hrun
  exact ⟨Compact.isCore_writeSigned _ _ _, Compact.writeSigned_ne_empty _ _ _, rfl⟩

/-- The schemes of the maker are those of the algorithms whose names it writes. -/
theorem named_of_answers (hsuite : handler.suite = .caching isLive)
    (hcache : before.suite.Faithful ring) {key : Key} (hkey : ring.Has key)
    {encryption algorithm : String} {cipher : ContentCipher} {scheme : KeyScheme}
    (hcipher : ((handler.suite.content encryption).run before.suite).1 = .ok cipher)
    (hscheme : ((handler.suite.keyManagement key algorithm).run
      ((handler.suite.content encryption).run before.suite).2).1 = .ok scheme) :
    (∃ contentAlgorithm : ContentAlgorithm, encryption = contentAlgorithm.name ∧
      ContentCipher.ofAlgorithm contentAlgorithm = .ok cipher) ∧
    ∃ keyAlgorithm : KeyAlgorithm, algorithm = keyAlgorithm.name ∧
      key.keyScheme keyAlgorithm = .ok scheme := by
  rw [hsuite] at hcipher hscheme
  obtain ⟨hcontent, hcache'⟩ := hcache.content encryption
  obtain ⟨hkeyManagement, _⟩ := hcache'.keyManagement isLive hkey algorithm
  exact ⟨CryptoSuite.standard_content_eq_ok (hcontent.symm.trans hcipher),
    CryptoSuite.standard_keyManagement_eq_ok (hkeyManagement.symm.trans hscheme)⟩

/-- What the maker of an encrypted token did is undone under a policy with the key. -/
theorem layer_of_encrypt {ρ' : Type} {policy : Policy ρ'} (hsuite : handler.suite = .caching isLive)
    (hcache : before.suite.Faithful ring) (hkey : ring.Has credential.key)
    (hopener : opener.Opens credential.key)
    (hrsa : ∀ pair, opener.material = .rsaPair pair → pair.Unwraps)
    (hopens : policy.OpensWith opener) {inner : Token} (hinner : inner.raw ≠ "")
    (hrun : (handler.encrypt entropy credential inner).outcome before = (.ok token, after)) :
    Nonempty (policy.Layer token.raw inner.raw) ∧ token.isEncrypted = true ∧
      token.innermost = inner.innermost := by
  have hreads := parse_of_encrypt hsuite hcache.ciphers hinner hrun (!policy.requireSignature)
  obtain ⟨header, encryptedKey, contentKey, cipher, scheme, sealing, hheader, hcipher, hscheme,
    hcontentKey, hwrap, hsealing, rfl⟩ := encrypt_eq_ok hrun
  obtain ⟨⟨contentAlgorithm, hcontentName, hbuilt⟩, keyAlgorithm, hkeyName, hserves⟩ :=
    named_of_answers hsuite hcache hkey hcipher hscheme
  rw [hcontentKey] at hwrap
  obtain ⟨opening, hopening, hunwrap⟩ := hopener.unwrap_of_wrap hrsa hserves hwrap
  rw [← hcontentKey] at hunwrap
  obtain ⟨halgorithm, hencryption⟩ := text?_encryptedHeader credential.key
    (handler.algorithmName credential.keyAlgorithm)
    (handler.algorithmName credential.contentAlgorithm)
  rw [← hheader] at halgorithm hencryption
  have hsegments := Compact.segments_writeEncrypted header
    ⟨encryptedKey, sealing.iv, sealing.ciphertext, sealing.tag⟩
  refine ⟨⟨{
    header
    content := ⟨encryptedKey, sealing.iv, sealing.ciphertext, sealing.tag⟩
    reads := hreads
    fiveSegments := by
      rw [Token.raw, hsegments]
      rfl
    key := opener
    candidate := by
      rw [hopens.candidates_eq]
      exact List.mem_singleton_self opener
    keyAlgorithm
    namesKeyAlgorithm := halgorithm.trans (congrArg some hkeyName)
    scheme := opening
    serves := hopening
    contentKey
    unwraps := hunwrap
    contentAlgorithm
    namesContentAlgorithm := hencryption.trans (congrArg some hcontentName)
    cipher
    ciphers := hbuilt
    decrypts := by
      rw [Token.raw, Compact.segment, hsegments]
      exact ContentCipher.decrypt_encrypt hbuilt hsealing }⟩, rfl, rfl⟩

/-- A created token is encrypted around the token that is signed for the same draft, and a policy
with the key comes from the text of the one to that of the other. The two texts are answered alike:
both with an identity, of the same token, claims, issuer, key and actor, or both with a fault of one
kind. -/
theorem validate_encrypted {ρ' : Type} {policy : Policy ρ'} {name : String}
    (hformat : handler.format = { TokenFormat.compact with name })
    (hsuite : handler.suite = .caching isLive) (hcache : before.suite.Faithful ring)
    (hsigner : ∀ signing ∈ draft.signing, ring.Has signing.key)
    (hencrypting : draft.encrypting = some credential) (hkey : ring.Has credential.key)
    (hcreate : outcome (handler.create entropy now draft) before = (.ok token, after))
    (hopener : opener.Opens credential.key)
    (hrsa : ∀ pair, opener.material = .rsaPair pair → pair.Unwraps)
    (hopens : policy.OpensWith opener)
    (hoff : policy.detectReplay = false ∨ policy.replayStore = none)
    (hkeys : policy.AlwaysOffersOnly ring.Has) (hdepth : 0 < handler.settings.maximumNestingDepth)
    (hsize : token.raw.utf8ByteSize ≤
      policy.maximumTokenSize.getD handler.settings.maximumTokenSize)
    (hsize' : token.innermost.raw.utf8ByteSize ≤
      policy.maximumTokenSize.getD handler.settings.maximumTokenSize)
    {left right : Session SchemeCache ρ'} (hleft : left.suite.Faithful ring)
    (hright : right.suite.Faithful ring) (hrecord : left.replay = right.replay) :
    token.isEncrypted = true ∧
      (∃ middle, outcome (handler.create entropy now { draft with encrypting := none }) before =
        (.ok token.innermost, middle)) ∧
      Nonempty (policy.Layer token.raw token.innermost.raw) ∧
      AnswersAlike Identity.Matches ((handler.validate policy token.raw).outcome left).1
        ((handler.validate policy token.innermost.raw).outcome right).1 := by
  obtain ⟨claims, hclaims, hrun⟩ := outcome_create_eq_ok.1 hcreate
  obtain ⟨inner, middle, hsign, hrun⟩ := Run.outcome_bind_eq_ok.1 hrun
  rw [hencrypting] at hrun
  have hmiddle := faithful_sign hsuite hcache hsigner hsign
  obtain ⟨hcore, hinner, hself⟩ := core_of_sign hsign
  obtain ⟨⟨layer⟩, hencrypted, hinnermost⟩ :=
    layer_of_encrypt hsuite hmiddle hkey hopener hrsa hopens hinner hrun
  rw [hinnermost, hself] at hsize' ⊢
  refine ⟨hencrypted, ⟨middle, outcome_create_of_sign hclaims hsign⟩, ⟨layer⟩, ?_⟩
  obtain ⟨remaining, hremaining⟩ := Nat.exists_eq_add_one_of_ne_zero hdepth.ne'
  have hparallel := @validateWithin_parallel ρ' (handler.withSuite .standard) policy opener _ _ name
    rfl hopens layer hformat hcore hsize hsize' hoff remaining
  rw [validate_standard hsuite hkeys hleft token.raw [],
    validate_standard hsuite hkeys hright inner.raw [], hrecord]
  unfold validate
  rw [show (handler.withSuite .standard).settings = handler.settings from rfl, hremaining]
  exact (hparallel rfl).1

/-! ### A signed token, encrypted for the holder of an RSA key -/

/-- A small key: its primes are known by their form. -/
def mersennePair : Rsa.PrivateKey where
  publicKey := {
    modulus := mersenne 107 * mersenne 127
    exponent := 65537
    modulus_odd := by decide +kernel
    exponent_odd := by decide
    two_le_exponent := by decide
    exponent_lt := by decide
    exponent_lt_modulus := by decide +kernel }
  exponent := 1344817444321764797984983022739468219102312296809690742034819763220963
  first := mersenne 107
  second := mersenne 127
  first_mul_second := rfl
  inverse_first := by decide +kernel
  inverse_second := by decide +kernel

theorem unwraps_mersennePair : mersennePair.Unwraps :=
  Rsa.PrivateKey.unwraps_of_prime (lucas_lehmer_sufficiency 107 (by norm_num) (by norm_num))
    (lucas_lehmer_sufficiency 127 (by norm_num) (by norm_num)) (by decide +kernel)

def recipient : Key where
  handle := 2
  material := .rsaPair mersennePair

def encryptedDraft : Draft :=
  { signedDraft with
    encrypting := some ⟨{ recipient with handle := 3, material := recipient.material.toPublic },
      "RSA1_5", "A128GCM"⟩ }

def openingPolicy (limit : Nat) : Policy Unit where
  issuer := some "issuer"
  audience := some "second"
  signingKeys := [signer]
  decryptionKeys := [recipient]
  maximumTokenSize := some limit
  now := default

theorem selfContained_openingPolicy (limit : Nat) : (openingPolicy limit).SelfContained :=
  ⟨rfl, rfl, rfl, rfl, rfl, rfl, rfl, rfl, rfl⟩

set_option maxRecDepth 10000 in
theorem isOk_create_encryptedDraft :
    (outcome (signedHandler.create ⟨fun _ _ => 0⟩ default encryptedDraft)
      (⟨∅, (), []⟩ : Session SchemeCache Unit)).1.isOk = true := by
  decide +kernel

theorem validate_encrypted_encryptedDraft :
    ∃ token after limit,
      outcome (signedHandler.create ⟨fun _ _ => 0⟩ default encryptedDraft)
        (⟨∅, (), []⟩ : Session SchemeCache Unit) = (.ok token, after) ∧
      token.isEncrypted = true ∧
      (∃ middle, outcome (signedHandler.create ⟨fun _ _ => 0⟩ default
          { encryptedDraft with encrypting := none }) (⟨∅, (), []⟩ : Session SchemeCache Unit) =
        (.ok token.innermost, middle)) ∧
      Nonempty ((openingPolicy limit).Layer token.raw token.innermost.raw) ∧
      AnswersAlike Identity.Matches
        ((signedHandler.validate (openingPolicy limit) token.raw).outcome ⟨∅, (), []⟩).1
        ((signedHandler.validate (openingPolicy limit) token.innermost.raw).outcome
          ⟨∅, (), []⟩).1 := by
  have hsample := isOk_create_encryptedDraft
  rcases hcreate : outcome (signedHandler.create ⟨fun _ _ => 0⟩ default encryptedDraft)
    (⟨∅, (), []⟩ : Session SchemeCache Unit) with ⟨fault | token, after⟩
  · rw [hcreate] at hsample
    cases hsample
  let ring : KeyRing := fun handle =>
    if handle = 0 then signer.material
    else if handle = 2 then recipient.material
    else recipient.material.toPublic
  have hcache : (∅ : SchemeCache).Faithful ring := SchemeCache.faithful_empty ring
  have hsigner : ∀ signing ∈ encryptedDraft.signing, ring.Has signing.key := by
    rintro _ ⟨⟩
    rfl
  have hrsa : ∀ pair, recipient.material = .rsaPair pair → pair.Unwraps := by
    rintro _ ⟨⟩
    exact unwraps_mersennePair
  have hkeys : ∀ limit use, ∀ key ∈ (openingPolicy limit).keys use, ring.Has key := by
    intro limit use key hkey
    cases use with
    | signing =>
        obtain rfl := List.mem_singleton.1 hkey
        rfl
    | decryption =>
        obtain rfl := List.mem_singleton.1 hkey
        rfl
  exact ⟨token, after, max token.raw.utf8ByteSize token.innermost.raw.utf8ByteSize, rfl,
    validate_encrypted rfl rfl hcache hsigner rfl rfl hcreate ⟨.inr rfl, rfl⟩ hrsa ⟨rfl, rfl⟩
      (.inr rfl) ((selfContained_openingPolicy _).alwaysOffersOnly (hkeys _)) (by decide)
      (le_max_left _ _) (le_max_right _ _) hcache hcache rfl⟩

end Handler

end SecurityToken
