import SecurityToken.Proofs.Compact.Writing
import SecurityToken.Proofs.Suite.Cache
import SecurityToken.Proofs.Validation.Acceptance
import SecurityToken.Proofs.Validation.Opening

/-!
# What keeps a token from being opened is not told

A sealed token that no candidate key opens is refused with a fault that is computed from its header
and the keys alone. The count of the keys that were tried is that of the keys that get a scheme under
the algorithm of the header. Which key came how far with which segment of the token plays no part,
so two such tokens with one header cannot be told apart by the answer.
-/

namespace SecurityToken

variable {ρ : Type}

/-- Whether a key opens a sealed token: under the algorithms that the header names it unwraps a
content key, and that decrypts the content. -/
def Token.OpenedBy (token : Token) (key : Key) : Prop :=
  ∃ (algorithm : KeyAlgorithm) (encryption : ContentAlgorithm) (content : SealedContent)
    (scheme : KeyScheme) (cipher : ContentCipher) (contentKey plaintext : Bytes),
    token.header.algorithm? = some algorithm.name ∧
      token.header.encryption? = some encryption.name ∧ token.content? = some content ∧
      key.keyScheme algorithm = .ok scheme ∧ ContentCipher.ofAlgorithm encryption = .ok cipher ∧
      scheme.unwrap content.encryptedKey = .ok contentKey ∧
      cipher.decrypt ⟨content.ciphertext, content.iv, content.tag⟩
        (Bytes.ofText (Compact.segment token.raw 0)) contentKey = .ok plaintext

/-- What a key finds in a sealed token, if it opens it. -/
def Token.plaintextUnder? (token : Token) (key : Key) : Option Bytes := do
  let algorithm ← (KeyAlgorithm.ofName (← token.header.algorithm?)).toOption
  let encryption ← (ContentAlgorithm.ofName (← token.header.encryption?)).toOption
  let scheme ← (key.keyScheme algorithm).toOption
  let cipher ← (ContentCipher.ofAlgorithm encryption).toOption
  Decryption.open? scheme cipher (← token.content?) (Bytes.ofText (Compact.segment token.raw 0))

theorem Token.openedBy_iff {token : Token} {key : Key} :
    token.OpenedBy key ↔ (token.plaintextUnder? key).isSome = true := by
  simp only [Token.plaintextUnder?, Option.isSome_iff_exists, Option.bind_eq_bind,
    Option.bind_eq_some_iff, except_toOption_eq_some, Decryption.open?_eq_some]
  constructor
  · rintro ⟨algorithm, encryption, content, scheme, cipher, contentKey, plaintext, halgorithm,
      hencryption, hcontent, hscheme, hcipher, hunwrap, hdecrypt⟩
    exact ⟨plaintext, _, halgorithm, algorithm, KeyAlgorithm.ofName_name algorithm, _, hencryption,
      encryption, ContentAlgorithm.ofName_name encryption, scheme, hscheme, cipher, hcipher,
      content, hcontent, contentKey, hunwrap, hdecrypt⟩
  · rintro ⟨plaintext, _, halgorithm, algorithm, hname, _, hencryption, encryption, hname',
      scheme, hscheme, cipher, hcipher, content, hcontent, contentKey, hunwrap, hdecrypt⟩
    obtain rfl := KeyAlgorithm.name_of_ofName hname
    obtain rfl := ContentAlgorithm.name_of_ofName hname'
    exact ⟨algorithm, encryption, content, scheme, cipher, contentKey, plaintext, halgorithm,
      hencryption, hcontent, hscheme, hcipher, hunwrap, hdecrypt⟩

instance (token : Token) (key : Key) : Decidable (token.OpenedBy key) :=
  decidable_of_iff _ Token.openedBy_iff.symm

namespace Decryption

/-- The fault of a token that none of the keys opens, under the names of its algorithms. -/
def refusal (algorithm encryption : String) (keys : List Key) : Fault :=
  match ContentAlgorithm.ofName encryption, KeyAlgorithm.ofName algorithm with
  | .error _, _ => unsupported encryption
  | .ok _, .error _ => if keys.isEmpty then failed 0 else unsupported algorithm
  | .ok _, .ok known => failed (keys.countP fun key => (key.keyScheme known).isOk)

theorem kind_refusal (algorithm encryption : String) (keys : List Key) :
    (refusal algorithm encryption keys).kind = .decryptionFailed ∨
      (refusal algorithm encryption keys).kind = .unsupportedAlgorithm := by
  unfold refusal
  split
  · exact .inr rfl
  · split
    · exact .inl rfl
    · exact .inr rfl
  · exact .inl rfl

/-- The order of the keys is of no consequence. -/
theorem refusal_perm {keys keys' : List Key} (hperm : keys.Perm keys')
    (algorithm encryption : String) :
    refusal algorithm encryption keys = refusal algorithm encryption keys' := by
  have hempty : keys.isEmpty = keys'.isEmpty := hperm.isEmpty_eq
  unfold refusal
  simp only [hempty, hperm.countP_eq]

end Decryption

namespace Handler

section Standard

variable {handler : Handler Unit} {policy : Policy ρ} {before : Session Unit ρ}
  {cipher : ContentCipher} {content : SealedContent} {associated : Bytes}

theorem answer_openWith_of_unknown (hsuite : handler.suite = .standard) {name : String}
    {fault : CryptoFault} (hname : KeyAlgorithm.ofName name = .error fault) (keys : List Key)
    (tried : Nat) :
    ((handler.openWith name cipher content associated tried keys).outcome before).1 =
      .error (if keys.isEmpty then Decryption.failed tried else Decryption.unsupported name) := by
  cases keys with
  | nil => rfl
  | cons key rest =>
      have hanswer : ((CryptoSuite.standard.keyManagement key name).run ()).1 = .error fault := by
        change (KeyAlgorithm.ofName name >>= fun found => key.keyScheme found) = _
        rw [hname]
        rfl
      rw [openWith, Run.outcome_bind, Run.outcome_ask, hsuite]
      simp only [hanswer, if_pos (KeyAlgorithm.isUnsupported_of_error hname)]
      rfl

/-- By induction on the keys: a key that gets a scheme counts, and which of its steps fails is not
asked. -/
theorem answer_openWith_of_sealed (hsuite : handler.suite = .standard) {algorithm : KeyAlgorithm}
    {keys : List Key}
    (hsealed : ∀ key ∈ keys, ∀ scheme, key.keyScheme algorithm = .ok scheme →
      Decryption.open? scheme cipher content associated = none) (tried : Nat) :
    ((handler.openWith algorithm.name cipher content associated tried keys).outcome before).1 =
      .error (Decryption.failed
        (tried + keys.countP fun key => (key.keyScheme algorithm).isOk)) := by
  induction keys generalizing tried before with
  | nil => rfl
  | cons key rest ih =>
      have hrest : ∀ other ∈ rest, ∀ scheme, other.keyScheme algorithm = .ok scheme →
          Decryption.open? scheme cipher content associated = none :=
        fun other hother => hsealed other (List.mem_cons_of_mem _ hother)
      have hanswer : ((CryptoSuite.standard.keyManagement key algorithm.name).run ()).1 =
          key.keyScheme algorithm :=
        CryptoSuite.standard_keyManagement_name key algorithm
      rw [openWith, Run.outcome_bind, Run.outcome_ask, hsuite]
      simp only [hanswer, List.countP_cons]
      cases hscheme : key.keyScheme algorithm with
      | error fault =>
          simp only [Key.isUnsupported_of_keyScheme_error hscheme, Bool.false_eq_true, if_false]
          exact ih hrest tried
      | ok scheme =>
          simp only [hsealed key List.mem_cons_self scheme hscheme]
          rw [ih hrest (tried + 1)]
          congr 2
          simp [Except.isOk, Except.toBool]
          omega

theorem answer_plaintext_of_sealed (hsuite : handler.suite = .standard)
    (hresolver : policy.decryptionKeyResolver = none) {token : Token} {algorithm encryption : String}
    (halgorithm : token.header.algorithm? = some algorithm)
    (hencryption : token.header.encryption? = some encryption)
    (hcontent : token.content? = some content)
    (hsealed : ∀ key ∈ policy.decryptionKeys, ¬token.OpenedBy key) :
    ((handler.plaintext policy token).outcome before).1 =
      .error (Decryption.refusal algorithm encryption policy.decryptionKeys) := by
  have hnone : policy.resolver? .decryption = none := hresolver
  have hperm : (policy.candidates .decryption token.raw token.header).Perm policy.decryptionKeys :=
    Policy.candidates_perm hnone token.raw token.header
  rw [← Decryption.refusal_perm hperm]
  unfold plaintext
  simp only [halgorithm, hencryption, hcontent]
  rw [Run.outcome_bind, Run.outcome_ask, hsuite]
  cases hname : ContentAlgorithm.ofName encryption with
  | error fault =>
      have hanswer : ((CryptoSuite.standard.content encryption).run ()).1 = .error fault := by
        change (ContentAlgorithm.ofName encryption >>= fun found =>
          ContentCipher.ofAlgorithm found) = _
        rw [hname]
        rfl
      simp only [hanswer, if_pos (ContentAlgorithm.isUnsupported_of_error hname),
        Decryption.refusal, hname, Run.outcome_throw]
  | ok known =>
      obtain rfl := ContentAlgorithm.name_of_ofName hname
      obtain ⟨cipher, hcipher⟩ := ContentCipher.exists_ofAlgorithm known
      have hanswer : ((CryptoSuite.standard.content known.name).run ()).1 = .ok cipher :=
        (CryptoSuite.standard_content_name known).trans hcipher
      simp only [hanswer, candidates_eq_pure hnone, pure_bind, Decryption.refusal, hname]
      cases hkeyName : KeyAlgorithm.ofName algorithm with
      | error fault => exact answer_openWith_of_unknown hsuite hkeyName _ 0
      | ok keyAlgorithm =>
          obtain rfl := KeyAlgorithm.name_of_ofName hkeyName
          rw [answer_openWith_of_sealed hsuite, Nat.zero_add]
          intro key hkey scheme hscheme
          rw [Option.eq_none_iff_forall_ne_some]
          intro plaintext hopen
          obtain ⟨contentKey, hunwrap, hdecrypt⟩ := Decryption.open?_eq_some.1 hopen
          exact hsealed key (hperm.mem_iff.1 hkey) ⟨keyAlgorithm, known, content, scheme, cipher,
            contentKey, plaintext, halgorithm, hencryption, hcontent, hscheme, hcipher, hunwrap,
            hdecrypt⟩

end Standard

variable {handler : Handler SchemeCache} {policy : Policy ρ} {isLive : KeyHandle → Bool}
  {ring : KeyRing} {before before' : Session SchemeCache ρ} {raw raw' : String}
  {token token' : Token}

theorem decrypt_of_plaintext_error {remaining : Nat} {fault : Fault} {after : Session SchemeCache ρ}
    (hplaintext : (handler.plaintext policy token).outcome before = (.error fault, after)) :
    (handler.decrypt policy remaining token).outcome before = (.error fault, after) := by
  have hpayload : (handler.payload policy token).outcome before = (.error fault, after) :=
    Run.outcome_bind_eq_error.2 (.inl hplaintext)
  cases remaining with
  | zero =>
      rw [decrypt]
      exact Run.outcome_bind_eq_error.2 (.inl hpayload)
  | succ remaining =>
      rw [decrypt]
      exact Run.outcome_bind_eq_error.2 (.inl hpayload)

/-- A memory of schemes makes no difference to what a sealed token is found to hold. -/
theorem plaintext_answer_eq (hsuite : handler.suite = .caching isLive)
    (hresolver : policy.decryptionKeyResolver = none)
    (hkeys : ∀ key ∈ policy.decryptionKeys, ring.Has key) (hcache : before.suite.Faithful ring)
    (token : Token) :
    ((handler.plaintext policy token).outcome before).1 =
      (((handler.withSuite .standard).plaintext policy token).outcome
        ⟨(), before.replay, []⟩).1 := by
  have hnone : policy.resolver? .decryption = none := hresolver
  exact (plaintext_agree (CryptoSuite.agree_standard_of_caching hsuite) token fun key hkey =>
    hkeys key ((Policy.mem_candidates hnone).1 hkey)).answer_eq hcache

/-- A sealed token that no key opens is refused with the fault that its header and the keys give. -/
theorem answer_validate_of_sealed {name : String}
    (hformat : handler.format = { TokenFormat.compact with name })
    (hsuite : handler.suite = .caching isLive) (hresolver : policy.decryptionKeyResolver = none)
    (hkeys : ∀ key ∈ policy.decryptionKeys, ring.Has key) (hcache : before.suite.Faithful ring)
    (hsize : raw.utf8ByteSize ≤ policy.maximumTokenSize.getD handler.settings.maximumTokenSize)
    (hparse : Compact.parse (!policy.requireSignature) raw = .ok token)
    {algorithm encryption : String} (halgorithm : token.header.algorithm? = some algorithm)
    (hencryption : token.header.encryption? = some encryption) {content : SealedContent}
    (hcontent : token.content? = some content)
    (hsealed : ∀ key ∈ policy.decryptionKeys, ¬token.OpenedBy key) :
    ((handler.validate policy raw).outcome before).1 =
      .error ((Decryption.refusal algorithm encryption policy.decryptionKeys).withContext
        Detail.stage "decrypt") := by
  have hopened : token.isEncrypted = true := by
    unfold Token.isEncrypted
    rw [hcontent]
    rfl
  have hnoted : (before.noting (.parse (!policy.requireSignature) raw)).suite.Faithful ring := hcache
  have hanswer : ((handler.plaintext policy token).outcome
      (before.noting (.parse (!policy.requireSignature) raw))).1 =
        .error (Decryption.refusal algorithm encryption policy.decryptionKeys) := by
    rw [plaintext_answer_eq hsuite hresolver hkeys hnoted]
    exact answer_plaintext_of_sealed rfl hresolver halgorithm hencryption hcontent hsealed
  rcases hplaintext : (handler.plaintext policy token).outcome
    (before.noting (.parse (!policy.requireSignature) raw)) with ⟨answer, after⟩
  rw [hplaintext] at hanswer
  obtain rfl : answer = _ := hanswer
  have hopen : (handler.openToken policy handler.settings.maximumNestingDepth raw).outcome before =
      (.error ((Decryption.refusal algorithm encryption policy.decryptionKeys).withContext
        Detail.stage "decrypt"), after) := by
    rw [outcome_openToken hformat hsize hparse, if_pos hopened]
    exact Run.outcome_adapting_eq_error.2 ⟨_, decrypt_of_plaintext_error hplaintext, rfl⟩
  exact congrArg Prod.fst (validateWithin_of_examine_error (examine_of_openToken_error hopen))

end Handler

/-- What five segments read as: a sealed token with the names of its algorithms. -/
theorem Compact.exists_names_of_parse {allowUnsigned : Bool} {text : String} {token : Token}
    (hparse : parse allowUnsigned text = .ok token) (hfive : (segments text).length = 5) :
    HoldsObject (segment text 0) token.header.members ∧
      ∃ algorithm encryption content, token.header.algorithm? = some algorithm ∧
        token.header.encryption? = some encryption ∧ token.content? = some content := by
  obtain ⟨_, hreads⟩ := parse_eq_ok.1 hparse
  cases token with
  | signed raw header claims signature => exact absurd hfive hreads.2.1
  | encrypted raw header content inner =>
      obtain ⟨_, _, hheader, halgorithm, hencryption, _, _⟩ := hreads
      obtain ⟨algorithm, halgorithm⟩ := Option.isSome_iff_exists.1 halgorithm
      obtain ⟨encryption, hencryption⟩ := Option.isSome_iff_exists.1 hencryption
      exact ⟨hheader, algorithm, encryption, content, halgorithm, hencryption, rfl⟩

namespace Handler

variable {handler : Handler SchemeCache} {policy : Policy ρ} {isLive : KeyHandle → Bool}
  {ring : KeyRing} {before before' : Session SchemeCache ρ} {raw raw' : String}
  {token token' : Token}

/-- Two sealed tokens with one header that no key opens are refused with one fault. -/
theorem validate_concealed {name : String}
    (hformat : handler.format = { TokenFormat.compact with name })
    (hsuite : handler.suite = .caching isLive) (hresolver : policy.decryptionKeyResolver = none)
    (hkeys : ∀ key ∈ policy.decryptionKeys, ring.Has key) (hcache : before.suite.Faithful ring)
    (hcache' : before'.suite.Faithful ring)
    (hsize : raw.utf8ByteSize ≤ policy.maximumTokenSize.getD handler.settings.maximumTokenSize)
    (hsize' : raw'.utf8ByteSize ≤ policy.maximumTokenSize.getD handler.settings.maximumTokenSize)
    (hparse : Compact.parse (!policy.requireSignature) raw = .ok token)
    (hparse' : Compact.parse (!policy.requireSignature) raw' = .ok token')
    (hfive : (Compact.segments raw).length = 5) (hfive' : (Compact.segments raw').length = 5)
    (hheader : Compact.segment raw 0 = Compact.segment raw' 0)
    (hsealed : ∀ key ∈ policy.decryptionKeys, ¬token.OpenedBy key)
    (hsealed' : ∀ key ∈ policy.decryptionKeys, ¬token'.OpenedBy key) :
    ∃ fault, ((handler.validate policy raw).outcome before).1 = .error fault ∧
      ((handler.validate policy raw').outcome before').1 = .error fault ∧
      (fault.kind = .decryptionFailed ∨ fault.kind = .unsupportedAlgorithm) ∧
      ∃ algorithm encryption, token.header.algorithm? = some algorithm ∧
        token.header.encryption? = some encryption ∧
        fault = (Decryption.refusal algorithm encryption policy.decryptionKeys).withContext
          Detail.stage "decrypt" := by
  obtain ⟨hmembers, algorithm, encryption, content, halgorithm, hencryption, hcontent⟩ :=
    Compact.exists_names_of_parse hparse hfive
  obtain ⟨hmembers', algorithm', encryption', content', halgorithm', hencryption', hcontent'⟩ :=
    Compact.exists_names_of_parse hparse' hfive'
  have hsame : token.header = token'.header := by
    rw [← hheader] at hmembers'
    exact congrArg Header.mk (hmembers.members_eq hmembers')
  rw [← hsame] at halgorithm' hencryption'
  obtain rfl := Option.some.inj (halgorithm.symm.trans halgorithm')
  obtain rfl := Option.some.inj (hencryption.symm.trans hencryption')
  have hrefused := answer_validate_of_sealed hformat hsuite hresolver hkeys hcache hsize hparse
    halgorithm hencryption hcontent hsealed
  rw [hsame] at halgorithm' hencryption'
  have hrefused' := answer_validate_of_sealed hformat hsuite hresolver hkeys hcache' hsize' hparse'
    halgorithm' hencryption' hcontent' hsealed'
  exact ⟨_, hrefused, hrefused', Decryption.kind_refusal algorithm encryption policy.decryptionKeys,
    algorithm, encryption, halgorithm, hencryption, rfl⟩

/-! ### A wrong tag, and an encrypted key where none belongs -/

def concealedKey : Key := { handle := 1, material := .secret (List.replicate 16 7) }

def concealedPolicy : Policy Unit :=
  { Policy.lenient Instant.earliest with decryptionKeys := [concealedKey] }

def concealedHandler : Handler SchemeCache := { suite := .caching fun _ => true }

def concealedSession : Session SchemeCache Unit := ⟨∅, (), []⟩

/-- A text under the shared key, all of whose content is zero. -/
def sealedText (encryptedKey : String) : String :=
  Compact.join ["eyJhbGciOiJkaXIiLCJlbmMiOiJBMTI4R0NNIn0", encryptedKey, "AAAAAAAAAAAAAAAA", "AA",
    "AAAAAAAAAAAAAAAAAAAAAA"]

def wrongTagText : String := sealedText ""

def strayKeyText : String := sealedText "AA"

theorem exists_not_openedBy {text : String} {key : Key}
    (hall : ((Compact.parse true text).toOption.any fun token => !decide (token.OpenedBy key)) =
      true) :
    ∃ token, Compact.parse true text = .ok token ∧ ∀ other ∈ [key], ¬token.OpenedBy other := by
  cases hparse : Compact.parse true text with
  | error malformation =>
      rw [hparse] at hall
      exact nomatch hall
  | ok token =>
      rw [hparse] at hall
      refine ⟨token, rfl, ?_⟩
      simpa [Except.toOption] using hall

set_option maxRecDepth 10000 in
theorem exists_not_openedBy_wrongTagText :
    ∃ token, Compact.parse true wrongTagText = .ok token ∧
      ∀ key ∈ [concealedKey], ¬token.OpenedBy key :=
  exists_not_openedBy (by decide +kernel)

set_option maxRecDepth 10000 in
theorem exists_not_openedBy_strayKeyText :
    ∃ token, Compact.parse true strayKeyText = .ok token ∧
      ∀ key ∈ [concealedKey], ¬token.OpenedBy key :=
  exists_not_openedBy (by decide +kernel)

theorem segments_wrongTagText : Compact.segments wrongTagText =
    ["eyJhbGciOiJkaXIiLCJlbmMiOiJBMTI4R0NNIn0", "", "AAAAAAAAAAAAAAAA", "AA",
      "AAAAAAAAAAAAAAAAAAAAAA"] :=
  Compact.segments_join (by decide) (by decide +kernel)

theorem segments_strayKeyText : Compact.segments strayKeyText =
    ["eyJhbGciOiJkaXIiLCJlbmMiOiJBMTI4R0NNIn0", "AA", "AAAAAAAAAAAAAAAA", "AA",
      "AAAAAAAAAAAAAAAAAAAAAA"] :=
  Compact.segments_join (by decide) (by decide +kernel)

set_option maxRecDepth 10000 in
theorem size_wrongTagText : wrongTagText.utf8ByteSize ≤
    concealedPolicy.maximumTokenSize.getD concealedHandler.settings.maximumTokenSize := by
  decide +kernel

set_option maxRecDepth 10000 in
theorem size_strayKeyText : strayKeyText.utf8ByteSize ≤
    concealedPolicy.maximumTokenSize.getD concealedHandler.settings.maximumTokenSize := by
  decide +kernel

/-- The one is kept from being opened by its tag, the other by the key that it brings. -/
theorem validate_concealed_wrongTagText :
    ∃ fault,
      ((concealedHandler.validate concealedPolicy wrongTagText).outcome concealedSession).1 =
        .error fault ∧
      ((concealedHandler.validate concealedPolicy strayKeyText).outcome concealedSession).1 =
        .error fault := by
  have hkeys : ∀ key ∈ concealedPolicy.decryptionKeys,
      KeyRing.Has (fun _ => concealedKey.material) key := by
    intro key hkey
    obtain rfl := List.mem_singleton.1 hkey
    rfl
  obtain ⟨token, hparse, hsealed⟩ := exists_not_openedBy_wrongTagText
  obtain ⟨token', hparse', hsealed'⟩ := exists_not_openedBy_strayKeyText
  have hfive : (Compact.segments wrongTagText).length = 5 := by rw [segments_wrongTagText]; rfl
  have hfive' : (Compact.segments strayKeyText).length = 5 := by rw [segments_strayKeyText]; rfl
  have hheader : Compact.segment wrongTagText 0 = Compact.segment strayKeyText 0 := by
    rw [Compact.segment, Compact.segment, segments_wrongTagText, segments_strayKeyText]
    rfl
  have hcache : concealedSession.suite.Faithful fun _ => concealedKey.material :=
    SchemeCache.faithful_empty _
  obtain ⟨fault, hfault, hfault', _⟩ := validate_concealed rfl rfl rfl hkeys hcache hcache
    size_wrongTagText size_strayKeyText hparse hparse' hfive hfive' hheader hsealed hsealed'
  exact ⟨fault, hfault, hfault'⟩

end Handler

end SecurityToken
