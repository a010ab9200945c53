import SecurityToken.Proofs.Crypto.Wrapping
import SecurityToken.Proofs.Suite.Holder
import SecurityToken.Proofs.Suite.Standard

/-!
# What a key says of itself

A key tells by its kind and its length which algorithms it supports; a suite finds out by building
the scheme. The two agree: a key supports a name just if it gets a scheme to verify with, or one to
manage content keys with. Where it gets none, the fault says whether the name or the key is to blame,
and a name is to blame whatever the key. To sign, a key needs its private half besides. A memory makes
no difference to any of this, whatever was asked of it before.
-/

namespace SecurityToken

/-! ### Names -/

/-- A search by name finds what has the name, or nothing has it. -/
theorem find?_name_cases {α : Type} {all : List α} (hall : ∀ item, item ∈ all)
    (nameOf : α → String) (name : String) :
    (∃ item, nameOf item = name) ∨
      (∀ item, nameOf item ≠ name) ∧ (all.find? fun item => nameOf item == name) = none := by
  cases hfind : all.find? fun item => nameOf item == name with
  | some found => exact .inl ⟨found, (name_of_find? hfind).symm⟩
  | none =>
      refine .inr ⟨fun item hname => ?_, rfl⟩
      exact List.find?_eq_none.1 hfind item (hall item) (beq_iff_eq.2 hname)

theorem SignatureAlgorithm.ofName_cases (name : String) :
    (∃ algorithm : SignatureAlgorithm, algorithm.name = name) ∨
      (∀ algorithm : SignatureAlgorithm, algorithm.name ≠ name) ∧
        SignatureAlgorithm.ofName name = .error (.unsupportedAlgorithm name) := by
  have hall : ∀ algorithm : SignatureAlgorithm, algorithm ∈ all := by
    intro algorithm
    cases algorithm <;> decide
  refine (find?_name_cases hall _ name).imp_right fun ⟨hname, hnone⟩ => ⟨hname, ?_⟩
  unfold SignatureAlgorithm.ofName
  rw [hnone]

theorem KeyAlgorithm.ofName_cases (name : String) :
    (∃ algorithm : KeyAlgorithm, algorithm.name = name) ∨
      (∀ algorithm : KeyAlgorithm, algorithm.name ≠ name) ∧
        KeyAlgorithm.ofName name = .error (.unsupportedAlgorithm name) := by
  have hall : ∀ algorithm : KeyAlgorithm, algorithm ∈ all := by
    intro algorithm
    cases algorithm <;> decide
  refine (find?_name_cases hall _ name).imp_right fun ⟨hname, hnone⟩ => ⟨hname, ?_⟩
  unfold KeyAlgorithm.ofName
  rw [hnone]

theorem ContentAlgorithm.ofName_cases (name : String) :
    (∃ algorithm : ContentAlgorithm, algorithm.name = name) ∨
      (∀ algorithm : ContentAlgorithm, algorithm.name ≠ name) ∧
        ContentAlgorithm.ofName name = .error (.unsupportedAlgorithm name) := by
  have hall : ∀ algorithm : ContentAlgorithm, algorithm ∈ all := by
    intro algorithm
    cases algorithm <;> decide
  refine (find?_name_cases hall _ name).imp_right fun ⟨hname, hnone⟩ => ⟨hname, ?_⟩
  unfold ContentAlgorithm.ofName
  rw [hnone]

theorem KeyAlgorithm.name_ne_signature (algorithm : KeyAlgorithm)
    (signature : SignatureAlgorithm) : algorithm.name ≠ signature.name := by
  cases algorithm <;> cases signature <;> decide

namespace Request

def name : Request → String
  | signature _ name _ | keyScheme _ name | cipher name => name

/-- Whether the name is the exact one of an algorithm of the sort that is asked for. -/
def Known : Request → Prop
  | signature _ name _ => ∃ algorithm : SignatureAlgorithm, algorithm.name = name
  | keyScheme _ name => ∃ algorithm : KeyAlgorithm, algorithm.name = name
  | cipher name => ∃ algorithm : ContentAlgorithm, algorithm.name = name

end Request

/-! ### Keys -/

theorem KeyScheme.exists_rsa_iff {algorithm : KeyAlgorithm} {privateKey : Option Rsa.PrivateKey}
    {publicKey : Rsa.PublicKey} :
    (∃ scheme, rsa algorithm privateKey publicKey = .ok scheme) ↔ algorithm.isRsa = true := by
  unfold rsa
  by_cases hrsa : algorithm.isRsa = true
  · simp [hrsa]
  · simp [hrsa]

namespace Key

variable {key : Key} {algorithm : SignatureAlgorithm}

theorem eq_curveAlgorithm {curve : Curve} {point : Point curve}
    (hmaterial : key.material.toPublic = .curvePublic curve point)
    (hsupports : key.supportsSignature algorithm = true) :
    algorithm = SignatureScheme.curveAlgorithm curve := by
  unfold supportsSignature at hsupports
  generalize key.material = material at hmaterial hsupports
  cases material with
  | secret bytes => exact nomatch hmaterial
  | rsaPair pair => exact nomatch hmaterial
  | rsaPublic publicKey => exact nomatch hmaterial
  | curvePair other pair =>
      obtain ⟨rfl, _⟩ := KeyMaterial.curvePublic.inj hmaterial
      cases other <;> exact eq_of_beq hsupports
  | curvePublic other point =>
      obtain ⟨rfl, _⟩ := KeyMaterial.curvePublic.inj hmaterial
      cases other <;> exact eq_of_beq hsupports

/-- What the material is decides what else has to hold of the algorithm, and whether the private
half is there. -/
theorem exists_serves (hsupports : key.supportsSignature algorithm = true) {forSigning : Bool}
    (hprivate : forSigning = true → key.hasPrivate = true) :
    ∃ scheme, key.material.Serves algorithm forSigning scheme := by
  cases hmaterial : key.material with
  | secret bytes =>
      rw [supportsSignature, hmaterial] at hsupports
      obtain ⟨hsymmetric, hsize⟩ := Bool.and_eq_true_iff.1 hsupports
      exact ⟨_, .secret hsymmetric (of_decide_eq_true hsize)⟩
  | rsaPair pair =>
      rw [supportsSignature, hmaterial] at hsupports
      exact ⟨_, .rsaPair hsupports⟩
  | rsaPublic publicKey =>
      rw [supportsSignature, hmaterial] at hsupports
      rw [hasPrivate, hmaterial] at hprivate
      cases forSigning with
      | true => exact nomatch hprivate rfl
      | false => exact ⟨_, .rsaPublic hsupports⟩
  | curvePair curve pair =>
      obtain rfl := eq_curveAlgorithm (congrArg KeyMaterial.toPublic hmaterial) hsupports
      exact ⟨_, .curvePair⟩
  | curvePublic curve point =>
      obtain rfl := eq_curveAlgorithm (congrArg KeyMaterial.toPublic hmaterial) hsupports
      rw [hasPrivate, hmaterial] at hprivate
      cases forSigning with
      | true => exact nomatch hprivate rfl
      | false => exact ⟨_, .curvePublic⟩

theorem exists_signatureScheme_iff :
    (∃ scheme, key.signatureScheme algorithm false = .ok scheme) ↔
      key.supportsSignature algorithm = true := by
  constructor
  · rintro ⟨scheme, hscheme⟩
    exact supportsSignature_of_scheme hscheme
  · intro hsupports
    simp only [signatureScheme_eq_ok]
    exact exists_serves hsupports fun hsigning => nomatch hsigning

/-- Under an algorithm that the key supports nothing but the private half is needed to sign. -/
theorem exists_signatureScheme_true_iff (hsupports : key.supportsSignature algorithm = true) :
    (∃ scheme, key.signatureScheme algorithm true = .ok scheme) ↔ key.hasPrivate = true := by
  simp only [signatureScheme_eq_ok]
  constructor
  · rintro ⟨scheme, hserves⟩
    unfold hasPrivate
    generalize key.material = material at hserves ⊢
    cases hserves <;> rfl
  · intro hprivate
    exact exists_serves hsupports fun _ => hprivate

theorem signatureScheme_of_not_hasPrivate (hsupports : key.supportsSignature algorithm = true)
    (hpublic : key.hasPrivate = false) :
    key.signatureScheme algorithm true = .error .noPrivateKey := by
  unfold hasPrivate at hpublic
  cases hmaterial : key.material with
  | secret bytes => rw [hmaterial] at hpublic; exact nomatch hpublic
  | rsaPair pair => rw [hmaterial] at hpublic; exact nomatch hpublic
  | curvePair curve pair => rw [hmaterial] at hpublic; exact nomatch hpublic
  | rsaPublic publicKey =>
      have hrsa : algorithm.isRsa = true := by
        rwa [supportsSignature, hmaterial] at hsupports
      simp [signatureScheme, hmaterial, hrsa]
  | curvePublic curve point =>
      obtain rfl := eq_curveAlgorithm (congrArg KeyMaterial.toPublic hmaterial) hsupports
      simp [signatureScheme, hmaterial]

theorem exists_keyScheme_iff {algorithm : KeyAlgorithm} :
    (∃ scheme, key.keyScheme algorithm = .ok scheme) ↔
      key.supportsKeyManagement algorithm = true := by
  unfold supportsKeyManagement keyScheme
  cases key.material with
  | secret bytes =>
      cases algorithm with
      | a128kw | a256kw => simp [KeyScheme.exists_aes_iff]
      | direct => simp
      | rsaOaep | rsaOaep256 | rsa15 => simp [KeyAlgorithm.wrappingKeySize?, mismatch]
  | rsaPair pair =>
      by_cases hrsa : algorithm.isRsa = true
      · simp [KeyScheme.exists_rsa_iff, hrsa]
      · simp [mismatch, hrsa]
  | rsaPublic publicKey =>
      by_cases hrsa : algorithm.isRsa = true
      · simp [KeyScheme.exists_rsa_iff, hrsa]
      · simp [mismatch, hrsa]
  | curvePair curve pair => simp [mismatch]
  | curvePublic curve point => simp [mismatch]

end Key

/-! ### Answers -/

/-- Whether the answers to requests for certain keys are what the keys say of themselves. -/
structure Capability (known : Key → Prop) (answer : Request → Except CryptoFault Served) :
    Prop where
  supports : ∀ key, known key → ∀ name, key.supports name = true ↔
    (∃ scheme, answer (.signature key name false) = .ok (.signature scheme)) ∨
      ∃ scheme, answer (.keyScheme key name) = .ok (.keyScheme scheme)
  unsupported : ∀ request, (∀ key ∈ request.keys, known key) →
    ((∃ fault, answer request = .error fault ∧ fault.isUnsupported = true) ↔ ¬request.Known)
  signing : ∀ key, known key → ∀ algorithm : SignatureAlgorithm,
    key.supportsSignature algorithm = true →
      ((∃ scheme, answer (.signature key algorithm.name true) = .ok (.signature scheme)) ↔
        key.hasPrivate = true) ∧
      (key.hasPrivate = false →
        answer (.signature key algorithm.name true) = .error .noPrivateKey)

namespace Capability

variable {known known' : Key → Prop} {answer answer' : Request → Except CryptoFault Served}

theorem mono (hcapability : Capability known answer) (hknown : ∀ key, known' key → known key) :
    Capability known' answer where
  supports key hkey := hcapability.supports key (hknown key hkey)
  unsupported request hkeys :=
    hcapability.unsupported request fun key hkey => hknown key (hkeys key hkey)
  signing key hkey := hcapability.signing key (hknown key hkey)

/-- Only the answers to requests for the keys in question matter. -/
theorem congr (hcapability : Capability known answer)
    (hsame : ∀ request, (∀ key ∈ request.keys, known key) → answer' request = answer request) :
    Capability known answer' where
  supports key hkey name := by
    have hkeys : ∀ other ∈ [key], known other := by simpa using hkey
    rw [hsame (.signature key name false) hkeys, hsame (.keyScheme key name) hkeys]
    exact hcapability.supports key hkey name
  unsupported request hkeys := by
    rw [hsame request hkeys]
    exact hcapability.unsupported request hkeys
  signing key hkey algorithm hsupports := by
    have hkeys : ∀ other ∈ [key], known other := by simpa using hkey
    rw [hsame (.signature key algorithm.name true) hkeys]
    exact hcapability.signing key hkey algorithm hsupports

end Capability

theorem exists_map_eq_ok {α β : Type} {wrap : α → β} (hwrap : Function.Injective wrap)
    {answer : Except CryptoFault α} :
    (∃ value, answer.map wrap = .ok (wrap value)) ↔ ∃ value, answer = .ok value := by
  cases answer with
  | error fault => simp [Except.map]
  | ok found => simp [Except.map, hwrap.eq_iff]

namespace CryptoSuite

/-- What a suite answers that keeps nothing. -/
def standardAnswer (request : Request) : Except CryptoFault Served :=
  ((standard.serve request).run ()).1

theorem standardAnswer_signature (key : Key) (algorithm : SignatureAlgorithm) (forSigning : Bool) :
    standardAnswer (.signature key algorithm.name forSigning) =
      (key.signatureScheme algorithm forSigning).map .signature :=
  congrArg (Except.map Served.signature) (standard_signature_name key algorithm forSigning)

theorem standardAnswer_keyScheme (key : Key) (algorithm : KeyAlgorithm) :
    standardAnswer (.keyScheme key algorithm.name) = (key.keyScheme algorithm).map .keyScheme :=
  congrArg (Except.map Served.keyScheme) (standard_keyManagement_name key algorithm)

theorem standardAnswer_cipher (algorithm : ContentAlgorithm) :
    standardAnswer (.cipher algorithm.name) = (ContentCipher.ofAlgorithm algorithm).map .cipher :=
  congrArg (Except.map Served.cipher) (standard_content_name algorithm)

/-- A name that no algorithm has is to blame whatever the key. -/
theorem standardAnswer_of_not_known {request : Request} (hunknown : ¬request.Known) :
    standardAnswer request = .error (.unsupportedAlgorithm request.name) := by
  unfold standardAnswer
  cases request with
  | signature key name forSigning =>
      rcases SignatureAlgorithm.ofName_cases name with hknown | ⟨_, hname⟩
      · exact absurd hknown hunknown
      · change Except.map Served.signature (SignatureAlgorithm.ofName name >>= fun algorithm =>
          key.signatureScheme algorithm forSigning) = _
        rw [hname]
        rfl
  | keyScheme key name =>
      rcases KeyAlgorithm.ofName_cases name with hknown | ⟨_, hname⟩
      · exact absurd hknown hunknown
      · change Except.map Served.keyScheme (KeyAlgorithm.ofName name >>= fun algorithm =>
          key.keyScheme algorithm) = _
        rw [hname]
        rfl
  | cipher name =>
      rcases ContentAlgorithm.ofName_cases name with hknown | ⟨_, hname⟩
      · exact absurd hknown hunknown
      · change Except.map Served.cipher (ContentAlgorithm.ofName name >>= fun algorithm =>
          ContentCipher.ofAlgorithm algorithm) = _
        rw [hname]
        rfl

/-- Under a known name the key is to blame. -/
theorem isUnsupported_of_standardAnswer {request : Request} (hknown : request.Known)
    {fault : CryptoFault} (hfault : standardAnswer request = .error fault) :
    fault.isUnsupported = false := by
  cases request with
  | signature key name forSigning =>
      obtain ⟨algorithm, rfl⟩ := hknown
      rw [standardAnswer_signature, SchemeCache.map_eq_error] at hfault
      exact Key.isUnsupported_of_error hfault
  | keyScheme key name =>
      obtain ⟨algorithm, rfl⟩ := hknown
      rw [standardAnswer_keyScheme, SchemeCache.map_eq_error] at hfault
      exact Key.isUnsupported_of_keyScheme_error hfault
  | cipher name =>
      obtain ⟨algorithm, rfl⟩ := hknown
      obtain ⟨cipher, hcipher⟩ := ContentCipher.exists_ofAlgorithm algorithm
      rw [standardAnswer_cipher, hcipher] at hfault
      exact nomatch hfault

theorem exists_standardAnswer_signature (key : Key) (algorithm : SignatureAlgorithm)
    (forSigning : Bool) :
    (∃ scheme, standardAnswer (.signature key algorithm.name forSigning) =
        .ok (.signature scheme)) ↔
      ∃ scheme, key.signatureScheme algorithm forSigning = .ok scheme := by
  rw [standardAnswer_signature]
  exact exists_map_eq_ok fun _ _ => Served.signature.inj

theorem exists_standardAnswer_keyScheme (key : Key) (algorithm : KeyAlgorithm) :
    (∃ scheme, standardAnswer (.keyScheme key algorithm.name) = .ok (.keyScheme scheme)) ↔
      ∃ scheme, key.keyScheme algorithm = .ok scheme := by
  rw [standardAnswer_keyScheme]
  exact exists_map_eq_ok fun _ _ => Served.keyScheme.inj

theorem not_exists_standardAnswer {request : Request} (hunknown : ¬request.Known) {α : Type}
    (served : α → Served) : ¬∃ value, standardAnswer request = .ok (served value) := by
  rintro ⟨value, hanswer⟩
  cases (standardAnswer_of_not_known hunknown).symm.trans hanswer

/-- A name is looked for among the signature algorithms first; no other sort shares one with them. -/
theorem supports_iff_standardAnswer (key : Key) (name : String) :
    key.supports name = true ↔
      (∃ scheme, standardAnswer (.signature key name false) = .ok (.signature scheme)) ∨
        ∃ scheme, standardAnswer (.keyScheme key name) = .ok (.keyScheme scheme) := by
  unfold Key.supports
  rcases SignatureAlgorithm.ofName_cases name with ⟨algorithm, rfl⟩ | ⟨hnoSignature, hname⟩
  · have hother : ¬(Request.keyScheme key algorithm.name).Known :=
      fun ⟨other, hother⟩ => other.name_ne_signature algorithm hother
    rw [SignatureAlgorithm.ofName_name, exists_standardAnswer_signature,
      Key.exists_signatureScheme_iff, or_iff_left (not_exists_standardAnswer hother _)]
  · have hunknown : ¬(Request.signature key name false).Known :=
      fun ⟨algorithm, halgorithm⟩ => hnoSignature algorithm halgorithm
    rw [hname, or_iff_right (not_exists_standardAnswer hunknown _)]
    rcases KeyAlgorithm.ofName_cases name with ⟨algorithm, rfl⟩ | ⟨hnoKey, hname⟩
    · rw [KeyAlgorithm.ofName_name, exists_standardAnswer_keyScheme, Key.exists_keyScheme_iff]
    · have hunknown : ¬(Request.keyScheme key name).Known :=
        fun ⟨algorithm, halgorithm⟩ => hnoKey algorithm halgorithm
      rw [hname]
      exact iff_of_false Bool.false_ne_true (not_exists_standardAnswer hunknown _)

theorem capability_standard : Capability (fun _ => True) standardAnswer where
  supports key _ name := supports_iff_standardAnswer key name
  unsupported request _ := by
    constructor
    · rintro ⟨fault, hfault, hunsupported⟩ hknown
      rw [isUnsupported_of_standardAnswer hknown hfault] at hunsupported
      exact Bool.false_ne_true hunsupported
    · intro hunknown
      exact ⟨_, standardAnswer_of_not_known hunknown, rfl⟩
  signing key _ algorithm hsupports := by
    rw [exists_standardAnswer_signature, Key.exists_signatureScheme_true_iff hsupports]
    refine ⟨Iff.rfl, fun hpublic => ?_⟩
    rw [standardAnswer_signature, Key.signatureScheme_of_not_hasPrivate hsupports hpublic]
    rfl

end CryptoSuite

/-- A memory that is faithful to what the handles stand for answers no other way. -/
theorem SchemeCache.Faithful.capability {ring : KeyRing} {cache : SchemeCache}
    (hcache : cache.Faithful ring) (isLive : KeyHandle → Bool) :
    Capability ring.Has fun request =>
      (((CryptoSuite.caching isLive).serve request).run cache).1 :=
  (CryptoSuite.capability_standard.mono fun _ _ => trivial).congr
    fun _ hkeys => (hcache.serve isLive hkeys).1

/-- Every key is served as it says of itself: by a suite that was never asked before, and by one
whose holder has done with its keys whatever there is to do. -/
theorem Holder.keys_served_as_supported (isLive : KeyHandle → Bool) (events : List KeyEvent) :
    (∀ key, Capability (· = key) fun request =>
      (((CryptoSuite.caching isLive).serve request).run ∅).1) ∧
    Capability (· ∈ (empty.after events).keys) fun request =>
      ((empty.after events).ask request).1 := by
  constructor
  · intro key
    have hempty := SchemeCache.faithful_empty fun _ => key.material
    refine (hempty.capability isLive).mono fun other hother => ?_
    subst hother
    rfl
  · obtain ⟨ring, hsound⟩ := sound_after (sound_empty fun _ => .secret []) events
    exact (hsound.faithful.capability _).mono hsound.has

/-! A secret of sixteen bytes, which is long enough to sign with and wraps under one algorithm. -/

example : Holder.signer.supports "HS512" = true ∧ Holder.signer.supports "A128KW" = true ∧
    Holder.signer.supports "A256KW" = false ∧ Holder.signer.supports "hs512" = false := by
  decide

end SecurityToken
