import SecurityToken.Proofs.Compact.Writing
import SecurityToken.Proofs.Validation.Authenticity
import SecurityToken.Proofs.Validation.Candidates

/-!
# One spelling of a signature

The signature of a token is a segment of its text, and a keyed digest of the two segments before it.
A segment has one writing only, and there is one digest under one key. So of all the texts that differ
in their last segment one is accepted at most. The others fail where their segment tells: it is
empty, or it is the writing of no bytes, or it is that of other bytes.
-/

namespace SecurityToken

variable {σ ρ : Type}

/-! ### Another last segment -/

namespace Compact

variable {allowUnsigned : Bool} {head payload signature other text : String} {token : Token}

theorem dot_not_mem {part : String} (hpart : part.toList.all Base64url.isSymbol = true) :
    '.' ∉ part.toList :=
  fun hdot => absurd (List.all_eq_true.1 hpart '.' hdot) (by decide)

/-- Three segments remain three when another takes the place of the last. -/
theorem segments_replaced (hshape : checkShape allowUnsigned (segments text) = .ok ())
    (hsegments : segments text = [head, payload, signature]) (hother : '.' ∉ other.toList) :
    segments (join [head, payload, other]) = [head, payload, other] := by
  obtain ⟨_, _, _, hsymbols⟩ := checkShape_eq_ok.1 hshape
  rw [hsegments] at hsymbols
  refine segments_join (List.cons_ne_nil _ _) ?_
  simp only [List.forall_mem_cons, List.not_mem_nil, false_implies, implies_true, and_true]
    at hsymbols ⊢
  exact ⟨dot_not_mem hsymbols.1, dot_not_mem hsymbols.2.1, hother⟩

theorem checkShape_replaced (hshape : checkShape allowUnsigned [head, payload, signature] = .ok ())
    (hother : other.toList.all Base64url.isSymbol = true) :
    checkShape allowUnsigned [head, payload, other] = .ok () := by
  obtain ⟨_, hhead, hpayload, hsymbols⟩ := checkShape_eq_ok.1 hshape
  refine checkShape_eq_ok.2 ⟨.inl rfl, hhead, hpayload, ?_⟩
  simp only [List.forall_mem_cons, List.not_mem_nil, false_implies, implies_true, and_true]
    at hsymbols ⊢
  exact ⟨hsymbols.1, hsymbols.2.1, hother⟩

/-- A token of three segments is read with other bytes for a signature when these are written in the
place of its own. -/
theorem parse_replaced (hsegments : segments text = [head, payload, signature])
    (hparse : parse allowUnsigned text = .ok token) :
    ∃ header claims bytes, token = .signed text header claims bytes ∧
      signature = encodeSegment bytes ∧
      ∀ bytes', parse allowUnsigned (join [head, payload, encodeSegment bytes']) =
        .ok (.signed (join [head, payload, encodeSegment bytes']) header claims bytes') := by
  obtain ⟨hshape, hreads⟩ := parse_eq_ok.1 hparse
  cases token with
  | encrypted raw header content inner =>
      have hfive := hreads.2.1
      rw [hsegments] at hfive
      exact nomatch hfive
  | signed raw header claims bytes =>
      obtain ⟨rfl, _, hheader, halgorithm, hclaims, hsignature⟩ := hreads
      simp only [segment, hsegments] at hheader hclaims hsignature
      refine ⟨header, claims, bytes, rfl, hsignature, fun bytes' => ?_⟩
      have hsymbols := all_isSymbol_encodeSegment bytes'
      have hreplaced := segments_replaced hshape hsegments (dot_not_mem hsymbols)
      rw [hsegments] at hshape
      refine parse_eq_ok.2 ⟨?_, rfl, ?_, ?_, halgorithm, ?_, ?_⟩
      · rw [hreplaced]
        exact checkShape_replaced hshape hsymbols
      · rw [hreplaced]
        change 3 ≠ 5
        decide
      · rw [segment, hreplaced]
        exact hheader
      · rw [segment, hreplaced]
        exact hclaims
      · rw [segment, hreplaced]
        rfl

theorem signingInput_replaced (hsegments : segments text = [head, payload, signature])
    (hothers : segments (join [head, payload, other]) = [head, payload, other]) :
    signingInput text = signingInput (join [head, payload, other]) := by
  rw [signingInput, signingInput, hsegments, hothers]
  rfl

/-- With a last segment that is not the writing of any bytes the text is not read. -/
theorem parse_not_canonical (hsegments : segments text = [head, payload, other])
    (hother : ¬IsCanonical other) : ∃ malformation, parse allowUnsigned text =
      .error malformation := by
  cases hparse : parse allowUnsigned text with
  | error malformation => exact ⟨malformation, rfl⟩
  | ok token =>
      obtain ⟨_, _, bytes, _, hbytes, _⟩ := parse_replaced hsegments hparse
      exact absurd ⟨bytes, hbytes⟩ hother

end Compact

/-! ### One digest under one key -/

theorem SignatureAlgorithm.name_injective : Function.Injective SignatureAlgorithm.name := by
  intro left right hname
  have hfound := SignatureAlgorithm.ofName_name left
  rw [hname, SignatureAlgorithm.ofName_name] at hfound
  exact (Except.ok.inj hfound).symm

theorem SignatureAlgorithm.not_isRsa_of_isSymmetric {algorithm : SignatureAlgorithm}
    (hsymmetric : algorithm.isSymmetric = true) : algorithm.isRsa = false := by
  cases algorithm with
  | hs256 | hs384 | hs512 => rfl
  | _ => exact nomatch hsymmetric

/-- A key verifies one signature at most over what a token says, if the signature is a digest. -/
theorem Key.Verifies.signature_eq {key : Key} {algorithm : SignatureAlgorithm} {token other : Token}
    (hsymmetric : algorithm.isSymmetric = true) (htoken : key.Verifies algorithm token)
    (hother : key.Verifies algorithm other)
    (hinput : Compact.signingInput token.raw = Compact.signingInput other.raw) :
    token.signature = other.signature := by
  obtain ⟨scheme, hscheme, hverify⟩ := htoken
  obtain ⟨scheme', hscheme', hverify'⟩ := hother
  obtain rfl := Except.ok.inj (hscheme.symm.trans hscheme')
  rw [← hinput] at hverify'
  have hserves := Key.signatureScheme_eq_ok.1 hscheme
  generalize key.material = material at hserves
  cases hserves with
  | secret _ _ => exact (eq_of_beq hverify).symm.trans (eq_of_beq hverify')
  | rsaPair hrsa =>
      rw [SignatureAlgorithm.not_isRsa_of_isSymmetric hsymmetric] at hrsa
      exact nomatch hrsa
  | rsaPublic hrsa =>
      rw [SignatureAlgorithm.not_isRsa_of_isSymmetric hsymmetric] at hrsa
      exact nomatch hrsa
  | @curvePair curve _ _ => cases curve <;> exact nomatch hsymmetric
  | @curvePublic curve _ => cases curve <;> exact nomatch hsymmetric

namespace Handler

section Standard

variable {handler : Handler Unit} {policy : Policy ρ} {before : Session Unit ρ}
  {algorithm : SignatureAlgorithm} {token : Token}

theorem answer_verify_of_not_verifies (hsuite : handler.suite = .standard)
    (hvalidator : policy.signatureValidator = none)
    (hresolver : policy.signingKeyResolver = none) (hkeys : policy.signingKeys ≠ [])
    (hsigned : token.hasSignature = true)
    (halgorithm : token.header.algorithm? = some algorithm.name)
    (hnone : ∀ key ∈ policy.signingKeys, ¬key.Verifies algorithm token) :
    ∃ fault, ((handler.verify policy token).outcome before).1 = .error fault ∧
      fault.kind = .invalidSignature := by
  have hgiven : policy.resolver? .signing = none := hresolver
  have hperm : (policy.candidates .signing token.raw token.header).Perm policy.signingKeys :=
    Policy.candidates_perm hgiven token.raw token.header
  have hsome : ¬(policy.candidates .signing token.raw token.header).isEmpty = true := by
    rw [hperm.isEmpty_eq, List.isEmpty_iff]
    exact hkeys
  obtain ⟨fault, hfault, hkind⟩ : ∃ fault, ((handler.verifyWith algorithm.name token 0
      (policy.candidates .signing token.raw token.header)).outcome before).1 = .error fault ∧
      fault.kind = .invalidSignature :=
    ⟨_, answer_verifyWith_of_not_verifies hsuite
      (fun key hkey => hnone key (hperm.mem_iff.1 hkey)) 0, rfl⟩
  rcases hrun : (handler.verifyWith algorithm.name token 0
    (policy.candidates .signing token.raw token.header)).outcome before with ⟨answer, after⟩
  rw [hrun] at hfault
  obtain rfl : answer = .error fault := hfault
  refine ⟨fault, ?_, hkind⟩
  unfold verify
  rw [hvalidator]
  simp only [if_pos hsigned]
  unfold verifySigned
  simp only [candidates_eq_pure hgiven, pure_bind, Run.outcome_bind, if_neg hsome, halgorithm,
    Option.getD_some, hrun]

end Standard

end Handler

/-! ### What becomes of a text with another last segment -/

namespace Handler

/-- Whether a text is opened, and the signature of the token in it accepted. -/
def Vouches (handler : Handler σ) (policy : Policy ρ) (raw : String) (before : Session σ ρ)
    (verified : Verified) : Prop :=
  ∃ opened middle after,
    (handler.openToken policy handler.settings.maximumNestingDepth raw).outcome before =
      (.ok opened, middle) ∧
    (handler.verify policy opened.innermost).outcome middle = (.ok verified, after)

variable {handler : Handler SchemeCache} {policy : Policy ρ} {isLive : KeyHandle → Bool}
  {ring : KeyRing} {before after : Session SchemeCache ρ} {name : String}
  {raw head payload signature : String} {token : Token} {key : Key}
  {algorithm : SignatureAlgorithm} {verified : Verified}

/-- The signature of a token that is accepted was accepted. -/
theorem vouches_of_validate {identity : Identity}
    (hrun : (handler.validate policy raw).outcome before = (.ok identity, after)) :
    ∃ verified, handler.Vouches policy raw before verified ∧ identity.token = verified.token := by
  obtain ⟨own, _, halone, hidentity⟩ := validateWithin_eq_ok hrun
  obtain ⟨examined, _, hexamine, _, hown⟩ := validateAlone_eq_ok halone
  obtain ⟨opened, middle, last, _, _, hopen, hverify, _⟩ := examine_eq_ok hexamine
  refine ⟨examined.verified, ⟨opened, middle, last, hopen, hverify⟩, ?_⟩
  rw [hidentity, hown]
  rfl

theorem forall_signingKeys {holds : Key → Prop} (hkey : policy.signingKeys = [key])
    (hholds : holds key) : ∀ other ∈ policy.signingKeys, holds other := by
  rw [hkey]
  intro other hother
  rwa [List.mem_singleton.1 hother]

/-- A text of three segments is opened as it stands. -/
theorem openToken_signed_eq_ok (hformat : handler.format = { TokenFormat.compact with name })
    (hsegments : Compact.segments raw = [head, payload, signature]) {remaining : Nat}
    (hrun : (handler.openToken policy remaining raw).outcome before = (.ok token, after)) :
    Compact.parse (!policy.requireSignature) raw = .ok token ∧ token.innermost = token ∧
      after.suite = before.suite := by
  have hopen := hrun
  unfold openToken at hrun
  obtain ⟨_, _, hsize, hrun⟩ := Run.outcome_bind_eq_ok.1 hrun
  obtain ⟨found, _, hparse, _⟩ := Run.outcome_bind_eq_ok.1 hrun
  have hfits := Compact.checkSize_eq_ok.1 (Prod.mk.inj (Run.outcome_adapting_eq_ok.1 hsize)).1
  have hread := parse_eq_ok hformat
    (Run.outcome_adapting_eq_ok.1 (Run.outcome_adapting_eq_ok.1 hparse))
  obtain ⟨header, claims, bytes, rfl, _, _⟩ := Compact.parse_replaced hsegments hread
  rw [outcome_openToken hformat hfits hread] at hopen
  obtain ⟨hfound, rfl⟩ := Prod.mk.inj hopen
  obtain rfl := Except.ok.inj hfound
  exact ⟨hread, rfl, rfl⟩

theorem Vouches.reads (hformat : handler.format = { TokenFormat.compact with name })
    (hvalidator : policy.signatureValidator = none)
    (hsegments : Compact.segments raw = [head, payload, signature])
    (hvouches : handler.Vouches policy raw before verified) :
    Compact.parse (!policy.requireSignature) raw = .ok verified.token := by
  obtain ⟨opened, middle, after, hopen, hverify⟩ := hvouches
  obtain ⟨hparse, hinnermost, _⟩ := openToken_signed_eq_ok hformat hsegments hopen
  rw [hinnermost] at hverify
  obtain rfl := verify_token hvalidator hverify
  exact hparse

/-- A text whose signature is accepted under one key holds a token that the key verifies. -/
theorem Vouches.verifies (hformat : handler.format = { TokenFormat.compact with name })
    (hsuite : handler.suite = .caching isLive) (hrequire : policy.requireSignature = true)
    (hvalidator : policy.signatureValidator = none) (hresolver : policy.signingKeyResolver = none)
    (hkey : policy.signingKeys = [key]) (hring : ring.Has key)
    (hcache : before.suite.Faithful ring)
    (hsegments : Compact.segments raw = [head, payload, signature])
    (hvouches : handler.Vouches policy raw before verified)
    (halgorithm : verified.token.header.algorithm? = some algorithm.name) :
    Compact.parse false raw = .ok verified.token ∧ key.Verifies algorithm verified.token := by
  have hparse := hvouches.reads hformat hvalidator hsegments
  obtain ⟨opened, middle, after, hopen, hverify⟩ := hvouches
  obtain ⟨_, hinnermost, hmiddle⟩ := openToken_signed_eq_ok hformat hsegments hopen
  have hgiven : policy.resolver? .signing = none := hresolver
  rw [hinnermost] at hverify
  obtain rfl := verify_token hvalidator hverify
  have hstandard : (((handler.withSuite .standard).verify policy verified.token).outcome
      ⟨(), middle.replay, []⟩).1 = .ok verified := by
    rw [← verify_answer_eq hsuite hresolver (forall_signingKeys hkey hring) (hmiddle ▸ hcache),
      hverify]
  obtain ⟨_, voucher, _⟩ := verify_eq_ok rfl hrequire hvalidator (Prod.ext hstandard rfl)
  have hname : voucher.algorithm = algorithm := SignatureAlgorithm.name_injective
    (Option.some.inj (voucher.namesAlgorithm.symm.trans halgorithm))
  have hcandidate := (Policy.mem_candidates hgiven).1 voucher.candidate
  rw [show policy.keys .signing = [key] from hkey] at hcandidate
  rw [hrequire] at hparse
  refine ⟨hparse, voucher.scheme, ?_, voucher.verifies⟩
  rw [← List.mem_singleton.1 hcandidate, ← hname]
  exact voucher.serves

theorem answer_verify_of_unsigned (hrequire : policy.requireSignature = true)
    (hvalidator : policy.signatureValidator = none) (hsigned : token.hasSignature = false) :
    ∃ fault, ((handler.verify policy token).outcome before).1 = .error fault ∧
      fault.kind = .signatureRequiredButMissing := by
  have hunsigned : ¬token.hasSignature = true := by
    rw [hsigned]
    exact Bool.false_ne_true
  unfold verify
  rw [hvalidator]
  simp only [if_neg hunsigned, if_pos hrequire]
  exact ⟨_, rfl, rfl⟩

theorem answer_verify_of_one_key (hsuite : handler.suite = .caching isLive)
    (hvalidator : policy.signatureValidator = none) (hresolver : policy.signingKeyResolver = none)
    (hkey : policy.signingKeys = [key]) (hring : ring.Has key)
    (hcache : before.suite.Faithful ring) (hsigned : token.hasSignature = true)
    (halgorithm : token.header.algorithm? = some algorithm.name)
    (hforged : ¬key.Verifies algorithm token) :
    ∃ fault, ((handler.verify policy token).outcome before).1 = .error fault ∧
      fault.kind = .invalidSignature := by
  rw [verify_answer_eq hsuite hresolver (forall_signingKeys hkey hring) hcache]
  refine answer_verify_of_not_verifies rfl hvalidator hresolver ?_ hsigned halgorithm
    (forall_signingKeys hkey hforged)
  rw [hkey]
  exact List.cons_ne_nil _ _

/-- A text is refused for its signature when every check of it comes to a fault of one kind. -/
theorem validate_of_verify_error (hformat : handler.format = { TokenFormat.compact with name })
    (hsize : raw.utf8ByteSize ≤ policy.maximumTokenSize.getD handler.settings.maximumTokenSize)
    (hparse : Compact.parse (!policy.requireSignature) raw = .ok token)
    (hsigned : ¬token.isEncrypted = true) (hcache : before.suite.Faithful ring) {kind : FaultKind}
    (hverify : ∀ start : Session SchemeCache ρ, start.suite.Faithful ring →
      ∃ fault, ((handler.verify policy token).outcome start).1 = .error fault ∧ fault.kind = kind) :
    ∃ fault, ((handler.validate policy raw).outcome before).1 = .error fault ∧
      fault.kind = kind := by
  obtain ⟨middle, hmiddle, hopen⟩ := openToken_of_parse hformat hsize hparse hsigned
    handler.settings.maximumNestingDepth
  obtain ⟨fault, hfault, hkind⟩ := hverify middle (hmiddle ▸ hcache)
  rcases hrun : (handler.verify policy token).outcome middle with ⟨answer, after⟩
  rw [hrun] at hfault
  obtain rfl : answer = .error fault := hfault
  have hexamine : (handler.examine policy handler.settings.maximumNestingDepth raw).outcome before =
      (.error (fault.withContext Detail.stage "signature"), after) := by
    unfold examine
    refine Run.outcome_bind_eq_error.2 (.inr ⟨token, middle, hopen, ?_⟩)
    rw [innermost_of_not_encrypted hsigned]
    exact Run.outcome_bind_eq_error.2
      (.inl (Run.outcome_adapting_eq_error.2 ⟨fault, hrun, rfl⟩))
  exact ⟨_, congrArg Prod.fst (validateWithin_of_examine_error hexamine), hkind⟩

/-- A text that is not read is refused as malformed. -/
theorem validate_of_parse_error (hformat : handler.format = { TokenFormat.compact with name })
    (hsize : raw.utf8ByteSize ≤ policy.maximumTokenSize.getD handler.settings.maximumTokenSize)
    {malformation : Compact.Malformation}
    (hparse : Compact.parse (!policy.requireSignature) raw = .error malformation) :
    ∃ fault, ((handler.validate policy raw).outcome before).1 = .error fault ∧
      fault.kind = .malformedToken := by
  have hchecked : Compact.checkSize raw
      (policy.maximumTokenSize.getD handler.settings.maximumTokenSize) = .ok () :=
    Compact.checkSize_eq_ok.2 hsize
  have hformatted : handler.format.parse (!policy.requireSignature) raw =
      .error malformation.fault := by
    rw [hformat]
    exact congrArg (Except.mapError (·.fault)) hparse
  have hopen : (handler.openToken policy handler.settings.maximumNestingDepth raw).outcome before =
      (.error ((malformation.fault.withContext Detail.format handler.format.name).withContext
        Detail.stage "parse"), before.noting (.parse (!policy.requireSignature) raw)) := by
    unfold openToken parse Run.atStage
    simp only [hchecked, hformatted, Run.outcome_bind, Run.outcome_adapting, Run.outcome_note,
      Run.outcome_lift]
    rfl
  exact ⟨_, congrArg Prod.fst
    (validateWithin_of_examine_error (examine_of_openToken_error hopen)), rfl⟩

variable {other : String} {start : Session SchemeCache ρ}

/-- Of all the texts that differ in their last segment no other than the accepted one is accepted, if
the signature is a digest under the one key that there is. -/
theorem validate_respelled (hformat : handler.format = { TokenFormat.compact with name })
    (hsuite : handler.suite = .caching isLive) (hrequire : policy.requireSignature = true)
    (hvalidator : policy.signatureValidator = none) (hresolver : policy.signingKeyResolver = none)
    (hkey : policy.signingKeys = [key]) (hring : ring.Has key)
    (hcache : before.suite.Faithful ring)
    (hsegments : Compact.segments raw = [head, payload, signature])
    (hvouches : handler.Vouches policy raw before verified)
    (halgorithm : verified.token.header.algorithm? = some algorithm.name)
    (hsymmetric : algorithm.isSymmetric = true) (hother : other ≠ signature)
    (hdot : '.' ∉ other.toList) (hstart : start.suite.Faithful ring)
    (hsize : (Compact.join [head, payload, other]).utf8ByteSize ≤
      policy.maximumTokenSize.getD handler.settings.maximumTokenSize) :
    ∃ fault, ((handler.validate policy (Compact.join [head, payload, other])).outcome start).1 =
        .error fault ∧
      (other = "" → fault.kind = .signatureRequiredButMissing) ∧
      (¬Compact.IsCanonical other → fault.kind = .malformedToken) ∧
      (other ≠ "" → Compact.IsCanonical other → fault.kind = .invalidSignature) := by
  obtain ⟨hparse, hverifies⟩ := hvouches.verifies hformat hsuite hrequire hvalidator hresolver hkey
    hring hcache hsegments halgorithm
  obtain ⟨header, claims, bytes, htoken, hsignature, hreplaced⟩ :=
    Compact.parse_replaced hsegments hparse
  rw [htoken] at hverifies halgorithm
  have hothers := Compact.segments_replaced (Compact.parse_eq_ok.1 hparse).1 hsegments hdot
  by_cases hcanonical : Compact.IsCanonical other
  · obtain ⟨bytes', rfl⟩ := hcanonical
    have hread : Compact.parse (!policy.requireSignature)
        (Compact.join [head, payload, Compact.encodeSegment bytes']) =
        .ok (.signed (Compact.join [head, payload, Compact.encodeSegment bytes']) header claims
          bytes') := by
      rw [hrequire]
      exact hreplaced bytes'
    by_cases hempty : bytes' = []
    · subst hempty
      obtain ⟨fault, hfault, hkind⟩ := validate_of_verify_error hformat hsize hread
        Bool.false_ne_true hstart fun _ _ => answer_verify_of_unsigned hrequire hvalidator rfl
      exact ⟨fault, hfault, fun _ => hkind, fun h => absurd ⟨[], rfl⟩ h, fun h => absurd rfl h⟩
    · have hforged : ¬key.Verifies algorithm
          (.signed (Compact.join [head, payload, Compact.encodeSegment bytes']) header claims
            bytes') := by
        intro hforged
        have hsame : bytes = bytes' := hverifies.signature_eq hsymmetric hforged
          (Compact.signingInput_replaced hsegments hothers)
        rw [hsignature, hsame] at hother
        exact hother rfl
      have hsigned : (Token.signed (Compact.join [head, payload, Compact.encodeSegment bytes'])
          header claims bytes').hasSignature = true := by
        simpa [Token.hasSignature, Token.signature] using hempty
      obtain ⟨fault, hfault, hkind⟩ := validate_of_verify_error hformat hsize hread
        Bool.false_ne_true hstart fun _ hsession =>
          answer_verify_of_one_key hsuite hvalidator hresolver hkey hring hsession hsigned
            halgorithm hforged
      refine ⟨fault, hfault, fun h => ?_, fun h => absurd ⟨bytes', rfl⟩ h, fun _ _ => hkind⟩
      exact absurd h (Compact.encodeSegment_ne_empty.2 hempty)
  · obtain ⟨malformation, hmalformed⟩ := Compact.parse_not_canonical hothers hcanonical
    have hrefused : Compact.parse (!policy.requireSignature) (Compact.join [head, payload, other]) =
        .error malformation := by
      rw [hrequire]
      exact hmalformed
    obtain ⟨fault, hfault, hkind⟩ := validate_of_parse_error hformat hsize hrefused
    refine ⟨fault, hfault, ?_, fun _ => hkind, fun _ h => absurd h hcanonical⟩
    rintro rfl
    exact absurd ⟨[], rfl⟩ hcanonical

/-! ### A signed token with another last segment -/

theorem segments_sampleText : Compact.segments sampleText =
    ["eyJhbGciOiJIUzI1NiJ9", "e30", "W9O5T_GK_cDhDYwGwTVhGtX4pbZJ_YXl-Eme6zLJPT4"] := by
  decide +kernel

set_option maxRecDepth 10000 in
theorem algorithm_sampleText :
    ((Compact.parse (!samplePolicy.requireSignature) sampleText).toOption.bind fun token =>
      token.header.algorithm?) = some SignatureAlgorithm.hs256.name := by
  decide +kernel

/-- The sample with another last segment. -/
def respelledText (signature : String) : String :=
  Compact.join ["eyJhbGciOiJIUzI1NiJ9", "e30", signature]

/-- No signature, then one in which a bit beyond the last byte is set, then one of other bytes. -/
theorem validate_respelled_sampleText :
    (∃ fault, ((sampleHandler.validate samplePolicy (respelledText "")).outcome sampleSession).1 =
        .error fault ∧ fault.kind = .signatureRequiredButMissing) ∧
      (∃ fault, ((sampleHandler.validate samplePolicy
          (respelledText "W9O5T_GK_cDhDYwGwTVhGtX4pbZJ_YXl-Eme6zLJPT5")).outcome sampleSession).1 =
        .error fault ∧ fault.kind = .malformedToken) ∧
      ∃ fault, ((sampleHandler.validate samplePolicy
          (respelledText "X9O5T_GK_cDhDYwGwTVhGtX4pbZJ_YXl-Eme6zLJPT4")).outcome sampleSession).1 =
        .error fault ∧ fault.kind = .invalidSignature := by
  have hsample := isOk_validate_sample
  rcases hrun : (sampleHandler.validate samplePolicy sampleText).outcome sampleSession with
    ⟨fault | identity, after⟩
  · rw [hrun] at hsample
    exact nomatch hsample
  obtain ⟨verified, hvouches, _⟩ := vouches_of_validate hrun
  have halgorithm : verified.token.header.algorithm? = some SignatureAlgorithm.hs256.name := by
    have hread : Compact.parse (!samplePolicy.requireSignature) sampleText = .ok verified.token :=
      hvouches.reads rfl rfl segments_sampleText
    have hnamed := algorithm_sampleText
    rw [hread] at hnamed
    exact hnamed
  have hcache : sampleSession.suite.Faithful fun _ => sampleKey.material :=
    SchemeCache.faithful_empty _
  have hring : KeyRing.Has (fun _ => sampleKey.material) sampleKey := rfl
  have hfails {other : String} (hother : other ≠ "W9O5T_GK_cDhDYwGwTVhGtX4pbZJ_YXl-Eme6zLJPT4")
      (hdot : '.' ∉ other.toList)
      (hsize : (respelledText other).utf8ByteSize ≤
        samplePolicy.maximumTokenSize.getD sampleHandler.settings.maximumTokenSize) :=
    validate_respelled rfl rfl rfl rfl rfl rfl hring hcache segments_sampleText hvouches halgorithm
      rfl hother hdot hcache hsize
  refine ⟨?_, ?_, ?_⟩
  · obtain ⟨fault, hfault, hmissing, _⟩ := @hfails "" (by decide) (by decide) (by decide +kernel)
    exact ⟨fault, hfault, hmissing rfl⟩
  · obtain ⟨fault, hfault, _, hmalformed, _⟩ :=
      @hfails "W9O5T_GK_cDhDYwGwTVhGtX4pbZJ_YXl-Eme6zLJPT5" (by decide) (by decide)
        (by decide +kernel)
    exact ⟨fault, hfault, hmalformed (by decide +kernel)⟩
  · obtain ⟨fault, hfault, _, _, hforged⟩ :=
      @hfails "X9O5T_GK_cDhDYwGwTVhGtX4pbZJ_YXl-Eme6zLJPT4" (by decide) (by decide)
        (by decide +kernel)
    exact ⟨fault, hfault, hforged (by decide) (by decide +kernel)⟩

end Handler

end SecurityToken
