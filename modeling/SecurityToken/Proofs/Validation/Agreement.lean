import SecurityToken.Proofs.Session.Agreement
import SecurityToken.Validation.Basic

/-!
# Validation under two suites

A handler meets its suite only in requests for keys that the policy offers. Under two suites that
agree on those keys every stage of a validation but that of replay agrees with itself, whatever the
relation of sessions is. The stage of replay is left out because it alone reads the stores of
presented tokens.
-/

namespace SecurityToken

variable {σ τ ρ α β : Type}

/-- Whether every key that a policy may offer for a token has a property. -/
def Policy.OffersOnly (policy : Policy ρ) (known : Key → Prop) : Prop :=
  ∀ (use : KeyUse) (raw : String) (header : Header), ∀ key ∈ policy.candidates use raw header,
    known key

theorem Policy.activeResolver?_eq_none {policy : Policy ρ} {use : KeyUse}
    (hresolver : policy.resolver? use = none) : policy.activeResolver? use = none := by
  unfold Policy.activeResolver?
  rw [hresolver, ite_self]

/-- Without a resolver the candidates are the keys that are given, in one order or another. -/
theorem Policy.candidates_perm {policy : Policy ρ} {use : KeyUse}
    (hresolver : policy.resolver? use = none) (raw : String) (header : Header) :
    (policy.candidates use raw header).Perm (policy.keys use) := by
  unfold Policy.candidates
  rw [Policy.activeResolver?_eq_none hresolver]
  simp only [List.partition_eq_filter_filter]
  exact List.filter_append_perm (isHinted header) (policy.keys use)

theorem Policy.mem_candidates {policy : Policy ρ} {use : KeyUse}
    (hresolver : policy.resolver? use = none) {raw : String} {header : Header} {key : Key} :
    key ∈ policy.candidates use raw header ↔ key ∈ policy.keys use :=
  (candidates_perm hresolver raw header).mem_iff

theorem Policy.offersOnly_of_keys {policy : Policy ρ} {known : Key → Prop}
    (hresolver : ∀ use, policy.resolver? use = none)
    (hkeys : ∀ use, ∀ key ∈ policy.keys use, known key) : policy.OffersOnly known :=
  fun use _ _ key hkey => hkeys use key ((mem_candidates (hresolver use)).1 hkey)

theorem Policy.offersOnly_true (policy : Policy ρ) : policy.OffersOnly fun _ => True :=
  fun _ _ _ _ _ => trivial

namespace Handler

def withSuite (handler : Handler σ) (suite : CryptoSuite τ) : Handler τ :=
  { handler with suite }

/-- Without a resolver no one is asked for the candidates. -/
theorem candidates_eq_pure {policy : Policy ρ} {use : KeyUse}
    (hresolver : policy.resolver? use = none) (token : Token) :
    (candidates policy use token : Run σ ρ (List Key)) =
      pure (policy.candidates use token.raw token.header) := by
  have hinactive : ¬(policy.activeResolver? use).isSome = true := by
    rw [Policy.activeResolver?_eq_none hresolver]
    exact Bool.false_ne_true
  unfold candidates
  rw [if_neg hinactive]

section Stages

variable {same : Session σ ρ → Session τ ρ → Prop} {known : Key → Prop} {handler : Handler σ}
  {suite : CryptoSuite τ} (hsuite : CryptoSuite.Agree same handler.suite suite known)
  {policy : Policy ρ} (hpolicy : policy.OffersOnly known)

include hsuite

theorem parse_agree (raw : String) :
    Run.Agree same (handler.parse policy raw) ((handler.withSuite suite).parse policy raw) := by
  apply Run.Agree.bind (Run.Agree.note _ (hsuite.note _))
  intro _
  exact Run.Agree.lift _

/-- What follows the choice of the candidate keys needs to agree on those keys only. -/
theorem candidates_bind_agree (use : KeyUse) (token : Token) {next : List Key → Run σ ρ α}
    {next' : List Key → Run τ ρ α}
    (hnext : Run.Agree same (next (policy.candidates use token.raw token.header))
      (next' (policy.candidates use token.raw token.header))) :
    Run.Agree same (candidates policy use token >>= next)
      (candidates policy use token >>= next') := by
  unfold candidates
  by_cases hactive : (policy.activeResolver? use).isSome = true
  · rw [if_pos hactive, if_pos hactive, bind_assoc, bind_assoc]
    apply Run.Agree.bind (Run.Agree.note _ (hsuite.note _))
    intro _
    rw [pure_bind, pure_bind]
    exact hnext
  · rw [if_neg hactive, if_neg hactive, pure_bind, pure_bind]
    exact hnext

theorem openWith_agree (algorithm : String) (cipher : ContentCipher) (content : SealedContent)
    (associated : Bytes) {keys : List Key} (hkeys : ∀ key ∈ keys, known key) (tried : Nat) :
    Run.Agree same (handler.openWith algorithm cipher content associated tried keys)
      ((handler.withSuite suite).openWith algorithm cipher content associated tried keys) := by
  induction keys generalizing tried with
  | nil => exact Run.Agree.throw _
  | cons key rest ih =>
      have hrest : ∀ other ∈ rest, known other :=
        fun other hother => hkeys other (List.mem_cons_of_mem _ hother)
      rw [openWith, openWith]
      apply Run.Agree.bind
      · exact Run.Agree.ask _ (hsuite.note _)
          (hsuite.keyManagement _ (hkeys key List.mem_cons_self))
      intro answer
      cases answer with
      | error fault => exact Run.Agree.ite (Run.Agree.throw _) (ih hrest tried)
      | ok scheme =>
          cases hopen : Decryption.open? scheme cipher content associated with
          | some plaintext =>
              simp only [hopen]
              exact Run.Agree.pure _
          | none =>
              simp only [hopen]
              exact ih hrest (tried + 1)

theorem verifyWith_agree (algorithm : String) (token : Token) {keys : List Key}
    (hkeys : ∀ key ∈ keys, known key) (tried : Nat) :
    Run.Agree same (handler.verifyWith algorithm token tried keys)
      ((handler.withSuite suite).verifyWith algorithm token tried keys) := by
  induction keys generalizing tried with
  | nil => exact Run.Agree.throw _
  | cons key rest ih =>
      have hrest : ∀ other ∈ rest, known other :=
        fun other hother => hkeys other (List.mem_cons_of_mem _ hother)
      rw [verifyWith, verifyWith]
      apply Run.Agree.bind
      · exact Run.Agree.ask _ (hsuite.note _)
          (hsuite.signature _ _ (hkeys key List.mem_cons_self))
      intro answer
      cases answer with
      | error fault => exact Run.Agree.ite (Run.Agree.throw _) (ih hrest tried)
      | ok scheme => exact Run.Agree.ite (Run.Agree.pure _) (ih hrest (tried + 1))

theorem checkSigningKey_agree (key : Key) (token : Token) :
    Run.Agree same (checkSigningKey policy key token) (checkSigningKey policy key token) := by
  unfold checkSigningKey
  apply Run.Agree.ite _ (Run.Agree.pure _)
  cases policy.signingKeyValidator with
  | none => exact Run.Agree.pure _
  | some accepts =>
      apply Run.Agree.bind (Run.Agree.note _ (hsuite.note _))
      intro _
      apply Run.Agree.bind (Run.Agree.lift _)
      intro accepted
      exact Run.Agree.ite (Run.Agree.pure _) (Run.Agree.throw _)

/-- Of the keys it is only those for decryption that the opening of a layer asks for. -/
theorem plaintext_agree (token : Token)
    (hkeys : ∀ key ∈ policy.candidates .decryption token.raw token.header, known key) :
    Run.Agree same (handler.plaintext policy token)
      ((handler.withSuite suite).plaintext policy token) := by
  unfold plaintext
  split
  · apply Run.Agree.bind (Run.Agree.ask _ (hsuite.note _) (hsuite.content _))
    intro answer
    cases answer with
    | error fault => exact Run.Agree.throw _
    | ok cipher =>
        apply candidates_bind_agree hsuite
        exact openWith_agree hsuite _ _ _ _ hkeys 0
  · exact Run.Agree.throw _

/-- Of the keys it is only those for signatures that the check of one asks for. -/
theorem verifySigned_agree (token : Token)
    (hkeys : ∀ key ∈ policy.candidates .signing token.raw token.header, known key) :
    Run.Agree same (handler.verifySigned policy token)
      ((handler.withSuite suite).verifySigned policy token) := by
  apply candidates_bind_agree hsuite
  apply Run.Agree.ite (Run.Agree.throw _)
  apply Run.Agree.bind (verifyWith_agree hsuite _ token hkeys 0)
  intro key
  apply Run.Agree.bind (checkSigningKey_agree hsuite key token)
  intro _
  exact Run.Agree.pure _

theorem verify_agree (token : Token)
    (hkeys : ∀ key ∈ policy.candidates .signing token.raw token.header, known key) :
    Run.Agree same (handler.verify policy token) ((handler.withSuite suite).verify policy token) := by
  unfold verify
  split
  · apply Run.Agree.bind (Run.Agree.note _ (hsuite.note _))
    intro _
    apply Run.Agree.bind (Run.Agree.lift _)
    intro verified
    exact Run.Agree.pure _
  · exact Run.Agree.ite (verifySigned_agree hsuite token hkeys)
      (Run.Agree.ite (Run.Agree.throw _) (Run.Agree.pure _))

include hpolicy

theorem payload_agree (token : Token) :
    Run.Agree same (handler.payload policy token)
      ((handler.withSuite suite).payload policy token) := by
  apply Run.Agree.bind (plaintext_agree hsuite token (hpolicy _ _ _))
  intro plaintext
  split
  · exact Run.Agree.pure _
  · exact Run.Agree.throw _

theorem decrypt_agree (remaining : Nat) (token : Token) :
    Run.Agree same (handler.decrypt policy remaining token)
      ((handler.withSuite suite).decrypt policy remaining token) := by
  induction remaining generalizing token with
  | zero =>
      rw [decrypt, decrypt]
      apply Run.Agree.bind (payload_agree hsuite hpolicy token)
      intro payload
      apply Run.Agree.ite _ (Run.Agree.throw _)
      split
      · exact Run.Agree.pure _
      · exact Run.Agree.throw _
  | succ remaining ih =>
      rw [decrypt, decrypt]
      apply Run.Agree.bind (payload_agree hsuite hpolicy token)
      intro payload
      apply Run.Agree.ite
      · split
        · exact Run.Agree.pure _
        · exact Run.Agree.throw _
      · apply Run.Agree.bind (parse_agree hsuite payload)
        intro nested
        apply Run.Agree.ite
        · apply Run.Agree.bind (ih nested)
          intro opened
          exact Run.Agree.pure _
        · exact Run.Agree.pure _

theorem openToken_agree (remaining : Nat) (raw : String) :
    Run.Agree same (handler.openToken policy remaining raw)
      ((handler.withSuite suite).openToken policy remaining raw) := by
  apply Run.Agree.bind (Run.Agree.atStage _ (Run.Agree.lift _))
  intro _
  apply Run.Agree.bind (Run.Agree.atStage _ (Run.Agree.adapting _ (parse_agree hsuite raw)))
  intro token
  exact Run.Agree.ite (Run.Agree.atStage _ (decrypt_agree hsuite hpolicy remaining token))
    (Run.Agree.pure _)

end Stages

end Handler

namespace Validation

variable {same : Session σ ρ → Session τ ρ → Prop} {policy : Policy ρ}
  (hnote : ∀ {before before'} (call : Call), same before before' →
    same (before.noting call) (before'.noting call))

include hnote

theorem checkIssuer_agree (token : Token) :
    Run.Agree same (checkIssuer policy token) (checkIssuer policy token) := by
  unfold checkIssuer
  apply Run.Agree.ite _ (Run.Agree.pure _)
  cases policy.issuerValidator with
  | none => exact Run.Agree.lift _
  | some validate =>
      apply Run.Agree.bind (Run.Agree.note _ (hnote _))
      intro _
      exact Run.Agree.lift _

theorem checkAudience_agree (token : Token) :
    Run.Agree same (checkAudience policy token) (checkAudience policy token) := by
  unfold checkAudience
  apply Run.Agree.ite _ (Run.Agree.pure _)
  cases policy.audienceValidator with
  | none => exact Run.Agree.lift _
  | some validate =>
      apply Run.Agree.bind (Run.Agree.note _ (hnote _))
      intro _
      apply Run.Agree.bind (Run.Agree.lift _)
      intro accepted
      exact Run.Agree.ite (Run.Agree.pure _) (Run.Agree.throw _)

theorem checkLifetime_agree (token : Token) :
    Run.Agree same (checkLifetime policy token) (checkLifetime policy token) := by
  unfold checkLifetime
  apply Run.Agree.bind (Run.Agree.lift _)
  intro notBefore
  apply Run.Agree.bind (Run.Agree.lift _)
  intro expires
  apply Run.Agree.ite _ (Run.Agree.pure _)
  cases policy.lifetimeValidator with
  | none =>
      apply Run.Agree.bind (Run.Agree.lift _)
      intro _
      exact Run.Agree.pure _
  | some validate =>
      apply Run.Agree.bind (Run.Agree.note _ (hnote _))
      intro _
      apply Run.Agree.bind (Run.Agree.lift _)
      intro accepted
      exact Run.Agree.ite (Run.Agree.pure _) (Run.Agree.throw _)

end Validation

end SecurityToken
