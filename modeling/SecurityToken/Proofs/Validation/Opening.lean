import SecurityToken.Proofs.Compact.Grammar
import SecurityToken.Proofs.Session.Outcome
import SecurityToken.Proofs.Suite.Standard
import SecurityToken.Validation.Basic

/-!
# From the text that was presented to the token inside

Each layer of encryption leads from one text to another: the outer one spells an encrypted token,
and a candidate key opens its content under the algorithms that its header names. A token that comes
out of the opening was read from a text at the end of such layers, or else its claims were bare in
the content, and then it has no signature.
-/

namespace SecurityToken

variable {ρ : Type}

namespace Policy

/-- A layer of encryption that a policy has the keys to open. -/
structure Layer (policy : Policy ρ) (outer inner : String) where
  header : Header
  content : SealedContent
  reads : Compact.parse (!policy.requireSignature) outer =
    .ok (.encrypted outer header content none)
  fiveSegments : (Compact.segments outer).length = 5
  key : Key
  candidate : key ∈ policy.candidates .decryption outer header
  keyAlgorithm : KeyAlgorithm
  namesKeyAlgorithm : header.algorithm? = some keyAlgorithm.name
  scheme : KeyScheme
  serves : key.keyScheme keyAlgorithm = .ok scheme
  contentKey : Bytes
  unwraps : scheme.unwrap content.encryptedKey = .ok contentKey
  contentAlgorithm : ContentAlgorithm
  namesContentAlgorithm : header.encryption? = some contentAlgorithm.name
  cipher : ContentCipher
  ciphers : ContentCipher.ofAlgorithm contentAlgorithm = .ok cipher
  /-- The first segment is authenticated along with the content. -/
  decrypts : cipher.decrypt ⟨content.ciphertext, content.iv, content.tag⟩
    (Bytes.ofText (Compact.segment outer 0)) contentKey = .ok (Bytes.ofText inner)

/-- Whether a text is another one itself, or lies inside it under layers of encryption. -/
inductive Reaches (policy : Policy ρ) : String → String → Prop where
  | itself {raw : String} : Reaches policy raw raw
  | within {outer inner text : String} (layer : policy.Layer outer inner)
      (hinner : Reaches policy inner text) : Reaches policy outer text

end Policy

namespace Decryption

theorem open?_eq_some {scheme : KeyScheme} {cipher : ContentCipher} {content : SealedContent}
    {associated plaintext : Bytes} :
    open? scheme cipher content associated = some plaintext ↔
      ∃ contentKey, scheme.unwrap content.encryptedKey = .ok contentKey ∧
        cipher.decrypt ⟨content.ciphertext, content.iv, content.tag⟩ associated contentKey =
          .ok plaintext := by
  unfold open?
  cases hunwrap : scheme.unwrap content.encryptedKey with
  | error fault => simp
  | ok contentKey =>
      simp only [Except.ok.injEq, exists_eq_left']
      cases cipher.decrypt ⟨content.ciphertext, content.iv, content.tag⟩ associated contentKey with
      | error fault => simp [Except.toOption]
      | ok found => simp [Except.toOption]

end Decryption

namespace Handler

variable {handler : Handler Unit} {policy : Policy ρ} {before after : Session Unit ρ}

theorem candidates_eq_ok {σ : Type} {before after : Session σ ρ} {use : KeyUse} {token : Token}
    {keys : List Key}
    (hrun : (candidates policy use token).outcome before = (.ok keys, after)) :
    keys = policy.candidates use token.raw token.header := by
  unfold candidates at hrun
  by_cases hactive : (policy.activeResolver? use).isSome = true
  · rw [if_pos hactive] at hrun
    obtain ⟨_, _, _, hrun⟩ := Run.outcome_bind_eq_ok.1 hrun
    exact (Except.ok.inj (Prod.mk.inj hrun).1).symm
  · rw [if_neg hactive] at hrun
    exact (Except.ok.inj (Prod.mk.inj hrun).1).symm

theorem parse_eq_ok {σ : Type} {handler : Handler σ} {before after : Session σ ρ} {raw : String}
    {token : Token} {name : String} (hformat : handler.format = { TokenFormat.compact with name })
    (hrun : (handler.parse policy raw).outcome before = (.ok token, after)) :
    Compact.parse (!policy.requireSignature) raw = .ok token := by
  unfold parse at hrun
  obtain ⟨_, _, _, hrun⟩ := Run.outcome_bind_eq_ok.1 hrun
  rw [hformat] at hrun
  exact Compact.compact_parse_eq_ok.1 (Prod.mk.inj hrun).1

theorem openWith_eq_ok (hsuite : handler.suite = .standard) {algorithm : String}
    {cipher : ContentCipher} {content : SealedContent} {associated : Bytes} {keys : List Key}
    {tried : Nat} {plaintext : Bytes}
    (hrun : (handler.openWith algorithm cipher content associated tried keys).outcome before =
      (.ok plaintext, after)) :
    ∃ key ∈ keys, ∃ (keyAlgorithm : KeyAlgorithm) (scheme : KeyScheme),
      algorithm = keyAlgorithm.name ∧ key.keyScheme keyAlgorithm = .ok scheme ∧
        Decryption.open? scheme cipher content associated = some plaintext := by
  induction keys generalizing tried before with
  | nil =>
      rw [openWith, Run.outcome_throw] at hrun
      exact nomatch (Prod.mk.inj hrun).1
  | cons key rest ih =>
      rw [openWith] at hrun
      obtain ⟨answer, middle, hask, hrun⟩ := Run.outcome_bind_eq_ok.1 hrun
      have hanswer : ((CryptoSuite.standard.keyManagement key algorithm).run ()).1 = answer := by
        rw [hsuite, Run.outcome_ask] at hask
        exact Except.ok.inj (Prod.mk.inj hask).1
      have hlater : ∀ {tried middle},
          (handler.openWith algorithm cipher content associated tried rest).outcome middle =
            (.ok plaintext, after) →
          ∃ key' ∈ key :: rest, ∃ (keyAlgorithm : KeyAlgorithm) (scheme : KeyScheme),
            algorithm = keyAlgorithm.name ∧ key'.keyScheme keyAlgorithm = .ok scheme ∧
              Decryption.open? scheme cipher content associated = some plaintext := by
        intro tried middle hrest
        obtain ⟨key', hkey', hopens⟩ := ih hrest
        exact ⟨key', List.mem_cons_of_mem _ hkey', hopens⟩
      cases answer with
      | error fault =>
          simp only at hrun
          split at hrun
          · exact nomatch (Prod.mk.inj hrun).1
          · exact hlater hrun
      | ok scheme =>
          simp only at hrun
          split at hrun
          next found hfound =>
            obtain rfl := Except.ok.inj (Prod.mk.inj hrun).1
            obtain ⟨keyAlgorithm, hname, hscheme⟩ :=
              CryptoSuite.standard_keyManagement_eq_ok hanswer
            exact ⟨key, List.mem_cons_self, keyAlgorithm, scheme, hname, hscheme, hfound⟩
          next => exact hlater hrun

theorem plaintext_eq_ok (hsuite : handler.suite = .standard) {token : Token} {plaintext : Bytes}
    (hrun : (handler.plaintext policy token).outcome before = (.ok plaintext, after)) :
    ∃ (content : SealedContent) (keyAlgorithm : KeyAlgorithm) (contentAlgorithm : ContentAlgorithm)
      (cipher : ContentCipher), token.content? = some content ∧
      token.header.algorithm? = some keyAlgorithm.name ∧
      token.header.encryption? = some contentAlgorithm.name ∧
      ContentCipher.ofAlgorithm contentAlgorithm = .ok cipher ∧
      ∃ key ∈ policy.candidates .decryption token.raw token.header, ∃ scheme : KeyScheme,
        key.keyScheme keyAlgorithm = .ok scheme ∧
        Decryption.open? scheme cipher content (Bytes.ofText (Compact.segment token.raw 0)) =
          some plaintext := by
  unfold Handler.plaintext at hrun
  split at hrun
  case h_2 => exact nomatch (Prod.mk.inj hrun).1
  case h_1 algorithm encryption content halgorithm hencryption hcontent =>
      obtain ⟨answer, middle, hask, hrun⟩ := Run.outcome_bind_eq_ok.1 hrun
      have hanswer : ((CryptoSuite.standard.content encryption).run ()).1 = answer := by
        rw [hsuite, Run.outcome_ask] at hask
        exact Except.ok.inj (Prod.mk.inj hask).1
      cases answer with
      | error fault => exact nomatch (Prod.mk.inj hrun).1
      | ok cipher =>
          obtain ⟨keys, last, hkeys, hopen⟩ := Run.outcome_bind_eq_ok.1 hrun
          obtain rfl := candidates_eq_ok hkeys
          obtain ⟨contentAlgorithm, hname, hcipher⟩ := CryptoSuite.standard_content_eq_ok hanswer
          obtain ⟨key, hkey, keyAlgorithm, scheme, hname', hscheme, hopens⟩ :=
            openWith_eq_ok hsuite hopen
          rw [hname'] at halgorithm
          rw [hname] at hencryption
          exact ⟨content, keyAlgorithm, contentAlgorithm, cipher, hcontent, halgorithm, hencryption,
            hcipher, key, hkey, scheme, hscheme, hopens⟩

theorem payload_eq_ok (hsuite : handler.suite = .standard) {outer inner : String} {token : Token}
    (hread : Compact.parse (!policy.requireSignature) outer = .ok token)
    (hrun : (handler.payload policy token).outcome before = (.ok inner, after)) :
    Nonempty (policy.Layer outer inner) := by
  unfold payload at hrun
  obtain ⟨plaintext, middle, hplaintext, hrun⟩ := Run.outcome_bind_eq_ok.1 hrun
  split at hrun
  case h_2 => exact nomatch (Prod.mk.inj hrun).1
  case h_1 found htext =>
      obtain rfl := Except.ok.inj (Prod.mk.inj hrun).1
      obtain rfl := Bytes.text?_eq_some.1 htext
      obtain ⟨content, keyAlgorithm, contentAlgorithm, cipher, hcontent, halgorithm, hencryption,
        hcipher, key, hkey, scheme, hscheme, hopens⟩ := plaintext_eq_ok hsuite hplaintext
      obtain ⟨contentKey, hunwrap, hdecrypt⟩ := Decryption.open?_eq_some.1 hopens
      obtain ⟨_, hreads⟩ := Compact.parse_eq_ok.1 hread
      cases token with
      | signed raw header claims signature => exact nomatch hcontent
      | encrypted raw header content' inner' =>
          obtain rfl := Option.some.inj hcontent
          obtain ⟨rfl, hfive, _, _, _, _, rfl⟩ := hreads
          exact ⟨⟨header, content', hread, hfive, key, hkey, keyAlgorithm, halgorithm, scheme,
            hscheme, contentKey, hunwrap, contentAlgorithm, hencryption, cipher, hcipher,
            hdecrypt⟩⟩

theorem innermost_withInner {token inner : Token} (hencrypted : token.isEncrypted = true) :
    (token.withInner inner).innermost = inner.innermost := by
  cases token with
  | signed raw header claims signature => exact nomatch hencrypted
  | encrypted raw header content inner' => rfl

theorem innermost_of_not_encrypted {token : Token} (hsigned : ¬token.isEncrypted = true) :
    token.innermost = token := by
  cases token with
  | signed raw header claims signature => rfl
  | encrypted raw header content inner' => exact absurd rfl hsigned

/-- What an opened token comes to: the reading of a text, or claims without a signature. -/
def ReachedFrom (policy : Policy ρ) (raw : String) (token : Token) : Prop :=
  token.hasSignature = false ∨
    ∃ text, policy.Reaches raw text ∧ Compact.parse (!policy.requireSignature) text = .ok token

theorem bare_eq_ok {token opened : Token} {payload : String}
    (hencrypted : token.isEncrypted = true)
    (hrun : (match Decryption.claims? payload with
      | some claims =>
          pure (token.withInner (.signed token.raw token.header claims [])) | none =>
          throw (.malformed "decrypted payload is not a JSON object") : Run Unit ρ Token).outcome
        before = (.ok opened, after)) :
    opened.innermost.hasSignature = false := by
  split at hrun
  · obtain rfl := Except.ok.inj (Prod.mk.inj hrun).1
    rw [innermost_withInner hencrypted]
    rfl
  · exact nomatch (Prod.mk.inj hrun).1

/-- By induction on the layers that remain: each opens the text of the one before. -/
theorem decrypt_eq_ok (hformat : handler.format = .compact) (hsuite : handler.suite = .standard)
    {remaining : Nat} {raw : String} {token opened : Token}
    (hread : Compact.parse (!policy.requireSignature) raw = .ok token)
    (hencrypted : token.isEncrypted = true)
    (hrun : (handler.decrypt policy remaining token).outcome before = (.ok opened, after)) :
    ReachedFrom policy raw opened.innermost := by
  induction remaining generalizing raw token opened before after with
  | zero =>
      rw [decrypt] at hrun
      obtain ⟨inner, middle, _, hrun⟩ := Run.outcome_bind_eq_ok.1 hrun
      split at hrun
      · exact .inl (bare_eq_ok hencrypted hrun)
      · exact nomatch (Prod.mk.inj hrun).1
  | succ remaining ih =>
      rw [decrypt] at hrun
      obtain ⟨inner, middle, hpayload, hrun⟩ := Run.outcome_bind_eq_ok.1 hrun
      obtain ⟨layer⟩ := payload_eq_ok hsuite hread hpayload
      split at hrun
      · exact .inl (bare_eq_ok hencrypted hrun)
      · obtain ⟨nested, last, hnested, hrun⟩ := Run.outcome_bind_eq_ok.1 hrun
        have hread' := parse_eq_ok hformat hnested
        split at hrun
        next hdeeper =>
          obtain ⟨found, _, hfound, hrun⟩ := Run.outcome_bind_eq_ok.1 hrun
          obtain rfl := Except.ok.inj (Prod.mk.inj hrun).1
          rw [innermost_withInner hencrypted]
          rcases ih hread' hdeeper hfound with hunsigned | ⟨text, hreach, htext⟩
          · exact .inl hunsigned
          · exact .inr ⟨text, .within layer hreach, htext⟩
        next hsigned =>
          obtain rfl := Except.ok.inj (Prod.mk.inj hrun).1
          rw [innermost_withInner hencrypted, innermost_of_not_encrypted hsigned]
          exact .inr ⟨inner, .within layer .itself, hread'⟩

theorem openToken_eq_ok (hformat : handler.format = .compact) (hsuite : handler.suite = .standard)
    {remaining : Nat} {raw : String} {opened : Token}
    (hrun : (handler.openToken policy remaining raw).outcome before = (.ok opened, after)) :
    ReachedFrom policy raw opened.innermost := by
  unfold openToken at hrun
  obtain ⟨_, _, _, hrun⟩ := Run.outcome_bind_eq_ok.1 hrun
  obtain ⟨token, middle, htoken, hrun⟩ := Run.outcome_bind_eq_ok.1 hrun
  have hread := parse_eq_ok hformat
    (Run.outcome_adapting_eq_ok.1 (Run.outcome_adapting_eq_ok.1 htoken))
  split at hrun
  next hencrypted =>
    exact decrypt_eq_ok hformat hsuite hread hencrypted (Run.outcome_adapting_eq_ok.1 hrun)
  next hsigned =>
    obtain rfl := Except.ok.inj (Prod.mk.inj hrun).1
    rw [innermost_of_not_encrypted hsigned]
    exact .inr ⟨raw, .itself, hread⟩

end Handler

end SecurityToken
