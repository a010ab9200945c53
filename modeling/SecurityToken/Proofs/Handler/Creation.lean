import SecurityToken.Handler.Creation
import SecurityToken.Proofs.Basic
import SecurityToken.Proofs.Session.Outcome

/-!
# What a creation comes to

A token is made in one course: the claim set of the draft, the signature over header and claims, and
for an encrypted token the sealing of what was signed. Each step below is taken back from its result,
so that what is proved about a created token needs no look into the making.
-/

namespace SecurityToken

variable {σ ρ α β : Type}

namespace Creation

/-- The answer of a creation and the session that it leaves. -/
def outcome (creation : Creation σ ρ α) (session : Session σ ρ) :
    Except CreationError α × Session σ ρ :=
  StateT.run (ExceptT.run creation) session

theorem outcome_bind (creation : Creation σ ρ α) (next : α → Creation σ ρ β)
    (before : Session σ ρ) :
    outcome (creation >>= next) before =
      match outcome creation before with
      | (.ok value, middle) => outcome (next value) middle
      | (.error cause, middle) => (.error cause, middle) := by
  rcases hcreation : outcome creation before with ⟨_ | _, middle⟩
  all_goals
    simp only [outcome, ExceptT.run_bind, StateT.run_bind] at hcreation ⊢
    rw [hcreation]
    rfl

theorem outcome_bind_eq_ok {creation : Creation σ ρ α} {next : α → Creation σ ρ β}
    {before after : Session σ ρ} {result : β} :
    outcome (creation >>= next) before = (.ok result, after) ↔
      ∃ value middle, outcome creation before = (.ok value, middle) ∧
        outcome (next value) middle = (.ok result, after) := by
  rw [outcome_bind]
  rcases outcome creation before with ⟨cause | value, middle⟩
  · simp
  · simp only [Prod.mk.injEq, Except.ok.injEq, and_assoc, exists_and_left, exists_eq_left']

theorem outcome_lift_eq_ok {answer : Except CreationError α} {before after : Session σ ρ}
    {value : α} :
    outcome (liftM answer) before = (.ok value, after) ↔ answer = .ok value ∧ before = after := by
  change (answer, before) = (.ok value, after) ↔ _
  rw [Prod.mk.injEq]

theorem outcome_adapt (change : Fault → CreationError) (run : Run σ ρ α) (before : Session σ ρ) :
    outcome (ExceptT.adapt change run) before =
      ((run.outcome before).1.mapError change, (run.outcome before).2) := rfl

theorem outcome_adapt_eq_ok {change : Fault → CreationError} {run : Run σ ρ α}
    {before after : Session σ ρ} {value : α} :
    outcome (ExceptT.adapt change run) before = (.ok value, after) ↔
      run.outcome before = (.ok value, after) := by
  rw [outcome_adapt, Prod.mk.injEq, except_mapError_eq_ok, ← Prod.mk.injEq]

variable {failure : String → CryptoFault → Fault} {algorithm : String}
  {before after : Session σ ρ} {value : α}

theorem outcome_pure_eq_ok {result : α} :
    (pure value : Run σ ρ α).outcome before = (.ok result, after) ↔
      value = result ∧ before = after := by
  rw [Run.outcome_pure, Prod.mk.injEq, Except.ok.injEq]

theorem outcome_serve_eq_ok {answer : Except CryptoFault α} :
    (serve failure algorithm answer : Run σ ρ α).outcome before = (.ok value, after) ↔
      answer = .ok value ∧ before = after := by
  cases answer with
  | error cause =>
      constructor
      · intro h
        cases h
      · rintro ⟨h, _⟩
        cases h
  | ok found => rw [serve, outcome_pure_eq_ok, Except.ok.injEq]

/-- What is asked for and served was answered, and the suite has gone on. -/
theorem outcome_ask_serve_eq_ok {call : Call} {request : StateM σ (Except CryptoFault α)}
    {next : α → Run σ ρ β} {result : β} :
    (Run.ask call request >>= fun answer => serve failure algorithm answer >>= next).outcome before =
        (.ok result, after) ↔
      ∃ answer, (request.run before.suite).1 = .ok answer ∧
        (next answer).outcome ((before.withSuite (request.run before.suite).2).noting call) =
          (.ok result, after) := by
  simp only [Run.outcome_bind_eq_ok, Run.outcome_ask, outcome_serve_eq_ok]
  constructor
  · rintro ⟨_, _, hask, answer, _, ⟨hanswer, rfl⟩, hnext⟩
    obtain ⟨hask, rfl⟩ := Prod.mk.inj hask
    cases hask
    exact ⟨answer, hanswer, hnext⟩
  · rintro ⟨answer, hanswer, hnext⟩
    exact ⟨_, _, rfl, answer, _, ⟨hanswer, rfl⟩, hnext⟩

end Creation

namespace Handler

open Creation

variable {handler : Handler σ} {entropy : Entropy} {now : Instant} {draft : Draft}
  {before after : Session σ ρ} {token : Token}

theorem outcome_create_eq_ok :
    outcome (handler.create entropy now draft) before = (.ok token, after) ↔
      ∃ claims, draft.claimSet handler.mapping handler.settings now = .ok claims ∧
        (handler.signAndEncrypt entropy draft claims).outcome before = (.ok token, after) := by
  unfold create
  simp only [outcome_bind_eq_ok, outcome_lift_eq_ok, outcome_adapt_eq_ok]
  constructor
  · rintro ⟨claims, _, ⟨hclaims, rfl⟩, hrun⟩
    exact ⟨claims, hclaims, hrun⟩
  · rintro ⟨claims, hclaims, hrun⟩
    exact ⟨claims, before, ⟨hclaims, rfl⟩, hrun⟩

theorem outcome_createText_eq_ok {text : String} :
    outcome (handler.createText entropy now draft) before = (.ok text, after) ↔
      ∃ token, outcome (handler.create entropy now draft) before = (.ok token, after) ∧
        handler.write token = .ok text := by
  have hwritten : ∀ {token : Token} {middle : Session σ ρ},
      outcome (ExceptT.mk (pure ((handler.write token).mapError .refused))) middle =
          (.ok text, after) ↔ handler.write token = .ok text ∧ middle = after := by
    intro token middle
    change ((handler.write token).mapError CreationError.refused, middle) = (.ok text, after) ↔ _
    rw [Prod.mk.injEq, except_mapError_eq_ok]
  unfold createText
  simp only [outcome_bind_eq_ok, hwritten]
  constructor
  · rintro ⟨token, _, hcreate, hwrite, rfl⟩
    exact ⟨token, hcreate, hwrite⟩
  · rintro ⟨token, hcreate, hwrite⟩
    exact ⟨token, after, hcreate, hwrite, rfl⟩

theorem outcome_sign_eq_ok {claims : ClaimSet} :
    (handler.sign entropy draft claims).outcome before = (.ok token, after) ↔
      ∃ signature,
        (handler.signature entropy draft (Compact.encodeParts
          (signedHeader draft (handler.signingAlgorithm draft)) claims)).outcome before =
            (.ok signature, after) ∧
        .signed (Compact.writeSigned (Compact.encodeParts
            (signedHeader draft (handler.signingAlgorithm draft)) claims) signature)
          (signedHeader draft (handler.signingAlgorithm draft)) claims signature = token := by
  unfold sign
  simp only [Run.outcome_bind_eq_ok, outcome_pure_eq_ok]
  constructor
  · rintro ⟨signature, _, hsignature, htoken, rfl⟩
    exact ⟨signature, hsignature, htoken⟩
  · rintro ⟨signature, hsignature, htoken⟩
    exact ⟨signature, after, hsignature, htoken, rfl⟩

/-- An encrypted token is made with a cipher and a key scheme, which the suite answers one after the
other. -/
theorem encrypt_eq_ok {credential : EncryptingCredential} {inner : Token}
    (hrun : (handler.encrypt entropy credential inner).outcome before = (.ok token, after)) :
    ∃ header encryptedKey contentKey cipher scheme sealing,
      header = encryptedHeader credential.key (handler.algorithmName credential.keyAlgorithm)
        (handler.algorithmName credential.contentAlgorithm) ∧
      ((handler.suite.content (handler.algorithmName credential.contentAlgorithm)).run
        before.suite).1 = .ok cipher ∧
      ((handler.suite.keyManagement credential.key
        (handler.algorithmName credential.keyAlgorithm)).run
          ((handler.suite.content (handler.algorithmName credential.contentAlgorithm)).run
            before.suite).2).1 = .ok scheme ∧
      contentKey = scheme.ownKey.getD (entropy.bytes .contentKey cipher.keySize) ∧
      scheme.wrap entropy contentKey = .ok encryptedKey ∧
      cipher.encrypt entropy (Bytes.ofText inner.raw)
        (Bytes.ofText (Compact.encodeJson header.json)) contentKey = .ok sealing ∧
      token = .encrypted (Compact.writeEncrypted (Compact.encodeJson header.json)
          ⟨encryptedKey, sealing.iv, sealing.ciphertext, sealing.tag⟩)
        header ⟨encryptedKey, sealing.iv, sealing.ciphertext, sealing.tag⟩ (some inner) := by
  unfold encrypt at hrun
  obtain ⟨cipher, hcipher, hrun⟩ := outcome_ask_serve_eq_ok.1 hrun
  obtain ⟨scheme, hscheme, hrun⟩ := outcome_ask_serve_eq_ok.1 hrun
  simp only [Run.outcome_bind_eq_ok, outcome_serve_eq_ok, outcome_pure_eq_ok] at hrun
  obtain ⟨encryptedKey, _, ⟨hwrap, _⟩, sealing, _, ⟨hsealing, _⟩, rfl, _⟩ := hrun
  exact ⟨_, encryptedKey, _, cipher, scheme, sealing, rfl, hcipher, hscheme, rfl, hwrap, hsealing,
    rfl⟩

end Handler

end SecurityToken
