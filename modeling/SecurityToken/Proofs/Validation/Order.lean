import SecurityToken.Proofs.Validation.Stages
import Mathlib.Data.List.Basic

/-!
# In which order a validation calls upon others

A policy may name functions that give keys or judge a token, and a store of presented tokens. A
validation calls upon them stage by stage, and each stage has calls of its own: which ones, and how
many, depends on the policy alone. A stage that fails is the last to make calls, and the fault bears
its name. The calls for an actor token come after all of these, in the same order again under the
policy for actors.
-/

namespace SecurityToken

variable {σ ρ α β : Type}

/-- Whether a call goes to what a policy names or to the format. The requests to the suite and what
a validation never does are left out. -/
def Call.isConsultation : Call → Bool
  | .parse .. | .resolveKeys .. | .validateSignature _ | .validateSigningKey _ | .validateIssuer ..
  | .validateAudience _ | .validateLifetime .. | .claimReplay .. | .enterActor _ => true
  | .canRead | .write | .signatureScheme _ | .keyScheme _ | .contentCipher _ | .release => false

/-! ### The calls that a run adds -/

/-- The answer of a run and the consultations that it adds to the calls stand in a relation. -/
def Run.Consults (relation : Except Fault α → List Call → Prop) (run : Run σ ρ α) : Prop :=
  ∀ before, ∃ calls, (run.outcome before).2.calls = before.calls ++ calls ∧
    relation (run.outcome before).1 (calls.filter Call.isConsultation)

namespace Run.Consults

variable {relation first : Except Fault α → List Call → Prop} {run : Run σ ρ α}

theorem calls_of_outcome (hrun : Run.Consults relation run) {answer : Except Fault α}
    {before after : Session σ ρ} (houtcome : run.outcome before = (answer, after)) :
    ∃ calls, after.calls = before.calls ++ calls ∧
      relation answer (calls.filter Call.isConsultation) := by
  have hcalls := hrun before
  rwa [houtcome] at hcalls

theorem answered {answer : Except Fault α} (hanswer : relation answer [])
    (hrun : ∀ before, run.outcome before = (answer, before)) : Run.Consults relation run := by
  intro before
  rw [hrun before]
  exact ⟨[], (List.append_nil _).symm, hanswer⟩

theorem pure {value : α} (hvalue : relation (.ok value) []) :
    Run.Consults relation (Pure.pure value : Run σ ρ α) :=
  answered hvalue fun _ => rfl

theorem throw {fault : Fault} (hfault : relation (.error fault) []) :
    Run.Consults relation (MonadExcept.throw fault : Run σ ρ α) :=
  answered hfault fun _ => rfl

theorem lift {answer : Except Fault α} (hanswer : relation answer []) :
    Run.Consults relation (liftM answer : Run σ ρ α) :=
  answered hanswer fun _ => rfl

theorem note (call : Call) :
    Run.Consults (fun answer calls => answer = .ok () ∧ calls = [call].filter Call.isConsultation)
      (Run.note call : Run σ ρ Unit) :=
  fun _ => ⟨[call], rfl, rfl, rfl⟩

theorem claim (store : ReplayStore ρ) (digest : String) (expires now : Instant) :
    Run.Consults (fun _ calls => calls = [.claimReplay store.name digest expires now])
      (Run.claim store digest expires now : Run σ ρ Bool) :=
  fun _ => ⟨[.claimReplay store.name digest expires now], rfl, rfl⟩

theorem mono {relation' : Except Fault α → List Call → Prop} (hrun : Run.Consults relation run)
    (himp : ∀ answer calls, relation answer calls → relation' answer calls) :
    Run.Consults relation' run := by
  intro before
  obtain ⟨calls, hcalls, hrelation⟩ := hrun before
  exact ⟨calls, hcalls, himp _ _ hrelation⟩

theorem adapting {relation' : Except Fault α → List Call → Prop} {change : Fault → Fault}
    (hrun : Run.Consults relation run)
    (himp : ∀ answer calls, relation answer calls → relation' (answer.mapError change) calls) :
    Run.Consults relation' (Run.adapting change run) := by
  intro before
  obtain ⟨calls, hcalls, hrelation⟩ := hrun before
  rw [Run.outcome_adapting]
  exact ⟨calls, hcalls, himp _ _ hrelation⟩

theorem bind {relation : Except Fault β → List Call → Prop} {next : α → Run σ ρ β}
    (hrun : Run.Consults first run)
    (herror : ∀ fault calls, first (.error fault) calls → relation (.error fault) calls)
    (hnext : ∀ value calls, first (.ok value) calls →
      Run.Consults (fun answer rest => relation answer (calls ++ rest)) (next value)) :
    Run.Consults relation (run >>= next) := by
  intro before
  obtain ⟨calls, hcalls, hfirst⟩ := hrun before
  rw [Run.outcome_bind]
  rcases hmiddle : run.outcome before with ⟨fault | value, middle⟩
  · rw [hmiddle] at hcalls hfirst
    exact ⟨calls, hcalls, herror fault _ hfirst⟩
  · rw [hmiddle] at hcalls hfirst
    obtain ⟨rest, hrest, hrelation⟩ := hnext value _ hfirst middle
    refine ⟨calls ++ rest, ?_, ?_⟩
    · rw [← List.append_assoc, ← hcalls]
      exact hrest
    · rwa [List.filter_append]

/-- A relation that holds holds along with the fact that the answer is one of the run's. -/
theorem giving (hrun : Run.Consults relation run) :
    Run.Consults (fun answer calls => relation answer calls ∧
      ∃ before, (run.outcome before).1 = answer) run := by
  intro before
  obtain ⟨calls, hcalls, hrelation⟩ := hrun before
  exact ⟨calls, hcalls, hrelation, before, rfl⟩

theorem noteThen {relation : Except Fault β → List Call → Prop} {call : Call} {next : Run σ ρ β}
    (hcall : call.isConsultation = true)
    (hnext : Run.Consults (fun answer rest => relation answer (call :: rest)) next) :
    Run.Consults relation (do Run.note call; next) := by
  refine (note call).bind (fun _ _ h => nomatch h.1) fun _ calls h => ?_
  obtain ⟨-, rfl⟩ := h
  simpa [hcall] using hnext

theorem askThen {relation : Except Fault β → List Call → Prop} {call : Call} {request : StateM σ α}
    {next : α → Run σ ρ β} (hcall : call.isConsultation = false)
    (hnext : ∀ value, Run.Consults relation (next value)) :
    Run.Consults relation (Run.ask call request >>= next) := by
  intro before
  obtain ⟨rest, hrest, hrelation⟩ := hnext _ _
  refine ⟨call :: rest, hrest.trans (List.append_assoc ..), ?_⟩
  rwa [List.filter_cons_of_neg (by simp [hcall])]

theorem liftThen {relation : Except Fault β → List Call → Prop} {answer : Except Fault α}
    {next : α → Run σ ρ β} (herror : ∀ fault, relation (.error fault) [])
    (hnext : ∀ value, Run.Consults relation (next value)) :
    Run.Consults relation (liftM answer >>= next) := by
  intro before
  rw [Run.outcome_bind, Run.outcome_lift]
  cases answer with
  | error fault => exact ⟨[], (List.append_nil _).symm, herror fault⟩
  | ok value => exact hnext value before

end Run.Consults

/-! ### The calls of a stage -/

/-- The stages of a token's own. -/
inductive Stage where
  | size | parse | decrypt | signature | issuer | audience | lifetime | replay
  deriving DecidableEq

namespace Stage

def name : Stage → String
  | size => "size"
  | parse => "parse"
  | decrypt => "decrypt"
  | signature => "signature"
  | issuer => "issuer"
  | audience => "audience"
  | lifetime => "lifetime"
  | replay => "replay"

/-- The stages in their order. -/
def all : List Stage :=
  [size, parse, decrypt, signature, issuer, audience, lifetime, replay]

end Stage

example : Stage.all.map Stage.name = ownStages := rfl

/-- The stages that may make a call. -/
def Call.Belongs : Call → Stage → Prop
  | .parse .., stage => stage = .parse ∨ stage = .decrypt
  | .resolveKeys .decryption .., stage => stage = .decrypt
  | .resolveKeys .signing .., stage => stage = .signature
  | .validateSignature _, stage => stage = .signature
  | .validateSigningKey _, stage => stage = .signature
  | .validateIssuer .., stage => stage = .issuer
  | .validateAudience _, stage => stage = .audience
  | .validateLifetime .., stage => stage = .lifetime
  | .claimReplay .., stage => stage = .replay
  | _, _ => False

namespace Policy

/-- The resolver is asked at most once for the keys of a token, and only where it answers at all. -/
def KeyCalls (policy : Policy ρ) (use : KeyUse) (token : Token) (calls : List Call) : Prop :=
  calls = [] ∨
    (policy.activeResolver? use).isSome ∧ calls = [.resolveKeys use token.raw token.header]

def SigningKeyCalls (policy : Policy ρ) (calls : List Call) : Prop :=
  calls = [] ∨
    policy.validateSigningKey = true ∧ policy.signingKeyValidator.isSome ∧
      ∃ key, calls = [.validateSigningKey key]

/-- One function judges the signature, or else keys are asked for and then one key is judged. -/
def SignatureCalls (policy : Policy ρ) (calls : List Call) : Prop :=
  if policy.signatureValidator.isSome then ∃ text, calls = [.validateSignature text]
  else
    ∃ token asked judged, policy.KeyCalls .signing token asked ∧ policy.SigningKeyCalls judged ∧
      calls = asked ++ judged

def IssuerCalls (policy : Policy ρ) (calls : List Call) : Prop :=
  if policy.validateIssuer && policy.issuerValidator.isSome then
    ∃ issuer token, calls = [.validateIssuer issuer token]
  else calls = []

def AudienceCalls (policy : Policy ρ) (calls : List Call) : Prop :=
  if policy.validateAudience && policy.audienceValidator.isSome then
    ∃ audiences, calls = [.validateAudience audiences]
  else calls = []

/-- The times of a token may fail to be read before anyone is asked about them. -/
def LifetimeCalls (policy : Policy ρ) (calls : List Call) : Prop :=
  calls = [] ∨
    policy.validateLifetime = true ∧ policy.lifetimeValidator.isSome ∧
      ∃ notBefore expires, calls = [.validateLifetime notBefore expires]

def ReplayCalls (policy : Policy ρ) (raw : String) (calls : List Call) : Prop :=
  match policy.replayStore with
  | some store =>
      if policy.detectReplay then
        ∃ expires, calls = [.claimReplay store.name (ReplayLedger.digest raw)
          (policy.recordUntil expires) policy.now]
      else calls = []
  | none => calls = []

section Belongs

variable {policy : Policy ρ} {calls : List Call}

theorem KeyCalls.belongs {token : Token} {use : KeyUse} {stage : Stage}
    (hcalls : policy.KeyCalls use token calls)
    (huse : Call.Belongs (.resolveKeys use token.raw token.header) stage) :
    ∀ call ∈ calls, call.Belongs stage := by
  rcases hcalls with rfl | ⟨-, rfl⟩
  · simp
  · simpa using huse

theorem SignatureCalls.belongs (hcalls : policy.SignatureCalls calls) :
    ∀ call ∈ calls, call.Belongs .signature := by
  unfold Policy.SignatureCalls at hcalls
  split at hcalls
  · obtain ⟨text, rfl⟩ := hcalls
    simp [Call.Belongs]
  obtain ⟨token, asked, judged, hasked, hjudged, rfl⟩ := hcalls
  intro call hcall
  rcases List.mem_append.1 hcall with hcall | hcall
  · exact KeyCalls.belongs hasked rfl call hcall
  · rcases hjudged with rfl | ⟨-, -, key, rfl⟩
    · exact absurd hcall List.not_mem_nil
    · rw [List.mem_singleton.1 hcall]
      rfl

end Belongs

end Policy

namespace Handler

/-- The calls that open an encrypted token, layer by layer: keys are asked for at most once a layer,
and between two layers the content of the one is read as the other. -/
inductive LayerCalls (handler : Handler σ) (policy : Policy ρ) : Token → List Call → Prop where
  | asked {token : Token} {calls : List Call} (hkeys : policy.KeyCalls .decryption token calls) :
      LayerCalls handler policy token calls
  | read {token : Token} {calls : List Call} (payload : String)
      (hkeys : policy.KeyCalls .decryption token calls) :
      LayerCalls handler policy token (calls ++ [.parse (!policy.requireSignature) payload])
  | layer {token nested : Token} {calls rest : List Call} {payload : String}
      (hkeys : policy.KeyCalls .decryption token calls)
      (hparse : handler.format.parse (!policy.requireSignature) payload = .ok nested)
      (hencrypted : nested.isEncrypted = true)
      (hrest : LayerCalls handler policy nested rest) :
      LayerCalls handler policy token (calls ++ .parse (!policy.requireSignature) payload :: rest)

/-- The calls of a stage in the validation of a text. -/
def StageCalls (handler : Handler σ) (policy : Policy ρ) (raw : String) :
    Stage → List Call → Prop
  | .size, calls => calls = []
  | .parse, calls => calls = [.parse (!policy.requireSignature) raw]
  | .decrypt, calls =>
      calls = [] ∨
        ∃ token, handler.format.parse (!policy.requireSignature) raw = .ok token ∧
          token.isEncrypted = true ∧ handler.LayerCalls policy token calls
  | .signature, calls => policy.SignatureCalls calls
  | .issuer, calls => policy.IssuerCalls calls
  | .audience, calls => policy.AudienceCalls calls
  | .lifetime, calls => policy.LifetimeCalls calls
  | .replay, calls => policy.ReplayCalls raw calls

variable {handler : Handler σ} {policy : Policy ρ}

theorem LayerCalls.belongs {token : Token} {calls : List Call}
    (hcalls : handler.LayerCalls policy token calls) :
    ∀ call ∈ calls, call.Belongs .decrypt := by
  induction hcalls with
  | asked hkeys => exact Policy.KeyCalls.belongs hkeys rfl
  | read _ hkeys =>
      simpa [or_imp, forall_and, Call.Belongs] using Policy.KeyCalls.belongs hkeys rfl
  | layer hkeys _ _ _ ih =>
      simpa [or_imp, forall_and, Call.Belongs] using ⟨Policy.KeyCalls.belongs hkeys rfl, ih⟩

theorem StageCalls.belongs {raw : String} {stage : Stage} {calls : List Call}
    (hcalls : handler.StageCalls policy raw stage calls) : ∀ call ∈ calls, call.Belongs stage := by
  cases stage with
  | size =>
      rw [show calls = [] from hcalls]
      simp
  | parse =>
      rw [show calls = [.parse (!policy.requireSignature) raw] from hcalls]
      simp [Call.Belongs]
  | decrypt =>
      rcases hcalls with rfl | ⟨token, -, -, hlayers⟩
      · simp
      · exact hlayers.belongs
  | signature => exact Policy.SignatureCalls.belongs hcalls
  | issuer =>
      change policy.IssuerCalls calls at hcalls
      unfold Policy.IssuerCalls at hcalls
      split at hcalls
      · obtain ⟨issuer, token, rfl⟩ := hcalls
        simp [Call.Belongs]
      · simp [hcalls]
  | audience =>
      change policy.AudienceCalls calls at hcalls
      unfold Policy.AudienceCalls at hcalls
      split at hcalls
      · obtain ⟨audiences, rfl⟩ := hcalls
        simp [Call.Belongs]
      · simp [hcalls]
  | lifetime =>
      rcases hcalls with rfl | ⟨-, -, notBefore, expires, rfl⟩ <;> simp [Call.Belongs]
  | replay =>
      change policy.ReplayCalls raw calls at hcalls
      unfold Policy.ReplayCalls at hcalls
      split at hcalls
      · split at hcalls
        · obtain ⟨expires, rfl⟩ := hcalls
          simp [Call.Belongs]
        · simp [hcalls]
      · simp [hcalls]

/-! ### The calls of the functions that a stage runs -/

theorem parse_consults (raw : String) :
    Run.Consults (fun answer calls =>
        answer = handler.format.parse (!policy.requireSignature) raw ∧
          calls = [.parse (!policy.requireSignature) raw])
      (handler.parse policy raw) :=
  .noteThen rfl (.lift ⟨rfl, rfl⟩)

theorem candidates_consults (use : KeyUse) (token : Token) :
    Run.Consults (fun _ calls => policy.KeyCalls use token calls)
      (candidates policy use token : Run σ ρ (List Key)) := by
  unfold candidates
  by_cases hactive : (policy.activeResolver? use).isSome = true
  · rw [if_pos hactive]
    exact .noteThen rfl (.pure (.inr ⟨hactive, rfl⟩))
  · rw [if_neg hactive]
    exact .pure (.inl rfl)

theorem openWith_consults (algorithm : String) (cipher : ContentCipher) (content : SealedContent)
    (associated : Bytes) (tried : Nat) (keys : List Key) :
    Run.Consults (fun _ calls => calls = [])
      (handler.openWith algorithm cipher content associated tried keys : Run σ ρ Bytes) := by
  induction keys generalizing tried with
  | nil => exact .throw rfl
  | cons key rest ih =>
      refine .askThen rfl fun answer => ?_
      cases answer with
      | error fault =>
          simp only
          split
          · exact .throw rfl
          · exact ih tried
      | ok scheme =>
          simp only
          split
          · exact .pure rfl
          · exact ih (tried + 1)

theorem plaintext_consults (token : Token) :
    Run.Consults (fun _ calls => policy.KeyCalls .decryption token calls)
      (handler.plaintext policy token) := by
  unfold plaintext
  split
  · refine .askThen rfl fun answer => ?_
    cases answer with
    | error fault => exact .throw (.inl rfl)
    | ok cipher =>
        refine (candidates_consults .decryption token).bind (fun _ _ h => h)
          fun keys calls hcalls => ?_
        refine (openWith_consults _ _ _ _ _ _).mono fun _ rest hrest => ?_
        rwa [hrest, List.append_nil]
  · exact .throw (.inl rfl)

theorem payload_consults (token : Token) :
    Run.Consults (fun _ calls => policy.KeyCalls .decryption token calls)
      (handler.payload policy token) := by
  refine (plaintext_consults token).bind (fun _ _ h => h) fun bytes calls hcalls => ?_
  split
  · exact .pure (by rwa [List.append_nil])
  · exact .throw (by rwa [List.append_nil])

/-- Follows the opener: its recursion is on the levels that remain. -/
theorem decrypt_consults (remaining : Nat) (token : Token) :
    Run.Consults (fun _ calls => handler.LayerCalls policy token calls)
      (handler.decrypt policy remaining token) := by
  induction remaining generalizing token with
  | zero =>
      rw [decrypt]
      refine (payload_consults token).bind (fun _ _ h => .asked h) fun payload calls hcalls => ?_
      split
      · split
        · exact .pure (.asked (by rwa [List.append_nil]))
        · exact .throw (.asked (by rwa [List.append_nil]))
      · exact .throw (.asked (by rwa [List.append_nil]))
  | succ remaining ih =>
      rw [decrypt]
      refine (payload_consults token).bind (fun _ _ h => .asked h) fun payload calls hcalls => ?_
      split
      · split
        · exact .pure (.asked (by rwa [List.append_nil]))
        · exact .throw (.asked (by rwa [List.append_nil]))
      · refine (parse_consults payload).bind (fun _ _ h => ?_) fun nested read hread => ?_
        · rw [h.2]
          exact .read payload hcalls
        obtain ⟨hparse, rfl⟩ := hread
        split
        · rename_i hencrypted
          have hlayer : ∀ rest, handler.LayerCalls policy nested rest →
              handler.LayerCalls policy token
                (calls ++ ([.parse (!policy.requireSignature) payload] ++ rest)) :=
            fun rest => .layer hcalls hparse.symm hencrypted
          refine (ih nested).bind (fun _ rest => hlayer rest) fun inner rest hrest => ?_
          exact .pure (by simpa using hlayer rest hrest)
        · exact .pure (by simpa using .read payload hcalls)

theorem verifyWith_consults (algorithm : String) (token : Token) (tried : Nat) (keys : List Key) :
    Run.Consults (fun _ calls => calls = [])
      (handler.verifyWith algorithm token tried keys : Run σ ρ Key) := by
  induction keys generalizing tried with
  | nil => exact .throw rfl
  | cons key rest ih =>
      refine .askThen rfl fun answer => ?_
      cases answer with
      | error fault =>
          simp only
          split
          · exact .throw rfl
          · exact ih tried
      | ok scheme =>
          simp only
          split
          · exact .pure rfl
          · exact ih (tried + 1)

theorem checkSigningKey_consults (key : Key) (token : Token) :
    Run.Consults (fun _ calls => policy.SigningKeyCalls calls)
      (checkSigningKey policy key token : Run σ ρ Unit) := by
  unfold checkSigningKey
  split
  · rename_i hon
    cases hvalidator : policy.signingKeyValidator with
    | none => exact .pure (.inl rfl)
    | some accepts =>
        have hcalls : policy.SigningKeyCalls [.validateSigningKey key] :=
          .inr ⟨hon, by rw [hvalidator]; rfl, key, rfl⟩
        refine .noteThen rfl (.liftThen (fun _ => hcalls) fun accepted => ?_)
        cases accepted with
        | false => exact .throw hcalls
        | true => exact .pure hcalls
  · exact .pure (.inl rfl)

theorem verifySigned_consults (token : Token) :
    Run.Consults
      (fun _ calls => ∃ asked judged, policy.KeyCalls .signing token asked ∧
        policy.SigningKeyCalls judged ∧ calls = asked ++ judged)
      (handler.verifySigned policy token) := by
  have hnone : policy.SigningKeyCalls [] := .inl rfl
  unfold verifySigned
  refine (candidates_consults .signing token).bind
    (fun _ asked hasked => ⟨asked, [], hasked, hnone, (List.append_nil _).symm⟩)
    fun keys asked hasked => ?_
  split
  · exact .throw ⟨asked, [], hasked, hnone, rfl⟩
  refine (verifyWith_consults _ _ _ _).bind ?_ ?_
  · rintro _ _ rfl
    exact ⟨asked, [], hasked, hnone, rfl⟩
  · rintro key _ rfl
    refine (checkSigningKey_consults key token).bind
      (fun _ judged hjudged => ⟨asked, judged, hasked, hjudged, rfl⟩) fun _ judged hjudged => ?_
    exact .pure ⟨asked, judged, hasked, hjudged, by simp⟩

theorem verify_consults (token : Token) :
    Run.Consults (fun _ calls => policy.SignatureCalls calls) (handler.verify policy token) := by
  unfold verify
  cases hvalidator : policy.signatureValidator with
  | some validate =>
      have hcalls : policy.SignatureCalls [.validateSignature token.raw] := by
        rw [Policy.SignatureCalls, hvalidator]
        exact ⟨token.raw, rfl⟩
      exact .noteThen rfl (.liftThen (fun _ => hcalls) fun _ => .pure hcalls)
  | none =>
      simp only [Policy.SignatureCalls, hvalidator, Option.isSome_none, Bool.false_eq_true,
        if_false]
      have hnone : ∃ token asked judged, policy.KeyCalls .signing token asked ∧
          policy.SigningKeyCalls judged ∧ [] = asked ++ judged :=
        ⟨token, [], [], .inl rfl, .inl rfl, rfl⟩
      split
      · exact (verifySigned_consults token).mono fun _ _ h => ⟨token, h⟩
      · split
        · exact .throw hnone
        · exact .pure hnone

end Handler

namespace Validation

variable {policy : Policy ρ}

theorem checkIssuer_consults (token : Token) :
    Run.Consults (fun _ calls => policy.IssuerCalls calls)
      (checkIssuer policy token : Run σ ρ String) := by
  unfold checkIssuer Policy.IssuerCalls
  cases policy.validateIssuer with
  | false => exact .pure rfl
  | true =>
      cases policy.issuerValidator with
      | none => exact .lift rfl
      | some validate => exact .noteThen rfl (.lift ⟨_, _, rfl⟩)

theorem checkAudience_consults (token : Token) :
    Run.Consults (fun _ calls => policy.AudienceCalls calls)
      (checkAudience policy token : Run σ ρ Unit) := by
  unfold checkAudience Policy.AudienceCalls
  cases policy.validateAudience with
  | false => exact .pure rfl
  | true =>
      cases policy.audienceValidator with
      | none => exact .lift rfl
      | some validate =>
          refine .noteThen rfl (.liftThen (fun _ => ⟨_, rfl⟩) fun accepted => ?_)
          cases accepted with
          | false => exact .throw ⟨_, rfl⟩
          | true => exact .pure ⟨_, rfl⟩

theorem checkLifetime_consults (token : Token) :
    Run.Consults (fun _ calls => policy.LifetimeCalls calls)
      (checkLifetime policy token : Run σ ρ (Option Instant)) := by
  have hnone : policy.LifetimeCalls [] := .inl rfl
  unfold checkLifetime
  refine .liftThen (fun _ => hnone) fun notBefore => .liftThen (fun _ => hnone) fun expires => ?_
  split
  · rename_i hon
    cases hvalidator : policy.lifetimeValidator with
    | none => exact .liftThen (fun _ => hnone) fun _ => .pure hnone
    | some validate =>
        have hcalls : policy.LifetimeCalls [.validateLifetime notBefore expires] :=
          .inr ⟨hon, by rw [hvalidator]; rfl, notBefore, expires, rfl⟩
        refine .noteThen rfl (.liftThen (fun _ => hcalls) fun accepted => ?_)
        cases accepted with
        | false => exact .throw hcalls
        | true => exact .pure hcalls
  · exact .pure hnone

theorem checkReplay_consults (raw : String) (expires : Option Instant) :
    Run.Consults (fun _ calls => policy.ReplayCalls raw calls)
      (checkReplay policy raw expires : Run σ ρ Unit) := by
  unfold checkReplay Policy.ReplayCalls
  cases policy.detectReplay with
  | false => cases policy.replayStore <;> exact .pure rfl
  | true =>
      cases policy.replayStore with
      | none => exact .pure rfl
      | some store =>
          refine .bind (.claim store _ _ _) ?_ ?_
          · rintro _ _ rfl
            exact ⟨expires, rfl⟩
          · rintro present _ rfl
            cases present with
            | false => exact .pure ⟨expires, rfl⟩
            | true => exact .throw ⟨expires, rfl⟩

end Validation

/-! ### Stage after stage -/

namespace Handler

/-- The calls of stages that follow one another. -/
inductive StagesCalls (handler : Handler σ) (policy : Policy ρ) (raw : String) :
    List Stage → List Call → Prop where
  | nil : StagesCalls handler policy raw [] []
  | cons {stage : Stage} {stages : List Stage} {calls rest : List Call}
      (hstage : handler.StageCalls policy raw stage calls)
      (hrest : StagesCalls handler policy raw stages rest) :
      StagesCalls handler policy raw (stage :: stages) (calls ++ rest)

/-- Stages are passed one after another, up to the end or to the one that the fault names. -/
def Passes (handler : Handler σ) (policy : Policy ρ) (raw : String) (stages : List Stage) :
    Except Fault α → List Call → Prop
  | .ok _, calls => handler.StagesCalls policy raw stages calls
  | .error fault, calls =>
      ∃ passed last later, stages = passed ++ last :: later ∧
        handler.StagesCalls policy raw (passed ++ [last]) calls ∧
        fault.context.get? Detail.stage = some last.name

/-- The calls of a validation, along with its answer. Those for an actor token come last and only
where the token itself passed. -/
inductive Consultations (handler : Handler σ) :
    Policy ρ → String → Except Fault Identity → List Call → Prop where
  | rejected {policy : Policy ρ} {raw : String} {fault : Fault} {calls : List Call}
      (hown : handler.Passes policy raw Stage.all (.error fault : Except Fault Identity) calls) :
      Consultations handler policy raw (.error fault) calls
  | accepted {policy : Policy ρ} {raw : String} {identity : Identity} {calls : List Call}
      (hown : handler.Passes policy raw Stage.all (.ok identity) calls)
      (hactor : identity.actor = none) :
      Consultations handler policy raw (.ok identity) calls
  | tooDeep {policy : Policy ρ} {raw actorRaw : String} {fault : Fault} {own : Identity}
      {calls : List Call} (hown : handler.Passes policy raw Stage.all (.ok own) calls)
      (hactor : policy.validateActor = true)
      (htoken : own.token.claims.actorToken? = some actorRaw)
      (hstage : fault.context.get? Detail.stage = some "actor") :
      Consultations handler policy raw (.error fault) calls
  | actorRejected {policy : Policy ρ} {raw actorRaw : String} {own : Identity}
      {fault inner : Fault} {calls rest : List Call}
      (hown : handler.Passes policy raw Stage.all (.ok own) calls)
      (hactor : policy.validateActor = true)
      (htoken : own.token.claims.actorToken? = some actorRaw)
      (hinner : Consultations handler policy.actorPolicy actorRaw (.error inner) rest)
      (hstage : fault.context.get? Detail.stage = some "actor")
      (hnested : fault.nested = some inner) :
      Consultations handler policy raw (.error fault) (calls ++ .enterActor actorRaw :: rest)
  | withActor {policy : Policy ρ} {raw actorRaw : String} {own identity actor : Identity}
      {calls rest : List Call} (hown : handler.Passes policy raw Stage.all (.ok own) calls)
      (hactor : policy.validateActor = true)
      (htoken : own.token.claims.actorToken? = some actorRaw)
      (hinner : Consultations handler policy.actorPolicy actorRaw (.ok actor) rest)
      (hidentity : identity = { own with actor := some actor }) :
      Consultations handler policy raw (.ok identity) (calls ++ .enterActor actorRaw :: rest)

variable {handler : Handler σ} {policy : Policy ρ} {raw : String} {stages later : List Stage}

theorem StagesCalls.append {calls rest : List Call}
    (hcalls : handler.StagesCalls policy raw stages calls)
    (hrest : handler.StagesCalls policy raw later rest) :
    handler.StagesCalls policy raw (stages ++ later) (calls ++ rest) := by
  induction hcalls with
  | nil => exact hrest
  | cons hstage _ ih =>
      rw [List.cons_append, List.append_assoc]
      exact .cons hstage ih

theorem StagesCalls.single {stage : Stage} {calls : List Call}
    (hstage : handler.StageCalls policy raw stage calls) :
    handler.StagesCalls policy raw [stage] calls := by
  simpa using StagesCalls.cons hstage .nil

theorem StagesCalls.belongs {calls : List Call}
    (hcalls : handler.StagesCalls policy raw stages calls) :
    ∀ call ∈ calls, ∃ stage ∈ stages, call.Belongs stage := by
  induction hcalls with
  | nil => simp
  | cons hstage _ ih =>
      intro call hcall
      rcases List.mem_append.1 hcall with hcall | hcall
      · exact ⟨_, List.mem_cons_self, hstage.belongs call hcall⟩
      · obtain ⟨later, hlater, hbelongs⟩ := ih call hcall
        exact ⟨later, List.mem_cons_of_mem _ hlater, hbelongs⟩

/-- A stage puts its name on the faults of what it runs. -/
theorem atStage_passes (stage : Stage) {run : Run σ ρ α}
    (hrun : Run.Consults (fun _ calls => handler.StageCalls policy raw stage calls) run) :
    Run.Consults (handler.Passes policy raw [stage]) (Run.atStage stage.name run) := by
  refine hrun.adapting fun answer calls hcalls => ?_
  cases answer with
  | ok value => exact .single hcalls
  | error fault =>
      exact ⟨[], stage, [], rfl, .single hcalls, by simp [Fault.withContext, Table.get?_insert]⟩

theorem bind_passes {run : Run σ ρ α} {next : α → Run σ ρ β}
    (hrun : Run.Consults (handler.Passes policy raw stages) run)
    (hnext : ∀ value, (∃ before, (run.outcome before).1 = .ok value) →
      Run.Consults (handler.Passes policy raw later) (next value)) :
    Run.Consults (handler.Passes policy raw (stages ++ later)) (run >>= next) := by
  refine hrun.giving.bind ?_ ?_
  · rintro fault calls ⟨⟨passed, last, unreached, rfl, hcalls, hstage⟩, -⟩
    exact ⟨passed, last, unreached ++ later, by simp, hcalls, hstage⟩
  rintro value calls ⟨hcalls, hvalue⟩
  refine (hnext value hvalue).mono fun answer rest hrest => ?_
  cases answer with
  | ok result => exact StagesCalls.append hcalls hrest
  | error fault =>
      obtain ⟨passed, last, unreached, rfl, hrest, hstage⟩ := hrest
      refine ⟨stages ++ passed, last, unreached, by simp, ?_, hstage⟩
      rw [List.append_assoc]
      exact StagesCalls.append hcalls hrest

theorem openToken_passes (remaining : Nat) (raw : String) :
    Run.Consults (handler.Passes policy raw [.size, .parse, .decrypt])
      (handler.openToken policy remaining raw) := by
  have hparse : Run.Consults (fun _ calls => handler.StageCalls policy raw .parse calls)
      (Run.adapting (·.withContext Detail.format handler.format.name) (handler.parse policy raw)) :=
    (parse_consults raw).adapting fun _ _ h => h.2
  unfold openToken
  refine bind_passes (atStage_passes .size (.lift rfl)) fun _ _ =>
    bind_passes (atStage_passes .parse hparse) fun token htoken => ?_
  have hread : handler.format.parse (!policy.requireSignature) raw = .ok token := by
    obtain ⟨before, hbefore⟩ := htoken
    change ((handler.format.parse _ _).mapError _).mapError _ = _ at hbefore
    cases hread : handler.format.parse (!policy.requireSignature) raw with
    | error fault => simp [hread, Except.mapError] at hbefore
    | ok read => simpa [hread, Except.mapError] using hbefore
  split
  · rename_i hencrypted
    exact atStage_passes .decrypt
      ((decrypt_consults remaining token).mono fun _ _ h => .inr ⟨token, hread, hencrypted, h⟩)
  · exact .pure (.single (.inl rfl))

theorem validateAlone_passes (remaining : Nat) (raw : String) :
    Run.Consults (handler.Passes policy raw Stage.all)
      (handler.validateAlone policy remaining raw) := by
  unfold validateAlone
  refine bind_passes (openToken_passes remaining raw) fun opened _ => ?_
  refine bind_passes (atStage_passes .signature (verify_consults _)) fun verified _ => ?_
  refine bind_passes (atStage_passes .issuer (Validation.checkIssuer_consults _)) fun issuer _ => ?_
  refine bind_passes (atStage_passes .audience (Validation.checkAudience_consults _)) fun _ _ => ?_
  refine bind_passes (atStage_passes .lifetime (Validation.checkLifetime_consults _))
    fun expires _ => ?_
  refine bind_passes (atStage_passes .replay (Validation.checkReplay_consults _ _)) fun _ _ => ?_
  exact .pure .nil

theorem validateAlone_actor {remaining : Nat} {identity : Identity} {before after : Session σ ρ}
    (hrun : (handler.validateAlone policy remaining raw).outcome before = (.ok identity, after)) :
    identity.actor = none := by
  obtain ⟨_, _, _, _, rfl⟩ := validateAlone_eq_ok hrun
  rfl

/-- The calls of a token and then those of its actor token, with the note that stands between. -/
theorem calls_append {before middle after : Session σ ρ} {actorRaw : String}
    {calls rest : List Call} (hcalls : middle.calls = before.calls ++ calls)
    (hrest : after.calls = (middle.noting (.enterActor actorRaw)).calls ++ rest) :
    after.calls = before.calls ++ (calls ++ .enterActor actorRaw :: rest) := by
  simp [hrest, hcalls, Session.noting]

theorem Course.consultations {remaining : Nat} {before after : Session σ ρ}
    {answer : Except Fault Identity}
    (hcourse : Course handler policy raw before remaining answer after)
    (hactors : ∀ fewer < remaining, ∀ (policy : Policy ρ) (raw : String),
      Run.Consults (handler.Consultations policy raw) (handler.validateWithin policy fewer raw)) :
    ∃ calls, after.calls = before.calls ++ calls ∧
      handler.Consultations policy raw answer (calls.filter Call.isConsultation) := by
  cases hcourse with
  | rejected halone =>
      obtain ⟨calls, hcalls, hown⟩ := (validateAlone_passes _ raw).calls_of_outcome halone
      exact ⟨calls, hcalls, .rejected hown⟩
  | withoutActor halone _ =>
      obtain ⟨calls, hcalls, hown⟩ := (validateAlone_passes _ raw).calls_of_outcome halone
      exact ⟨calls, hcalls, .accepted hown (validateAlone_actor halone)⟩
  | tooDeep halone hactor htoken =>
      obtain ⟨calls, hcalls, hown⟩ := (validateAlone_passes _ raw).calls_of_outcome halone
      exact ⟨calls, hcalls, .tooDeep hown hactor htoken (Fault.stage_ofActor _)⟩
  | withActor halone hactor htoken hinner =>
      obtain ⟨calls, hcalls, hown⟩ := (validateAlone_passes _ raw).calls_of_outcome halone
      obtain ⟨rest, hrest, haccepted⟩ :=
        (hactors _ (Nat.lt_succ_self _) _ _).calls_of_outcome hinner
      refine ⟨_, calls_append hcalls hrest, ?_⟩
      rw [List.filter_append]
      exact .withActor hown hactor htoken haccepted rfl
  | actorRejected halone hactor htoken hinner =>
      obtain ⟨calls, hcalls, hown⟩ := (validateAlone_passes _ raw).calls_of_outcome halone
      obtain ⟨rest, hrest, hrejected⟩ :=
        (hactors _ (Nat.lt_succ_self _) _ _).calls_of_outcome hinner
      refine ⟨_, calls_append hcalls hrest, ?_⟩
      rw [List.filter_append]
      exact .actorRejected hown hactor htoken hrejected (Fault.stage_ofActor _) rfl

theorem validateWithin_consultations (remaining : Nat) (policy : Policy ρ) (raw : String) :
    Run.Consults (handler.Consultations policy raw)
      (handler.validateWithin policy remaining raw) := by
  induction remaining using Nat.strongRecOn generalizing policy raw with
  | ind remaining ih =>
      intro before
      exact (handler.validateWithin_course policy remaining raw before).consultations ih

/-- Stages that end in a fault of another stage than replay present the text to no store. -/
theorem Passes.claimReplay_notMem {fault : Fault} {calls : List Call} {store digest : String}
    {expires now : Instant}
    (hcalls : handler.Passes policy raw Stage.all (.error fault : Except Fault α) calls)
    (hstage : fault.context.get? Detail.stage ≠ some Stage.replay.name) :
    .claimReplay store digest expires now ∉ calls := by
  obtain ⟨passed, last, unreached, hall, hpassed, hlast⟩ := hcalls
  intro hcall
  obtain ⟨stage, hmem, hbelongs⟩ := hpassed.belongs _ hcall
  obtain rfl : stage = .replay := hbelongs
  rcases List.mem_append.1 hmem with hearly | hfails
  · have hlater : Stage.replay ∈ last :: unreached := by
      have hend : Stage.all.getLast? = some .replay := rfl
      rw [hall, List.getLast?_append_cons] at hend
      exact List.mem_of_getLast? hend
    have hnodup : Stage.all.Nodup := by decide
    rw [hall, List.nodup_append] at hnodup
    exact hnodup.2.2 _ hearly _ hlater rfl
  · rw [List.mem_singleton.1 hfails] at hstage
    exact hstage hlast

/-- A text that fails at a stage of its own before replay is presented to no store. -/
theorem Consultations.claimReplay_notMem {fault : Fault} {calls : List Call}
    {store digest : String} {expires now : Instant}
    (hcalls : handler.Consultations policy raw (.error fault) calls)
    (hreplay : fault.context.get? Detail.stage ≠ some Stage.replay.name)
    (hactor : fault.context.get? Detail.stage ≠ some "actor") :
    .claimReplay store digest expires now ∉ calls := by
  cases hcalls with
  | rejected hown => exact hown.claimReplay_notMem hreplay
  | tooDeep _ _ _ hstage => exact absurd hstage hactor
  | actorRejected _ _ _ _ hstage _ => exact absurd hstage hactor

/-- Every validation calls upon others in one order: stage by stage, each stage with its own calls
and no more than it may make, none after the stage that fails; then the same for the actor token. In
particular a text that fails at a stage of its own before replay is presented to no store. -/
theorem validate_consultations (handler : Handler σ) (policy : Policy ρ) (raw : String)
    (before : Session σ ρ) :
    ∃ calls,
      ((handler.validate policy raw).outcome before).2.calls = before.calls ++ calls ∧
        handler.Consultations policy raw ((handler.validate policy raw).outcome before).1
          (calls.filter Call.isConsultation) ∧
        ∀ fault, ((handler.validate policy raw).outcome before).1 = .error fault →
          fault.context.get? Detail.stage ≠ some Stage.replay.name →
          fault.context.get? Detail.stage ≠ some "actor" →
          ∀ store digest expires now, .claimReplay store digest expires now ∉ calls := by
  have hvalidate : Run.Consults (handler.Consultations policy raw) (handler.validate policy raw) :=
    validateWithin_consultations _ policy raw
  obtain ⟨calls, hcalls, hconsultations⟩ := hvalidate before
  refine ⟨calls, hcalls, hconsultations, ?_⟩
  intro fault hfault hreplay hactor store digest expires now hclaim
  rw [hfault] at hconsultations
  exact hconsultations.claimReplay_notMem hreplay hactor (List.mem_filter.2 ⟨hclaim, rfl⟩)

end Handler

end SecurityToken
