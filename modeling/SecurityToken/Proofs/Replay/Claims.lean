import SecurityToken.Proofs.Validation.Memory
import SecurityToken.Proofs.Validation.Order

/-!
# What a validation claims

A token is claimed at the last stage of its own, once and under the digest of its text. The token of
its actor is a token like any other and is claimed in its turn, under the policy for actors. So a
validation makes at most one claim for each token that it comes to, and a token of an actor that two
tokens share is presented with each of them. Where no policy for actors has tokens put on record, the
only claim is the token's own, and the answer depends on the store in what it says to that claim.
-/

namespace SecurityToken

variable {σ ρ α : Type}

def Call.isClaim : Call → Bool
  | .claimReplay .. => true
  | _ => false

/-- The token of an actor that a validation goes on to. -/
def Call.entered? : Call → Option String
  | .enterActor raw => some raw
  | _ => none

theorem Call.filter_isClaim_consultations (calls : List Call) :
    (calls.filter isConsultation).filter isClaim = calls.filter isClaim := by
  rw [List.filter_filter]
  congr 1
  funext call
  cases call <;> rfl

theorem Call.filterMap_entered?_consultations (calls : List Call) :
    (calls.filter isConsultation).filterMap entered? = calls.filterMap entered? := by
  rw [List.filterMap_filter]
  congr 1
  funext call
  cases call <;> rfl

namespace Policy

/-- Whether a policy and its demands on actors have no token put on record. -/
def ClaimsNothing (policy : Policy ρ) : Prop :=
  ∀ depth, policy.AttendsTo depth →
    (policy.actorAt depth).detectReplay = false ∨ (policy.actorAt depth).replayStore = none

/-- Whether no token of an actor is put on record. -/
def ClaimsOnlyOwn (policy : Policy ρ) : Prop :=
  policy.validateActor = true → policy.actorPolicy.ClaimsNothing

/-- At most one claim, under the digest of the text and up to the end of its record. -/
def OwnClaims (policy : Policy ρ) (raw : String) (calls : List Call) : Prop :=
  calls = [] ∨
    policy.detectReplay = true ∧ ∃ store expires, policy.replayStore = some store ∧
      calls = [.claimReplay store.name (ReplayLedger.digest raw) (policy.recordUntil expires)
        policy.now]

/-- The claims for a token and for the tokens of actors that come after it, one after another. -/
inductive Claims : Policy ρ → List String → List Call → Prop where
  | alone {policy : Policy ρ} {raw : String} {own : List Call} (hown : policy.OwnClaims raw own) :
      Claims policy [raw] own
  | withActor {policy : Policy ρ} {raw actorRaw : String} {texts : List String}
      {own rest : List Call} (hactor : policy.validateActor = true)
      (hown : policy.OwnClaims raw own) (hrest : Claims policy.actorPolicy (actorRaw :: texts) rest) :
      Claims policy (raw :: actorRaw :: texts) (own ++ rest)

/-- Whether the claims among some calls are those for a token and for the tokens of actors that the
calls go on to, and these are no more than a limit. -/
def ClaimsWithin (policy : Policy ρ) (raw : String) (limit : Nat) (calls : List Call) : Prop :=
  policy.Claims (raw :: calls.filterMap Call.entered?) (calls.filter Call.isClaim) ∧
    (calls.filterMap Call.entered?).length ≤ limit

variable {policy : Policy ρ} {raw : String} {texts : List String} {calls : List Call}

theorem ClaimsNothing.off (hnothing : policy.ClaimsNothing) :
    policy.detectReplay = false ∨ policy.replayStore = none :=
  hnothing 0 policy.attendsTo_zero

theorem ClaimsNothing.claimsOnlyOwn (hnothing : policy.ClaimsNothing) : policy.ClaimsOnlyOwn :=
  fun hactor depth hdepth => hnothing (depth + 1) (.succ hactor hdepth)

theorem OwnClaims.eq_nil (hown : policy.OwnClaims raw calls)
    (hoff : policy.detectReplay = false ∨ policy.replayStore = none) : calls = [] := by
  rcases hown with hnone | ⟨hdetect, store, expires, hstore, -⟩
  · exact hnone
  · rcases hoff with hoff | hoff
    · exact nomatch hdetect.symm.trans hoff
    · exact nomatch hstore.symm.trans hoff

theorem OwnClaims.length_le (hown : policy.OwnClaims raw calls) : calls.length ≤ 1 := by
  rcases hown with rfl | ⟨-, store, expires, -, rfl⟩
  · exact Nat.zero_le 1
  · exact Nat.le_refl 1

theorem ReplayCalls.ownClaims (hcalls : policy.ReplayCalls raw calls) :
    policy.OwnClaims raw (calls.filter Call.isClaim) := by
  unfold Policy.ReplayCalls at hcalls
  split at hcalls
  · rename_i store hstore
    split at hcalls
    · rename_i hdetect
      obtain ⟨expires, rfl⟩ := hcalls
      exact .inr ⟨hdetect, store, expires, hstore, rfl⟩
    · exact .inl (by rw [hcalls]; rfl)
  · exact .inl (by rw [hcalls]; rfl)

theorem Claims.length_le (hclaims : policy.Claims texts calls) : calls.length ≤ texts.length := by
  induction hclaims with
  | alone hown => exact hown.length_le
  | withActor _ hown _ ih =>
      rw [List.length_append, List.length_cons]
      have hlength := hown.length_le
      omega

theorem Claims.eq_nil (hclaims : policy.Claims texts calls) (hnothing : policy.ClaimsNothing) :
    calls = [] := by
  induction hclaims with
  | alone hown => exact hown.eq_nil hnothing.off
  | withActor hactor hown _ ih =>
      rw [hown.eq_nil hnothing.off, ih (hnothing.claimsOnlyOwn hactor), List.append_nil]

theorem Claims.ownClaims (hclaims : policy.Claims (raw :: texts) calls)
    (honly : policy.ClaimsOnlyOwn) : policy.OwnClaims raw calls := by
  cases hclaims with
  | alone hown => exact hown
  | withActor hactor hown hrest =>
      rw [hrest.eq_nil (honly hactor), List.append_nil]
      exact hown

theorem ClaimsWithin.alone {limit : Nat} (hown : policy.OwnClaims raw (calls.filter Call.isClaim))
    (hentered : calls.filterMap Call.entered? = []) : policy.ClaimsWithin raw limit calls := by
  refine ⟨?_, ?_⟩
  · rw [hentered]
    exact .alone hown
  · rw [hentered]
    exact Nat.zero_le limit

theorem ClaimsWithin.withActor {limit : Nat} {actorRaw : String} {rest : List Call}
    (hactor : policy.validateActor = true)
    (hown : policy.OwnClaims raw (calls.filter Call.isClaim))
    (hentered : calls.filterMap Call.entered? = [])
    (hrest : policy.actorPolicy.ClaimsWithin actorRaw limit rest) :
    policy.ClaimsWithin raw (limit + 1) (calls ++ .enterActor actorRaw :: rest) := by
  have htexts : (calls ++ .enterActor actorRaw :: rest).filterMap Call.entered? =
      actorRaw :: rest.filterMap Call.entered? := by
    rw [List.filterMap_append, hentered]
    rfl
  refine ⟨?_, ?_⟩
  · rw [htexts, List.filter_append]
    exact .withActor hactor hown hrest.1
  · rw [htexts]
    exact Nat.succ_le_succ hrest.2

theorem ClaimsWithin.length_le {limit : Nat} (hcalls : policy.ClaimsWithin raw limit calls) :
    (calls.filter Call.isClaim).length ≤ limit + 1 :=
  Nat.le_trans hcalls.1.length_le (Nat.succ_le_succ hcalls.2)

theorem ClaimsWithin.of_consultations {limit : Nat}
    (hcalls : policy.ClaimsWithin raw limit (calls.filter Call.isConsultation)) :
    policy.ClaimsWithin raw limit calls := by
  unfold ClaimsWithin at hcalls
  rwa [Call.filter_isClaim_consultations, Call.filterMap_entered?_consultations] at hcalls

end Policy

/-! ### The claims of a run -/

namespace Handler

variable {handler : Handler σ} {policy : Policy ρ} {raw : String} {stages : List Stage}
  {calls : List Call}

theorem StagesCalls.filter_isClaim (hcalls : handler.StagesCalls policy raw stages calls)
    (hreplay : .replay ∉ stages) : calls.filter Call.isClaim = [] := by
  rw [List.filter_eq_nil_iff]
  intro call hcall hclaim
  obtain ⟨stage, hstage, hbelongs⟩ := hcalls.belongs call hcall
  cases call with
  | claimReplay store digest expires now =>
      obtain rfl : stage = .replay := hbelongs
      exact hreplay hstage
  | _ => exact nomatch hclaim

theorem StagesCalls.filterMap_entered? (hcalls : handler.StagesCalls policy raw stages calls) :
    calls.filterMap Call.entered? = [] := by
  rw [List.filterMap_eq_nil_iff]
  intro call hcall
  obtain ⟨stage, -, hbelongs⟩ := hcalls.belongs call hcall
  cases call with
  | enterActor actorRaw => exact absurd hbelongs id
  | _ => rfl

/-- Only the stage of replay makes claims, and it comes once. -/
theorem StagesCalls.ownClaims (hcalls : handler.StagesCalls policy raw stages calls)
    (hnodup : stages.Nodup) : policy.OwnClaims raw (calls.filter Call.isClaim) := by
  induction hcalls with
  | nil => exact .inl rfl
  | @cons stage stages calls rest hstage hrest ih =>
      obtain ⟨hnotMem, hnodup⟩ := List.nodup_cons.1 hnodup
      rw [List.filter_append]
      by_cases hreplay : stage = .replay
      · subst hreplay
        rw [hrest.filter_isClaim hnotMem, List.append_nil]
        exact Policy.ReplayCalls.ownClaims hstage
      · rw [(StagesCalls.single hstage).filter_isClaim (by simpa using Ne.symm hreplay)]
        exact ih hnodup

theorem Passes.ownClaims {answer : Except Fault α}
    (hcalls : handler.Passes policy raw Stage.all answer calls) :
    policy.OwnClaims raw (calls.filter Call.isClaim) ∧ calls.filterMap Call.entered? = [] := by
  have hnodup : Stage.all.Nodup := by decide
  cases answer with
  | ok value =>
      have hstages : handler.StagesCalls policy raw Stage.all calls := hcalls
      exact ⟨hstages.ownClaims hnodup, hstages.filterMap_entered?⟩
  | error fault =>
      obtain ⟨passed, last, later, hall, hstages, -⟩ := hcalls
      rw [hall, List.append_cons] at hnodup
      exact ⟨hstages.ownClaims (List.nodup_append.1 hnodup).1, hstages.filterMap_entered?⟩

/-- What is claimed for the token of an actor comes after the claim of the token's own. -/
theorem attend_claims {remaining : Nat}
    (hactors : policy.validateActor = true → ∀ fewer actorRaw, remaining = fewer + 1 →
      Run.Consults (fun _ calls => policy.actorPolicy.ClaimsWithin actorRaw fewer calls)
        (handler.validateWithin policy.actorPolicy fewer actorRaw))
    (hown : policy.OwnClaims raw (calls.filter Call.isClaim))
    (hentered : calls.filterMap Call.entered? = []) (own : Identity) :
    Run.Consults (fun _ rest => policy.ClaimsWithin raw remaining (calls ++ rest))
      (handler.attend policy remaining own) := by
  have hnone : policy.ClaimsWithin raw remaining (calls ++ []) := by
    rw [List.append_nil]
    exact .alone hown hentered
  unfold attend
  cases own.token.claims.actorToken? with
  | none => exact .pure hnone
  | some actorRaw =>
      by_cases hactor : policy.validateActor = true
      · simp only [if_pos hactor]
        cases remaining with
        | zero => exact .throw hnone
        | succ fewer =>
            have hinner : Run.Consults
                (fun _ rest => policy.ClaimsWithin raw (fewer + 1)
                  (calls ++ .enterActor actorRaw :: rest))
                (Run.adapting Fault.ofActor
                  (handler.validateWithin policy.actorPolicy fewer actorRaw)) :=
              (hactors hactor fewer actorRaw rfl).adapting
                fun _ _ hrest => .withActor hactor hown hentered hrest
            refine .noteThen rfl (hinner.bind (fun _ _ hrest => hrest) fun actor rest hrest => ?_)
            exact .pure (by rwa [List.append_nil])
      · simp only [if_neg hactor]
        exact .pure hnone

/-- By induction on the levels that remain, with the policy for the actors of each. -/
theorem validateWithin_claims (remaining : Nat) (policy : Policy ρ) (raw : String) :
    Run.Consults (fun _ calls => policy.ClaimsWithin raw remaining calls)
      (handler.validateWithin policy remaining raw) := by
  have halone : ∀ remaining (policy : Policy ρ) raw,
      Run.Consults (fun _ calls => policy.OwnClaims raw (calls.filter Call.isClaim) ∧
        calls.filterMap Call.entered? = []) (handler.validateAlone policy remaining raw) :=
    fun remaining policy raw =>
      (validateAlone_passes remaining raw).mono fun _ _ hcalls => Passes.ownClaims hcalls
  induction remaining generalizing policy raw with
  | zero =>
      rw [validateWithin_eq_attend]
      refine (halone 0 policy raw).bind (fun _ _ h => .alone h.1 h.2) fun own calls h => ?_
      refine attend_claims ?_ h.1 h.2 own
      rintro - fewer actorRaw hfewer
      exact nomatch hfewer
  | succ remaining ih =>
      rw [validateWithin_eq_attend]
      refine (halone _ policy raw).bind (fun _ _ h => .alone h.1 h.2) fun own calls h => ?_
      refine attend_claims ?_ h.1 h.2 own
      rintro - fewer actorRaw hfewer
      obtain rfl := Nat.succ.inj hfewer
      exact ih policy.actorPolicy actorRaw

end Handler

/-! ### What the answer owes to the store -/

/-- Whether a policy's store says the same to the claim for a text in two states. -/
def Policy.AnswersAlike (policy : Policy ρ) (raw : String) (left right : ρ) : Prop :=
  ∀ store expires, policy.replayStore = some store →
    ((store.claim (ReplayLedger.digest raw) (policy.recordUntil expires) policy.now).run left).1 =
      ((store.claim (ReplayLedger.digest raw) (policy.recordUntil expires) policy.now).run right).1

/-- Whether a claim changes nothing in what a store says to claims under other digests. -/
def ReplayStore.TellsApart (store : ReplayStore ρ) : Prop :=
  ∀ {digest other : String} (expires stop now : Instant) (record : ρ), digest ≠ other →
    ((store.claim other stop now).run ((store.claim digest expires now).run record).2).1 =
      ((store.claim other stop now).run record).1

theorem ReplayStore.ofLedger_tellsApart (name : String) :
    (ReplayStore.ofLedger name).TellsApart := by
  intro digest other expires stop now record hne
  rw [Ledgers.answer_claim, Ledgers.answer_claim, Ledgers.run_claim]
  split
  · rfl
  · rw [Ledgers.recording, Ledgers.ledger_insert, ReplayLedger.holds_recording, if_neg hne.symm]

namespace Validation

variable {policy : Policy ρ} {raw : String} {alike : σ → σ → Prop} {before before' : Session σ ρ}

theorem checkReplay_answers (expires : Option Instant)
    (hsame : Session.Likened alike (policy.AnswersAlike raw) before before') :
    ((checkReplay policy raw expires).outcome before).1 =
        ((checkReplay policy raw expires).outcome before').1 ∧
      Session.Likened alike (fun _ _ => True) ((checkReplay policy raw expires).outcome before).2
        ((checkReplay policy raw expires).outcome before').2 := by
  rcases policy.asks_or_off with hoff | ⟨hdetect, store, hstore⟩
  · rw [outcome_checkReplay_off hoff, outcome_checkReplay_off hoff]
    exact ⟨rfl, hsame.suite, trivial⟩
  · rw [outcome_checkReplay_store hdetect hstore, outcome_checkReplay_store hdetect hstore,
      hsame.replay store expires hstore]
    exact ⟨rfl, hsame.suite, trivial⟩

theorem checkReplay_agree_off {same : Session σ ρ → Session σ ρ → Prop}
    (hoff : policy.detectReplay = false ∨ policy.replayStore = none) (raw : String)
    (expires : Option Instant) :
    Run.Agree same (checkReplay policy raw expires) (checkReplay policy raw expires) := by
  intro before before' hsame
  rw [outcome_checkReplay_off hoff, outcome_checkReplay_off hoff]
  exact ⟨rfl, hsame⟩

/-- The stage of replay leaves the record alone or makes the one claim that it may make. -/
theorem replay_checkReplay (policy : Policy ρ) (raw : String) (expires : Option Instant)
    (before : Session σ ρ) :
    ((checkReplay policy raw expires).outcome before).2.replay = before.replay ∨
      ∃ store, policy.replayStore = some store ∧
        ((checkReplay policy raw expires).outcome before).2.replay =
          ((store.claim (ReplayLedger.digest raw) (policy.recordUntil expires) policy.now).run
            before.replay).2 := by
  rcases policy.asks_or_off with hoff | ⟨hdetect, store, hstore⟩
  · rw [outcome_checkReplay_off hoff]
    exact .inl rfl
  · rw [outcome_checkReplay_store hdetect hstore]
    exact .inr ⟨store, hstore, rfl⟩

end Validation

namespace Handler

variable {handler : Handler σ} {policy : Policy ρ} {raw other : String} {known : Key → Prop}
  {before : Session σ ρ}

theorem attend_agree_of_claimsOnlyOwn {same : Session σ ρ → Session σ ρ → Prop}
    (hsuite : CryptoSuite.Agree same handler.suite handler.suite known)
    (hpolicy : policy.AlwaysOffersOnly known) (honly : policy.ClaimsOnlyOwn) (remaining : Nat)
    (own : Identity) :
    Run.Agree same (handler.attend policy remaining own)
      (handler.attend policy remaining own) := by
  apply attend_agree hsuite
  rintro hactor fewer actorRaw -
  exact validateWithin_agree hsuite hpolicy.actorPolicy
    (fun depth hdepth => Validation.checkReplay_agree_off (honly hactor depth hdepth)) fewer actorRaw

/-- The store has its say at one place, between two parts that do not depend on it. -/
theorem answer_validateWithin {alike : σ → σ → Prop} (hsuite : handler.suite.Respects alike known)
    (hpolicy : policy.AlwaysOffersOnly known) (honly : policy.ClaimsOnlyOwn)
    {before' : Session σ ρ} (hsame : Session.Likened alike (policy.AnswersAlike raw) before before')
    (remaining : Nat) :
    ((handler.validateWithin policy remaining raw).outcome before).1 =
      ((handler.validateWithin policy remaining raw).outcome before').1 := by
  rw [validateWithin_eq_attend, validateAlone_eq_examine, bind_assoc]
  obtain ⟨hexamined, hmiddle⟩ :=
    examine_agree (hsuite.agree (policy.AnswersAlike raw)) hpolicy.offersOnly remaining raw hsame
  refine Run.answer_bind_eq hexamined fun examined => ?_
  obtain ⟨hanswer, hafter⟩ := Validation.checkReplay_answers examined.expires hmiddle
  rw [bind_assoc]
  refine Run.answer_bind_eq (congrArg (Except.mapError _) hanswer) fun _ => ?_
  rw [pure_bind]
  exact (attend_agree_of_claimsOnlyOwn (hsuite.agree fun _ _ => True) hpolicy honly remaining
    _).answer_eq hafter

theorem attend_keeps_replay (honly : policy.ClaimsOnlyOwn) (remaining : Nat) (own : Identity)
    (before : Session σ ρ) :
    ((handler.attend policy remaining own).outcome before).2.replay = before.replay :=
  (attend_agree_of_claimsOnlyOwn (handler.suite.agree_replay before.replay)
    (fun _ => Policy.offersOnly_true _) honly remaining own).keeps rfl rfl

/-- What a validation leaves on record comes from the claim for the token's own text. -/
theorem replay_validateWithin (handler : Handler σ) (honly : policy.ClaimsOnlyOwn)
    (remaining : Nat) (raw : String) (before : Session σ ρ) :
    ((handler.validateWithin policy remaining raw).outcome before).2.replay = before.replay ∨
      ∃ store expires, policy.replayStore = some store ∧
        ((handler.validateWithin policy remaining raw).outcome before).2.replay =
          ((store.claim (ReplayLedger.digest raw) (policy.recordUntil expires) policy.now).run
            before.replay).2 := by
  rw [validateWithin_eq_attend, validateAlone_eq_examine, bind_assoc, Run.outcome_bind]
  rcases hexamine : (handler.examine policy remaining raw).outcome before with
    ⟨fault | examined, middle⟩
  · exact .inl (examine_keeps_replay before.replay hexamine rfl)
  have hmiddle : middle.replay = before.replay := examine_keeps_replay before.replay hexamine rfl
  have hclaim := Validation.replay_checkReplay policy raw examined.expires middle
  rw [hmiddle] at hclaim
  simp only [bind_assoc, Run.outcome_bind, Run.atStage, Run.outcome_adapting]
  rcases hreplay : (Validation.checkReplay policy raw examined.expires).outcome middle with
    ⟨fault | _, presented⟩
  · rw [hreplay] at hclaim
    exact hclaim.imp_right fun ⟨store, h⟩ => ⟨store, examined.expires, h⟩
  · rw [hreplay] at hclaim
    simp only [Except.mapError, Run.outcome_pure, attend_keeps_replay honly]
    exact hclaim.imp_right fun ⟨store, h⟩ => ⟨store, examined.expires, h⟩

theorem validate_answersAlike (handler : Handler σ) (honly : policy.ClaimsOnlyOwn)
    (hstore : ∀ store, policy.replayStore = some store → store.TellsApart)
    (hdigest : ReplayLedger.digest raw ≠ ReplayLedger.digest other) (before : Session σ ρ) :
    policy.AnswersAlike other before.replay
      ((handler.validate policy raw).outcome before).2.replay := by
  intro store stop hsome
  rcases replay_validateWithin handler honly handler.settings.maximumNestingDepth raw before with
    hsame | ⟨store', expires, hsome', hclaimed⟩
  · rw [validate, hsame]
  · obtain rfl := Option.some.inj (hsome.symm.trans hsome')
    rw [validate, hclaimed]
    exact (hstore store hsome _ _ _ _ hdigest).symm

/-- A validation makes at most one claim for each token that it comes to, in their order: for the
token itself, and for each token of an actor under the policy for the actors of its level. Where no
token of an actor is put on record, the claim is the token's own, and the answer owes nothing else to
the store. What the store says to the claim for another token is then the same after the validation
as before, and so is the answer for that token, be the token of its actor one that was there before. -/
theorem validate_claims (handler : Handler σ) (policy : Policy ρ) (raw : String)
    (before : Session σ ρ) :
    (∃ calls,
      ((handler.validate policy raw).outcome before).2.calls = before.calls ++ calls ∧
        policy.ClaimsWithin raw handler.settings.maximumNestingDepth calls ∧
        (calls.filter Call.isClaim).length ≤ handler.settings.maximumNestingDepth + 1 ∧
        (policy.ClaimsOnlyOwn → policy.OwnClaims raw (calls.filter Call.isClaim))) ∧
      (policy.ClaimsOnlyOwn → ∀ alike known, handler.suite.Respects alike known →
        policy.AlwaysOffersOnly known → ∀ before',
          Session.Likened alike (policy.AnswersAlike raw) before before' →
          ((handler.validate policy raw).outcome before).1 =
            ((handler.validate policy raw).outcome before').1) ∧
      (policy.ClaimsOnlyOwn →
        (∀ store, policy.replayStore = some store → store.TellsApart) → ∀ other,
          ReplayLedger.digest raw ≠ ReplayLedger.digest other →
          policy.AnswersAlike other before.replay
              ((handler.validate policy raw).outcome before).2.replay ∧
            ∀ alike known, handler.suite.Respects alike known → policy.AlwaysOffersOnly known →
              alike before.suite ((handler.validate policy raw).outcome before).2.suite →
              ((handler.validate policy other).outcome before).1 =
                ((handler.validate policy other).outcome
                  ((handler.validate policy raw).outcome before).2).1) := by
  refine ⟨?_, fun honly alike known hsuite hpolicy before' hsame => ?_,
    fun honly hstore other hdigest => ?_⟩
  · obtain ⟨calls, hcalls, hclaims⟩ :=
      validateWithin_claims handler.settings.maximumNestingDepth policy raw before
    have hwithin := hclaims.of_consultations
    exact ⟨calls, hcalls, hwithin, hwithin.length_le, hwithin.1.ownClaims⟩
  · exact answer_validateWithin hsuite hpolicy honly hsame _
  · have hanswers := validate_answersAlike handler honly hstore hdigest before
    refine ⟨hanswers, fun alike known hsuite hpolicy halike => ?_⟩
    exact answer_validateWithin hsuite hpolicy honly ⟨halike, hanswers⟩ _

/-! ### Two tokens that share the token of an actor -/

/-- What is put on record here are tokens only, and not those of their actors. -/
def sparingPolicy : Policy Ledgers :=
  { actorPolicySample with actor := some (Policy.lenient Instant.earliest) }

def sharingHandler : Handler Unit := { suite := .standard }

def firstSharingText : String :=
  "eyJhbGciOiJub25lIn0.eyJhY3RvcnQiOiJleUpoYkdjaU9pSnViMjVsSW4wLmUzMC4ifQ."

def secondSharingText : String :=
  "eyJhbGciOiJub25lIn0.eyJhY3RvcnQiOiJleUpoYkdjaU9pSnViMjVsSW4wLmUzMC4iLCJuIjoyfQ."

def sharingSession : Session Unit Ledgers := ⟨(), ∅, []⟩

/-- The session that a validation of the first text leaves. -/
def afterFirst (policy : Policy Ledgers) : Session Unit Ledgers :=
  ((sharingHandler.validate policy firstSharingText).outcome sharingSession).2

theorem claimsOnlyOwn_sparingPolicy : sparingPolicy.ClaimsOnlyOwn := by
  have hcontained : (Policy.lenient Instant.earliest : Policy Ledgers).SelfContained :=
    ⟨rfl, rfl, rfl, rfl, rfl, rfl, rfl, rfl, rfl⟩
  have hactor : sparingPolicy.actorPolicy = Policy.lenient Instant.earliest := rfl
  intro _ depth _
  rw [hactor, hcontained.actorAt]
  exact .inr rfl

set_option maxRecDepth 10000 in
theorem sharing_sparingPolicy :
    ((sharingHandler.validate sparingPolicy firstSharingText).outcome sharingSession).1.isOk =
        true ∧
      ((sharingHandler.validate sparingPolicy secondSharingText).outcome sharingSession).1.isOk =
        true ∧
      ReplayLedger.digest firstSharingText ≠ ReplayLedger.digest secondSharingText := by
  decide +kernel

/-- Where tokens alone are put on record, the second is accepted with the actor's token that came
with the first. -/
theorem validate_claims_secondSharingText :
    ((sharingHandler.validate sparingPolicy firstSharingText).outcome sharingSession).1.isOk =
        true ∧
      ((sharingHandler.validate sparingPolicy secondSharingText).outcome
        (afterFirst sparingPolicy)).1.isOk = true := by
  obtain ⟨hfirst, hsecond, hdigest⟩ := sharing_sparingPolicy
  have hstore : ∀ store, sparingPolicy.replayStore = some store → store.TellsApart := by
    intro store hstore
    obtain rfl := Option.some.inj hstore
    exact ReplayStore.ofLedger_tellsApart "seen"
  obtain ⟨-, -, hshared⟩ :=
    validate_claims sharingHandler sparingPolicy firstSharingText sharingSession
  obtain ⟨-, hsame⟩ := hshared claimsOnlyOwn_sparingPolicy hstore secondSharingText hdigest
  rw [hsame Eq (fun _ => True) (CryptoSuite.respects_eq _) (fun _ => Policy.offersOnly_true _) rfl]
    at hsecond
  rw [afterFirst]
  exact ⟨hfirst, hsecond⟩

set_option maxRecDepth 10000 in
theorem sharing_actorPolicySample :
    ((sharingHandler.validate actorPolicySample firstSharingText).outcome sharingSession).1.isOk =
        true ∧
      ((sharingHandler.validate actorPolicySample secondSharingText).outcome
        sharingSession).1.isOk = true ∧
      ((sharingHandler.validate actorPolicySample secondSharingText).outcome
        (afterFirst actorPolicySample)).1.isOk = false ∧
      ((afterFirst actorPolicySample).calls.filter Call.isClaim).length = 2 := by
  decide +kernel

/-- Where the policy for actors is the same one, two claims are made, and the second token fails for
the actor's token that came with the first. -/
theorem not_forall_claimed_once :
    (¬∀ (handler : Handler Unit) (policy : Policy Ledgers) (raw : String)
        (before : Session Unit Ledgers), ∃ calls,
        ((handler.validate policy raw).outcome before).2.calls = before.calls ++ calls ∧
          (calls.filter Call.isClaim).length ≤ 1) ∧
      ¬∀ (handler : Handler Unit) (policy : Policy Ledgers) (raw other : String)
        (before : Session Unit Ledgers), raw ≠ other →
        ((handler.validate policy raw).outcome before).1.isOk = true →
        ((handler.validate policy other).outcome before).1.isOk = true →
        ((handler.validate policy other).outcome
          ((handler.validate policy raw).outcome before).2).1.isOk = true := by
  obtain ⟨hfirst, hsecond, hfails, hclaims⟩ := sharing_actorPolicySample
  rw [afterFirst] at hfails hclaims
  constructor
  · intro honce
    obtain ⟨calls, hcalls, hlength⟩ :=
      honce sharingHandler actorPolicySample firstSharingText sharingSession
    rw [hcalls, show sharingSession.calls ++ calls = calls from rfl] at hclaims
    omega
  · intro haccepted
    have hne : firstSharingText ≠ secondSharingText := by decide +kernel
    rw [haccepted _ _ _ _ _ hne hfirst hsecond] at hfails
    exact nomatch hfails

end Handler

end SecurityToken
