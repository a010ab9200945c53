import SecurityToken.Proofs.Validation.Nesting
import SecurityToken.Proofs.Validation.Order
import Mathlib.Algebra.BigOperators.Intervals

/-!
# How far a validation goes

From one token a validation comes to another in two ways: to the one that is decrypted from it, and
to that of its actor. Neither need be shorter. What a cipher returns is up to the suite, and be it
the text that it was given; and a policy may be the one for its own actors. What ends the recursion
is the depth alone, which is checked before each step and grows with it. So the recursion is over
after as many steps as there are levels, whatever would come then; and at each depth there is room
for as many decryptions as levels remain, which bounds the texts that are read. A token that lies
inside itself is decrypted that often.
-/

namespace SecurityToken

variable {σ ρ α β : Type}

/-! ### The recursion with the depth counted upward -/

namespace Handler

def checkDepth (handler : Handler σ) (depth : Nat) : Except Fault Unit :=
  if handler.settings.maximumNestingDepth < depth then .error handler.settings.tooDeep else .ok ()

/-- One layer of decryption. A token inside is one level deeper, and `further` opens it if it is
encrypted again. -/
def openLayer (handler : Handler σ) (policy : Policy ρ) (further : Nat → Token → Run σ ρ Token)
    (depth : Nat) (token : Token) : Run σ ρ Token := do
  let payload ← handler.payload policy token
  if Decryption.isObject payload then
    match Decryption.claims? payload with
    | some claims => return token.withInner (.signed token.raw token.header claims [])
    | none => throw (.malformed "decrypted payload is not a JSON object")
  else
    handler.checkDepth (depth + 1)
    let nested ← handler.parse policy payload
    if nested.isEncrypted then return token.withInner (← further (depth + 1) nested)
    else return token.withInner nested

/-- The token that a text holds at a depth, with `opener` for an encrypted one. -/
def openLevel (handler : Handler σ) (policy : Policy ρ) (opener : Nat → Token → Run σ ρ Token)
    (depth : Nat) (raw : String) : Run σ ρ Token := do
  let maximum := policy.maximumTokenSize.getD handler.settings.maximumTokenSize
  Run.atStage "size" (Compact.checkSize raw maximum)
  let token ← Run.atStage "parse" <|
    Run.adapting (·.withContext Detail.format handler.format.name) (handler.parse policy raw)
  if token.isEncrypted then Run.atStage "decrypt" (opener depth token) else return token

/-- The token of an actor is one level deeper, and `further` validates it. -/
def attendLevel (handler : Handler σ) (policy : Policy ρ)
    (further : Policy ρ → Nat → String → Run σ ρ Identity) (depth : Nat) (own : Identity) :
    Run σ ρ Identity :=
  match own.token.claims.actorToken? with
  | none => return own
  | some actorRaw =>
      if policy.validateActor then do
        let actor ← Run.adapting Fault.ofActor do
          handler.checkDepth (depth + 1)
          Run.note (.enterActor actorRaw)
          further policy.actorPolicy (depth + 1) actorRaw
        return { own with actor := some actor }
      else return own

def validateLevel (handler : Handler σ) (opener : Policy ρ → Nat → Token → Run σ ρ Token)
    (further : Policy ρ → Nat → String → Run σ ρ Identity) (policy : Policy ρ) (depth : Nat)
    (raw : String) : Run σ ρ Identity := do
  let opened ← handler.openLevel policy (opener policy) depth raw
  let own ← handler.judge policy raw opened
  handler.attendLevel policy further depth own

/-- Whether functions open and validate tokens at every depth by the layer and by the level. -/
structure IsRecursion (handler : Handler σ) (opener : Policy ρ → Nat → Token → Run σ ρ Token)
    (further : Policy ρ → Nat → String → Run σ ρ Identity) : Prop where
  opens : ∀ policy depth token,
    opener policy depth token = handler.openLayer policy (opener policy) depth token
  validates : ∀ policy depth raw,
    further policy depth raw = handler.validateLevel opener further policy depth raw

/-- The layers unfolded so many times, with `opener` for what is deeper. -/
def openUnfolded (handler : Handler σ) (opener : Policy ρ → Nat → Token → Run σ ρ Token)
    (policy : Policy ρ) : Nat → Nat → Token → Run σ ρ Token
  | 0 => opener policy
  | unfoldings + 1 => handler.openLayer policy (handler.openUnfolded opener policy unfoldings)

/-- The levels unfolded so many times and the layers of each as often, with `opener` and `further`
for what is deeper. -/
def validateUnfolded (handler : Handler σ) (opener : Policy ρ → Nat → Token → Run σ ρ Token)
    (further : Policy ρ → Nat → String → Run σ ρ Identity) :
    Nat → Policy ρ → Nat → String → Run σ ρ Identity
  | 0 => further
  | unfoldings + 1 =>
      handler.validateLevel (fun policy => handler.openUnfolded opener policy (unfoldings + 1))
        (handler.validateUnfolded opener further unfoldings)

variable {handler : Handler σ} {policy : Policy ρ} {depth : Nat} {raw : String}
  {opener opener' : Policy ρ → Nat → Token → Run σ ρ Token}
  {further further' : Policy ρ → Nat → String → Run σ ρ Identity}

theorem checkDepth_of_lt (hdepth : handler.settings.maximumNestingDepth < depth) :
    handler.checkDepth depth = .error handler.settings.tooDeep := if_pos hdepth

theorem checkDepth_of_le (hdepth : depth ≤ handler.settings.maximumNestingDepth) :
    handler.checkDepth depth = .ok () := if_neg (Nat.not_lt.2 hdepth)

theorem attend_eq_attendLevel (own : Identity) :
    handler.attend policy (handler.settings.maximumNestingDepth - depth) own =
      handler.attendLevel policy
        (fun policy depth =>
          handler.validateWithin policy (handler.settings.maximumNestingDepth - depth))
        depth own := by
  unfold attend attendLevel
  cases hremaining : handler.settings.maximumNestingDepth - depth with
  | zero =>
      rw [checkDepth_of_lt (by omega)]
      rfl
  | succ remaining =>
      rw [checkDepth_of_le (by omega)]
      obtain rfl : remaining = handler.settings.maximumNestingDepth - (depth + 1) := by omega
      rfl

/-- The validation by the levels that remain is a recursion by the depth. -/
theorem isRecursion_validateWithin (handler : Handler σ) :
    handler.IsRecursion
      (fun (policy : Policy ρ) depth =>
        handler.decrypt policy (handler.settings.maximumNestingDepth - depth))
      (fun policy depth =>
        handler.validateWithin policy (handler.settings.maximumNestingDepth - depth)) where
  opens policy depth token := by
    unfold openLayer
    cases hremaining : handler.settings.maximumNestingDepth - depth with
    | zero =>
        rw [decrypt, checkDepth_of_lt (by omega)]
        rfl
    | succ remaining =>
        rw [decrypt, checkDepth_of_le (by omega)]
        obtain rfl : remaining = handler.settings.maximumNestingDepth - (depth + 1) := by omega
        rfl
  validates policy depth raw := by
    rw [validateWithin_eq_attend, validateAlone_eq_judge, bind_assoc]
    simp only [attend_eq_attendLevel]
    rfl

/-- A layer asks for nothing but what is one level deeper, and at the limit for nothing at all. -/
theorem openLayer_congr {inner inner' : Nat → Token → Run σ ρ Token}
    (hinner : depth < handler.settings.maximumNestingDepth →
      inner (depth + 1) = inner' (depth + 1)) :
    handler.openLayer policy inner depth = handler.openLayer policy inner' depth := by
  funext token
  unfold openLayer
  by_cases hdepth : depth < handler.settings.maximumNestingDepth
  · rw [hinner hdepth]
  · rw [checkDepth_of_lt (Nat.lt_succ_of_le (Nat.not_lt.1 hdepth))]
    rfl

theorem attendLevel_congr
    (hfurther : depth < handler.settings.maximumNestingDepth →
      ∀ policy, further policy (depth + 1) = further' policy (depth + 1)) (own : Identity) :
    handler.attendLevel policy further depth own =
      handler.attendLevel policy further' depth own := by
  unfold attendLevel
  by_cases hdepth : depth < handler.settings.maximumNestingDepth
  · rw [hfurther hdepth]
  · rw [checkDepth_of_lt (Nat.lt_succ_of_le (Nat.not_lt.1 hdepth))]
    rfl

theorem validateLevel_congr (hopener : opener policy depth = opener' policy depth)
    (hfurther : depth < handler.settings.maximumNestingDepth →
      ∀ policy, further policy (depth + 1) = further' policy (depth + 1)) :
    handler.validateLevel opener further policy depth =
      handler.validateLevel opener' further' policy depth := by
  funext raw
  unfold validateLevel openLevel
  simp only [hopener, attendLevel_congr hfurther]

/-- Unfolded beyond the limit, the layers do not come to what is put in place of deeper ones. By
induction on the unfoldings, of which each goes one level deeper. -/
theorem IsRecursion.openUnfolded_eq (hrecursion : handler.IsRecursion opener further)
    (other : Policy ρ → Nat → Token → Run σ ρ Token) (policy : Policy ρ) (unfoldings : Nat)
    (hunfoldings : handler.settings.maximumNestingDepth < depth + unfoldings + 1) :
    handler.openUnfolded other policy (unfoldings + 1) depth = opener policy depth := by
  induction unfoldings generalizing depth with
  | zero =>
      funext token
      rw [hrecursion.opens, openUnfolded, openLayer_congr]
      omega
  | succ unfoldings ih =>
      funext token
      rw [hrecursion.opens, openUnfolded, openLayer_congr]
      exact fun _ => ih (by omega)

theorem IsRecursion.validateUnfolded_eq (hrecursion : handler.IsRecursion opener further)
    (otherOpener : Policy ρ → Nat → Token → Run σ ρ Token)
    (other : Policy ρ → Nat → String → Run σ ρ Identity) (policy : Policy ρ) (unfoldings : Nat)
    (hunfoldings : handler.settings.maximumNestingDepth < depth + unfoldings + 1) :
    handler.validateUnfolded otherOpener other (unfoldings + 1) policy depth =
      further policy depth := by
  induction unfoldings generalizing policy depth with
  | zero =>
      funext raw
      rw [hrecursion.validates, validateUnfolded, validateLevel_congr]
      · exact hrecursion.openUnfolded_eq otherOpener policy 0 hunfoldings
      · omega
  | succ unfoldings ih =>
      funext raw
      rw [hrecursion.validates, validateUnfolded, validateLevel_congr]
      · exact hrecursion.openUnfolded_eq otherOpener policy (unfoldings + 1) hunfoldings
      · exact fun _ policy => ih policy (by omega)

end Handler

/-! ### The texts that are read -/

def Call.isParse : Call → Bool
  | .parse .. => true
  | _ => false

theorem Call.countP_isParse_consultations (calls : List Call) :
    (calls.filter isConsultation).countP isParse = calls.countP isParse := by
  rw [List.countP_filter]
  congr 1
  funext call
  cases call <;> rfl

theorem Call.Belongs.isParse {call : Call} {stage : Stage} (hcall : call.Belongs stage)
    (hstage : stage ∉ [Stage.parse, .decrypt]) : call.isParse = false := by
  cases call with
  | parse => exact absurd (by simpa [Call.Belongs] using hcall) hstage
  | _ => rfl

/-- Whether the format is given no more than so many texts in a run. -/
def Run.ReadsAtMost (limit : Nat) (run : Run σ ρ α) : Prop :=
  Run.Consults (fun _ calls => calls.countP Call.isParse ≤ limit) run

namespace Run.ReadsAtMost

variable {limit more : Nat} {run : Run σ ρ α}

theorem pure {value : α} : Run.ReadsAtMost limit (Pure.pure value : Run σ ρ α) :=
  Consults.pure (Nat.zero_le limit)

theorem throw {fault : Fault} : Run.ReadsAtMost limit (MonadExcept.throw fault : Run σ ρ α) :=
  Consults.throw (Nat.zero_le limit)

theorem lift {answer : Except Fault α} : Run.ReadsAtMost 0 (liftM answer : Run σ ρ α) :=
  Consults.lift (Nat.le_refl 0)

theorem note {call : Call} (hcall : call.isParse = false) :
    Run.ReadsAtMost 0 (Run.note call : Run σ ρ Unit) := by
  refine (Consults.note call).mono fun _ calls hcalls => ?_
  rw [hcalls.2, Call.countP_isParse_consultations, Nat.le_zero, List.countP_eq_zero]
  simp [hcall]

theorem mono (hrun : Run.ReadsAtMost limit run) (hlimit : limit ≤ more) :
    Run.ReadsAtMost more run :=
  Consults.mono hrun fun _ _ hcalls => Nat.le_trans hcalls hlimit

theorem adapting {change : Fault → Fault} (hrun : Run.ReadsAtMost limit run) :
    Run.ReadsAtMost limit (Run.adapting change run) :=
  Consults.adapting hrun fun _ _ hcalls => hcalls

theorem atStage {stage : String} (hrun : Run.ReadsAtMost limit run) :
    Run.ReadsAtMost limit (Run.atStage stage run) :=
  adapting hrun

theorem bind {next : α → Run σ ρ β} (hrun : Run.ReadsAtMost limit run)
    (hnext : ∀ value, Run.ReadsAtMost more (next value)) :
    Run.ReadsAtMost (more + limit) (run >>= next) := by
  refine Consults.bind hrun (fun _ _ hcalls => Nat.le_add_left_of_le hcalls)
    fun value calls hcalls => Consults.mono (hnext value) fun _ rest hrest => ?_
  rw [List.countP_append, Nat.add_comm]
  exact Nat.add_le_add hrest hcalls

theorem of_stage (handler : Handler σ) (policy : Policy ρ) (raw : String) (stage : Stage)
    (hrun : Run.Consults (fun _ calls => handler.StageCalls policy raw stage calls) run)
    (hstage : stage ∉ [Stage.parse, .decrypt]) :
    Run.ReadsAtMost 0 (Run.atStage stage.name run) := by
  refine atStage (hrun.mono fun _ calls hcalls => ?_)
  rw [Nat.le_zero, List.countP_eq_zero]
  intro call hcall
  rw [(hcalls.belongs call hcall).isParse hstage]
  exact Bool.false_ne_true

end Run.ReadsAtMost

namespace Handler

variable {handler : Handler σ} {policy : Policy ρ}

theorem parse_reads (raw : String) : Run.ReadsAtMost 1 (handler.parse policy raw) := by
  refine (parse_consults raw).mono fun _ _ hcalls => ?_
  rw [hcalls.2]
  exact Nat.le_refl 1

theorem payload_reads (token : Token) : Run.ReadsAtMost 0 (handler.payload policy token) := by
  refine (payload_consults token).mono fun _ calls hcalls => ?_
  rcases hcalls with rfl | ⟨-, rfl⟩
  · exact Nat.le_refl 0
  · exact Nat.le_refl 0

/-- Each decryption but the last one reads a text, and uses up a level. -/
theorem decrypt_reads (remaining : Nat) (token : Token) :
    Run.ReadsAtMost remaining (handler.decrypt policy remaining token) := by
  induction remaining generalizing token with
  | zero =>
      rw [decrypt]
      refine (payload_reads token).bind fun payload => ?_
      split
      · split
        · exact .pure
        · exact .throw
      · exact .throw
  | succ remaining ih =>
      rw [decrypt]
      refine (payload_reads token).bind fun payload => ?_
      split
      · split
        · exact .pure
        · exact .throw
      · refine (parse_reads payload).bind fun nested => ?_
        split
        · exact ((ih nested).bind fun _ => .pure).mono (Nat.zero_add remaining).le
        · exact .pure

theorem openToken_reads (remaining : Nat) (raw : String) :
    Run.ReadsAtMost (remaining + 1) (handler.openToken policy remaining raw) := by
  unfold openToken
  refine Run.ReadsAtMost.lift.atStage.bind fun _ => ?_
  refine (parse_reads raw).adapting.atStage.bind fun token => ?_
  split
  · exact (decrypt_reads remaining token).atStage
  · exact .pure

theorem judge_reads (raw : String) (opened : Token) :
    Run.ReadsAtMost 0 (handler.judge policy raw opened) := by
  unfold judge
  refine (Run.ReadsAtMost.of_stage handler policy raw .signature (verify_consults _)
    (by decide)).bind fun verified => ?_
  refine (Run.ReadsAtMost.of_stage handler policy raw .issuer (Validation.checkIssuer_consults _)
    (by decide)).bind fun issuer => ?_
  refine (Run.ReadsAtMost.of_stage handler policy raw .audience
    (Validation.checkAudience_consults _) (by decide)).bind fun _ => ?_
  refine (Run.ReadsAtMost.of_stage handler policy raw .lifetime
    (Validation.checkLifetime_consults _) (by decide)).bind fun expires => ?_
  refine (Run.ReadsAtMost.of_stage handler policy raw .replay (Validation.checkReplay_consults _ _)
    (by decide)).bind fun _ => ?_
  exact .pure

theorem validateAlone_reads (remaining : Nat) (raw : String) :
    Run.ReadsAtMost (remaining + 1) (handler.validateAlone policy remaining raw) := by
  rw [validateAlone_eq_judge]
  exact ((openToken_reads remaining raw).bind fun opened => judge_reads raw opened).mono
    (Nat.zero_add _).le

theorem attend_reads {remaining limit : Nat}
    (hactors : ∀ fewer actorRaw, remaining = fewer + 1 →
      Run.ReadsAtMost limit (handler.validateWithin policy.actorPolicy fewer actorRaw))
    (own : Identity) : Run.ReadsAtMost limit (handler.attend policy remaining own) := by
  unfold attend
  cases own.token.claims.actorToken? with
  | none => exact .pure
  | some actorRaw =>
      simp only
      split
      · cases remaining with
        | zero => exact .throw
        | succ fewer =>
            refine (Run.ReadsAtMost.note rfl).bind fun _ => ?_
            exact ((hactors fewer actorRaw rfl).adapting.bind fun _ => .pure).mono
              (Nat.zero_add limit).le
      · exact .pure

/-- The token of each level is read, and what is decrypted from it, for which the fewer levels
remain the further down the actor is. By induction on the levels that remain. -/
theorem validateWithin_reads (remaining : Nat) (policy : Policy ρ) (raw : String) :
    Run.ReadsAtMost (∑ level ∈ Finset.range (remaining + 2), level)
      (handler.validateWithin policy remaining raw) := by
  induction remaining generalizing policy raw with
  | zero =>
      rw [validateWithin_eq_attend, Finset.sum_range_succ]
      refine (validateAlone_reads 0 raw).bind fun own => attend_reads ?_ own
      exact fun fewer _ hfewer => nomatch hfewer
  | succ remaining ih =>
      rw [validateWithin_eq_attend, Finset.sum_range_succ]
      refine (validateAlone_reads (remaining + 1) raw).bind fun own => attend_reads ?_ own
      rintro fewer actorRaw hfewer
      obtain rfl := Nat.succ.inj hfewer
      exact ih policy.actorPolicy actorRaw

/-- However a cipher answers, and whatever policies name one another, a validation ends: it is the
recursion by the depth, and unfolded beyond the limit it is the same whatever would come deeper. The
texts that it gives to the format are no more than the limit allows. -/
theorem validate_bounded (handler : Handler σ) (policy : Policy ρ) (raw : String)
    (before : Session σ ρ) :
    (∃ opener further, handler.IsRecursion opener further ∧
        further policy 0 raw = handler.validate policy raw) ∧
      (∀ opener further more,
        handler.validateUnfolded opener further (handler.settings.maximumNestingDepth + more + 1)
          policy 0 raw = handler.validate policy raw) ∧
      ∃ calls, ((handler.validate policy raw).outcome before).2.calls = before.calls ++ calls ∧
        calls.countP Call.isParse ≤
          (handler.settings.maximumNestingDepth + 1) * (handler.settings.maximumNestingDepth + 2) /
            2 := by
  refine ⟨⟨_, _, isRecursion_validateWithin handler, rfl⟩, ?_, ?_⟩
  · intro opener further more
    rw [(isRecursion_validateWithin handler).validateUnfolded_eq _ _ _ _ (by omega)]
    rfl
  · obtain ⟨calls, hcalls, hreads⟩ :=
      validateWithin_reads handler.settings.maximumNestingDepth policy raw before
    refine ⟨calls, hcalls, ?_⟩
    rw [Call.countP_isParse_consultations, Finset.sum_range_id, Nat.mul_comm] at hreads
    exact hreads

end Handler

/-! ### A token that lies inside itself -/

/-- A suite whose ciphers answer with one text, whatever they are to decrypt and under any key. -/
def CryptoSuite.echoing (text : String) : CryptoSuite Unit where
  signature _ name _ := pure (.error (.unsupportedAlgorithm name))
  keyManagement _ name :=
    pure (.ok {
      algorithm := name
      wrap := fun _ contentKey => .ok contentKey
      unwrap := .ok
      ownKey := none })
  content name :=
    pure (.ok {
      algorithm := name
      keySize := 0
      encrypt := fun _ _ _ _ => .ok ⟨[], [], []⟩
      decrypt := fun _ _ _ => .ok (Bytes.ofText text) })
  release _ := pure ()

namespace Handler

/-- Whether an encrypted token is what is read from what it decrypts to. -/
structure LiesInItself (handler : Handler σ) (policy : Policy ρ) (token : Token) : Prop where
  encrypted : token.isEncrypted = true
  compact : Decryption.isObject token.raw = false
  read : handler.format.parse (!policy.requireSignature) token.raw = .ok token
  answered : ∀ before, ((handler.payload policy token).outcome before).1 = .ok token.raw

variable {handler : Handler σ} {policy : Policy ρ} {token : Token}

/-- Such a token is read again as often as levels remain, and never opened. -/
theorem LiesInItself.decrypt_consults (hitself : handler.LiesInItself policy token)
    (remaining : Nat) :
    Run.Consults
      (fun answer calls => answer = .error handler.settings.tooDeep ∧
        calls.countP Call.isParse = remaining)
      (handler.decrypt policy remaining token) := by
  have hpayload : Run.Consults
      (fun answer calls => answer = .ok token.raw ∧ calls.countP Call.isParse = 0)
      (handler.payload policy token) := by
    refine Run.Consults.mono (Run.Consults.giving (payload_reads token)) ?_
    rintro answer calls ⟨hreads, before, rfl⟩
    exact ⟨hitself.answered before, Nat.le_zero.1 hreads⟩
  induction remaining with
  | zero =>
      rw [decrypt]
      refine hpayload.bind ?_ ?_
      · rintro fault calls ⟨hfault, -⟩
        cases hfault
      rintro payload calls ⟨hraw, hreads⟩
      obtain rfl := Except.ok.inj hraw
      simp only [hitself.compact]
      exact .throw ⟨rfl, by simpa using hreads⟩
  | succ remaining ih =>
      rw [decrypt]
      refine hpayload.bind ?_ ?_
      · rintro fault calls ⟨hfault, -⟩
        cases hfault
      rintro payload calls ⟨hraw, hreads⟩
      obtain rfl := Except.ok.inj hraw
      simp only [hitself.compact]
      refine (parse_consults token.raw).bind ?_ ?_
      · rintro fault read ⟨hread, -⟩
        cases hread.trans hitself.read
      rintro nested read ⟨hread, rfl⟩
      obtain rfl := Except.ok.inj (hread.trans hitself.read)
      simp only [hitself.encrypted, if_true]
      refine ih.bind ?_ ?_
      · rintro fault rest ⟨hfault, hrest⟩
        refine ⟨hfault, ?_⟩
        rw [List.countP_append, hreads, Nat.zero_add]
        exact (List.countP_cons_of_pos rfl).trans (congrArg Nat.succ hrest)
      · rintro opened rest ⟨hopened, -⟩
        cases hopened

theorem LiesInItself.validate_consults (hitself : handler.LiesInItself policy token)
    (hsize : token.raw.utf8ByteSize ≤
      policy.maximumTokenSize.getD handler.settings.maximumTokenSize) :
    Run.Consults
      (fun answer calls =>
        answer = .error (handler.settings.tooDeep.withContext Detail.stage "decrypt") ∧
          calls.countP Call.isParse = handler.settings.maximumNestingDepth + 1)
      (handler.validate policy token.raw) := by
  have hchecked : Compact.checkSize token.raw
      (policy.maximumTokenSize.getD handler.settings.maximumTokenSize) = .ok () :=
    if_neg (Nat.not_lt.2 hsize)
  intro before
  obtain ⟨calls, hcalls, hanswer, hreads⟩ :=
    hitself.decrypt_consults handler.settings.maximumNestingDepth
      (before.noting (.parse (!policy.requireSignature) token.raw))
  rcases hrun : (handler.decrypt policy handler.settings.maximumNestingDepth token).outcome
    (before.noting (.parse (!policy.requireSignature) token.raw)) with ⟨answer, after⟩
  rw [hrun] at hcalls hanswer
  obtain rfl : answer = .error handler.settings.tooDeep := hanswer
  have hvalidate : (handler.validate policy token.raw).outcome before =
      (.error (handler.settings.tooDeep.withContext Detail.stage "decrypt"), after) := by
    simp only [validate, validateWithin_eq_attend, validateAlone_eq_judge, openToken, parse,
      bind_assoc, Run.outcome_bind, Run.atStage, Run.outcome_adapting, Run.outcome_lift, hchecked,
      Run.outcome_note, hitself.read, hitself.encrypted, Except.mapError, if_true, hrun]
  rw [hvalidate]
  refine ⟨.parse (!policy.requireSignature) token.raw :: calls, ?_, rfl, ?_⟩
  · rw [hcalls, Session.noting, List.append_assoc]
    rfl
  · rw [Call.countP_isParse_consultations] at hreads ⊢
    rw [List.countP_cons_of_pos rfl, hreads]

theorem plaintext_echoing (handler : Handler Unit) (text : String) {algorithm encryption : String}
    {content : SealedContent} (hcontent : token.content? = some content)
    (halgorithm : token.header.algorithm? = some algorithm)
    (hencryption : token.header.encryption? = some encryption)
    (hkeys : policy.candidates .decryption token.raw token.header ≠ [])
    (before : Session Unit ρ) :
    (((handler.withSuite (.echoing text)).plaintext policy token).outcome before).1 =
      .ok (Bytes.ofText text) := by
  obtain ⟨key, rest, hkeys⟩ := List.exists_cons_of_ne_nil hkeys
  have hcandidates : ∃ after, (candidates policy .decryption token).outcome
      (before.noting (.contentCipher encryption)) = (.ok (key :: rest), after) := by
    rw [← hkeys]
    unfold candidates
    split
    · exact ⟨_, rfl⟩
    · exact ⟨_, rfl⟩
  obtain ⟨after, hcandidates⟩ := hcandidates
  unfold plaintext
  simp only [halgorithm, hencryption, hcontent, Run.outcome_bind, Run.outcome_ask]
  change ((candidates policy .decryption token >>= _).outcome
    (before.noting (.contentCipher encryption))).1 = _
  rw [Run.outcome_bind, hcandidates]
  rfl

/-- Under a suite that echoes a token, if a key is tried on it at all, one text is read for each
level and one more, and then the token is refused for its depth. -/
theorem validate_echoing {handler : Handler Unit} {algorithm encryption : String}
    (hencrypted : token.isEncrypted = true) (hcompact : Decryption.isObject token.raw = false)
    (hread : handler.format.parse (!policy.requireSignature) token.raw = .ok token)
    (halgorithm : token.header.algorithm? = some algorithm)
    (hencryption : token.header.encryption? = some encryption)
    (hkeys : policy.candidates .decryption token.raw token.header ≠ [])
    (hsize : token.raw.utf8ByteSize ≤
      policy.maximumTokenSize.getD handler.settings.maximumTokenSize) :
    Run.Consults
      (fun answer calls =>
        answer = .error (handler.settings.tooDeep.withContext Detail.stage "decrypt") ∧
          calls.countP Call.isParse = handler.settings.maximumNestingDepth + 1)
      ((handler.withSuite (.echoing token.raw)).validate policy token.raw) := by
  obtain ⟨content, hcontent⟩ := Option.isSome_iff_exists.1 hencrypted
  have hanswered : ∀ before : Session Unit ρ,
      (((handler.withSuite (.echoing token.raw)).payload policy token).outcome before).1 =
        .ok token.raw := by
    intro before
    have hplaintext :=
      plaintext_echoing handler token.raw hcontent halgorithm hencryption hkeys before
    unfold payload
    rw [Run.outcome_bind]
    rcases hrun : ((handler.withSuite (.echoing token.raw)).plaintext policy token).outcome
      before with ⟨answer, after⟩
    rw [hrun] at hplaintext
    obtain rfl : answer = .ok (Bytes.ofText token.raw) := hplaintext
    simp only [Bytes.text?_ofText, Run.outcome_pure]
  have hitself : (handler.withSuite (.echoing token.raw)).LiesInItself policy token :=
    ⟨hencrypted, hcompact, hread, hanswered⟩
  exact hitself.validate_consults hsize

def echoedText : String :=
  "eyJhbGciOiJkaXIiLCJlbmMiOiJBMTI4R0NNIn0..AAAA.AAAA.AAAA"

def echoedPolicy : Policy Unit :=
  { Policy.lenient Instant.earliest with
    decryptionKeys := [{ handle := 1, material := .secret [] }] }

set_option maxRecDepth 10000 in
example :
    ((Handler.validate { suite := .echoing echoedText } echoedPolicy echoedText).outcome
      ⟨(), (), []⟩).2.calls.countP Call.isParse = 3 := by
  decide +kernel

end Handler

end SecurityToken
