import SecurityToken.Proofs.Validation.Memory
import SecurityToken.Proofs.Validation.Opening
import SecurityToken.Proofs.Validation.Record

/-!
# A layer of encryption shows in no answer

A text that encrypts another one, under the only key that a policy has for it, is validated as the
text inside would be. The one validation runs ahead by the opening of the layer; from there both go
through the same stages with the same token, each in a session of its own. Either both come to the
same identity, but for the text that it may keep, or both fail with faults of one kind: the stage is
another one where the text inside is no token.
-/

namespace SecurityToken

variable {ρ α β γ δ : Type}

/-! ### Runs side by side -/

/-- Answers that tell the same: related values, or faults of one kind. -/
inductive AnswersAlike (related : α → β → Prop) : Except Fault α → Except Fault β → Prop where
  | accepted {value : α} {value' : β} (hvalues : related value value') :
      AnswersAlike related (.ok value) (.ok value')
  | refused {fault fault' : Fault} (hkind : fault.kind = fault'.kind) :
      AnswersAlike related (.error fault) (.error fault')

/-- A change of faults that leaves their kind. -/
def Fault.KeepsKind (change : Fault → Fault) : Prop :=
  ∀ fault, (change fault).kind = fault.kind

theorem Fault.keepsKind_withContext (key value : String) :
    Fault.KeepsKind (·.withContext key value) :=
  fun _ => rfl

namespace AnswersAlike

variable {related : α → β → Prop} {answer : Except Fault α} {answer' : Except Fault β}
  {change : Fault → Fault}

theorem mapErrorLeft (hchange : Fault.KeepsKind change)
    (hanswers : AnswersAlike related answer answer') :
    AnswersAlike related (answer.mapError change) answer' := by
  cases hanswers with
  | accepted hvalues => exact .accepted hvalues
  | refused hkind => exact .refused ((hchange _).trans hkind)

theorem mapErrorRight (hchange : Fault.KeepsKind change)
    (hanswers : AnswersAlike related answer answer') :
    AnswersAlike related answer (answer'.mapError change) := by
  cases hanswers with
  | accepted hvalues => exact .accepted hvalues
  | refused hkind => exact .refused (hkind.trans (hchange _).symm)

end AnswersAlike

def Session.SameRecord (left right : Session Unit ρ) : Prop :=
  left.replay = right.replay

/-- From sessions with the same record, two runs answer alike and leave the same record. -/
def Run.Parallel (related : α → β → Prop) (left : Run Unit ρ α) (right : Run Unit ρ β) : Prop :=
  ∀ ⦃before before' : Session Unit ρ⦄, before.SameRecord before' →
    AnswersAlike related (left.outcome before).1 (right.outcome before').1 ∧
      (left.outcome before).2.SameRecord (right.outcome before').2

/-- A run that comes to one value from every session, and leaves the record as it is. -/
def Run.Yields (run : Run Unit ρ α) (value : α) : Prop :=
  ∀ before, ∃ after, run.outcome before = (.ok value, after) ∧ after.SameRecord before

theorem Run.Agree.parallel {left right : Run Unit ρ α}
    (hrun : Run.Agree Session.SameRecord left right) : Run.Parallel Eq left right := by
  intro before before' hrecord
  obtain ⟨hanswer, hafter⟩ := hrun hrecord
  refine ⟨?_, hafter⟩
  rw [hanswer]
  cases (right.outcome before').1 with
  | error fault => exact .refused rfl
  | ok value => exact .accepted rfl

namespace Run.Parallel

variable {related : α → β → Prop} {left : Run Unit ρ α} {right : Run Unit ρ β}

theorem pure {value : α} {value' : β} (hvalues : related value value') :
    Run.Parallel related (Pure.pure value : Run Unit ρ α) (Pure.pure value') :=
  fun _ _ hrecord => ⟨.accepted hvalues, hrecord⟩

theorem bind {related' : γ → δ → Prop} {next : α → Run Unit ρ γ} {next' : β → Run Unit ρ δ}
    (hfirst : Run.Parallel related left right)
    (hnext : ∀ value value', related value value' →
      Run.Parallel related' (next value) (next' value')) :
    Run.Parallel related' (left >>= next) (right >>= next') := by
  intro before before' hrecord
  obtain ⟨hanswer, hafter⟩ := hfirst hrecord
  rw [outcome_bind, outcome_bind]
  generalize left.outcome before = outcome at hanswer hafter ⊢
  generalize right.outcome before' = outcome' at hanswer hafter ⊢
  obtain ⟨answer, middle⟩ := outcome
  obtain ⟨answer', middle'⟩ := outcome'
  cases hanswer with
  | accepted hvalues => exact hnext _ _ hvalues hafter
  | refused hkind => exact ⟨.refused hkind, hafter⟩

/-- One run may go ahead, as long as it comes to a value. -/
theorem aheadLeft {first : Run Unit ρ γ} {value : γ} {next : γ → Run Unit ρ α}
    (hfirst : first.Yields value) (hnext : Run.Parallel related (next value) right) :
    Run.Parallel related (first >>= next) right := by
  intro before before' hrecord
  obtain ⟨middle, hrun, hmiddle⟩ := hfirst before
  rw [outcome_bind, hrun]
  exact hnext (hmiddle.trans hrecord)

theorem adaptingLeft {change : Fault → Fault} (hchange : Fault.KeepsKind change)
    (hrun : Run.Parallel related left right) :
    Run.Parallel related (Run.adapting change left) right :=
  fun _ _ hrecord => ⟨(hrun hrecord).1.mapErrorLeft hchange, (hrun hrecord).2⟩

theorem adaptingRight {change : Fault → Fault} (hchange : Fault.KeepsKind change)
    (hrun : Run.Parallel related left right) :
    Run.Parallel related left (Run.adapting change right) :=
  fun _ _ hrecord => ⟨(hrun hrecord).1.mapErrorRight hchange, (hrun hrecord).2⟩

end Run.Parallel

namespace Run.Yields

variable {run : Run Unit ρ α} {value : α}

theorem bind {next : α → Run Unit ρ β} {result : β} (hrun : run.Yields value)
    (hnext : (next value).Yields result) : (run >>= next).Yields result := by
  intro before
  obtain ⟨middle, hfirst, hmiddle⟩ := hrun before
  obtain ⟨after, hsecond, hafter⟩ := hnext middle
  exact ⟨after, outcome_bind_eq_ok.2 ⟨value, middle, hfirst, hsecond⟩, hafter.trans hmiddle⟩

theorem pure : (Pure.pure value : Run Unit ρ α).Yields value :=
  fun before => ⟨before, rfl, rfl⟩

theorem lift {answer : Except Fault α} (hanswer : answer = .ok value) :
    (liftM answer : Run Unit ρ α).Yields value := by
  intro before
  rw [outcome_lift, hanswer]
  exact ⟨before, rfl, rfl⟩

theorem note (call : Call) : (Run.note call : Run Unit ρ Unit).Yields () :=
  fun before => ⟨before.noting call, rfl, rfl⟩

theorem ask (call : Call) (request : StateM Unit α) :
    (Run.ask call request : Run Unit ρ α).Yields (request.run ()).1 :=
  fun before => ⟨_, outcome_ask call request before, rfl⟩

theorem adapting {change : Fault → Fault} (hrun : run.Yields value) :
    (Run.adapting change run).Yields value := by
  intro before
  obtain ⟨after, houtcome, hafter⟩ := hrun before
  exact ⟨after, outcome_adapting_eq_ok.2 houtcome, hafter⟩

theorem parallel {related : α → β → Prop} {other : Run Unit ρ β} {result : β}
    (hrun : run.Yields value) (hother : other.Yields result) (hvalues : related value result) :
    Run.Parallel related run other := by
  intro before before' hrecord
  obtain ⟨after, houtcome, hafter⟩ := hrun before
  obtain ⟨after', houtcome', hafter'⟩ := hother before'
  rw [houtcome, houtcome']
  exact ⟨.accepted hvalues, hafter.trans (hrecord.trans hafter'.symm)⟩

end Run.Yields

theorem Session.sharesRecord_sameRecord : Session.SharesRecord (@Session.SameRecord ρ) where
  replay hrecord := hrecord
  withReplay _ _ := rfl

theorem CryptoSuite.standard_agree_sameRecord :
    CryptoSuite.Agree (@Session.SameRecord ρ) standard standard fun _ => True where
  note _ hrecord := hrecord
  signature _ _ _ _ _ hrecord := ⟨rfl, hrecord⟩
  keyManagement _ _ _ _ hrecord := ⟨rfl, hrecord⟩
  content _ _ _ hrecord := ⟨rfl, hrecord⟩

/-! ### The opening of a layer -/

theorem Compact.not_isEncrypted_of_parse {allowUnsigned : Bool} {text : String} {token : Token}
    (hcount : (segments text).length ≠ 5) (hparse : parse allowUnsigned text = .ok token) :
    ¬token.isEncrypted = true := by
  obtain ⟨_, hreads⟩ := parse_eq_ok.1 hparse
  cases token with
  | signed raw header claims signature => exact Bool.false_ne_true
  | encrypted raw header content inner => exact absurd hreads.2.1 hcount

/-- Whether a policy opens what is encrypted with one key, and has no other for that. -/
structure Policy.OpensWith (policy : Policy ρ) (opener : Key) : Prop where
  decryptionKeys : policy.decryptionKeys = [opener]
  decryptionKeyResolver : policy.decryptionKeyResolver = none

namespace Policy.OpensWith

variable {policy : Policy ρ} {opener : Key} (hopens : policy.OpensWith opener)

include hopens

theorem resolver? : policy.resolver? .decryption = none :=
  hopens.decryptionKeyResolver

theorem candidates_eq (raw : String) (header : Header) :
    policy.candidates .decryption raw header = [opener] := by
  have hkeys : policy.keys .decryption = [opener] := hopens.decryptionKeys
  unfold Policy.candidates
  rw [Policy.activeResolver?_eq_none hopens.resolver?, hkeys]
  by_cases hhinted : Policy.isHinted header opener = true
  · simp [hhinted]
  · simp [hhinted]

end Policy.OpensWith

/-- Whether a text is what a layer of encryption leads to: neither an object nor encrypted again. -/
structure Compact.IsCore (text : String) : Prop where
  notObject : ¬Decryption.isObject text = true
  notFive : (segments text).length ≠ 5

/-- Whether two identities are the same, but for the text that each may keep. -/
structure Identity.Matches (identity other : Identity) : Prop where
  token : identity.token = other.token
  claims : identity.claims = other.claims
  issuer : identity.issuer = other.issuer
  signingKey : identity.signingKey = other.signingKey
  actor : identity.actor = other.actor

namespace Handler

variable {handler : Handler Unit} {policy : Policy ρ} {opener : Key} {outer inner name : String}

theorem openWith_yields (hsuite : handler.suite = .standard) {algorithm : KeyAlgorithm}
    {scheme : KeyScheme} (hscheme : opener.keyScheme algorithm = .ok scheme)
    {cipher : ContentCipher} {content : SealedContent} {associated plaintext : Bytes}
    (hfound : Decryption.open? scheme cipher content associated = some plaintext) :
    (handler.openWith algorithm.name cipher content associated 0 [opener] :
      Run Unit ρ Bytes).Yields plaintext := by
  rw [openWith, hsuite]
  refine .bind (.ask _ _) ?_
  rw [CryptoSuite.standard_keyManagement_name, hscheme]
  simp only [hfound]
  exact .pure

theorem parse_parallel (hformat : handler.format = { TokenFormat.compact with name })
    (hcore : Compact.IsCore inner) :
    Run.Parallel (fun token token' : Token => token' = token ∧ ¬token.isEncrypted = true)
      (handler.parse policy inner) (handler.parse policy inner) := by
  unfold parse
  refine .bind (Run.Yields.parallel (.note _) (.note _) rfl) fun _ _ _ => ?_
  intro before before' hrecord
  refine ⟨?_, hrecord⟩
  rw [hformat, Run.outcome_lift, Run.outcome_lift]
  cases hparse : TokenFormat.compact.parse (!policy.requireSignature) inner with
  | error fault => exact .refused rfl
  | ok token =>
      exact .accepted ⟨rfl, Compact.not_isEncrypted_of_parse hcore.notFive
        (Compact.compact_parse_eq_ok.1 hparse)⟩

section Layer

variable (hsuite : handler.suite = .standard) (hopens : policy.OpensWith opener)
  (layer : policy.Layer outer inner)

include hsuite hopens layer

/-- The only key is the one that opens the layer. -/
theorem payload_yields :
    (handler.payload policy (.encrypted outer layer.header layer.content none)).Yields inner := by
  have hkey : layer.key = opener := by
    have hcandidate := layer.candidate
    rw [hopens.candidates_eq] at hcandidate
    exact List.mem_singleton.1 hcandidate
  have hscheme := layer.serves
  rw [hkey] at hscheme
  have hfound := Decryption.open?_eq_some.2 ⟨layer.contentKey, layer.unwraps, layer.decrypts⟩
  unfold payload
  refine @Run.Yields.bind ρ _ _ _ (Bytes.ofText inner) _ _ ?_ ?_
  · unfold plaintext
    simp only [Token.header, layer.namesKeyAlgorithm, layer.namesContentAlgorithm, Token.content?,
      candidates_eq_pure hopens.resolver?, hopens.candidates_eq, pure_bind]
    rw [hsuite]
    refine .bind (.ask _ _) ?_
    rw [CryptoSuite.standard_content_name, layer.ciphers]
    exact openWith_yields hsuite hscheme hfound
  · rw [Bytes.text?_ofText]
    exact .pure

theorem openToken_parallel (hformat : handler.format = { TokenFormat.compact with name })
    (hcore : Compact.IsCore inner) {remaining : Nat}
    (hsize : outer.utf8ByteSize ≤
      policy.maximumTokenSize.getD handler.settings.maximumTokenSize)
    (hsize' : inner.utf8ByteSize ≤
      policy.maximumTokenSize.getD handler.settings.maximumTokenSize) :
    Run.Parallel (fun opened opened' : Token => opened.innermost = opened'.innermost)
      (handler.openToken policy (remaining + 1) outer)
      (handler.openToken policy (remaining + 1) inner) := by
  have hparse : (handler.parse policy outer).Yields
      (.encrypted outer layer.header layer.content none) := by
    refine .bind (.note _) (.lift ?_)
    rw [hformat]
    exact Compact.compact_parse_eq_ok.2 layer.reads
  unfold openToken
  refine .bind (Run.Yields.parallel (.adapting (.lift (Compact.checkSize_eq_ok.2 hsize)))
    (.adapting (.lift (Compact.checkSize_eq_ok.2 hsize'))) rfl) fun _ _ _ => ?_
  refine .aheadLeft (.adapting (.adapting hparse)) ?_
  refine .adaptingLeft (Fault.keepsKind_withContext _ _) ?_
  rw [decrypt]
  refine .aheadLeft (payload_yields hsuite hopens layer) ?_
  rw [if_neg hcore.notObject]
  refine .bind (.adaptingRight (Fault.keepsKind_withContext _ _)
    (.adaptingRight (Fault.keepsKind_withContext _ _) (parse_parallel hformat hcore)))
    ?_
  rintro token _ ⟨rfl, hsigned⟩
  rw [if_neg hsigned, if_neg hsigned]
  exact .pure rfl

end Layer

/-! ### The whole validation -/

theorem agree_sameRecord_of_standard {handler : Handler Unit} (hsuite : handler.suite = .standard) :
    CryptoSuite.Agree (@Session.SameRecord ρ) handler.suite handler.suite fun _ => True := by
  rw [hsuite]
  exact CryptoSuite.standard_agree_sameRecord

section Layer

variable (hsuite : handler.suite = .standard) (hopens : policy.OpensWith opener)
  (layer : policy.Layer outer inner)
  (hformat : handler.format = { TokenFormat.compact with name }) (hcore : Compact.IsCore inner)
  (hsize : outer.utf8ByteSize ≤ policy.maximumTokenSize.getD handler.settings.maximumTokenSize)
  (hsize' : inner.utf8ByteSize ≤ policy.maximumTokenSize.getD handler.settings.maximumTokenSize)

include hsuite hopens layer hformat hcore hsize hsize'

theorem examine_parallel (remaining : Nat) :
    Run.Parallel Eq (handler.examine policy (remaining + 1) outer)
      (handler.examine policy (remaining + 1) inner) := by
  rw [examine_eq_assess, examine_eq_assess]
  apply Run.Parallel.bind (openToken_parallel hsuite hopens layer hformat hcore hsize hsize')
  intro opened opened' hsame
  rw [hsame]
  exact (assess_agree (agree_sameRecord_of_standard hsuite) policy.offersOnly_true _).parallel

theorem validateAlone_parallel (hoff : policy.detectReplay = false ∨ policy.replayStore = none)
    (remaining : Nat) :
    Run.Parallel Identity.Matches (handler.validateAlone policy (remaining + 1) outer)
      (handler.validateAlone policy (remaining + 1) inner) := by
  rw [validateAlone_eq_examine, validateAlone_eq_examine]
  apply Run.Parallel.bind
    (examine_parallel hsuite hopens layer hformat hcore hsize hsize' remaining)
  rintro examined _ rfl
  have hreplay : ∀ raw, (Validation.checkReplay policy raw examined.expires).Yields () :=
    fun raw before => ⟨before, Validation.outcome_checkReplay_off hoff, rfl⟩
  apply Run.Parallel.bind
    (Run.Yields.parallel (hreplay outer).adapting (hreplay inner).adapting rfl)
  intro _ _ _
  exact .pure ⟨rfl, rfl, rfl, rfl, rfl⟩

/-- The actor's token is the same one, and lies as deep. -/
theorem validateWithin_parallel (hoff : policy.detectReplay = false ∨ policy.replayStore = none)
    (remaining : Nat) :
    Run.Parallel Identity.Matches (handler.validateWithin policy (remaining + 1) outer)
      (handler.validateWithin policy (remaining + 1) inner) := by
  rw [validateWithin, validateWithin]
  apply Run.Parallel.bind
    (validateAlone_parallel hsuite hopens layer hformat hcore hsize hsize' hoff remaining)
  intro identity identity' hmatches
  rw [congrArg (·.claims.actorToken?) hmatches.token]
  cases identity'.token.claims.actorToken? with
  | none => exact .pure hmatches
  | some actorRaw =>
      simp only
      split
      · have hagree : CryptoSuite.Agree (@Session.SameRecord ρ) handler.suite handler.suite
            fun _ => True :=
          agree_sameRecord_of_standard hsuite
        have hactor := validateWithin_agree hagree
          (fun depth => (policy.actorPolicy.actorAt depth).offersOnly_true)
          (fun _ _ => Validation.checkReplay_agree Session.sharesRecord_sameRecord hagree.note)
          remaining actorRaw
        apply Run.Parallel.bind (Run.Yields.parallel (.note _) (.note _) rfl)
        intro _ _ _
        apply Run.Parallel.bind (hactor.adapting Fault.ofActor).parallel
        rintro actor _ rfl
        exact .pure ⟨hmatches.token, hmatches.claims, hmatches.issuer, hmatches.signingKey, rfl⟩
      · exact .pure hmatches

end Layer

end Handler

end SecurityToken
