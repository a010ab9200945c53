import SecurityToken.Proofs.Replay.Rejection
import SecurityToken.Proofs.Replay.Safety
import SecurityToken.Proofs.Suite.Likeness

/-!
# The same text at the same instant

A token that is accepted goes on record up to the end of its lifetime and the clock's tolerance, and
a record that is over at the instant of the validation holds nothing. So a text that was accepted is
refused at once when it comes again, provided that its record is not over from the start. That proviso
follows from the handler's own check of lifetimes and from nothing else: where that check is off, or a
function has taken its place, an expired token is accepted as often as it is presented.
-/

namespace SecurityToken

variable {σ ρ τ : Type}

/-- Whether the demands on a token and on its actors are all read off one clock. -/
def Policy.OnOneClock (policy : Policy ρ) : Prop :=
  ∀ depth, (policy.actorAt depth).now = policy.now

theorem Policy.OnOneClock.actorPolicy {policy : Policy ρ} (hclock : policy.OnOneClock) :
    policy.actorPolicy.OnOneClock :=
  fun depth => (hclock (depth + 1)).trans (hclock 1).symm

theorem ReplayLedger.Covers.policyRecording {policy : Policy Ledgers} {name digest raw : String}
    {stop : Instant} {expires : Option Instant} {before after : Session σ Ledgers}
    (hledger : policy.KeepsLedger)
    (hcovers : (before.replay.ledger name).Covers digest policy.now stop)
    (hrun : (Validation.checkReplay policy raw expires).outcome before = (.ok (), after)) :
    (after.replay.ledger name).Covers digest policy.now stop := by
  rw [(Validation.checkReplay_eq_ok hledger hrun).2]
  rcases hledger.cases with hoff | ⟨hdetect, other, hstore⟩
  · rw [Policy.recording_off hoff]
    exact hcovers
  · rw [Policy.recording_on hdetect hstore]
    by_cases hname : name = other
    · subst hname
      have hfree := Validation.checkReplay_free hdetect hstore hrun
      rw [Ledgers.recording, Ledgers.ledger_insert]
      exact hcovers.recording hfree
    · rw [Ledgers.recording, Ledgers.ledger_insert_of_ne _ _ hname]
      exact hcovers

namespace Handler

variable {handler : Handler σ} {policy : Policy Ledgers} {raw name digest : String}
  {before after : Session σ Ledgers} {identity : Identity} {remaining : Nat} {stop : Instant}

theorem validateAlone_covers (hledger : policy.KeepsLedger)
    (hcovers : (before.replay.ledger name).Covers digest policy.now stop)
    (hrun : (handler.validateAlone policy remaining raw).outcome before = (.ok identity, after)) :
    (after.replay.ledger name).Covers digest policy.now stop := by
  obtain ⟨examined, middle, hexamine, hreplay, _⟩ := validateAlone_eq_ok hrun
  have hmiddle : middle.replay = before.replay := examine_keeps_replay before.replay hexamine rfl
  rw [← hmiddle] at hcovers
  exact hcovers.policyRecording hledger hreplay

/-- No validation on the same clock takes off the record what is on it. By induction on the levels
that remain for actors. -/
theorem validateWithin_covers (hledgers : policy.KeepsLedgers) (hclock : policy.OnOneClock)
    (hcovers : (before.replay.ledger name).Covers digest policy.now stop)
    (hrun : (handler.validateWithin policy remaining raw).outcome before = (.ok identity, after)) :
    (after.replay.ledger name).Covers digest policy.now stop := by
  induction remaining generalizing policy raw before identity after with
  | zero =>
      have hcourse := validateWithin_course handler policy 0 raw before
      rw [hrun] at hcourse
      cases hcourse with
      | withoutActor halone _ => exact validateAlone_covers hledgers.keepsLedger hcovers halone
  | succ remaining ih =>
      have hcourse := validateWithin_course handler policy (remaining + 1) raw before
      rw [hrun] at hcourse
      cases hcourse with
      | withoutActor halone _ => exact validateAlone_covers hledgers.keepsLedger hcovers halone
      | withActor halone _ _ hinner =>
          have hmiddle := validateAlone_covers hledgers.keepsLedger hcovers halone
          have hnow : policy.actorPolicy.now = policy.now := hclock 1
          rw [← hnow] at hmiddle ⊢
          refine ih hledgers.actorPolicy hclock.actorPolicy ?_ hinner
          exact hmiddle

/-- An accepted token is on record from now to the end of its record. -/
theorem validateWithin_records (hdetect : policy.detectReplay = true)
    (hstore : policy.replayStore = some (.ofLedger name)) (hledgers : policy.KeepsLedgers)
    (hclock : policy.OnOneClock)
    (hrun : (handler.validateWithin policy remaining raw).outcome before = (.ok identity, after)) :
    ∃ expires, identity.token.claims.expires = .ok expires ∧
      (policy.validateLifetime = true → policy.lifetimeValidator = none →
        policy.now ≤ policy.recordUntil expires) ∧
      (after.replay.ledger name).Covers (ReplayLedger.digest raw) policy.now
        (policy.recordUntil expires) := by
  obtain ⟨own, middle, halone, hidentity⟩ := validateWithin_eq_ok hrun
  obtain ⟨examined, start, hexamine, hreplay, hown⟩ := validateAlone_eq_ok halone
  obtain ⟨_, _, _, _, _, _, _, _, _, hlifetime⟩ := examine_eq_ok hexamine
  obtain ⟨hexpires, haccepted⟩ := Validation.checkLifetime_eq_ok hlifetime
  have hmiddle : (middle.replay.ledger name).Covers (ReplayLedger.digest raw) policy.now
      (policy.recordUntil examined.expires) := by
    rw [(Validation.checkReplay_eq_ok hledgers.keepsLedger hreplay).2,
      Policy.recording_on hdetect hstore, Ledgers.recording, Ledgers.ledger_insert]
    exact ReplayLedger.Covers.of_recording
  refine ⟨examined.expires, ?_, ?_, ?_⟩
  · rw [hidentity, hown]
    exact hexpires
  · intro hjudges hdefault
    obtain ⟨notBefore, hdefect⟩ := haccepted hjudges hdefault
    exact Policy.now_le_recordUntil hdefect
  · have hcourse := validateWithin_course handler policy remaining raw before
    rw [hrun] at hcourse
    cases hcourse with
    | withoutActor halone' _ =>
        rw [halone] at halone'
        obtain rfl := (Prod.mk.inj halone').2
        exact hmiddle
    | withActor halone' _ _ hinner =>
        rw [halone] at halone'
        obtain rfl := (Prod.mk.inj halone').2
        have hnow : policy.actorPolicy.now = policy.now := hclock 1
        rw [← hnow] at hmiddle ⊢
        refine validateWithin_covers hledgers.actorPolicy hclock.actorPolicy ?_ hinner
        exact hmiddle

/-- Where a text is on record it is refused. -/
theorem validateWithin_held (hdetect : policy.detectReplay = true)
    (hstore : policy.replayStore = some (.ofLedger name))
    (hheld : (before.replay.ledger name).holds (ReplayLedger.digest raw) policy.now = true) :
    ∃ fault after, (handler.validateWithin policy remaining raw).outcome before =
      (.error fault, after) := by
  rcases hrun : (handler.validateWithin policy remaining raw).outcome before with
    ⟨fault | identity, after⟩
  · exact ⟨fault, after, rfl⟩
  · obtain ⟨own, middle, halone, _⟩ := validateWithin_eq_ok hrun
    obtain ⟨examined, start, hexamine, hreplay, _⟩ := validateAlone_eq_ok halone
    have hstart : start.replay = before.replay := examine_keeps_replay before.replay hexamine rfl
    have hfree := Validation.checkReplay_free hdetect hstore hreplay
    rw [hstart, hheld] at hfree
    exact nomatch hfree

end Handler

/-! ### What a second validation sees -/

namespace Handler

variable {handler : Handler SchemeCache} {policy : Policy Ledgers} {raw name : String}
  {before after : Session SchemeCache Ledgers} {identity : Identity} {isLive : KeyHandle → Bool}
  {ring : KeyRing}

/-- Without actors, what was accepted is accepted again where its record is over. -/
theorem validate_over (hsuite : handler.suite = .caching isLive)
    (hcache : before.suite.Faithful ring) (hkeys : policy.OffersOnly ring.Has)
    (hdetect : policy.detectReplay = true) (hstore : policy.replayStore = some (.ofLedger name))
    (hactor : policy.validateActor = false) (hledger : policy.KeepsLedger)
    (hrun : (handler.validate policy raw).outcome before = (.ok identity, after))
    {expires : Option Instant} (hexpires : identity.token.claims.expires = .ok expires)
    (hover : policy.recordUntil expires < policy.now) :
    ∃ last, (handler.validate policy raw).outcome after = (.ok identity, last) := by
  rw [validate, outcome_validateWithin_of_not_validateActor hactor] at hrun ⊢
  obtain ⟨examined, middle, hexamine, hreplay, hidentity⟩ := validateAlone_eq_ok hrun
  obtain ⟨_, _, _, _, _, _, _, _, _, hlifetime⟩ := examine_eq_ok hexamine
  obtain rfl : examined.expires = expires := by
    have hread := (Validation.checkLifetime_eq_ok hlifetime).1
    rw [hidentity] at hexpires
    exact Except.ok.inj (hread.symm.trans hexpires)
  have hkept : CryptoSuite.Agree
      (Session.Alike fun session : Session SchemeCache Ledgers => session.suite.Faithful ring)
      handler.suite handler.suite ring.Has := by
    rw [hsuite]
    exact CryptoSuite.caching_agree_self ring isLive
  have hboth : handler.suite.Respects (SchemeCache.BothFaithful ring) ring.Has := by
    rw [hsuite]
    exact CryptoSuite.caching_respects ring isLive
  have hafter : after.suite.Faithful ring := by
    rw [(Validation.checkReplay_eq_ok hledger hreplay).1]
    exact (examine_agree hkept hkeys _ raw).keeps hexamine hcache
  have hanswer : Except.ok examined =
      ((handler.examine policy handler.settings.maximumNestingDepth raw).outcome after).1 := by
    have hsame := (examine_agree (hboth.agree fun _ _ => True) hkeys
      handler.settings.maximumNestingDepth raw).answer_eq ⟨⟨hcache, hafter⟩, trivial⟩
    rw [hexamine] at hsame
    exact hsame
  rcases hagain : (handler.examine policy handler.settings.maximumNestingDepth raw).outcome after
    with ⟨answer, again⟩
  rw [hagain] at hanswer
  obtain rfl : Except.ok examined = answer := hanswer
  have hreplay' : again.replay = after.replay := examine_keeps_replay after.replay hagain rfl
  have hfree : (again.replay.ledger name).holds (ReplayLedger.digest raw) policy.now = false := by
    rw [hreplay', (Validation.checkReplay_eq_ok hledger hreplay).2,
      Policy.recording_on hdetect hstore, Ledgers.recording, Ledgers.ledger_insert,
      ReplayLedger.holds_recording, if_pos rfl]
    exact decide_eq_false (Instant.not_le.2 hover)
  have hreplayed : ∃ last,
      (Validation.checkReplay policy raw examined.expires).outcome again = (.ok (), last) := by
    rw [Validation.outcome_checkReplay hdetect hstore, hfree]
    exact ⟨_, rfl⟩
  obtain ⟨last, hlast⟩ := hreplayed
  rw [hidentity]
  exact ⟨last, validateAlone_of_examine hagain hlast⟩

/-- A text that was accepted is refused at the same instant if its record is not over, whatever
decided about its lifetime. The handler's own check of lifetimes accepts no other. Without actors the
condition is exact: where the record is over, the text is accepted again. -/
theorem validate_again (hsuite : handler.suite = .caching isLive)
    (hcache : before.suite.Faithful ring) (hkeys : policy.OffersOnly ring.Has)
    (hdetect : policy.detectReplay = true) (hstore : policy.replayStore = some (.ofLedger name))
    (hledgers : policy.KeepsLedgers) (hclock : policy.OnOneClock)
    (hrun : (handler.validate policy raw).outcome before = (.ok identity, after)) :
    ∃ expires, identity.token.claims.expires = .ok expires ∧
      (policy.validateLifetime = true → policy.lifetimeValidator = none →
        policy.now ≤ policy.recordUntil expires) ∧
      (policy.now ≤ policy.recordUntil expires →
        ∃ fault last, (handler.validate policy raw).outcome after = (.error fault, last)) ∧
      (policy.validateActor = false → policy.recordUntil expires < policy.now →
        ∃ last, (handler.validate policy raw).outcome after = (.ok identity, last)) := by
  obtain ⟨expires, hexpires, hjudged, hcovers⟩ :=
    validateWithin_records hdetect hstore hledgers hclock hrun
  refine ⟨expires, hexpires, hjudged, fun hcurrent => ?_, fun hactor hover => ?_⟩
  · exact validateWithin_held hdetect hstore (hcovers (Int.le_refl _) hcurrent)
  · exact validate_over hsuite hcache hkeys hdetect hstore hactor hledgers.keepsLedger hrun hexpires
      hover

/-! ### A token that has expired, under a policy that does not ask -/

def timelessPolicy (now : Instant) : Policy Ledgers :=
  { Policy.lenient now with
    detectReplay := true
    replayStore := some (.ofLedger "seen") }

def expiredText : String := "eyJhbGciOiJub25lIn0.eyJleHAiOjF9."

def presentedOnce (now : Instant) : Except Fault Identity × Session SchemeCache Ledgers :=
  (recordingHandler.validate (timelessPolicy now) expiredText).outcome ⟨∅, ∅, []⟩

def presentedTwice (now : Instant) : Except Fault Identity × Session SchemeCache Ledgers :=
  (recordingHandler.validate (timelessPolicy now) expiredText).outcome (presentedOnce now).2

theorem keepsLedgers_timelessPolicy (now : Instant) : (timelessPolicy now).KeepsLedgers := by
  have hsame : ∀ depth, (timelessPolicy now).actorAt depth = timelessPolicy now := by
    intro depth
    induction depth with
    | zero => rfl
    | succ depth ih => exact ih
  intro depth store hstore
  rw [hsame depth] at hstore
  obtain rfl := Option.some.inj hstore
  exact ⟨"seen", rfl⟩

theorem onOneClock_timelessPolicy (now : Instant) : (timelessPolicy now).OnOneClock := by
  intro depth
  induction depth with
  | zero => rfl
  | succ depth ih => exact ih

/-- At the first instant of all no record is over, so the token is refused when it comes again. -/
theorem validate_again_earliest :
    (∃ identity, (presentedOnce Instant.earliest).1 = .ok identity) ∧
      ∃ fault, (presentedTwice Instant.earliest).1 = .error fault := by
  have hok : (presentedOnce Instant.earliest).1.isOk = true := by decide +kernel
  have hkeys : (timelessPolicy Instant.earliest).OffersOnly (KeyRing.Has fun _ => .secret []) :=
    Policy.offersOnly_of_keys (fun use => by cases use <;> rfl)
      (fun use _ hkey => by cases use <;> exact absurd hkey List.not_mem_nil)
  rcases hrun : presentedOnce Instant.earliest with ⟨fault | identity, after⟩
  · rw [hrun] at hok
    exact nomatch hok
  obtain ⟨expires, _, _, hrefused, _⟩ := validate_again rfl (SchemeCache.faithful_empty _) hkeys rfl
    rfl (keepsLedgers_timelessPolicy _) (onOneClock_timelessPolicy _) hrun
  obtain ⟨fault, last, hagain⟩ := hrefused (Instant.earliest_le _)
  refine ⟨⟨identity, rfl⟩, fault, ?_⟩
  rw [presentedTwice, hrun, hagain]

/-- Long after its end the token is accepted at one instant, and accepted again. -/
theorem not_forall_refused_again :
    ¬∀ (handler : Handler SchemeCache) (policy : Policy Ledgers) (name raw : String)
        (before after : Session SchemeCache Ledgers) (identity : Identity),
      policy.detectReplay = true → policy.replayStore = some (.ofLedger name) →
      (handler.validate policy raw).outcome before = (.ok identity, after) →
      ∃ fault last, (handler.validate policy raw).outcome after = (.error fault, last) := by
  intro hrefused
  have hfirst : (presentedOnce Instant.latest).1.isOk = true := by decide +kernel
  have hsecond : (presentedTwice Instant.latest).1.isOk = true := by decide +kernel
  rcases hrun : presentedOnce Instant.latest with ⟨fault | identity, after⟩
  · rw [hrun] at hfirst
    exact nomatch hfirst
  obtain ⟨fault, last, hagain⟩ := hrefused _ _ "seen" _ _ _ _ rfl rfl hrun
  rw [presentedTwice, hrun, hagain] at hsecond
  exact nomatch hsecond

end Handler

end SecurityToken
