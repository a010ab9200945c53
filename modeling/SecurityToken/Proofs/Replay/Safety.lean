import SecurityToken.Proofs.Suite.Cache
import SecurityToken.Proofs.Validation.Record
import SecurityToken.Proofs.Validation.Stages

/-!
# No token is accepted twice

A run presents texts to a handler and purges its ledger, in any order, on a clock that does not run
backwards. What a text carries as its end depends on the text alone, so the end up to which it goes
on record is the end up to which its lifetime could be accepted again. The invariant: every text
that was accepted is covered by the ledger from now to that end.
-/

namespace SecurityToken

variable {σ τ ρ : Type}

/-- The same demands at another reading of the clock. -/
def Policy.at (policy : Policy ρ) (now : Instant) : Policy ρ :=
  { policy with now }

theorem Policy.OffersOnly.at {policy : Policy ρ} {known : Key → Prop}
    (hkeys : policy.OffersOnly known) (now : Instant) : (policy.at now).OffersOnly known := by
  intro use raw header
  have hsame : (policy.at now).candidates use raw header = policy.candidates use raw header := rfl
  rw [hsame]
  exact hkeys use raw header

namespace Handler

/-! ### The end that a text carries -/

theorem decrypt_at (handler : Handler σ) (policy : Policy ρ) (now : Instant) (remaining : Nat)
    (token : Token) :
    handler.decrypt (policy.at now) remaining token = handler.decrypt policy remaining token := by
  induction remaining generalizing token with
  | zero => rfl
  | succ remaining ih =>
      rw [decrypt, decrypt]
      simp only [ih]
      rfl

theorem openToken_at (handler : Handler σ) (policy : Policy ρ) (now : Instant) (remaining : Nat)
    (raw : String) :
    handler.openToken (policy.at now) remaining raw = handler.openToken policy remaining raw := by
  unfold openToken
  simp only [decrypt_at]
  rfl

/-- The end of the token that a text opens to, as the standard suite opens it. -/
def expiry (handler : Handler σ) (policy : Policy Ledgers) (raw : String) :
    Except Fault (Option Instant) := do
  let opened ← (((handler.withSuite .standard).openToken policy
    handler.settings.maximumNestingDepth raw).outcome ⟨(), ∅, []⟩).1
  opened.innermost.claims.expires

/-- What an examination says of the end of a text is what the text carries. -/
theorem expiry_of_examine (handler : Handler τ) (policy : Policy Ledgers)
    {isLive : KeyHandle → Bool} {ring : KeyRing} {before after : Session SchemeCache Ledgers}
    {now : Instant} {raw : String} {examined : Examined} (hkeys : policy.OffersOnly ring.Has)
    (hcache : before.suite.Faithful ring) (hvalidator : policy.signatureValidator = none)
    (hrun : ((handler.withSuite (.caching isLive)).examine (policy.at now)
      handler.settings.maximumNestingDepth raw).outcome before = (.ok examined, after)) :
    handler.expiry policy raw = .ok examined.expires := by
  obtain ⟨opened, middle, _, _, _, hopen, hverify, _, _, hlifetime⟩ := examine_eq_ok hrun
  rw [openToken_at] at hopen
  have hagree : Run.Agree (Session.FaithfulBeside ring)
      ((handler.withSuite (.caching isLive)).openToken policy
        handler.settings.maximumNestingDepth raw)
      ((handler.withSuite .standard).openToken policy handler.settings.maximumNestingDepth raw) :=
    openToken_agree (CryptoSuite.caching_agree_standard ring isLive) hkeys _ raw
  have hbeside : Session.FaithfulBeside ring before ⟨(), ∅, []⟩ := hcache
  have hanswer := hagree.answer_eq hbeside
  rw [hopen] at hanswer
  have htoken : examined.verified.token = opened.innermost := verify_token hvalidator hverify
  rw [htoken] at hlifetime
  unfold expiry
  rw [← hanswer]
  exact (Validation.checkLifetime_eq_ok hlifetime).1

end Handler

/-! ### Runs -/

inductive Event where
  | present (isLive : KeyHandle → Bool) (raw : String) (now : Instant)
  | purge (now : Instant)

namespace Event

def now : Event → Instant
  | present _ _ now => now
  | purge now => now

def run (handler : Handler τ) (policy : Policy Ledgers) (name : String) :
    Event → Session SchemeCache Ledgers → Option String × Session SchemeCache Ledgers
  | present isLive raw now, session =>
      match ((handler.withSuite (.caching isLive)).validate (policy.at now) raw).outcome session with
      | (.ok _, after) => (some raw, after)
      | (.error _, after) => (none, after)
  | purge now, session =>
      (none, session.withReplay ((Ledgers.on name (ReplayLedger.purge now)).run session.replay).2)

end Event

/-- The texts that are accepted in a run, in order. -/
def Handler.accepted (handler : Handler τ) (policy : Policy Ledgers) (name : String) :
    List Event → Session SchemeCache Ledgers → List String
  | [], _ => []
  | event :: rest, session =>
      (event.run handler policy name session).1.toList ++
        handler.accepted policy name rest (event.run handler policy name session).2

/-- A policy that has accepted tokens kept on record in one ledger, and judges their lifetimes and
signatures itself. -/
structure Policy.RecordsIn (policy : Policy Ledgers) (name : String) : Prop where
  detects : policy.detectReplay = true
  store : policy.replayStore = some (.ofLedger name)
  judgesLifetime : policy.validateLifetime = true
  lifetimeIsOwn : policy.lifetimeValidator = none
  signatureIsOwn : policy.signatureValidator = none
  noActor : policy.validateActor = false

theorem Policy.RecordsIn.at {policy : Policy Ledgers} {name : String}
    (hpolicy : policy.RecordsIn name) (now : Instant) : (policy.at now).RecordsIn name :=
  ⟨hpolicy.detects, hpolicy.store, hpolicy.judgesLifetime, hpolicy.lifetimeIsOwn,
    hpolicy.signatureIsOwn, hpolicy.noActor⟩

theorem Policy.RecordsIn.keepsLedger {policy : Policy Ledgers} {name : String}
    (hpolicy : policy.RecordsIn name) : policy.KeepsLedger := by
  intro store hstore
  rw [hpolicy.store] at hstore
  obtain rfl := Option.some.inj hstore
  exact ⟨name, rfl⟩

/-- The invariant of a run: the suite remembers nothing false, and every text that was accepted is
on record for as long as it could be accepted again. -/
structure Guarded (handler : Handler τ) (policy : Policy Ledgers) (name : String) (ring : KeyRing)
    (now : Instant) (seen : List String) (session : Session SchemeCache Ledgers) : Prop where
  faithful : session.suite.Faithful ring
  covered : ∀ raw ∈ seen, ∃ expires, handler.expiry policy raw = .ok expires ∧
    (session.replay.ledger name).Covers (ReplayLedger.digest raw) now (policy.recordUntil expires)

namespace Guarded

variable {handler : Handler τ} {policy : Policy Ledgers} {name raw : String} {ring : KeyRing}
  {now later : Instant} {seen : List String} {session after : Session SchemeCache Ledgers}
  {isLive : KeyHandle → Bool} {identity : Identity} {fault : Fault}

theorem start (hcache : session.suite.Faithful ring) :
    Guarded handler policy name ring now [] session where
  faithful := hcache
  covered _ hraw := absurd hraw List.not_mem_nil

theorem wait (hguarded : Guarded handler policy name ring now seen session)
    (hlater : now ≤ later) : Guarded handler policy name ring later seen session where
  faithful := hguarded.faithful
  covered raw hraw := by
    obtain ⟨expires, hexpiry, hcovers⟩ := hguarded.covered raw hraw
    exact ⟨expires, hexpiry, hcovers.from_later hlater⟩

theorem purge (hguarded : Guarded handler policy name ring now seen session) :
    Guarded handler policy name ring now seen
      (session.withReplay ((Ledgers.on name (ReplayLedger.purge now)).run session.replay).2) where
  faithful := hguarded.faithful
  covered raw hraw := by
    obtain ⟨expires, hexpiry, hcovers⟩ := hguarded.covered raw hraw
    refine ⟨expires, hexpiry, ?_⟩
    change (Ledgers.ledger (session.replay.insert name
      ((ReplayLedger.purge now).run (session.replay.ledger name)).2) name).Covers _ _ _
    rw [Ledgers.ledger_insert]
    exact hcovers.purge

/-- Nothing but the stage of replay changes what the invariant speaks of. -/
theorem examine (hkeys : policy.OffersOnly ring.Has)
    (hguarded : Guarded handler policy name ring now seen session) {remaining : Nat}
    {answer : Except Fault Examined}
    (hrun : ((handler.withSuite (.caching isLive)).examine (policy.at now) remaining raw).outcome
      session = (answer, after)) :
    Guarded handler policy name ring now seen after ∧ after.replay = session.replay := by
  have hreplay : after.replay = session.replay :=
    Handler.examine_keeps_replay session.replay hrun rfl
  have hagree : Run.Agree
      (Session.Alike fun session : Session SchemeCache Ledgers => session.suite.Faithful ring)
      ((handler.withSuite (.caching isLive)).examine (policy.at now) remaining raw)
      ((handler.withSuite (.caching isLive)).examine (policy.at now) remaining raw) :=
    Handler.examine_agree (CryptoSuite.caching_agree_self ring isLive) (hkeys.at now) remaining raw
  refine ⟨⟨hagree.keeps hrun hguarded.faithful, ?_⟩, hreplay⟩
  rw [hreplay]
  exact hguarded.covered

theorem rejected (hkeys : policy.OffersOnly ring.Has) (hpolicy : policy.RecordsIn name)
    (hguarded : Guarded handler policy name ring now seen session)
    (hrun : ((handler.withSuite (.caching isLive)).validate (policy.at now) raw).outcome session =
      (.error fault, after)) :
    Guarded handler policy name ring now seen after := by
  have hnow := hpolicy.at now
  have halone := hrun
  rw [Handler.validate, Handler.outcome_validateWithin_of_not_validateActor hnow.noActor] at halone
  rcases Handler.validateAlone_eq_error halone with
    ⟨_, hexamine⟩ | ⟨examined, middle, _, hexamine, hreplay⟩
  · exact (hguarded.examine hkeys hexamine).1
  · obtain ⟨hmiddle, _⟩ := hguarded.examine hkeys hexamine
    obtain ⟨hsuite, hledgers⟩ := Validation.checkReplay_eq_error hnow.keepsLedger hreplay
    refine ⟨?_, ?_⟩
    · rw [hsuite]
      exact hmiddle.faithful
    · rw [hledgers]
      exact hmiddle.covered

/-- A text that is accepted was not accepted before, and from now on is covered as well. -/
theorem accepted (hkeys : policy.OffersOnly ring.Has) (hpolicy : policy.RecordsIn name)
    (hguarded : Guarded handler policy name ring now seen session)
    (hrun : ((handler.withSuite (.caching isLive)).validate (policy.at now) raw).outcome session =
      (.ok identity, after)) :
    raw ∉ seen ∧ Guarded handler policy name ring now (raw :: seen) after := by
  have hnow := hpolicy.at now
  have halone := hrun
  rw [Handler.validate, Handler.outcome_validateWithin_of_not_validateActor hnow.noActor] at halone
  obtain ⟨examined, middle, hexamine, hreplay, _⟩ := Handler.validateAlone_eq_ok halone
  obtain ⟨hmiddle, _⟩ := hguarded.examine hkeys hexamine
  have hexpiry : handler.expiry policy raw = .ok examined.expires :=
    Handler.expiry_of_examine handler policy hkeys hguarded.faithful hpolicy.signatureIsOwn hexamine
  obtain ⟨_, _, _, _, _, _, _, _, _, hlifetime⟩ := Handler.examine_eq_ok hexamine
  obtain ⟨notBefore, hdefect⟩ := (Validation.checkLifetime_eq_ok hlifetime).2
    hnow.judgesLifetime hnow.lifetimeIsOwn
  have hcurrent : now ≤ policy.recordUntil examined.expires := Policy.now_le_recordUntil hdefect
  have hfree : (middle.replay.ledger name).holds (ReplayLedger.digest raw) now = false :=
    Validation.checkReplay_free hnow.detects hnow.store hreplay
  obtain ⟨hsuite, hledgers⟩ := Validation.checkReplay_eq_ok hnow.keepsLedger hreplay
  have hledger : after.replay.ledger name = (middle.replay.ledger name).recording
      (ReplayLedger.digest raw) (policy.recordUntil examined.expires) := by
    calc
      after.replay.ledger name =
          ((policy.at now).recording raw examined.expires middle.replay).ledger name := by
        rw [hledgers]
      _ = (middle.replay.recording name (ReplayLedger.digest raw)
            (policy.recordUntil examined.expires)).ledger name := by
        rw [Policy.recording_on hnow.detects hnow.store]
        rfl
      _ = _ := Ledgers.ledger_insert _ _ _
  refine ⟨?_, ?_, ?_⟩
  · intro hraw
    obtain ⟨expires, hexpiry', hcovers⟩ := hmiddle.covered raw hraw
    obtain rfl : examined.expires = expires := Except.ok.inj (hexpiry.symm.trans hexpiry')
    exact absurd hcurrent (Instant.not_le.2 (hcovers.stop_lt hfree))
  · rw [hsuite]
    exact hmiddle.faithful
  · intro other hother
    rw [hledger]
    rcases List.mem_cons.1 hother with rfl | hother
    · exact ⟨examined.expires, hexpiry, ReplayLedger.Covers.of_recording⟩
    · obtain ⟨expires, hexpiry', hcovers⟩ := hmiddle.covered other hother
      exact ⟨expires, hexpiry', hcovers.recording hfree⟩

theorem step (hkeys : policy.OffersOnly ring.Has) (hpolicy : policy.RecordsIn name)
    (hguarded : Guarded handler policy name ring now seen session) (event : Event)
    (hnow : now ≤ event.now) :
    (∀ raw ∈ (event.run handler policy name session).1, raw ∉ seen) ∧
      Guarded handler policy name ring event.now
        ((event.run handler policy name session).1.toList ++ seen)
        (event.run handler policy name session).2 := by
  have hguarded := hguarded.wait hnow
  cases event with
  | present isLive raw now =>
      rcases hrun : ((handler.withSuite (.caching isLive)).validate (policy.at now) raw).outcome
        session with ⟨fault | identity, after⟩
      · have hevent : (Event.present isLive raw now).run handler policy name session =
            (none, after) := by
          simp only [Event.run, hrun]
        rw [hevent]
        exact ⟨fun _ htext => (nomatch htext), hguarded.rejected hkeys hpolicy hrun⟩
      · have hevent : (Event.present isLive raw now).run handler policy name session =
            (some raw, after) := by
          simp only [Event.run, hrun]
        obtain ⟨hfresh, hafter⟩ := hguarded.accepted hkeys hpolicy hrun
        rw [hevent]
        refine ⟨fun text htext => ?_, hafter⟩
        obtain rfl := Option.some.inj htext
        exact hfresh
  | purge now => exact ⟨fun _ htext => (nomatch htext), hguarded.purge⟩

/-- By induction on the events, with the texts that were accepted before them. -/
theorem run (hkeys : policy.OffersOnly ring.Has) (hpolicy : policy.RecordsIn name)
    {events : List Event} (hclock : (now :: events.map Event.now).Pairwise (· ≤ ·))
    (hguarded : Guarded handler policy name ring now seen session) :
    (handler.accepted policy name events session).Nodup ∧
      ∀ raw ∈ handler.accepted policy name events session, raw ∉ seen := by
  induction events generalizing now seen session with
  | nil => exact ⟨List.nodup_nil, fun _ hraw => absurd hraw List.not_mem_nil⟩
  | cons event rest ih =>
      rw [List.map_cons, List.pairwise_cons] at hclock
      obtain ⟨hnow, hclock⟩ := hclock
      obtain ⟨hfresh, hafter⟩ := hguarded.step hkeys hpolicy event (hnow _ List.mem_cons_self)
      obtain ⟨hnodup, hrest⟩ := ih hclock hafter
      unfold Handler.accepted
      cases htext : (event.run handler policy name session).1 with
      | none =>
          rw [htext] at hrest
          exact ⟨hnodup, hrest⟩
      | some text =>
          rw [htext] at hrest
          have htext' : text ∉ seen := hfresh text htext
          refine ⟨List.nodup_cons.2 ⟨fun hagain => ?_, hnodup⟩, fun raw hraw => ?_⟩
          · exact hrest text hagain List.mem_cons_self
          · rcases List.mem_cons.1 hraw with rfl | hraw
            · exact htext'
            · exact fun hseen => hrest raw hraw (List.mem_cons_of_mem _ hseen)

end Guarded

namespace Handler

/-- In no run is a text accepted twice, whatever is on record at the start. -/
theorem accepted_nodup {handler : Handler τ} {policy : Policy Ledgers} {name : String}
    {ring : KeyRing} {session : Session SchemeCache Ledgers} {events : List Event}
    (hkeys : policy.OffersOnly ring.Has) (hcache : session.suite.Faithful ring)
    (hpolicy : policy.RecordsIn name) (hclock : (events.map Event.now).Pairwise (· ≤ ·)) :
    (handler.accepted policy name events session).Nodup := by
  have hstart : (Instant.earliest :: events.map Event.now).Pairwise (· ≤ ·) :=
    List.pairwise_cons.2 ⟨fun instant _ => Instant.earliest_le instant, hclock⟩
  exact ((Guarded.start hcache).run hkeys hpolicy hstart).1

def recordingPolicy : Policy Ledgers :=
  { Policy.lenient Instant.earliest with
    validateLifetime := true
    detectReplay := true
    replayStore := some (.ofLedger "seen") }

def recordingHandler : Handler SchemeCache := { suite := .caching fun _ => true }

/-- A token without claims that is presented at the first instant of all, and presented again at
the last one after a purge. -/
def twicePresented : List Event :=
  [.present (fun _ => true) "eyJhbGciOiJub25lIn0.e30." Instant.earliest, .purge Instant.latest,
    .present (fun _ => true) "eyJhbGciOiJub25lIn0.e30." Instant.latest]

theorem accepted_nodup_twicePresented :
    recordingHandler.accepted recordingPolicy "seen" twicePresented ⟨∅, ∅, []⟩ =
      ["eyJhbGciOiJub25lIn0.e30."] ∧
    (recordingHandler.accepted recordingPolicy "seen" twicePresented ⟨∅, ∅, []⟩).Nodup := by
  refine ⟨by decide +kernel, ?_⟩
  have hkeys : recordingPolicy.OffersOnly (KeyRing.Has fun _ => .secret []) :=
    Policy.offersOnly_of_keys (fun use => by cases use <;> rfl)
      (fun use _ hkey => by cases use <;> exact absurd hkey List.not_mem_nil)
  exact accepted_nodup hkeys (SchemeCache.faithful_empty _) ⟨rfl, rfl, rfl, rfl, rfl, rfl⟩
    (by decide)

end Handler

end SecurityToken
