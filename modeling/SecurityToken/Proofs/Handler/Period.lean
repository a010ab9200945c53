import SecurityToken.Crypto.Suite.Standard
import SecurityToken.Proofs.Handler.Creation

/-!
# The times of a created token

A token is given its times from the fields of its draft, and by default from the clock. One of them
is reckoned: the default end lies the lifetime of the settings after the start. The range of instants
is too short for some starts and lifetimes, and this is the only step in the making of a token that
can be without a result. Where the end stays in range, a token is made or a fault tells why not.
-/

namespace SecurityToken

variable {σ ρ : Type}

/-! ### The default end -/

namespace Instant

theorem ofNanoseconds?_isSome_iff {count : Int} :
    (ofNanoseconds? count).isSome = true ↔
      earliest.nanoseconds ≤ count ∧ count ≤ latest.nanoseconds := by
  have hearliest : earliest.nanoseconds = -8334601228800 * 1000000000 := rfl
  have hlatest : latest.nanoseconds = 8210266876800 * 1000000000 - 1 := rfl
  rw [hearliest, hlatest]
  unfold ofNanoseconds?
  split
  next hrange =>
    simp only [Option.isSome_some, true_iff]
    omega
  next hrange =>
    simp only [Option.isSome_none, Bool.false_eq_true, false_iff]
    omega

end Instant

namespace Settings

variable {settings : Settings} {start : Instant}

/-- The nanosecond of the default end, by exact reckoning. -/
def defaultEnd (settings : Settings) (start : Instant) : Int :=
  start.nanoseconds + settings.lifetimeMinutes * 60000000000

/-- A lifetime that is too long for a duration leads out of the range of instants from any start. -/
theorem defaultExpiry?_eq :
    settings.defaultExpiry? start = Instant.ofNanoseconds? (settings.defaultEnd start) := by
  have hlower := start.lower
  have hupper := start.upper
  have hreckoned : settings.defaultEnd start =
      start.nanoseconds + settings.lifetimeMinutes * 60 * 1000000000 := by
    unfold defaultEnd
    omega
  unfold defaultExpiry? Duration.ofMinutes? Duration.ofSeconds? Duration.ofNanoseconds?
  by_cases hduration :
      (settings.lifetimeMinutes * 60 * 1000000000).natAbs ≤ 0x7fffffffffffffff * 1000000
  · rw [dif_pos hduration, hreckoned]
    rfl
  · -- The longest duration is longer than the whole range of instants.
    have hbeyond : ¬(-8334601228800 * 1000000000 ≤ settings.defaultEnd start ∧
        settings.defaultEnd start < 8210266876800 * 1000000000) := by
      omega
    rw [dif_neg hduration, Instant.ofNanoseconds?, dif_neg hbeyond]
    rfl

end Settings

/-! ### Times from fields and defaults -/

namespace Draft

variable {draft : Draft} {settings : Settings} {now : Instant} {mapping : ClaimMapping}

/-- The times of a token: each is that of the draft, or else the default, if defaults are set. -/
def times (draft : Draft) (settings : Settings) (now : Instant) : Period :=
  let default (instant : Option Instant) := if settings.defaultTimes then instant else none
  { notBefore := draft.notBefore.or (default (some now))
    expires := draft.expires.or
      (default (settings.defaultExpiry? (draft.notBefore.getD now)))
    issuedAt := draft.issuedAt.or (default (some now)) }

/-- Whether the default end, if it is needed, lies in the range of instants. -/
def EndsInRange (draft : Draft) (settings : Settings) (now : Instant) : Prop :=
  draft.expires = none → settings.defaultTimes = true →
    Instant.earliest.nanoseconds ≤ settings.defaultEnd (draft.notBefore.getD now) ∧
      settings.defaultEnd (draft.notBefore.getD now) ≤ Instant.latest.nanoseconds

theorem getD_notBefore_times (draft : Draft) (settings : Settings) (now : Instant) :
    (draft.times settings now).notBefore.getD now = draft.notBefore.getD now := by
  unfold times
  cases draft.notBefore with
  | some start => rfl
  | none => by_cases hdefault : settings.defaultTimes = true <;> simp [hdefault]

theorem expiry_of_endsInRange (hrange : draft.EndsInRange settings now) :
    draft.expiry settings (draft.notBefore.getD now) = .ok (draft.times settings now).expires := by
  unfold expiry times
  cases hexpires : draft.expires with
  | some expires => rfl
  | none =>
      by_cases hdefault : settings.defaultTimes = true
      · have hsome := Instant.ofNanoseconds?_isSome_iff.2 (hrange hexpires hdefault)
        rw [← Settings.defaultExpiry?_eq, Option.isSome_iff_exists] at hsome
        obtain ⟨expires, hexpiry⟩ := hsome
        simp only [if_pos hdefault, hexpiry, Option.none_or]
      · simp only [if_neg hdefault, Option.none_or]

theorem expiry_of_not_endsInRange (hrange : ¬draft.EndsInRange settings now) :
    draft.expiry settings (draft.notBefore.getD now) = .error .expiryOutOfRange := by
  unfold EndsInRange at hrange
  simp only [Classical.not_imp] at hrange
  obtain ⟨hexpires, hdefault, hbeyond⟩ := hrange
  have hnone : settings.defaultExpiry? (draft.notBefore.getD now) = none := by
    rw [Settings.defaultExpiry?_eq, ← Option.not_isSome_iff_eq_none]
    exact fun hsome => hbeyond (Instant.ofNanoseconds?_isSome_iff.1 hsome)
  unfold expiry
  simp only [hexpires, if_pos hdefault, hnone]

theorem period_eq :
    draft.period settings now = do
      let expires ← draft.expiry settings (draft.notBefore.getD now)
      let period := { draft.times settings now with expires }
      period.check.mapError .refused
      return period := by
  rw [← getD_notBefore_times draft settings now]
  rfl

theorem period_of_endsInRange (hrange : draft.EndsInRange settings now) :
    draft.period settings now = do
      (draft.times settings now).check.mapError .refused
      return draft.times settings now := by
  rw [period_eq, expiry_of_endsInRange hrange]
  rfl

theorem claimSet_of_not_endsInRange (hrange : ¬draft.EndsInRange settings now) :
    draft.claimSet mapping settings now = .error .expiryOutOfRange := by
  have hperiod : draft.period settings now = .error .expiryOutOfRange := by
    rw [period_eq, expiry_of_not_endsInRange hrange]
    rfl
  unfold claimSet
  rw [hperiod]
  rfl

/-- With an end in range a claim set is made, or a fault is told. -/
theorem claimSet_ne_expiryOutOfRange (hrange : draft.EndsInRange settings now) :
    draft.claimSet mapping settings now ≠ .error .expiryOutOfRange := by
  unfold claimSet
  rw [period_of_endsInRange hrange]
  cases (draft.times settings now).check with
  | error fault =>
      intro h
      cases h
  | ok _ =>
      intro h
      cases h

end Draft

namespace Handler

open Creation

variable {handler : Handler σ} {entropy : Entropy} {now : Instant} {draft : Draft}
  {before : Session σ ρ}

theorem outcome_create (handler : Handler σ) (entropy : Entropy) (now : Instant) (draft : Draft)
    (before : Session σ ρ) :
    outcome (handler.create entropy now draft) before =
      match draft.claimSet handler.mapping handler.settings now with
      | .ok claims =>
          (((handler.signAndEncrypt entropy draft claims).outcome before).1.mapError .refused,
            ((handler.signAndEncrypt entropy draft claims).outcome before).2)
      | .error cause => (.error cause, before) := by
  have hlift : outcome (liftM (draft.claimSet handler.mapping handler.settings now)) before =
      (draft.claimSet handler.mapping handler.settings now, before) := rfl
  unfold create
  rw [outcome_bind, hlift]
  cases draft.claimSet handler.mapping handler.settings now with
  | error cause => rfl
  | ok claims => exact outcome_adapt _ _ before

theorem answer_create_of_not_endsInRange (hrange : ¬draft.EndsInRange handler.settings now) :
    (outcome (handler.create entropy now draft) before).1 = .error .expiryOutOfRange := by
  rw [outcome_create, Draft.claimSet_of_not_endsInRange hrange]

/-- A token is made, or refused with a fault, just if its default end stays in the range of instants
or is not needed. -/
theorem create_answers_iff (entropy : Entropy) (now : Instant) (draft : Draft)
    (before : Session σ ρ) :
    ((∃ token, (outcome (handler.create entropy now draft) before).1 = .ok token) ∨
      ∃ fault, (outcome (handler.create entropy now draft) before).1 = .error (.refused fault)) ↔
      draft.EndsInRange handler.settings now := by
  by_cases hrange : draft.EndsInRange handler.settings now
  · refine iff_of_true ?_ hrange
    have hclaims : draft.claimSet handler.mapping handler.settings now ≠
        .error .expiryOutOfRange := Draft.claimSet_ne_expiryOutOfRange hrange
    rw [outcome_create]
    cases hclaimSet : draft.claimSet handler.mapping handler.settings now with
    | error cause =>
        cases cause with
        | refused fault => exact .inr ⟨fault, rfl⟩
        | expiryOutOfRange => exact absurd hclaimSet hclaims
    | ok claims =>
        simp only
        cases ((handler.signAndEncrypt entropy draft claims).outcome before).1 with
        | error fault => exact .inr ⟨fault, rfl⟩
        | ok token => exact .inl ⟨token, rfl⟩
  · refine iff_of_false ?_ hrange
    rw [answer_create_of_not_endsInRange hrange]
    rintro (⟨token, htoken⟩ | ⟨fault, hfault⟩)
    · cases htoken
    · cases hfault

/-! ### A start at the end of time -/

def lastDraft : Draft := { notBefore := some .latest }

def lastHandler : Handler Unit := { suite := .standard }

/-- The settings pass their check, but a token that starts at the last instant cannot have its end
by default. -/
theorem not_forall_create_answers :
    ¬∀ (handler : Handler Unit) (entropy : Entropy) (now : Instant) (draft : Draft)
        (before : Session Unit Unit), handler.settings.check = .ok () →
      (∃ token, (outcome (handler.create entropy now draft) before).1 = .ok token) ∨
        ∃ fault, (outcome (handler.create entropy now draft) before).1 =
          .error (.refused fault) := by
  intro hanswers
  have hbeyond : ¬lastDraft.EndsInRange lastHandler.settings .earliest := by
    intro hrange
    exact absurd (hrange rfl rfl).2 (by decide)
  have hanswer := hanswers lastHandler ⟨fun _ _ => 0⟩ .earliest lastDraft ⟨(), (), []⟩ rfl
  rw [answer_create_of_not_endsInRange hbeyond] at hanswer
  rcases hanswer with ⟨token, htoken⟩ | ⟨fault, hfault⟩
  · cases htoken
  · cases hfault

end Handler

end SecurityToken
