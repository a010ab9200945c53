import SecurityToken.Proofs.Replay.Ledger
import SecurityToken.Proofs.Session.Outcome
import SecurityToken.Validation.Check
import Mathlib.Data.Option.Basic

/-!
# The window in which a token is valid

A claim set says when a token begins and when it ends, and the skew widens the time in between, or
narrows it if it is negative. A bound that the skew moves out of the range of instants is replaced
by an end of that range: a start by the first instant, an end by the last. This is exact reckoning
as long as a bound leaves the range outward, as under a skew that is not negative. A negative skew
may move a start beyond the last instant, or an end before the first. Such a bound is put at the
wrong end of the range and holds nothing off.
-/

namespace SecurityToken

variable {σ ρ : Type}

/-- Whether a time claim is missing, or counts so many seconds and these are an instant. -/
inductive ClaimSet.Dates (claims : ClaimSet) (name : String) : Option Int → Prop where
  | missing (hmissing : claims.get? name = none) : Dates claims name none
  | counted {count : WireInteger} (hcount : claims.get? name = some (.integer count))
      (hlower : -8334601228800 ≤ count.1) (hupper : count.1 < 8210266876800) :
      Dates claims name (some count.1)

theorem ClaimSet.Dates.time {claims : ClaimSet} {name : String} {seconds : Option Int}
    (hdates : claims.Dates name seconds) :
    ∃ instant, claims.time name = .ok instant ∧
      instant.map Instant.nanoseconds = seconds.map (· * 1000000000) := by
  cases hdates with
  | missing hmissing =>
      refine ⟨none, ?_, rfl⟩
      unfold ClaimSet.time
      rw [hmissing]
  | @counted count hcount hlower hupper =>
      have hsigned : (Json.integer count).signed? = some count.1 := if_pos (by omega)
      have hinstant : Instant.ofSeconds? count.1 =
          some ⟨count.1 * 1000000000, by omega, by omega⟩ := dif_pos (by omega)
      refine ⟨some ⟨count.1 * 1000000000, by omega, by omega⟩, ?_, rfl⟩
      unfold ClaimSet.time
      rw [hcount]
      simp only [hsigned, hinstant]

namespace Instant

variable {left right : Instant}

theorem le_iff : left ≤ right ↔ left.nanoseconds ≤ right.nanoseconds := Iff.rfl

theorem nanoseconds_earliest : earliest.nanoseconds = -8334601228800 * 1000000000 := rfl

theorem nanoseconds_latest : latest.nanoseconds = 8210266876800 * 1000000000 - 1 := rfl

end Instant

namespace Policy

variable {policy : Policy ρ}

/-! ### Bounds that the skew moves -/

/-- A start counts as passed when it is by exact reckoning, and also when it would come after the
last instant. -/
theorem earliest_le_now_iff {start : Instant} :
    policy.earliest start ≤ policy.now ↔
      start.nanoseconds - policy.clockSkew.nanoseconds ≤ policy.now.nanoseconds ∨
        Instant.latest.nanoseconds < start.nanoseconds - policy.clockSkew.nanoseconds := by
  have hlower := policy.now.lower
  have hupper := policy.now.upper
  unfold earliest Instant.sub? Instant.ofNanoseconds?
  rw [Instant.le_iff, Instant.nanoseconds_latest]
  split
  next hrange =>
    simp only [Option.getD_some]
    omega
  next hrange =>
    rw [Option.getD_none, Instant.nanoseconds_earliest]
    omega

/-- An end counts as not passed when it is not by exact reckoning, and also when it would come
before the first instant. -/
theorem now_le_latest_iff {stop : Instant} :
    policy.now ≤ policy.latest stop ↔
      policy.now.nanoseconds ≤ stop.nanoseconds + policy.clockSkew.nanoseconds ∨
        stop.nanoseconds + policy.clockSkew.nanoseconds < Instant.earliest.nanoseconds := by
  have hlower := policy.now.lower
  have hupper := policy.now.upper
  unfold latest Instant.add? Instant.ofNanoseconds?
  rw [Instant.le_iff, Instant.nanoseconds_earliest]
  split
  next hrange =>
    simp only [Option.getD_some]
    omega
  next hrange =>
    rw [Option.getD_none, Instant.nanoseconds_latest]
    omega

/-! ### Lifetimes -/

theorem acceptLifetime_eq_ok {notBefore expires : Option Instant} :
    policy.acceptLifetime notBefore expires = .ok () ↔
      policy.lifetimeDefect? notBefore expires = none := by
  unfold acceptLifetime
  split
  next defect hdefect => simp [hdefect]
  next hdefect => simp [hdefect]

theorem kind_of_acceptLifetime_error {notBefore expires : Option Instant} {fault : Fault}
    (hfault : policy.acceptLifetime notBefore expires = .error fault) :
    fault.kind = .invalidLifetime := by
  unfold acceptLifetime at hfault
  split at hfault
  · obtain rfl := Except.error.inj hfault
    cases notBefore <;> cases expires <;> rfl
  · exact nomatch hfault

theorem lifetimeDefect?_eq_none_iff {notBefore expires : Option Instant} :
    policy.lifetimeDefect? notBefore expires = none ↔
      (policy.requireExpiration = true → expires.isSome = true) ∧
      (∀ start ∈ notBefore, ∀ stop ∈ expires, start ≤ stop) ∧
      (∀ start ∈ notBefore, policy.earliest start ≤ policy.now) ∧
      ∀ stop ∈ expires, policy.now ≤ policy.latest stop := by
  unfold lifetimeDefect?
  cases notBefore <;> cases expires <;> simp [← Instant.not_lt, ite_eq_iff]

/-- Whether the clock stands in the window of a lifetime, given in seconds and reckoned in whole
nanoseconds without any bounds. -/
structure InWindow (policy : Policy ρ) (notBefore expires : Option Int) : Prop where
  ends : policy.requireExpiration = true → expires.isSome = true
  ordered : ∀ start ∈ notBefore, ∀ stop ∈ expires, start ≤ stop
  started : ∀ start ∈ notBefore,
    start * 1000000000 - policy.clockSkew.nanoseconds ≤ policy.now.nanoseconds
  current : ∀ stop ∈ expires,
    policy.now.nanoseconds ≤ stop * 1000000000 + policy.clockSkew.nanoseconds

/-- The window as it is with bounds that leave the range of instants at the wrong end. -/
structure InLooseWindow (policy : Policy ρ) (notBefore expires : Option Int) : Prop where
  ends : policy.requireExpiration = true → expires.isSome = true
  ordered : ∀ start ∈ notBefore, ∀ stop ∈ expires, start ≤ stop
  started : ∀ start ∈ notBefore,
    start * 1000000000 - policy.clockSkew.nanoseconds ≤ policy.now.nanoseconds ∨
      Instant.latest.nanoseconds < start * 1000000000 - policy.clockSkew.nanoseconds
  current : ∀ stop ∈ expires,
    policy.now.nanoseconds ≤ stop * 1000000000 + policy.clockSkew.nanoseconds ∨
      stop * 1000000000 + policy.clockSkew.nanoseconds < Instant.earliest.nanoseconds

/-- Whether no bound leaves the range of instants at the wrong end. -/
structure SkewFits (policy : Policy ρ) (notBefore expires : Option Int) : Prop where
  starts : ∀ start ∈ notBefore,
    start * 1000000000 - policy.clockSkew.nanoseconds ≤ Instant.latest.nanoseconds
  stops : ∀ stop ∈ expires,
    Instant.earliest.nanoseconds ≤ stop * 1000000000 + policy.clockSkew.nanoseconds

section Window

variable {notBefore expires : Option Int}

theorem inLooseWindow_iff (hfits : policy.SkewFits notBefore expires) :
    policy.InLooseWindow notBefore expires ↔ policy.InWindow notBefore expires := by
  constructor
  · rintro ⟨hends, hordered, hstarted, hcurrent⟩
    exact ⟨hends, hordered,
      fun start hstart => (hstarted start hstart).resolve_right
        (Int.not_lt.2 (hfits.starts start hstart)),
      fun stop hstop => (hcurrent stop hstop).resolve_right
        (Int.not_lt.2 (hfits.stops stop hstop))⟩
  · rintro ⟨hends, hordered, hstarted, hcurrent⟩
    exact ⟨hends, hordered, fun start hstart => .inl (hstarted start hstart),
      fun stop hstop => .inl (hcurrent stop hstop)⟩

theorem skewFits_of_nonneg {claims : ClaimSet} (hstarts : claims.Dates "nbf" notBefore)
    (hstops : claims.Dates "exp" expires) (hskew : 0 ≤ policy.clockSkew.nanoseconds) :
    policy.SkewFits notBefore expires := by
  constructor
  · rintro start hstart
    cases hstarts with
    | missing => exact nomatch hstart
    | counted hcount hlower hupper =>
        obtain rfl := Option.some.inj hstart
        rw [Instant.nanoseconds_latest]
        omega
  · rintro stop hstop
    cases hstops with
    | missing => exact nomatch hstop
    | counted hcount hlower hupper =>
        obtain rfl := Option.some.inj hstop
        rw [Instant.nanoseconds_earliest]
        omega

/-- What holds of the nanoseconds of an instant holds of those that seconds come to. -/
theorem forall_mem_iff {instant : Option Instant} {seconds : Option Int}
    (hsame : instant.map Instant.nanoseconds = seconds.map (· * 1000000000)) (holds : Int → Prop) :
    (∀ value ∈ instant, holds value.nanoseconds) ↔
      ∀ value ∈ seconds, holds (value * 1000000000) := by
  rw [← @Option.forall_mem_map _ _ Instant.nanoseconds instant holds, hsame, Option.forall_mem_map]

theorem acceptLifetime_eq_ok_iff {start stop : Option Instant}
    (hstart : start.map Instant.nanoseconds = notBefore.map (· * 1000000000))
    (hstop : stop.map Instant.nanoseconds = expires.map (· * 1000000000)) :
    policy.acceptLifetime start stop = .ok () ↔ policy.InLooseWindow notBefore expires := by
  have hends : stop.isSome = expires.isSome := by
    simpa only [Option.isSome_map] using congrArg Option.isSome hstop
  have hordered : (∀ first ∈ start, ∀ last ∈ stop, first ≤ last) ↔
      ∀ first ∈ notBefore, ∀ last ∈ expires, first ≤ last := by
    have hinner := fun first : Instant => forall_mem_iff hstop (first.nanoseconds ≤ ·)
    have houter := forall_mem_iff hstart fun first => ∀ last ∈ expires, first ≤ last * 1000000000
    simp only [Instant.le_iff, hinner]
    rw [houter]
    simp only [Int.mul_le_mul_iff_of_pos_right (show (0 : Int) < 1000000000 by decide)]
  have hstarted := forall_mem_iff hstart fun first =>
    first - policy.clockSkew.nanoseconds ≤ policy.now.nanoseconds ∨
      Instant.latest.nanoseconds < first - policy.clockSkew.nanoseconds
  have hcurrent := forall_mem_iff hstop fun last =>
    policy.now.nanoseconds ≤ last + policy.clockSkew.nanoseconds ∨
      last + policy.clockSkew.nanoseconds < Instant.earliest.nanoseconds
  rw [acceptLifetime_eq_ok, lifetimeDefect?_eq_none_iff, hends, hordered]
  simp only [earliest_le_now_iff, now_le_latest_iff]
  rw [hstarted, hcurrent]
  exact ⟨fun ⟨hends, hordered, hstarted, hcurrent⟩ => ⟨hends, hordered, hstarted, hcurrent⟩,
    fun ⟨hends, hordered, hstarted, hcurrent⟩ => ⟨hends, hordered, hstarted, hcurrent⟩⟩

end Window

end Policy

namespace Validation

variable {policy : Policy ρ} {token : Token} {notBefore expires : Option Int}

theorem outcome_checkLifetime_eq {start stop : Option Instant} {before : Session σ ρ}
    (hvalidates : policy.validateLifetime = true) (hdefault : policy.lifetimeValidator = none)
    (hstart : token.claims.notBefore = .ok start) (hstop : token.claims.expires = .ok stop) :
    (checkLifetime policy token).outcome before =
      ((policy.acceptLifetime start stop).map fun _ => stop, before) := by
  unfold checkLifetime
  rw [hstart, hstop, hdefault]
  simp only [if_pos hvalidates, Run.outcome_bind, Run.outcome_lift]
  cases policy.acceptLifetime start stop with
  | error fault => rfl
  | ok _ => rfl

/-- The stage of lifetime, left to itself, accepts a token in its window and refuses any other for
its lifetime, as long as no bound leaves the range of instants at the wrong end. None does under a
skew that is not negative. A bound that does holds nothing off. -/
theorem checkLifetime_window (hvalidates : policy.validateLifetime = true)
    (hdefault : policy.lifetimeValidator = none) (hstarts : token.claims.Dates "nbf" notBefore)
    (hstops : token.claims.Dates "exp" expires) (before : Session σ ρ) :
    ∃ answer, (checkLifetime policy token).outcome before = (answer, before) ∧
      (answer.isOk = true ↔ policy.InLooseWindow notBefore expires) ∧
      (0 ≤ policy.clockSkew.nanoseconds ∨ policy.SkewFits notBefore expires →
        (answer.isOk = true ↔ policy.InWindow notBefore expires)) ∧
      ∀ fault, answer = .error fault → fault.kind = .invalidLifetime := by
  obtain ⟨start, hstart, hsameStart⟩ := hstarts.time
  obtain ⟨stop, hstop, hsameStop⟩ := hstops.time
  have haccept : policy.acceptLifetime start stop = .ok () ↔
      policy.InLooseWindow notBefore expires :=
    Policy.acceptLifetime_eq_ok_iff hsameStart hsameStop
  have hisOk : ((policy.acceptLifetime start stop).map fun _ => stop).isOk = true ↔
      policy.acceptLifetime start stop = .ok () := by
    cases policy.acceptLifetime start stop with
    | error fault => exact ⟨(nomatch ·), (nomatch ·)⟩
    | ok _ => exact ⟨fun _ => rfl, fun _ => rfl⟩
  refine ⟨_, outcome_checkLifetime_eq hvalidates hdefault hstart hstop, hisOk.trans haccept,
    fun hfits => ?_, fun fault hfault => ?_⟩
  · have hfits : policy.SkewFits notBefore expires :=
      hfits.elim (Policy.skewFits_of_nonneg hstarts hstops) id
    exact (hisOk.trans haccept).trans (Policy.inLooseWindow_iff hfits)
  · cases hrefused : policy.acceptLifetime start stop with
    | error found =>
        rw [hrefused] at hfault
        obtain rfl := Except.error.inj hfault
        exact Policy.kind_of_acceptLifetime_error hrefused
    | ok _ =>
        rw [hrefused] at hfault
        exact nomatch hfault

/-! ### A skew that reaches back before the first instant -/

def reachingPolicy : Policy Unit :=
  { Policy.lenient ⟨1700000000000000000, by decide, by decide⟩ with
    validateLifetime := true
    clockSkew := ⟨-9000000000000 * 1000000000, by decide⟩ }

def exactPolicy : Policy Unit :=
  { reachingPolicy with clockSkew := .zero }

def firstSecond : WireInteger := ⟨1, by decide⟩

/-- A token that ends one second after the first of January 1970. -/
def endedToken : Token :=
  .signed "" .empty (ClaimSet.empty.insert "exp" (.integer firstSecond)) []

theorem dates_endedToken :
    endedToken.claims.Dates "nbf" none ∧ endedToken.claims.Dates "exp" (some firstSecond.1) :=
  ⟨.missing rfl, .counted rfl (by decide) (by decide)⟩

/-- Without the skew the token is refused. -/
theorem checkLifetime_window_endedToken :
    ((checkLifetime exactPolicy endedToken).outcome
      (⟨(), (), []⟩ : Session Unit Unit)).1.isOk = false := by
  have hvalidates : exactPolicy.validateLifetime = true := rfl
  have hdefault : exactPolicy.lifetimeValidator = none := rfl
  obtain ⟨answer, hanswer, -, hwindow, -⟩ := checkLifetime_window hvalidates hdefault
    dates_endedToken.1 dates_endedToken.2 (⟨(), (), []⟩ : Session Unit Unit)
  rw [hanswer, Bool.eq_false_iff, ne_eq, hwindow (.inl (by decide))]
  rintro ⟨-, -, -, hcurrent⟩
  exact absurd (hcurrent firstSecond.1 rfl) (by decide)

/-- The token is long over, and more so under the skew, and it is accepted. -/
theorem not_forall_isOk_iff_inWindow :
    ¬∀ (policy : Policy Unit) (token : Token) (notBefore expires : Option Int)
        (before : Session Unit Unit),
      policy.validateLifetime = true → policy.lifetimeValidator = none →
      token.claims.Dates "nbf" notBefore → token.claims.Dates "exp" expires →
      (((checkLifetime policy token).outcome before).1.isOk = true ↔
        policy.InWindow notBefore expires) := by
  intro hexact
  have hwindow := hexact reachingPolicy endedToken none (some firstSecond.1) ⟨(), (), []⟩ rfl rfl
    dates_endedToken.1 dates_endedToken.2
  have haccepted : ((checkLifetime reachingPolicy endedToken).outcome
      (⟨(), (), []⟩ : Session Unit Unit)).1.isOk = true := by decide +kernel
  obtain ⟨-, -, -, hcurrent⟩ := hwindow.1 haccepted
  exact absurd (hcurrent firstSecond.1 rfl) (by decide)

end Validation

end SecurityToken
