import SecurityToken.Proofs.Replay.Ledger

/-!
# Purges that nobody notices

A ledger is asked for claims and purges on a clock that does not run backwards. A purge takes off
what is over at its instant, and what is over then is over at every later one. So a ledger that was
purged and one that was not differ in their entries and still hold the same from then on, and that
is all that a claim looks at. A claim that finds its digest free says with this that every earlier
record of the digest is over.
-/

namespace SecurityToken

namespace ReplayLedger

/-- What a ledger is asked for, with the reading of the clock. -/
inductive Request where
  | claim (digest : String) (expires now : Instant)
  | purge (now : Instant)

namespace Request

def now : Request → Instant
  | claim _ _ now => now
  | purge now => now

/-- The answer to a claim, and the ledger that a request leaves. -/
def run : Request → ReplayLedger → Option Bool × ReplayLedger
  | claim digest expires now, ledger =>
      let (known, after) := (ReplayLedger.claim digest expires now).run ledger
      (some known, after)
  | purge now, ledger => (none, ((ReplayLedger.purge now).run ledger).2)

theorem run_claim (ledger : ReplayLedger) (digest : String) (expires now : Instant) :
    (claim digest expires now).run ledger =
      if ledger.holds digest now then (some true, ledger)
      else (some false, ledger.recording digest expires) := by
  change (some ((ReplayLedger.claim digest expires now).run ledger).1,
    ((ReplayLedger.claim digest expires now).run ledger).2) = _
  rw [ReplayLedger.run_claim]
  by_cases hknown : ledger.holds digest now = true
  · rw [if_pos hknown, if_pos hknown]
  · rw [if_neg hknown, if_neg hknown]

end Request

/-- The answers to the claims among some requests, in order. -/
def answers : List Request → ReplayLedger → List Bool
  | [], _ => []
  | request :: rest, ledger => (request.run ledger).1.toList ++ answers rest (request.run ledger).2

/-- The ledger that some requests leave. -/
def serving (requests : List Request) (ledger : ReplayLedger) : ReplayLedger :=
  requests.foldl (fun ledger request => (request.run ledger).2) ledger

/-- Whether some requests are others without any number of their purges. -/
inductive Spares : List Request → List Request → Prop where
  | nil : Spares [] []
  | keep {requests spared : List Request} (request : Request) (hrest : Spares requests spared) :
      Spares (request :: requests) (request :: spared)
  | purge {requests spared : List Request} (now : Instant) (hrest : Spares requests spared) :
      Spares (.purge now :: requests) spared

/-! ### Ledgers that hold the same -/

/-- Whether two ledgers hold the same digests at an instant and at every later one. -/
def Alike (now : Instant) (left right : ReplayLedger) : Prop :=
  ∀ (digest : String) ⦃later : Instant⦄, now ≤ later →
    left.holds digest later = right.holds digest later

variable {left right ledger : ReplayLedger} {digest : String} {start now later expires : Instant}

namespace Alike

theorem from_later (halike : Alike now left right) (hlater : now ≤ later) :
    Alike later left right :=
  fun digest _ hinstant => halike digest (Instant.le_trans hlater hinstant)

theorem purge_left (halike : Alike now left right) :
    Alike now ((ReplayLedger.purge now).run left).2 right := by
  intro digest later hlater
  rw [holds_purge hlater]
  exact halike digest hlater

theorem purge_right (halike : Alike now left right) :
    Alike now left ((ReplayLedger.purge now).run right).2 := by
  intro digest later hlater
  rw [holds_purge hlater]
  exact halike digest hlater

theorem recording (halike : Alike now left right) (digest : String) (expires : Instant) :
    Alike now (left.recording digest expires) (right.recording digest expires) := by
  intro other later hlater
  rw [holds_recording, holds_recording]
  by_cases hother : other = digest
  · rw [if_pos hother, if_pos hother]
  · rw [if_neg hother, if_neg hother]
    exact halike other hlater

/-- Ledgers that hold the same answer a request alike and hold the same afterwards. -/
theorem run (request : Request) (halike : Alike request.now left right) :
    (request.run left).1 = (request.run right).1 ∧
      Alike request.now (request.run left).2 (request.run right).2 := by
  cases request with
  | claim digest expires now =>
      have hholds : left.holds digest now = right.holds digest now :=
        halike digest (Int.le_refl _)
      rw [Request.run_claim, Request.run_claim, hholds]
      by_cases hknown : right.holds digest now = true
      · rw [if_pos hknown, if_pos hknown]
        exact ⟨rfl, halike⟩
      · rw [if_neg hknown, if_neg hknown]
        exact ⟨rfl, halike.recording digest expires⟩
  | purge now => exact ⟨rfl, halike.purge_left.purge_right⟩

/-- By induction on what is spared: a purge on one side alone keeps the ledgers alike. -/
theorem answers_eq {requests spared : List Request} (hspares : Spares requests spared)
    (hclock : (now :: requests.map Request.now).Pairwise (· ≤ ·)) (halike : Alike now left right) :
    answers requests left = answers spared right := by
  induction hspares generalizing now left right with
  | nil => rfl
  | keep request hrest ih =>
      rw [List.map_cons, List.pairwise_cons] at hclock
      obtain ⟨hnow, hclock⟩ := hclock
      obtain ⟨hanswer, hafter⟩ := (halike.from_later (hnow _ List.mem_cons_self)).run request
      unfold answers
      rw [hanswer, ih hclock hafter]
  | purge instant hrest ih =>
      rw [List.map_cons, List.pairwise_cons] at hclock
      obtain ⟨hnow, hclock⟩ := hclock
      exact ih hclock (halike.from_later (hnow _ List.mem_cons_self)).purge_left

end Alike

/-! ### Records that last -/

/-- A request leaves what is on record to some end on record to that end. -/
theorem Covers.run {stop : Instant} (request : Request)
    (hcovers : ledger.Covers digest request.now stop) :
    (request.run ledger).2.Covers digest request.now stop := by
  cases request with
  | claim other expires now =>
      rw [Request.run_claim]
      by_cases hknown : ledger.holds other now = true
      · rw [if_pos hknown]
        exact hcovers
      · rw [if_neg hknown]
        exact Covers.recording hcovers (Bool.eq_false_iff.2 hknown)
  | purge now => exact Covers.purge hcovers

/-- By induction on the requests, up to an instant that none of them comes after. -/
theorem Covers.serving {requests : List Request} {stop : Instant}
    (hclock : (start :: requests.map Request.now ++ [later]).Pairwise (· ≤ ·))
    (hcovers : ledger.Covers digest start stop) :
    (ReplayLedger.serving requests ledger).Covers digest later stop := by
  induction requests generalizing start ledger with
  | nil =>
      rw [List.map_nil, List.cons_append, List.pairwise_cons] at hclock
      exact hcovers.from_later (hclock.1 later (List.mem_singleton.2 rfl))
  | cons request rest ih =>
      rw [List.map_cons, List.cons_append, List.pairwise_cons] at hclock
      obtain ⟨hstart, hclock⟩ := hclock
      exact ih hclock ((hcovers.from_later (hstart _ List.mem_cons_self)).run request)

/-! ### What a ledger answers -/

theorem answer_claim (ledger : ReplayLedger) (digest : String) (expires now : Instant) :
    ((claim digest expires now).run ledger).1 = ledger.holds digest now := by
  rw [run_claim]
  cases ledger.holds digest now with
  | true => rfl
  | false => rfl

/-- A claim that finds its digest on record changes nothing. -/
theorem claim_of_known (hknown : ((claim digest expires now).run ledger).1 = true) :
    ((claim digest expires now).run ledger).2 = ledger := by
  rw [answer_claim] at hknown
  rw [run_claim, if_pos hknown]

/-- A purge takes off the entries that are over, and counts them. -/
theorem run_purge (ledger : ReplayLedger) (now : Instant) :
    ((purge now).run ledger).1 =
        ledger.expiries.entries.countP (fun entry => decide (entry.2 < now)) ∧
      ((purge now).run ledger).2.expiries.entries =
        ledger.expiries.entries.filter fun entry => !decide (entry.2 < now) := by
  have hover : (fun entry : String × Instant => decide (now ≤ entry.2)) =
      fun entry => !decide (entry.2 < now) := by
    funext entry
    rw [← decide_not, decide_eq_decide]
    exact Instant.not_lt.symm
  have hentries : ((purge now).run ledger).2.expiries.entries =
      ledger.expiries.entries.filter fun entry => !decide (entry.2 < now) := by
    rw [← hover]
    rfl
  refine ⟨?_, hentries⟩
  have hcount : ledger.expiries.entries.length =
      ledger.expiries.entries.countP (fun entry => decide (entry.2 < now)) +
        ledger.expiries.entries.countP fun entry => !decide (entry.2 < now) := by
    simpa using List.length_eq_countP_add_countP fun entry : String × Instant =>
      decide (entry.2 < now)
  calc
    ((purge now).run ledger).1 = ledger.expiries.entries.length -
        ((purge now).run ledger).2.expiries.entries.length := rfl
    _ = ledger.expiries.entries.length -
        ledger.expiries.entries.countP fun entry => !decide (entry.2 < now) := by
      rw [hentries, List.countP_eq_length_filter]
    _ = ledger.expiries.entries.countP fun entry => decide (entry.2 < now) := by
      omega

theorem serving_append (first second : List Request) (ledger : ReplayLedger) :
    serving (first ++ second) ledger = serving second (serving first ledger) :=
  List.foldl_append

/-- Of two claims of a digest that both find it free, the first one is over when the second one is
made. -/
theorem lt_of_free {between : List Request} {expires' : Instant}
    (hclock : (start :: between.map Request.now ++ [later]).Pairwise (· ≤ ·))
    (hfirst : ((claim digest expires start).run ledger).1 = false)
    (hsecond : ((claim digest expires' later).run
      (serving (.claim digest expires start :: between) ledger)).1 = false) :
    expires < later := by
  rw [answer_claim] at hfirst hsecond
  have hrecorded : serving (.claim digest expires start :: between) ledger =
      serving between (ledger.recording digest expires) := by
    have hfree : ¬ledger.holds digest start = true := Bool.eq_false_iff.1 hfirst
    change serving between ((Request.claim digest expires start).run ledger).2 = _
    rw [Request.run_claim, if_neg hfree]
  rw [hrecorded] at hsecond
  exact (Covers.of_recording.serving hclock).stop_lt hsecond

/-- On a clock that does not run backwards the answers to claims are the same with any of the purges
left out. Two claims that both find one digest free are made on either side of the end that the first
one gives. A claim that finds its digest on record changes nothing, and a purge takes off the entries
that are over, no other, and gives their number. -/
theorem answers_as_specified {requests : List Request}
    (hclock : (requests.map Request.now).Pairwise (· ≤ ·)) :
    (∀ spared, Spares requests spared → answers spared ∅ = answers requests ∅) ∧
    (∀ before digest expires start between expires' later after,
      requests = before ++ .claim digest expires start :: between ++
        .claim digest expires' later :: after →
      ((claim digest expires start).run (serving before ∅)).1 = false →
      ((claim digest expires' later).run
        (serving (before ++ .claim digest expires start :: between) ∅)).1 = false →
      expires < later) ∧
    (∀ (ledger : ReplayLedger) (digest : String) (expires now : Instant),
      ((claim digest expires now).run ledger).1 = true →
      ((claim digest expires now).run ledger).2 = ledger) ∧
    ∀ (ledger : ReplayLedger) (now : Instant),
      ((purge now).run ledger).1 =
          ledger.expiries.entries.countP (fun entry => decide (entry.2 < now)) ∧
        ((purge now).run ledger).2.expiries.entries =
          ledger.expiries.entries.filter fun entry => !decide (entry.2 < now) := by
  refine ⟨fun spared hspares => ?_, ?_, fun _ _ _ _ hknown => claim_of_known hknown, run_purge⟩
  · have hstart : (Instant.earliest :: requests.map Request.now).Pairwise (· ≤ ·) :=
      List.pairwise_cons.2 ⟨fun instant _ => instant.earliest_le, hclock⟩
    exact (Alike.answers_eq hspares hstart fun _ _ _ => rfl).symm
  · rintro before digest expires start between expires' later after rfl hfirst hsecond
    have hsublist : (start :: between.map Request.now ++ [later]).Sublist
        ((before ++ .claim digest expires start :: between ++
          .claim digest expires' later :: after).map Request.now) := by
      rw [List.map_append, List.map_append, List.map_cons, List.map_cons]
      refine List.Sublist.append ?_ (List.Sublist.cons_cons _ (List.nil_sublist _))
      exact List.sublist_append_right _ _
    rw [serving_append] at hsecond
    exact lt_of_free (hclock.sublist hsublist) hfirst hsecond

/-! ### A digest claimed again after its end -/

def renewed : List Request :=
  [.claim "a" .earliest .earliest, .purge .latest, .claim "a" .latest .latest]

/-- The digest is found free without the purge as well, and its first end was over. -/
theorem answers_as_specified_renewed :
    answers [.claim "a" .earliest .earliest, .claim "a" .latest .latest] ∅ = answers renewed ∅ ∧
      Instant.earliest < Instant.latest := by
  have hclock : (renewed.map Request.now).Pairwise (· ≤ ·) := by decide
  obtain ⟨hspared, hfree, -, -⟩ := answers_as_specified hclock
  refine ⟨hspared _ (.keep _ (.purge _ (.keep _ .nil))), ?_⟩
  exact hfree [] "a" .earliest .earliest [.purge .latest] .latest .latest [] rfl
    (by decide +kernel) (by decide +kernel)

end ReplayLedger

end SecurityToken
