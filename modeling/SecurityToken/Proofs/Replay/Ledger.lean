import SecurityToken.Proofs.Basic
import SecurityToken.Replay.Ledger

/-!
# What a ledger holds

A claim and a purge are made at an instant, and neither takes anything off the record that is on
it at that instant or later. So a ledger that covers a digest up to some end goes on doing so while
the clock does not run backwards, whatever is claimed and purged in between.
-/

namespace SecurityToken

namespace Instant

variable {first second third : Instant}

theorem le_trans (hfirst : first ≤ second) (hsecond : second ≤ third) : first ≤ third :=
  Int.le_trans hfirst hsecond

theorem not_lt : ¬first < second ↔ second ≤ first := Int.not_lt

theorem not_le : ¬first ≤ second ↔ second < first := Int.not_le

theorem earliest_le (instant : Instant) : earliest ≤ instant := instant.lower

theorem le_latest (instant : Instant) : instant ≤ latest := Int.le_sub_one_of_lt instant.upper

end Instant

namespace ReplayLedger

variable {ledger : ReplayLedger} {digest other : String} {now later start stop expires : Instant}

theorem holds_eq_true :
    ledger.holds digest now = true ↔
      ∃ expires, ledger.expiries.get? digest = some expires ∧ now ≤ expires := by
  unfold holds
  cases ledger.expiries.get? digest with
  | none => simp
  | some expires => simp

def recording (ledger : ReplayLedger) (digest : String) (expires : Instant) : ReplayLedger :=
  ⟨ledger.expiries.insert digest expires⟩

theorem holds_recording :
    (ledger.recording digest expires).holds other now =
      if other = digest then decide (now ≤ expires) else ledger.holds other now := by
  unfold holds recording
  rw [Table.get?_insert]
  by_cases hother : other = digest
  · rw [if_pos hother, if_pos hother]
  · rw [if_neg hother, if_neg hother]

theorem run_claim :
    (claim digest expires now).run ledger =
      if ledger.holds digest now then (true, ledger)
      else (false, ledger.recording digest expires) := rfl

/-- What is on record at an instant outlasts a purge at an earlier one. -/
theorem holds_purge (hlater : now ≤ later) :
    ((purge now).run ledger).2.holds digest later = ledger.holds digest later := by
  change (ReplayLedger.mk (ledger.expiries.filter fun _ expires => decide (now ≤ expires))).holds
    digest later = _
  rw [Bool.eq_iff_iff, holds_eq_true, holds_eq_true]
  simp only [Table.get?_filter, Option.filter_eq_some_iff, decide_eq_true_eq]
  constructor
  · rintro ⟨expires, ⟨hfound, _⟩, hexpires⟩
    exact ⟨expires, hfound, hexpires⟩
  · rintro ⟨expires, hfound, hexpires⟩
    exact ⟨expires, ⟨hfound, Instant.le_trans hlater hexpires⟩, hexpires⟩

/-- Whether a digest is on record from one instant to another. -/
def Covers (ledger : ReplayLedger) (digest : String) (start stop : Instant) : Prop :=
  ∀ ⦃instant⦄, start ≤ instant → instant ≤ stop → ledger.holds digest instant = true

namespace Covers

theorem from_later (hcovers : ledger.Covers digest start stop) (hlater : start ≤ later) :
    ledger.Covers digest later stop :=
  fun _ hinstant => hcovers (Instant.le_trans hlater hinstant)

theorem stop_lt (hcovers : ledger.Covers digest now stop) (hfree : ledger.holds digest now = false) :
    stop < now := by
  rw [← Instant.not_le]
  intro hnow
  rw [hcovers (Int.le_refl _) hnow] at hfree
  exact nomatch hfree

theorem of_recording : (ledger.recording digest stop).Covers digest start stop := by
  intro instant _ hstop
  rw [holds_recording, if_pos rfl, decide_eq_true hstop]

/-- A claim of the same digest succeeds only where the cover is over, and any other leaves it. -/
theorem recording (hcovers : ledger.Covers digest now stop)
    (hfree : ledger.holds other now = false) :
    (ledger.recording other expires).Covers digest now stop := by
  intro instant hnow hstop
  rw [holds_recording]
  by_cases hother : digest = other
  · subst hother
    have hover : stop < now := hcovers.stop_lt hfree
    exact absurd (Instant.le_trans hnow hstop) (Instant.not_le.2 hover)
  · rw [if_neg hother]
    exact hcovers hnow hstop

theorem purge (hcovers : ledger.Covers digest now stop) :
    ((ReplayLedger.purge now).run ledger).2.Covers digest now stop := by
  intro instant hnow hstop
  rw [holds_purge hnow]
  exact hcovers hnow hstop

end Covers

end ReplayLedger

namespace Ledgers

variable {ledgers : Ledgers} {name digest : String} {now expires : Instant}

theorem ledger_insert (ledgers : Ledgers) (name : String) (ledger : ReplayLedger) :
    Ledgers.ledger (ledgers.insert name ledger) name = ledger := by
  unfold Ledgers.ledger
  rw [Table.get?_insert, if_pos rfl, Option.getD_some]

theorem ledger_insert_of_ne (ledgers : Ledgers) (ledger : ReplayLedger) {other : String}
    (hname : name ≠ other) : Ledgers.ledger (ledgers.insert other ledger) name =
      ledgers.ledger name := by
  unfold Ledgers.ledger
  rw [Table.get?_insert, if_neg hname]

theorem get?_of_holds (hholds : (ledgers.ledger name).holds digest now = true) :
    ledgers.get? name = some (ledgers.ledger name) := by
  unfold ledger at hholds ⊢
  cases hfound : ledgers.get? name with
  | none =>
      rw [hfound] at hholds
      exact nomatch hholds
  | some found => rfl

def recording (ledgers : Ledgers) (name digest : String) (expires : Instant) : Ledgers :=
  ledgers.insert name ((ledgers.ledger name).recording digest expires)

theorem run_claim :
    ((ReplayStore.ofLedger name).claim digest expires now).run ledgers =
      if (ledgers.ledger name).holds digest now then (true, ledgers)
      else (false, ledgers.recording name digest expires) := by
  change (let (answer, ledger) := (ReplayLedger.claim digest expires now).run (ledgers.ledger name)
    (answer, ledgers.insert name ledger)) = _
  rw [ReplayLedger.run_claim]
  by_cases hholds : (ledgers.ledger name).holds digest now = true
  · rw [if_pos hholds, if_pos hholds]
    simp only [Table.insert_eq_self (get?_of_holds hholds)]
  · rw [if_neg hholds, if_neg hholds]
    rfl

theorem answer_claim :
    (((ReplayStore.ofLedger name).claim digest expires now).run ledgers).1 =
      (ledgers.ledger name).holds digest now := by
  rw [run_claim]
  cases (ledgers.ledger name).holds digest now with
  | true => rfl
  | false => rfl

end Ledgers

end SecurityToken
