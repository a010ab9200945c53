import SecurityToken.Crypto.Digest.Basic
import SecurityToken.Instant
import SecurityToken.Table

/-!
The record of tokens that were presented. Each is known by a digest of its text and stays on record
up to an instant of its own; once that has passed, the token counts as never seen.
-/

namespace SecurityToken

/-- Digests with the last instant at which each is on record. -/
structure ReplayLedger where
  expiries : Table Instant

namespace ReplayLedger

def empty : ReplayLedger := ⟨∅⟩

instance : EmptyCollection ReplayLedger := ⟨empty⟩

def size (ledger : ReplayLedger) : Nat := ledger.expiries.size

def digest (raw : String) : String :=
  (Digest.sha256.hash (Bytes.ofText raw)).hex

def holds (ledger : ReplayLedger) (digest : String) (now : Instant) : Bool :=
  match ledger.expiries.get? digest with
  | some expires => decide (now ≤ expires)
  | none => false

/-- Puts a digest on record, unless it is there already; says whether it was. -/
def claim (digest : String) (expires now : Instant) : StateM ReplayLedger Bool := fun ledger =>
  if ledger.holds digest now then (true, ledger)
  else (false, ⟨ledger.expiries.insert digest expires⟩)

def purge (now : Instant) : StateM ReplayLedger Nat := fun ledger =>
  let kept := ledger.expiries.filter fun _ expires => decide (now ≤ expires)
  (ledger.size - kept.size, ⟨kept⟩)

end ReplayLedger

abbrev Ledgers := Table ReplayLedger

namespace Ledgers

/-- The record of a name; one that is not there yet is empty. -/
def ledger (ledgers : Ledgers) (name : String) : ReplayLedger :=
  (ledgers.get? name).getD ∅

def on {α : Type} (name : String) (action : StateM ReplayLedger α) : StateM Ledgers α :=
  fun ledgers =>
    let (answer, ledger) := action (ledgers.ledger name)
    (answer, ledgers.insert name ledger)

end Ledgers

/-- A place where presented tokens are put on record, with a state of its own. -/
structure ReplayStore (ρ : Type) where
  name : String
  claim : (digest : String) → (expires now : Instant) → StateM ρ Bool

def ReplayStore.ofLedger (name : String) : ReplayStore Ledgers where
  name := name
  claim digest expires now := Ledgers.on name (ReplayLedger.claim digest expires now)

end SecurityToken
