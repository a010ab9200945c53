import SecurityToken.Crypto.Suite.Basic
import SecurityToken.Validation.Policy

/-!
Runs: what the validation or the making of a token may change, and the calls that it makes to
others, in order. What was changed and what was called stay so when the run fails.
-/

namespace SecurityToken

inductive Call where
  | canRead
  | parse (allowUnsigned : Bool) (raw : String)
  | write
  | signatureScheme (algorithm : String)
  | keyScheme (algorithm : String)
  | contentCipher (algorithm : String)
  | release
  | resolveKeys (use : KeyUse) (raw : String) (header : Header)
  | validateSignature (raw : String)
  | validateSigningKey (key : Key)
  | validateIssuer (issuer : Option String) (token : Token)
  | validateAudience (audiences : List String)
  | validateLifetime (notBefore expires : Option Instant)
  | claimReplay (store digest : String) (expires now : Instant)
  /-- The calls that follow are made for an actor token. -/
  | enterActor (raw : String)

/-- The states of the suite and of the stores of presented tokens, and the calls so far. -/
structure Session (σ ρ : Type) where
  suite : σ
  replay : ρ
  calls : List Call := []

abbrev Run (σ ρ α : Type) := ExceptT Fault (StateM (Session σ ρ)) α

namespace Run

variable {σ ρ α : Type}

def note (call : Call) : Run σ ρ Unit :=
  modify fun session => { session with calls := session.calls ++ [call] }

def ask (call : Call) (request : StateM σ α) : Run σ ρ α := do
  note call
  modifyGet fun session =>
    let (answer, suite) := request session.suite
    (answer, { session with suite })

/-- Puts a token on record in a store; says whether it was there already. -/
def claim (store : ReplayStore ρ) (digest : String) (expires now : Instant) :
    Run σ ρ Bool := do
  note (.claimReplay store.name digest expires now)
  modifyGet fun session =>
    let (answer, replay) := store.claim digest expires now session.replay
    (answer, { session with replay })

def adapting (change : Fault → Fault) (run : Run σ ρ α) : Run σ ρ α :=
  ExceptT.adapt change run

def atStage (stage : String) (run : Run σ ρ α) : Run σ ρ α :=
  adapting (·.withContext Detail.stage stage) run

end Run

end SecurityToken
