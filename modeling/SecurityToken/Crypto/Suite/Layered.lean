import SecurityToken.Crypto.Suite.Basic

/-!
Two suites, one before the other: the second answers what the first leaves unsupported, and nothing
else.
-/

namespace SecurityToken.CryptoSuite

variable {σ τ α : Type}

def onFirst (action : StateM σ α) : StateM (σ × τ) α := fun (first, second) =>
  let (answer, first) := action first
  (answer, (first, second))

def onSecond (action : StateM τ α) : StateM (σ × τ) α := fun (first, second) =>
  let (answer, second) := action second
  (answer, (first, second))

/-- Asks the second only if the first leaves the algorithm unsupported. -/
def fallingThrough (first : StateM σ (Except CryptoFault α))
    (second : StateM τ (Except CryptoFault α)) :
    StateM (σ × τ) (Except CryptoFault α) := do
  match ← onFirst first with
  | .error fault => if fault.isUnsupported then onSecond second else pure (.error fault)
  | .ok scheme => pure (.ok scheme)

def layered (custom : CryptoSuite σ) (fallback : CryptoSuite τ) : CryptoSuite (σ × τ) where
  signature key name forSigning :=
    fallingThrough (custom.signature key name forSigning) (fallback.signature key name forSigning)
  keyManagement key name :=
    fallingThrough (custom.keyManagement key name) (fallback.keyManagement key name)
  content name := fallingThrough (custom.content name) (fallback.content name)
  release key := do
    onFirst (custom.release key)
    onSecond (fallback.release key)

end SecurityToken.CryptoSuite
