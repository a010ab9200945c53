import SecurityToken.Crypto.Suite.Basic

/-!
Suites of a few given schemes, whatever the key.
-/

namespace SecurityToken.CryptoSuite

def refusing {σ : Type} (reason : String → CryptoFault) : CryptoSuite σ where
  signature _ name _ := pure (.error (reason name))
  keyManagement _ name := pure (.error (reason name))
  content name := pure (.error (reason name))
  release _ := pure ()

/-- Serves one scheme of each sort under its own name, and leaves all other names unsupported. -/
def serving (signature : SignatureScheme) (keyScheme : KeyScheme) (cipher : ContentCipher) :
    CryptoSuite Unit :=
  let serve {α : Type} (algorithm : String) (scheme : α) (name : String) : Except CryptoFault α :=
    if name = algorithm then .ok scheme else .error (.unsupportedAlgorithm name)
  { signature := fun _ name _ => pure (serve signature.algorithm signature name)
    keyManagement := fun _ name => pure (serve keyScheme.algorithm keyScheme name)
    content := fun name => pure (serve cipher.algorithm cipher name)
    release := fun _ => pure () }

end SecurityToken.CryptoSuite
