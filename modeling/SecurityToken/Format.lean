import SecurityToken.Compact.Parser
import SecurityToken.Compact.Printer

/-!
Ways of writing tokens as texts. Whatever the way, the token that is read is the same kind of value.
-/

namespace SecurityToken

structure TokenFormat where
  name : String
  /-- Whether a text has the shape of a token, which is told without decoding it. -/
  canRead : String → Bool
  parse : (allowUnsigned : Bool) → String → Except Fault Token
  write : Token → Except Fault String

def TokenFormat.compact : TokenFormat where
  name := "compact"
  canRead := Compact.isCompact true
  parse allowUnsigned text := (Compact.parse allowUnsigned text).mapError (·.fault)
  write token := .ok (Compact.write token)

end SecurityToken
