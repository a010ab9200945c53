import SecurityToken.Session

/-!
The text of a call, as a log shows it. It tells sizes of tokens and ids of keys, and no more of
either.
-/

namespace SecurityToken

def Call.sizeText (raw : String) : String :=
  toString raw.utf8ByteSize ++ " bytes"

def Call.secondsText (instant : Option Instant) : String :=
  (instant.map fun instant => toString instant.seconds).getD "-"

def KeyUse.resolverName : KeyUse → String
  | .signing => "signing_key_resolver"
  | .decryption => "decryption_key_resolver"

def Call.text : Call → String
  | canRead => "format.can_read"
  | parse allowUnsigned _ => "format.parse(allow_unsigned=" ++ Policy.flagText allowUnsigned ++ ")"
  | write => "format.serialize"
  | signatureScheme algorithm => "factory.signature(" ++ algorithm ++ ")"
  | keyScheme algorithm => "factory.key_wrap(" ++ algorithm ++ ")"
  | contentCipher algorithm => "factory.aead(" ++ algorithm ++ ")"
  | release => "factory.release"
  | resolveKeys use raw header =>
      use.resolverName ++ "(" ++ sizeText raw ++ ", kid=" ++ header.keyId?.getD "-" ++ ")"
  | validateSignature raw => "signature_validator(" ++ sizeText raw ++ ")"
  | validateSigningKey key => "signing_key_validator(" ++ key.keyId.getD "-" ++ ")"
  | validateIssuer issuer token =>
      "issuer_validator(" ++ issuer.getD "<none>" ++ ", " ++ toString token.claims.size ++
        " claims)"
  | validateAudience audiences => "audience_validator(" ++ "|".intercalate audiences ++ ")"
  | validateLifetime notBefore expires =>
      "lifetime_validator(" ++ secondsText notBefore ++ ", " ++ secondsText expires ++ ")"
  | claimReplay _ digest expires _ => "cache.try_claim(" ++ digest ++ ", " ++ expires.text ++ ")"
  | enterActor raw => "actor(" ++ sizeText raw ++ ")"

end SecurityToken
