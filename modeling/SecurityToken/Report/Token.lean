import SecurityToken.Claim.Basic
import SecurityToken.Compact.Text
import SecurityToken.Report.Fault
import SecurityToken.Token.Basic

/-!
Tokens and what they hold as JSON, with the registered members as they are read.
-/

namespace SecurityToken

def Header.report (header : Header) : Json :=
  .object [("json", .string header.json.text), ("alg", .ofOptionalText header.algorithm?),
    ("enc", .ofOptionalText header.encryption?), ("kid", .ofOptionalText header.keyId?),
    ("x5t", .ofOptionalText header.thumbprint?), ("typ", .ofOptionalText header.type?),
    ("cty", .ofOptionalText header.contentType?)]

def ClaimSet.reportTime : Except Fault (Option Instant) → Json
  | .ok time => .ofOptionalText (time.map Instant.text)
  | .error fault => fault.report

def ClaimSet.report (claims : ClaimSet) : Json :=
  .object [("json", .string claims.json.text), ("iss", .ofOptionalText claims.issuer?),
    ("sub", .ofOptionalText claims.subject?), ("actort", .ofOptionalText claims.actorToken?),
    ("aud", .ofTexts claims.audiences), ("exp", reportTime claims.expires),
    ("nbf", reportTime claims.notBefore), ("iat", reportTime claims.issuedAt)]

def Claim.reportMembers (claim : Claim) : List (String × Json) :=
  [("type", .string claim.type), ("value", .string claim.value),
    ("value_type", .string claim.kind.name), ("issuer", .string claim.issuer),
    ("original_issuer", .string claim.originalIssuer),
    ("short_type", .ofOptionalText claim.shortType?), ("properties", .ofTable claim.properties)]

def Claim.report (claim : Claim) : Json := .object claim.reportMembers

namespace SealedContent

def report (content : SealedContent) : Json :=
  .object [("encrypted_key", .string content.encryptedKey.hex), ("iv", .string content.iv.hex),
    ("ciphertext", .string content.ciphertext.hex), ("tag", .string content.tag.hex)]

def reportSizes (content : SealedContent) : Json :=
  .object [("encrypted_key_bytes", .ofNat content.encryptedKey.length),
    ("iv_bytes", .ofNat content.iv.length), ("ciphertext_bytes", .ofNat content.ciphertext.length),
    ("tag_bytes", .ofNat content.tag.length)]

end SealedContent

namespace Token

def reportSegments (token : Token) : Json := .ofNat (Compact.segments token.raw).length

def reportMembers (shown : String → String) : Token → List (String × Json)
  | token@(signed raw header claims signature) =>
      [("raw", .string (shown raw)), ("segments", token.reportSegments), ("header", header.report),
        ("claims", claims.report), ("signature", .string signature.hex),
        ("has_signature", .bool token.hasSignature),
        ("signing_input_bytes", .ofNat (Compact.signingInput raw).utf8ByteSize),
        ("encrypted", .null), ("inner", .null)]
  | token@(encrypted raw header content inner) =>
      [("raw", .string (shown raw)), ("segments", token.reportSegments), ("header", header.report),
        ("claims", token.claims.report), ("signature", .string ""), ("has_signature", .bool false),
        ("signing_input_bytes", .ofNat (Compact.signingInput raw).utf8ByteSize),
        ("encrypted", content.report),
        ("inner", match inner with
          | some inner => .object (inner.reportMembers shown)
          | none => .null)]

def report (shown : String → String) (token : Token) : Json := .object (token.reportMembers shown)

/-- A token without what is random in it: only the sizes of its parts. -/
def reportShape : Token → Json
  | token@(signed raw header claims signature) =>
      .object [("raw_bytes", .ofNat raw.utf8ByteSize), ("segments", token.reportSegments),
        ("header", header.report), ("claims", claims.report),
        ("signature_bytes", .ofNat signature.length), ("encrypted", .null), ("inner", .null)]
  | token@(encrypted raw header content inner) =>
      .object [("raw_bytes", .ofNat raw.utf8ByteSize), ("segments", token.reportSegments),
        ("header", header.report), ("claims", token.claims.report),
        ("signature_bytes", .ofNat 0), ("encrypted", content.reportSizes),
        ("inner", match inner with
          | some inner => inner.reportShape
          | none => .null)]

end Token

end SecurityToken
