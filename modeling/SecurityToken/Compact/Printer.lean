import SecurityToken.Compact.Base64url
import SecurityToken.Compact.Text
import SecurityToken.Json.Printer
import SecurityToken.Token.Basic

/-!
The writer of compact tokens: base64url segments with dots between them.
-/

namespace SecurityToken.Compact

def encodeSegment (bytes : Bytes) : String :=
  String.ofList (Base64url.encode bytes)

def encodeJson (value : Json) : String :=
  encodeSegment (Bytes.ofText value.text)

def encodeParts (header : Header) (claims : ClaimSet) : String :=
  join [encodeJson header.json, encodeJson claims.json]

/-- The text of a signed token; without a signature its last segment is empty. -/
def writeSigned (signingInput : String) (signature : Bytes) : String :=
  join [signingInput, encodeSegment signature]

def writeEncrypted (encodedHeader : String) (content : SealedContent) : String :=
  join [encodedHeader, encodeSegment content.encryptedKey, encodeSegment content.iv,
    encodeSegment content.ciphertext, encodeSegment content.tag]

/-- The text of a token: its segments as they were read. -/
def write (token : Token) : String :=
  join (segments token.raw)

end SecurityToken.Compact
