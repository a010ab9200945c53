import SecurityToken.Bytes
import SecurityToken.Token.ClaimSet
import SecurityToken.Token.Header

/-!
Tokens as they are read: a signed one has claims and a signature, which may be empty; an encrypted
one has sealed content, and the token inside once that is open.
-/

namespace SecurityToken

structure SealedContent where
  encryptedKey : Bytes
  iv : Bytes
  ciphertext : Bytes
  tag : Bytes
  deriving DecidableEq

inductive Token where
  | signed (raw : String) (header : Header) (claims : ClaimSet) (signature : Bytes)
  | encrypted (raw : String) (header : Header) (content : SealedContent) (inner : Option Token)

namespace Token

def raw : Token → String
  | signed raw _ _ _ => raw
  | encrypted raw _ _ _ => raw

def header : Token → Header
  | signed _ header _ _ => header
  | encrypted _ header _ _ => header

/-- The claims outside any encryption. -/
def claims : Token → ClaimSet
  | signed _ _ claims _ => claims
  | encrypted _ _ _ _ => .empty

def signature : Token → Bytes
  | signed _ _ _ signature => signature
  | encrypted _ _ _ _ => []

def hasSignature (token : Token) : Bool :=
  !token.signature.isEmpty

def content? : Token → Option SealedContent
  | signed _ _ _ _ => none
  | encrypted _ _ content _ => some content

def isEncrypted (token : Token) : Bool :=
  token.content?.isSome

def inner? : Token → Option Token
  | signed _ _ _ _ => none
  | encrypted _ _ _ inner => inner

/-- An encrypted token with the token that was found inside; a signed one has none inside. -/
def withInner : Token → Token → Token
  | signed raw header claims signature, _ => signed raw header claims signature
  | encrypted raw header content _, inner => encrypted raw header content (some inner)

/-- The token inside all layers of encryption that are open. -/
def innermost : Token → Token
  | signed raw header claims signature => signed raw header claims signature
  | encrypted raw header content none => encrypted raw header content none
  | encrypted _ _ _ (some inner) => inner.innermost

end Token

end SecurityToken
