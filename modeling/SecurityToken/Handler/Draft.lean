import SecurityToken.Claim.Mapping
import SecurityToken.Crypto.Key
import SecurityToken.Settings
import SecurityToken.Token.Header

/-!
Drafts of tokens: what a token is to say, until when, and with which keys it is to be signed and
encrypted. What a draft gives in a field of its own stands above a claim of the same name.
-/

namespace SecurityToken

structure SigningCredential where
  key : Key
  algorithm : String

structure EncryptingCredential where
  key : Key
  keyAlgorithm : String
  contentAlgorithm : String

structure Draft where
  issuer : Option String := none
  audiences : List String := []
  notBefore : Option Instant := none
  expires : Option Instant := none
  issuedAt : Option Instant := none
  claims : List Claim := []
  actorToken : Option String := none
  /-- Further members of the header; the algorithms cannot be set here. -/
  header : Header := .empty
  signing : Option SigningCredential := none
  encrypting : Option EncryptingCredential := none

/-- From when to when a token is valid, and when it was made. -/
structure Period where
  notBefore : Option Instant
  expires : Option Instant
  issuedAt : Option Instant

inductive CreationError where
  | refused (fault : Fault)
  /-- There is no instant that lies the default lifetime after the start. -/
  | expiryOutOfRange

namespace Period

def check (period : Period) : Except Fault Unit :=
  match period.notBefore, period.expires with
  | some notBefore, some expires =>
      if expires ≤ notBefore then
        .error ((Fault.configuration "expires must be after not-before")
          |>.withContext Detail.notBefore notBefore.text
          |>.withContext Detail.expires expires.text)
      else .ok ()
  | _, _ => .ok ()

def members (period : Period) : List (String × Json) :=
  let member (name : String) (instant : Option Instant) :=
    (instant.map fun instant => (name, ClaimSet.timeValue instant)).toList
  member "nbf" period.notBefore ++ member "exp" period.expires ++ member "iat" period.issuedAt

end Period

namespace Draft

def expiry (draft : Draft) (settings : Settings) (start : Instant) :
    Except CreationError (Option Instant) :=
  match draft.expires with
  | some expires => .ok (some expires)
  | none =>
      if settings.defaultTimes then
        match settings.defaultExpiry? start with
        | some expires => .ok (some expires)
        | none => .error .expiryOutOfRange
      else .ok none

/-- The period of a token that is made now. By default it starts now. -/
def period (draft : Draft) (settings : Settings) (now : Instant) : Except CreationError Period := do
  let default := if settings.defaultTimes then some now else none
  let notBefore := draft.notBefore.or default
  let expires ← draft.expiry settings (notBefore.getD now)
  let period : Period := ⟨notBefore, expires, draft.issuedAt.or default⟩
  period.check.mapError .refused
  return period

/-- One audience is a string, several are an array. -/
def audienceValue? : List String → Option Json
  | [] => none
  | [audience] => some (.string audience)
  | audiences => some (.array (audiences.map .string))

def members (draft : Draft) : List (String × Json) :=
  (draft.issuer.map fun issuer => ("iss", .string issuer)).toList ++
    ((audienceValue? draft.audiences).map fun value => ("aud", value)).toList ++
    (draft.actorToken.map fun raw => ("actort", .string raw)).toList

def claimSet (draft : Draft) (mapping : ClaimMapping) (settings : Settings) (now : Instant) :
    Except CreationError ClaimSet := do
  let period ← draft.period settings now
  return (draft.members ++ period.members).foldl
    (fun claims member => claims.insert member.1 member.2) (mapping.assemble draft.claims)

end Draft

end SecurityToken
