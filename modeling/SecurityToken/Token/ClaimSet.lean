import SecurityToken.Fault
import SecurityToken.Instant
import SecurityToken.Json.Basic

/-!
Claim sets: JSON members in order, with readings of the registered claims. A time claim counts whole
seconds from the first of January 1970.
-/

namespace SecurityToken

structure ClaimSet where
  members : Table Json

namespace ClaimSet

def empty : ClaimSet := ⟨∅⟩

/-- The names that a token's frame sets, rather than its subject. -/
def registered : List String := ["aud", "exp", "iat", "iss", "nbf"]

def get? (claims : ClaimSet) (name : String) : Option Json :=
  claims.members.get? name

def insert (claims : ClaimSet) (name : String) (value : Json) : ClaimSet :=
  ⟨claims.members.insert name value⟩

def insertText (claims : ClaimSet) (name value : String) : ClaimSet :=
  claims.insert name (.string value)

def erase (claims : ClaimSet) (name : String) : ClaimSet :=
  ⟨claims.members.erase name⟩

def contains (claims : ClaimSet) (name : String) : Bool :=
  claims.members.contains name

def size (claims : ClaimSet) : Nat :=
  claims.members.size

def names (claims : ClaimSet) : List String :=
  claims.members.keys

def text? (claims : ClaimSet) (name : String) : Option String :=
  (claims.get? name).bind Json.string?

def issuer? (claims : ClaimSet) : Option String := claims.text? "iss"

def subject? (claims : ClaimSet) : Option String := claims.text? "sub"

/-- The text of the token of the party that acts for the subject. -/
def actorToken? (claims : ClaimSet) : Option String := claims.text? "actort"

/-- The audiences: a string alone, or the strings of an array. -/
def audiences (claims : ClaimSet) : List String :=
  match claims.get? "aud" with
  | some (.string audience) => [audience]
  | some (.array values) => values.filterMap Json.string?
  | _ => []

def time (claims : ClaimSet) (name : String) : Except Fault (Option Instant) :=
  match claims.get? name with
  | none => .ok none
  | some value =>
      match value.signed? with
      | none =>
          .error (.malformed ("claim '" ++ name ++ "' is not an integer number of seconds"))
      | some seconds =>
          match Instant.ofSeconds? seconds with
          | none => .error (.malformed ("claim '" ++ name ++ "' is out of range"))
          | some instant => .ok (some instant)

def expires (claims : ClaimSet) : Except Fault (Option Instant) := claims.time "exp"

def notBefore (claims : ClaimSet) : Except Fault (Option Instant) := claims.time "nbf"

def issuedAt (claims : ClaimSet) : Except Fault (Option Instant) := claims.time "iat"

/-- An instant as the value of a time claim; a fraction of a second is dropped. -/
def timeValue (instant : Instant) : Json :=
  .integer ⟨instant.seconds, by
    have := instant.lower
    have := instant.upper
    simp only [Instant.seconds]
    omega⟩

def setTime (claims : ClaimSet) (name : String) (instant : Instant) : ClaimSet :=
  claims.insert name (timeValue instant)

def json (claims : ClaimSet) : Json :=
  .object claims.members.entries

end ClaimSet

end SecurityToken
