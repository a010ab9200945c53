import SecurityToken.Json.Parser
import SecurityToken.Token.ClaimSet

/-!
Claims about a subject: each has a type, a value written as text, and the kind of JSON value that
the text stands for. An array of a claim set becomes one claim for each of its items, and claims of
one name become an array again.
-/

namespace SecurityToken

inductive ClaimKind where
  | string
  | integer
  | double
  | boolean
  | json
  | null
  deriving DecidableEq, Repr

namespace ClaimKind

def all : List ClaimKind := [string, integer, double, boolean, json, null]

def name : ClaimKind → String
  | string => "string"
  | integer => "integer"
  | double => "double"
  | boolean => "boolean"
  | json => "json"
  | null => "null"

def ofName? (name : String) : Option ClaimKind :=
  all.find? fun kind => kind.name == name

def ofJson : Json → ClaimKind
  | .null => null
  | .bool _ => boolean
  | .integer _ => integer
  | .double _ => double
  | .string _ => string
  | .array _ => json
  | .object _ => json

end ClaimKind

structure Claim where
  type : String
  value : String
  kind : ClaimKind
  issuer : String
  originalIssuer : String
  properties : Table String

namespace Claim

def localAuthority : String := "LOCAL AUTHORITY"

/-- The property that holds the wire name of a claim whose type was mapped. -/
def shortTypeProperty : String :=
  "http://schemas.xmlsoap.org/ws/2005/05/identity/claimproperties/ShortTypeName"

def new (type value : String) (kind : ClaimKind) : Claim :=
  ⟨type, value, kind, localAuthority, localAuthority, ∅⟩

/-- The text of a value: a string is its own text, null has an empty one, and any other value is
written as JSON. -/
def valueText : Json → String
  | .string value => value
  | .null => ""
  | value => value.text

def ofItem (type : String) (value : Json) : Claim :=
  new type (valueText value) (.ofJson value)

/-- The claims of a member of a claim set: one for each item of an array. -/
def ofJson (type : String) : Json → List Claim
  | .array items => items.map (ofItem type)
  | value => [ofItem type value]

/-- The value of a claim. A text that is no JSON counts as a string. -/
def json (claim : Claim) : Json :=
  match claim.kind with
  | .string => .string claim.value
  | .null => .null
  | _ => (Json.ofText? claim.value).getD (.string claim.value)

def withIssuer (claim : Claim) (issuer : String) : Claim :=
  { claim with issuer := issuer, originalIssuer := issuer }

def withProperty (claim : Claim) (name value : String) : Claim :=
  { claim with properties := claim.properties.insert name value }

def shortType? (claim : Claim) : Option String :=
  claim.properties.get? shortTypeProperty

def text (claim : Claim) : String :=
  claim.type ++ ": " ++ claim.value

end Claim

/-- Adds a value under a name; beside another value there, the two become an array. -/
def ClaimSet.add (claims : ClaimSet) (name : String) (value : Json) : ClaimSet :=
  match claims.get? name with
  | none => claims.insert name value
  | some (.array items) => claims.insert name (.array (items ++ [value]))
  | some first => claims.insert name (.array [first, value])

def ClaimSet.ofEntries (entries : List (String × Json)) : ClaimSet :=
  entries.foldl (fun claims entry => claims.add entry.1 entry.2) .empty

end SecurityToken
