import SecurityToken.Json.Basic
import SecurityToken.Table

/-!
Token headers: JSON members in order. The registered ones count only when they are strings.
-/

namespace SecurityToken

structure Header where
  members : Table Json

namespace Header

def empty : Header := ⟨∅⟩

def get? (header : Header) (name : String) : Option Json :=
  header.members.get? name

def insert (header : Header) (name : String) (value : Json) : Header :=
  ⟨header.members.insert name value⟩

def insertText (header : Header) (name value : String) : Header :=
  header.insert name (.string value)

def insertText? (header : Header) (name : String) (value : Option String) : Header :=
  match value with
  | some value => header.insertText name value
  | none => header

def text? (header : Header) (name : String) : Option String :=
  (header.get? name).bind Json.string?

def algorithm? (header : Header) : Option String := header.text? "alg"

def encryption? (header : Header) : Option String := header.text? "enc"

def keyId? (header : Header) : Option String := header.text? "kid"

def thumbprint? (header : Header) : Option String := header.text? "x5t"

def type? (header : Header) : Option String := header.text? "typ"

def contentType? (header : Header) : Option String := header.text? "cty"

def json (header : Header) : Json :=
  .object header.members.entries

end Header

end SecurityToken
