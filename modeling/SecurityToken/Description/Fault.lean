import SecurityToken.Description.Basic
import SecurityToken.Fault

/-!
Descriptions of faults: kind, message, details, and the fault that is nested inside, if any. A kind
that is not known is an internal fault.
-/

namespace SecurityToken.Fault

def ofDescriptionWithin (depth : Nat) (description : Json) : Described Fault := do
  let message ← description.textAt "message"
  let kind := (FaultKind.ofName? (← description.textAt "kind")).getD .internal
  let fault : Fault :=
    { Fault.new kind message with context := .ofList (description.pairsAt "context") }
  match depth, description.at? "nested" with
  | depth + 1, some nested => return fault.wrapping (← ofDescriptionWithin depth nested)
  | _, _ => return fault

/-- The fault of a description. No text of JSON nests deeper than this. -/
def ofDescription (description : Json) : Described Fault :=
  ofDescriptionWithin 128 description

end SecurityToken.Fault
