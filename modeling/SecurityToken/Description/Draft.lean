import SecurityToken.Description.Claim
import SecurityToken.Handler.Draft

/-!
Descriptions of drafts, as far as they need no key and no other token.
-/

namespace SecurityToken.Draft

def describedHeader (description : Json) : Described Header := do
  return ⟨.ofList (← (description.pairsAt "header").mapM fun member => do
    return (member.1, ← Json.jsonOf member.2))⟩

def ofDescription (description : Json) : Described Draft := do
  let subject := (description.textAt? "subject").map fun subject => Claim.new "sub" subject .string
  return {
    issuer := description.textAt? "issuer"
    audiences := description.textsAt "audiences"
    notBefore := ← description.instantAt? "not_before"
    expires := ← description.instantAt? "expires"
    issuedAt := ← description.instantAt? "issued_at"
    claims := subject.toList ++ (← Claim.describedAt description "claims")
    header := ← describedHeader description }

end SecurityToken.Draft
