import SecurityToken.Fault
import SecurityToken.Json.Conversion
import SecurityToken.Text.Number

/-!
Faults as JSON: the kind, the message, the details, and the cause. Numbers of keys are not told.
-/

namespace SecurityToken

def CryptoFault.report (fault : CryptoFault) : Json :=
  .object [("error", .string fault.name),
    ("message", .string (Text.withoutNumbers "key#" fault.message))]

def Fault.report : Fault → Json
  | ⟨kind, message, context, crypto, nested⟩ =>
      let source :=
        match nested with
        | some inner => some inner.report
        | none => crypto.map CryptoFault.report
      .object ([("error", .string kind.name), ("message", .string message),
        ("context", .ofTable context)] ++ (source.map fun source => ("source", source)).toList)

end SecurityToken
