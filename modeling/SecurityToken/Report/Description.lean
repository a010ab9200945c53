import SecurityToken.Description.Basic
import SecurityToken.Report.Fault

/-!
Errors of descriptions as JSON.
-/

namespace SecurityToken.DescriptionError

def badInput (message : String) : Json :=
  .object [("error", .string "bad_input"), ("message", .string message)]

def report : DescriptionError → Json
  | missing field => badInput ("missing text field " ++ field)
  | notHexadecimal => badInput "not hexadecimal"
  | notJson => .object [("error", .string "BadJson")]
  | notObject => badInput "not an object"
  | outOfRange field => badInput field
  | unknown what => badInput ("unknown " ++ what)
  | refused fault => fault.report

end SecurityToken.DescriptionError
