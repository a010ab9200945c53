/-!
Texts in which numbers are left out that mean nothing to a reader elsewhere.
-/

namespace SecurityToken.Text

/-- Characters without the digits that follow a mark, wherever it occurs. -/
def dropNumbers (mark characters : List Char) : List Char :=
  match characters with
  | [] => []
  | first :: rest =>
      if mark.isPrefixOf (first :: rest) then
        mark ++ dropNumbers mark ((rest.drop (mark.length - 1)).dropWhile Char.isDigit)
      else first :: dropNumbers mark rest
termination_by characters.length
decreasing_by
  · have := (List.dropWhile_sublist Char.isDigit (l := rest.drop (mark.length - 1))).length_le
    simp only [List.length_drop, List.length_cons] at this ⊢
    omega
  · simp

def withoutNumbers (mark text : String) : String :=
  String.ofList (dropNumbers mark.toList text.toList)

end SecurityToken.Text
