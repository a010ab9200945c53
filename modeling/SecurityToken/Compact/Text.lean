import SecurityToken.Fault

/-!
The text of a compact token: segments between dots, and what of it a signature covers.
Main statement: the segments joined with dots are the text.
-/

namespace SecurityToken.Compact

/-- The parts of a text between its dots; one more than there are dots. -/
def segments (text : String) : List String :=
  (text.toList.splitOn '.').map String.ofList

/-- One segment, empty beyond the last. -/
def segment (text : String) (index : Nat) : String :=
  (segments text).getD index ""

def join (segments : List String) : String :=
  String.ofList (['.'].intercalate (segments.map String.toList))

theorem join_singleton (part : String) : join [part] = part := by
  simp [join]

theorem join_cons_cons (first second : String) (rest : List String) :
    join (first :: second :: rest) = first ++ "." ++ join (second :: rest) := by
  simp [join, ← String.toList_inj]

/-- The text up to the second dot, or all of it. -/
def signingInput (text : String) : String :=
  join ((segments text).take 2)

theorem join_segments (text : String) : join (segments text) = text := by
  have hmap : (segments text).map String.toList = text.toList.splitOn '.' := by
    simp [segments, Function.comp_def]
  rw [join, hmap, List.intercalate_splitOn, String.ofList_toList]

def checkSize (text : String) (maximum : Nat) : Except Fault Unit :=
  if maximum < text.utf8ByteSize then
    .error <| (Fault.new .tokenTooLarge
        ("token is " ++ toString text.utf8ByteSize ++ " bytes, maximum is " ++ toString maximum))
      |>.withContext Detail.tokenSize (toString text.utf8ByteSize)
      |>.withContext Detail.maximumSize (toString maximum)
  else .ok ()

end SecurityToken.Compact
