/-!
White space as Unicode defines it, and texts made of nothing else.
Main statement: every white-space character of ASCII is blank here.
-/

namespace SecurityToken.Text

/-- The characters with the Unicode property of white space. -/
def isBlankChar (character : Char) : Bool :=
  let code := character.toNat
  (9 ≤ code && code ≤ 13) || code == 0x20 || code == 0x85 || code == 0xA0 || code == 0x1680 ||
    (0x2000 ≤ code && code ≤ 0x200A) || code == 0x2028 || code == 0x2029 || code == 0x202F ||
    code == 0x205F || code == 0x3000

theorem isBlankChar_of_isWhitespace {character : Char} (h : character.isWhitespace) :
    isBlankChar character := by
  simp only [Char.isWhitespace, Bool.or_eq_true, decide_eq_true_eq] at h
  rcases h with ((rfl | rfl) | rfl) | rfl <;> decide

def isBlank (text : String) : Bool :=
  text.toList.all isBlankChar

def dropBlank (text : String) : List Char :=
  text.toList.dropWhile isBlankChar

end SecurityToken.Text
