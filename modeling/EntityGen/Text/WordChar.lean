/-! The characters of plain words: ASCII letters and digits, and the underscore. -/

namespace EntityGen.Text

/-- Whether a character is an ASCII letter or digit, or an underscore. -/
def isWordChar (c : Char) : Bool := c.isAlphanum || c == '_'

@[simp] theorem isWordChar_underscore : isWordChar '_' = true := rfl

end EntityGen.Text
