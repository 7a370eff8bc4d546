/-! Identifiers that may be written into SQL text without quoting. Letters are compared without
regard to case, which lets four characters beyond ASCII through: they fold to `i`, `s` or `k`. -/
namespace SqlTemplate.Text

/-- The characters outside ASCII that equal an ASCII letter when case is ignored: the dotted and
the dotless i, the long s and the kelvin sign. -/
def foldsToAsciiLetter (c : Char) : Bool :=
  c.toNat == 0x130 || c.toNat == 0x131 || c.toNat == 0x17F || c.toNat == 0x212A

/-- A character that an identifier keeps. -/
def isIdentifierChar (c : Char) : Bool :=
  c.isAlphanum || c == '_' || c == '-' || c == '.' || c == '\x60' || foldsToAsciiLetter c

/-- The characters of a text that an identifier may have, in order. -/
def sanitize (text : String) : String :=
  String.ofList (text.toList.filter isIdentifierChar)

end SqlTemplate.Text
