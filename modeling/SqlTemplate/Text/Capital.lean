/-! Capital letters of words that are compared with words of ASCII. -/
namespace SqlTemplate.Text

/-- The capital of a letter, where it is a letter of ASCII: the dotless i and the long s are small
letters with such a capital. Other letters beyond ASCII are left alone; so are the ligatures and
the sharp s, whose capitals are two letters. -/
def capital (c : Char) : Char :=
  if c.toNat = 0x131 then 'I' else if c.toNat = 0x17F then 'S' else c.toUpper

def capitals (word : List Char) : String := String.ofList (word.map capital)

end SqlTemplate.Text
