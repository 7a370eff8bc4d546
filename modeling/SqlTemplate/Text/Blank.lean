/-! Blank characters and the words between them. Blanks are those of Unicode: the characters with
the property White_Space together with the four information separators. -/
namespace SqlTemplate.Text

/-- A character that separates words. -/
def isBlank (c : Char) : Bool :=
  let n := c.toNat
  (9 ≤ n && n ≤ 13) || (28 ≤ n && n ≤ 32) || n == 0x85 || n == 0xA0 || n == 0x1680 ||
    (0x2000 ≤ n && n ≤ 0x200A) || n == 0x2028 || n == 0x2029 || n == 0x202F || n == 0x205F ||
    n == 0x3000

/-- One of the six blanks of ASCII that surround a numeral without being part of it. -/
def isAsciiBlank (c : Char) : Bool :=
  (9 ≤ c.toNat && c.toNat ≤ 13) || c == ' '

/-- Drops the characters of a class from both ends. -/
def trimBy (drop : Char → Bool) (text : List Char) : List Char :=
  ((text.dropWhile drop).reverse.dropWhile drop).reverse

def trim (text : String) : String :=
  String.ofList (trimBy isBlank text.toList)

/-- The first word: leading blanks are skipped, and the word ends before the next blank. -/
def firstWord (text : List Char) : List Char :=
  (text.dropWhile isBlank).takeWhile (fun c => !isBlank c)

end SqlTemplate.Text
