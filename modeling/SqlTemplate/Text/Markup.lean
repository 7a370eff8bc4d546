import SqlTemplate.Text.Identifier

/-! Removal of markup: first comments, then tags, each in one pass from left to right. A removed
piece is not looked at again, and what its removal joins is not searched a second time. -/
namespace SqlTemplate.Text

/-- The number of characters up to the end of a comment whose opening has been read. A comment
that is never closed reaches to the end of the text, or to a line feed that ends the text. -/
def commentLength : List Char → Nat
  | [] => 0
  | '-' :: '-' :: '>' :: _ => 3
  | '\n' :: [] => 0
  | _ :: rest => commentLength rest + 1

/-- Removes comments. The counter is the number of characters of a comment still to be dropped. -/
def stripComments : Nat → List Char → List Char
  | _, [] => []
  | dropping + 1, _ :: rest => stripComments dropping rest
  | 0, c :: rest =>
    match c, rest with
    | '<', '!' :: '-' :: '-' :: body => stripComments (3 + commentLength body) rest
    | _, _ => c :: stripComments 0 rest

/-- A character that makes the `<` before it the start of a tag. -/
def opensTag (c : Char) : Bool :=
  c.isAlpha || c == '!' || c == '?' || c == '/' || foldsToAsciiLetter c

/-- Removes tags. A tag reaches to the next `>`, or to the end of the text if there is none. -/
def stripTagsFrom : Bool → List Char → List Char
  | _, [] => []
  | true, c :: rest => stripTagsFrom (c != '>') rest
  | false, c :: rest =>
    match c, rest with
    | '<', next :: _ =>
      if opensTag next then stripTagsFrom true rest else c :: stripTagsFrom false rest
    | _, _ => c :: stripTagsFrom false rest

/-- A text without comments and tags. -/
def stripMarkup (text : String) : String :=
  String.ofList (stripTagsFrom false (stripComments 0 text.toList))

end SqlTemplate.Text
