import SqlTemplate.Text.Quoted

/-! Placeholder tokens, and the cutting of a template at them. A token is a question mark, at most
one kind character and any number of digits, as many as there are; the digits have no meaning.
A template is cut into literals and tokens in turn, with a literal at both ends. -/
namespace SqlTemplate

/-- What a token asks its argument to be. -/
inductive TokenKind
  | standard | string | float | integer | boolean | null | raw | strippedString
  | intArray | stringArray | columnsByComma | columnsByAnd
  deriving DecidableEq, Repr, Inhabited

namespace TokenKind

def all : List TokenKind :=
  [standard, string, float, integer, boolean, null, raw, strippedString, intArray, stringArray,
    columnsByComma, columnsByAnd]

/-- The letters of a kind, at most one. -/
def letters : TokenKind → List Char
  | standard => []
  | string => ['s']
  | float => ['f']
  | integer => ['i']
  | boolean => ['b']
  | null => ['n']
  | raw => ['r']
  | strippedString => ['q']
  | intArray => ['a']
  | stringArray => ['j']
  | columnsByComma => ['h']
  | columnsByAnd => ['w']

def label : TokenKind → String
  | standard => "DEFAULT"
  | string => "STRING"
  | float => "FLOAT"
  | integer => "INTEGER"
  | boolean => "BOOLEAN"
  | null => "NULL"
  | raw => "RAW"
  | strippedString => "STRIPPED_STRING"
  | intArray => "INT_ARRAY"
  | stringArray => "STRING_ARRAY"
  | columnsByComma => "COLUMN_MAP_COMMA"
  | columnsByAnd => "COLUMN_MAP_AND"

def ofLabel? (label : String) : Option TokenKind :=
  all.find? fun kind => kind.label == label

/-- The kind of a letter in either case; no letter is a kind too. -/
def ofLetters? (letters : List Char) : Option TokenKind :=
  all.find? fun kind => kind.letters == letters.map Char.toLower

end TokenKind

structure Token where
  /-- Without a kind if the kind character is none that has a meaning. -/
  kind : Option TokenKind
  text : String
  /-- The number of characters before the token. -/
  position : Int
  /-- The number of tokens before the token, which is the place of its argument. -/
  ordinal : Int
  deriving DecidableEq, Repr, Inhabited

def Token.literal (token : Token) : String :=
  "PlaceholderToken(kind=" ++ (token.kind.map TokenKind.label).getD "None" ++
    ", text=" ++ Text.quoted token.text ++ ", position=" ++ toString token.position ++
    ", ordinal=" ++ toString token.ordinal ++ ")"

inductive Segment
  | literal (text : String)
  | token (token : Token)
  deriving DecidableEq, Repr, Inhabited

/-- How a piece of a template is shown: a text in quotes, or a token with all that is known of
it. -/
def Segment.shown : Segment → String
  | literal text => Text.quoted text
  | token it => it.literal

namespace Template

/-- A character that can follow the question mark of a token: a letter of a kind in either case, a
bar, or a character beyond ASCII that equals `i` or `s` when case is ignored. -/
def isKindChar (c : Char) : Bool :=
  "asifhjwrqbn".toList.contains c.toLower || c == '|' ||
    c.toNat == 0x130 || c.toNat == 0x131 || c.toNat == 0x17F

/-- What follows the question mark of a token. -/
structure Mark where
  letter : Option Char
  digits : List Char
  deriving DecidableEq, Repr

def Mark.chars (mark : Mark) : List Char :=
  '?' :: mark.letter.toList ++ mark.digits

def Mark.kind (mark : Mark) : Option TokenKind :=
  TokenKind.ofLetters? mark.letter.toList

/-- A kind character at the front of a text, if there is one. -/
def spanLetter : List Char → Option Char × List Char
  | [] => (none, [])
  | c :: rest => if isKindChar c then (some c, rest) else (none, c :: rest)

/-- Splits what follows a question mark into the rest of the token and what comes after it. -/
def munch (text : List Char) : Mark × List Char :=
  let (letter, rest) := spanLetter text
  ({ letter := letter, digits := rest.takeWhile Char.isDigit }, rest.dropWhile Char.isDigit)

/-- A template cut at its tokens: the first literal, then each token with the literal after it. -/
structure Cut where
  first : List Char
  rest : List (Mark × List Char)
  deriving DecidableEq, Repr

/-- Cuts a template. No token reaches beyond the next question mark, so a question mark in front of
a text takes its token from the first literal of that text. -/
def cut : List Char → Cut
  | [] => { first := [], rest := [] }
  | c :: text =>
    let after := cut text
    if c = '?' then
      let (mark, literal) := munch after.first
      { first := [], rest := (mark, literal) :: after.rest }
    else { after with first := c :: after.first }

/-- The segments after the first literal, placed from a position and an ordinal on. -/
def place (position ordinal : Nat) : List (Mark × List Char) → List Segment
  | [] => []
  | (mark, literal) :: rest =>
    let text := mark.chars
    .token { kind := mark.kind, text := String.ofList text, position := position,
             ordinal := ordinal } ::
      .literal (String.ofList literal) ::
        place (position + text.length + literal.length) (ordinal + 1) rest

/-- The segments of a template. -/
def segments (template : String) : List Segment :=
  let pieces := cut template.toList
  .literal (String.ofList pieces.first) :: place pieces.first.length 0 pieces.rest

def tokens (segments : List Segment) : List Token :=
  segments.filterMap fun
    | .literal _ => none
    | .token token => some token

def hasTokens (template : String) : Bool := template.toList.contains '?'

end Template

end SqlTemplate
