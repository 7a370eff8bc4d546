import SqlTemplate.Error
import SqlTemplate.Number.Fixed
import SqlTemplate.Value.Access

/-! Messages with directives. A percent sign starts a directive, which names a conversion and may
give flags, a width and a precision; it takes the next argument, or the value of a key when the
arguments are a mapping. A directive may ask for the character of any number below 0x110000, and
half of a surrogate pair is the number of no character; what would hold one is no text. -/
namespace SqlTemplate.Message

open Number

/-- Where the arguments of directives come from. -/
inductive Arguments
  /-- Values for the directives in turn. -/
  | listed (rest : List Value)
  /-- A mapping whose keys directives name; the next argument is the mapping itself, or the value
  of the key that was named last, once. -/
  | keyed (entries : List (Value × Value)) (next : Option Value)

def Arguments.take : Arguments → Except FaultKind (Value × Arguments)
  | listed (value :: rest) => .ok (value, listed rest)
  | keyed entries (some value) => .ok (value, keyed entries none)
  | _ => .error .wrongType

/-- Makes the value of a key the next argument. -/
def Arguments.choose (key : String) : Arguments → Except FaultKind Arguments
  | listed _ => .error .wrongType
  | keyed entries _ =>
    match Value.lookup? entries (.str key) with
    | some value => .ok (keyed entries (some value))
    | none => .error .missingKey

/-- Every listed argument must be used. -/
def Arguments.isUsed : Arguments → Bool
  | listed rest => rest.isEmpty
  | keyed .. => true

/-- A directive before its conversion. -/
structure Layout where
  left : Bool
  zeros : Bool
  plus : Bool
  space : Bool
  alternate : Bool
  width : Nat
  precision : Option Nat

def Layout.plain : Layout :=
  { left := false, zeros := false, plus := false, space := false, alternate := false,
    width := 0, precision := none }

/-- The layout with a flag set, if a character is a flag. -/
def Layout.flag? (layout : Layout) : Char → Option Layout
  | '-' => some { layout with left := true }
  | '0' => some { layout with zeros := true }
  | '+' => some { layout with plus := true }
  | ' ' => some { layout with space := true }
  | '#' => some { layout with alternate := true }
  | _ => none

def readFlags (layout : Layout) : List Char → Layout × List Char
  | [] => (layout, [])
  | c :: rest =>
    match layout.flag? c with
    | some layout => readFlags layout rest
    | none => (layout, c :: rest)

def Layout.fill (layout : Layout) (text : List Char) : List Char :=
  let missing := layout.width - text.length
  if layout.left then text ++ List.replicate missing ' ' else List.replicate missing ' ' ++ text

/-- Fills the text of a number, which has a sign and may have a mark of its base, up to the width;
zeros go behind the two. -/
def Layout.fillNumber (layout : Layout) (negative : Bool) (base digits : List Char) : List Char :=
  let sign :=
    if negative then ['-'] else if layout.plus then ['+'] else if layout.space then [' '] else []
  let front := sign ++ base
  if layout.zeros && !layout.left then
    front ++ List.replicate (layout.width - front.length - digits.length) '0' ++ digits
  else layout.fill (front ++ digits)

/-- The text of a value, cut to the precision. -/
def Layout.text (layout : Layout) (text : String) : List Char :=
  layout.fill (match layout.precision with
    | some n => text.toList.take n
    | none => text.toList)

/-- The whole number of a numeric value. -/
def wholeNumber : Value → Except FaultKind Int
  | .str _ => .error .wrongType
  | .bytes .. => .error .wrongType
  | value => value.toInteger

def Layout.integer (layout : Layout) (base : Nat) (mark : List Char) (upper : Bool) (n : Int) :
    List Char :=
  let digits := Nat.toDigits base n.natAbs
  let digits := if upper then digits.map Char.toUpper else digits
  let digits := List.replicate (layout.precision.getD 0 - digits.length) '0' ++ digits
  layout.fillNumber (n < 0) (if layout.alternate then mark else []) digits

/-- The double of a numeric value. -/
def doubleOf : Value → Except FaultKind Binary64
  | .bool b => .ok (Binary64.ofDecimal false (if b then 1 else 0) 0)
  | .int n =>
    match Binary64.ofDecimal (n < 0) n.natAbs 0 with
    | .infinity _ => .error .overflow
    | x => .ok x
  | .float x => .ok x
  | .decimal (.finite negative coefficient exponent) =>
    .ok (Binary64.ofDecimal negative coefficient exponent)
  | .decimal (.infinity negative) => .ok (.infinity negative)
  | .decimal (.nan _ signaling _) => if signaling then .error .badValue else .ok .nan
  | _ => .error .wrongType

/-- A double with places after the point, with an exponent, or with significant digits. -/
def Layout.double (layout : Layout) (conversion : Char) (x : Binary64) : List Char :=
  let upper := conversion.isUpper
  let places := layout.precision.getD 6
  let mark := if upper then 'E' else 'e'
  let word (text : String) := if upper then text.toList.map Char.toUpper else text.toList
  match x with
  | .nan => layout.fillNumber false [] (word "nan")
  | .infinity negative => layout.fillNumber negative [] (word "inf")
  | .finite negative mantissa exponent =>
    let (num, den) := Binary64.magnitude mantissa exponent
    layout.fillNumber negative [] <|
      match conversion.toLower with
      | 'f' => fixedPlaces num den places layout.alternate
      | 'e' => scientificPlaces num den places layout.alternate mark
      | _ => generalDigits num den places layout.alternate mark

/-- What is written for a directive: characters, unless no text can hold it. -/
abbrev Written := Option (List Char)

def character? (n : Nat) : Option Char :=
  if n.isValidChar then some (Char.ofNat n) else none

/-- The character that a value stands for. -/
def characterOf : Value → Except FaultKind (Option Char)
  | .str text =>
    match text.toList with
    | [c] => .ok (some c)
    | _ => .error .wrongType
  | value =>
    match value.toIndex with
    | .ok n => if 0 ≤ n ∧ n < 0x110000 then .ok (character? n.toNat) else .error .overflow
    | .error kind => .error kind

/-- A number that is written in decimal digits has at most as many as a numeral that is read. -/
def decimalNumber (value : Value) : Except FaultKind Int := do
  let n ← wholeNumber value
  if Value.hasWritableDigits n then return n else .error .badValue

/-- A literal without characters beyond ASCII. -/
def asciiLiteral (literal : String) : String :=
  String.ofList (literal.toList.flatMap fun c =>
    if c.toNat < 0x80 then [c]
    else if c.toNat < 0x100 then Text.backslash :: 'x' :: Text.hex 2 c.toNat
    else if c.toNat < 0x10000 then Text.backslash :: 'u' :: Text.hex 4 c.toNat
    else Text.backslash :: 'U' :: Text.hex 8 c.toNat)

def isIntegral (conversion : Char) : Bool := ['d', 'i', 'u', 'x', 'X', 'o'].contains conversion

def isFractional (conversion : Char) : Bool := ['e', 'f', 'g'].contains conversion.toLower

/-- The text of a value under a conversion. -/
def Layout.convert (layout : Layout) (conversion : Char) (value : Value) :
    Except FaultKind Written :=
  if conversion = 's' then value.toText.map (layout.text ·)
  else if conversion = 'r' then value.toLiteral.map (layout.text ·)
  else if conversion = 'a' then
    value.toLiteral.map fun literal => layout.text (asciiLiteral literal)
  else if conversion = 'c' then
    (characterOf value).map fun c => c.map fun c => layout.fill [c]
  else if conversion = 'x' then value.toIndex.map (layout.integer 16 ['0', 'x'] false ·)
  else if conversion = 'X' then value.toIndex.map (layout.integer 16 ['0', 'X'] true ·)
  else if conversion = 'o' then value.toIndex.map (layout.integer 8 ['0', 'o'] false ·)
  else if isIntegral conversion then (decimalNumber value).map (layout.integer 10 [] false ·)
  else if isFractional conversion then (doubleOf value).map (layout.double conversion ·)
  else .error .badValue

/-- The most characters that a directive may be filled up with. -/
def longestFilling : Nat := Nat.pow 10 7

/-- The greatest precision of an integer. -/
def greatestPrecision : Nat := Nat.pow 2 31 - 4

/-- Whether a directive is not filled up beyond measure. Only for numbers does the precision ask
for characters. -/
def Layout.isModest (layout : Layout) (conversion : Char) : Bool :=
  layout.width ≤ longestFilling &&
    (!(isIntegral conversion || isFractional conversion) ||
      layout.precision.getD 0 ≤ longestFilling)

/-- The text of a value under a conversion, if there is room for it. A value that does not suit the
conversion is found before. -/
def Layout.write (layout : Layout) (conversion : Char) (value : Value) :
    Except FaultKind Written :=
  if layout.isModest conversion then layout.convert conversion value
  else do
    let _ ← Layout.plain.convert conversion value
    if isIntegral conversion && layout.precision.getD 0 > greatestPrecision then .error .overflow
    else .error .outOfMemory

/-- The key of a directive: it ends at the parenthesis that matches its opening one. -/
def readKey? : Nat → List Char → Option (List Char × List Char)
  | _, [] => none
  | depth, c :: rest =>
    if c = ')' ∧ depth = 0 then some ([], rest)
    else
      let depth := if c = '(' then depth + 1 else if c = ')' then depth - 1 else depth
      (readKey? depth rest).map fun (key, rest) => (c :: key, rest)

/-- Reads a number in a directive: digits, or a star that takes an argument. The number must lie
below a limit, and one that is taken also not below its negative. -/
def readSize (limit : Nat) (arguments : Arguments) :
    List Char → Except FaultKind (Option Int × Arguments × List Char)
  | '*' :: rest => do
    let (value, arguments) ← arguments.take
    let n ← value.toIndex
    if -limit ≤ n ∧ n < limit then .ok (some n, arguments, rest) else .error .overflow
  | text =>
    match Numeral.spanDigits text with
    | ([], rest) => .ok (none, arguments, rest)
    | (digits, rest) =>
      let n := Numeral.value digits
      if n < limit then .ok (some (n : Int), arguments, rest) else .error .badValue

/-- Carries out a directive after its percent sign. -/
def directive (arguments : Arguments) (text : List Char) :
    Except FaultKind (Written × Arguments × List Char) := do
  let (arguments, text) ←
    match text with
    | '(' :: rest =>
      match arguments, readKey? 0 rest with
      | .listed _, _ => .error .wrongType
      | _, none => .error .badValue
      | _, some (key, rest) => (arguments.choose (String.ofList key)).map (·, rest)
    | _ => .ok (arguments, text)
  let (layout, text) := readFlags .plain text
  let (width, arguments, text) ← readSize (Nat.pow 2 63) arguments text
  let layout := { layout with
    left := layout.left || width.any (· < 0), width := (width.getD 0).natAbs }
  let (layout, arguments, text) ←
    match text with
    | '.' :: rest => do
      let (precision, arguments, rest) ← readSize (Nat.pow 2 31) arguments rest
      .ok ({ layout with precision := some (precision.getD 0).toNat }, arguments, rest)
    | _ => .ok (layout, arguments, text)
  let text := match text with
    | c :: rest => if ['h', 'l', 'L'].contains c then rest else text
    | [] => []
  match text with
  | [] => .error .badValue
  | conversion :: rest =>
    let (value, arguments) ← arguments.take
    let written ← layout.write conversion value
    return (written, arguments, rest)

/-- Writes a message with its directives carried out. Two percent signs in a row stand for one. The
fuel is the length of the message. -/
def write : Nat → Arguments → List Char → Except FaultKind Written
  | 0, _, _ => .error .badValue
  | fuel + 1, arguments, text =>
    match text with
    | [] => if arguments.isUsed then .ok (some []) else .error .wrongType
    | '%' :: '%' :: rest => (write fuel arguments rest).map fun more => more.map ('%' :: ·)
    | '%' :: rest => do
      let (written, arguments, rest) ← directive arguments rest
      let more ← write fuel arguments rest
      return written.bind fun front => more.map (front ++ ·)
    | c :: rest => (write fuel arguments rest).map fun more => more.map (c :: ·)

/-- A message with its arguments filled in, if a text can hold it. Without arguments it is left
alone; a mapping that is the only argument is looked into by key. -/
def format (message : String) (arguments : List Value) : Except FaultKind (Option String) :=
  let source :=
    match arguments with
    | [.mapping (entry :: rest)] =>
      Arguments.keyed (entry :: rest) (some (.mapping (entry :: rest)))
    | _ => .listed arguments
  if arguments.isEmpty then .ok (some message)
  else
    (write (message.length + 1) source message.toList).map fun written =>
      written.map String.ofList

end SqlTemplate.Message
