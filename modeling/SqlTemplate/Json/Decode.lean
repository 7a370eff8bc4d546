import SqlTemplate.Error
import SqlTemplate.Number.Numeral
import SqlTemplate.Text.Quoted
import SqlTemplate.Value.Equality

/-! Reading of JSON texts. A text is read byte by byte, each byte as the character of its number;
only the content of a string is decoded. What is read comes with the bytes after it. Numbers
without fraction and exponent are integers, and all others are doubles. -/
namespace SqlTemplate.Json

open Number

/-- Drops the blanks that may separate the parts of a text. -/
def skipBlanks (bytes : List Char) : List Char :=
  bytes.dropWhile fun c => c == ' ' || c == '\t' || c == '\n' || c == '\r'

def bytesOf (text : String) : List Char :=
  (text.toList.flatMap String.utf8EncodeChar).map fun b => Char.ofNat b.toNat

def textOf (bytes : List Char) : Except FaultKind String :=
  match String.fromUTF8? (ByteArray.mk (bytes.map fun c => c.toNat.toUInt8).toArray) with
  | some text => .ok text
  | none => .error .badEncoding

def hexValue? (c : Char) : Option Nat :=
  if c.isDigit then some (c.toNat - 48)
  else if 'a' ≤ c ∧ c ≤ 'f' then some (c.toNat - 87)
  else if 'A' ≤ c ∧ c ≤ 'F' then some (c.toNat - 55)
  else none

/-- Reads four hexadecimal digits. -/
def readUnit? : List Char → Option (Nat × List Char)
  | a :: b :: c :: d :: rest => do
    let a ← hexValue? a
    let b ← hexValue? b
    let c ← hexValue? c
    let d ← hexValue? d
    return (((a * 16 + b) * 16 + c) * 16 + d, rest)
  | _ => none

/-- Reads the character of an escape with four digits. A high surrogate must be followed by a low
one, and neither may stand alone. -/
def readEscaped? (bytes : List Char) : Option (Char × List Char) := do
  let (high, rest) ← readUnit? bytes
  if 0xDC00 ≤ high ∧ high ≤ 0xDFFF then none
  else if 0xD800 ≤ high ∧ high ≤ 0xDBFF then
    match rest with
    | '\x5c' :: 'u' :: rest =>
      let (low, rest) ← readUnit? rest
      if 0xDC00 ≤ low ∧ low ≤ 0xDFFF then
        some (Char.ofNat (0x10000 + (high - 0xD800) * 0x400 + (low - 0xDC00)), rest)
      else none
    | _ => none
  else some (Char.ofNat high, rest)

/-- The character of an escape with one letter. -/
def shortEscape? (c : Char) : Option Char :=
  [('n', '\n'), ('r', '\r'), ('t', '\t'), ('b', Char.ofNat 8), ('f', Char.ofNat 12),
    (Text.quotationMark, Text.quotationMark), (Text.backslash, Text.backslash),
    ('/', '/')].lookup c

/-- Reads the content of a string up to its closing quotation mark. The fuel is the number of
bytes; the bytes that were read are kept back to front. -/
def readContent : Nat → List Char → List Char → Except FaultKind (String × List Char)
  | 0, _, _ => .error .badJson
  | fuel + 1, content, bytes =>
    match bytes with
    | [] => .error .badJson
    | c :: rest =>
      if c = Text.quotationMark then (textOf content.reverse).map (·, rest)
      else if c.toNat < 0x20 then .error .badJson
      else if c ≠ Text.backslash then readContent fuel (c :: content) rest
      else
        match rest with
        | [] => .error .badJson
        | letter :: rest =>
          if letter = 'u' then
            match readEscaped? rest with
            | none => .error .badJson
            | some (c, rest) =>
              readContent fuel ((bytesOf (String.singleton c)).reverse ++ content) rest
          else
            match shortEscape? letter with
            | none => .error .badJson
            | some c => readContent fuel (c :: content) rest

/-- The longest text of an integer, with its sign. -/
def longestInteger : Nat := 4300

/-- An integer, unless it is too long. -/
def integerValue (negative : Bool) (digits : List Char) : Except FaultKind Value :=
  if digits.length + negative.toNat > longestInteger then .error .numberTooLarge
  else
    let n : Int := Numeral.value digits
    .ok (.int (if negative then -n else n))

/-- Reads a number after its sign. A number does not start with a superfluous zero, and has digits
on both sides of a point and after the mark of an exponent. -/
def readNumber (negative : Bool) (bytes : List Char) : Except FaultKind (Value × List Char) :=
  let (whole, rest) := Numeral.spanDigits bytes
  let (fraction, afterFraction) :=
    match rest with
    | '.' :: rest =>
      let (digits, rest) := Numeral.spanDigits rest
      (some digits, rest)
    | rest => (none, rest)
  let (power, rest) :=
    match afterFraction with
    | c :: body =>
      if c = 'e' ∨ c = 'E' then
        let (negative, body) := Numeral.spanSign body
        let (digits, rest) := Numeral.spanDigits body
        (some (negative, digits), rest)
      else (none, afterFraction)
    | [] => (none, [])
  let badWhole := match whole with
    | [] => true
    | '0' :: _ :: _ => true
    | _ => false
  if badWhole || fraction == some [] || power.any (fun p => p.2.isEmpty) then .error .badJson
  else
    match fraction, power with
    | none, none => (integerValue negative whole).map (·, rest)
    | _, _ =>
      let fraction := fraction.getD []
      let exponent : Int := match power with
        | none => 0
        | some (true, digits) => -(Numeral.value digits : Int)
        | some (false, digits) => Numeral.value digits
      match Binary64.ofDecimal negative (Numeral.value (whole ++ fraction))
          (exponent - fraction.length) with
      | .infinity _ => .error .numberTooLarge
      | x => .ok (.float x, rest)

/-- Reads a word that stands for a value. -/
def readWord (word : String) (value : Value) (bytes : List Char) :
    Except FaultKind (Value × List Char) :=
  if word.toList.isPrefixOf bytes then .ok (value, bytes.drop word.length) else .error .badJson

mutual
/-- Reads a value with at most so many brackets and braces open at a time. The fuel bounds the
number of parts, of which there are at most as many as bytes. -/
def readValue (depth : Nat) : Nat → List Char → Except FaultKind (Value × List Char)
  | 0, _ => .error .badJson
  | fuel + 1, bytes =>
    match skipBlanks bytes with
    | [] => .error .badJson
    | c :: rest =>
      if c = Text.quotationMark then
        (readContent (rest.length + 1) [] rest).map fun (text, rest) => (.str text, rest)
      else if depth = 0 ∧ (c = '[' ∨ c = '\x7b') then .error .tooDeep
      else if c = '[' then
        match skipBlanks rest with
        | ']' :: rest => .ok (.list [], rest)
        | _ => (readItems (depth - 1) fuel rest).map fun (items, rest) => (.list items, rest)
      else if c = '\x7b' then
        match skipBlanks rest with
        | '\x7d' :: rest => .ok (.mapping [], rest)
        | _ =>
          (readEntries (depth - 1) fuel rest).map fun (pairs, rest) => (.ofPairs pairs, rest)
      else if c = '-' then readNumber true rest
      else if c.isDigit then readNumber false (c :: rest)
      else if c = 't' then readWord "true" (.bool true) (c :: rest)
      else if c = 'f' then readWord "false" (.bool false) (c :: rest)
      else readWord "null" .null (c :: rest)

/-- Reads the values of an array up to its closing bracket. -/
def readItems (depth : Nat) : Nat → List Char → Except FaultKind (List Value × List Char)
  | 0, _ => .error .badJson
  | fuel + 1, bytes => do
    let (value, rest) ← readValue depth fuel bytes
    match skipBlanks rest with
    | ',' :: rest =>
      let (more, rest) ← readItems depth fuel rest
      return (value :: more, rest)
    | ']' :: rest => return ([value], rest)
    | _ => .error .badJson

/-- Reads the entries of an object up to its closing brace. -/
def readEntries (depth : Nat) :
    Nat → List Char → Except FaultKind (List (Value × Value) × List Char)
  | 0, _ => .error .badJson
  | fuel + 1, bytes => do
    let (key, rest) ←
      match skipBlanks bytes with
      | c :: rest =>
        if c = Text.quotationMark then readContent (rest.length + 1) [] rest
        else .error .badJson
      | [] => .error .badJson
    let rest ←
      match skipBlanks rest with
      | ':' :: rest => .ok rest
      | _ => .error .badJson
    let (value, rest) ← readValue depth fuel rest
    match skipBlanks rest with
    | ',' :: rest =>
      let (more, rest) ← readEntries depth fuel rest
      return ((.str key, value) :: more, rest)
    | '\x7d' :: rest => return ([(.str key, value)], rest)
    | _ => .error .badJson
end

/-- The most brackets and braces that may be open at a time. -/
def greatestDepth : Nat := 990

/-- The value of a whole text; only blanks may follow it. -/
def decodeBytes (bytes : List Char) : Except FaultKind Value := do
  let (value, rest) ← readValue greatestDepth (2 * bytes.length + 2) bytes
  if (skipBlanks rest).isEmpty then return value else .error .badJson

/-- The value of a JSON text, which is given as a text or as bytes. -/
def decode : Value → Except FaultKind Value
  | .str text => decodeBytes (bytesOf text)
  | .bytes _ content => decodeBytes (content.map fun b => Char.ofNat b.toNat)
  | _ => .error .wrongType

end SqlTemplate.Json
