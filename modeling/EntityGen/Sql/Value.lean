import EntityGen.Sql.Keyword
import EntityGen.Sql.Parser

/-! Names, numbers and literal values: the phrases that hold no other. A `Value` keeps what was
read and `Value.text` writes it; `Name` does the same for a name. -/

namespace EntityGen.Sql

/-- The token of what was found. -/
def Located.token? : Option Located → Option Token
  | some t => some t.token
  | none => none

/-- A literal value or a parameter. -/
inductive Value where
  /-- `TRUE`, `FALSE` or `NULL`, as it is written. -/
  | constant (text : String)
  | number (digits : String) (long : Bool)
  | literal (kind : Literal) (text : String)
  | placeholder (spelling : String)
  deriving DecidableEq, Repr

/-- A character of an escaped string. -/
private def escapedChar : Char → List Char
  | '\x27' => ['\\', '\x27']
  | '\\' => ['\\', '\\']
  | '\n' => ['\\', 'n']
  | '\t' => ['\\', 't']
  | '\r' => ['\\', 'r']
  | c => [c]

/-- A number in upper-case hexadecimal, with zeros in front up to a width. -/
private def paddedHex (width n : Nat) : List Char :=
  let digits := (Nat.toDigits 16 n).map Char.toUpper
  List.replicate (width - digits.length) '0' ++ digits

/-- A character of a Unicode string: by its code point unless it is ASCII. -/
private def unicodeChar : Char → List Char
  | '\x27' => ['\x27', '\x27']
  | '\\' => ['\\', '\\']
  | c =>
    if c.toNat < 0x80 then [c]
    else if c.toNat ≤ 0xFFFF then '\\' :: paddedHex 4 c.toNat
    else '\\' :: '+' :: paddedHex 6 c.toNat

/-- The written form of a value. -/
def Value.text : Value → String
  | .constant text => text
  | .number digits long => digits ++ (if long then "L" else "")
  | .literal .single text => quotedText '\x27' text
  | .literal .double text => quotedText '\x22' text
  | .literal .escaped text => "E'" ++ String.ofList (text.toList.flatMap escapedChar) ++ "'"
  | .literal .unicode text => "U&'" ++ String.ofList (text.toList.flatMap unicodeChar) ++ "'"
  | .literal kind text => kind.opening ++ text ++ kind.closing
  | .placeholder spelling => spelling

/-- Whether a value is a number or may stand for one. -/
def Value.isNumeric : Value → Bool
  | .number .. | .placeholder _ => true
  | _ => false

namespace Parser

def identifier : Parser Name := do
  let found ← next
  match Located.token? found with
  | some (.word w) => return ⟨w.value, w.quote⟩
  | some (.literal .single s) => return ⟨s, some '\x27'⟩
  | some (.literal .double s) => return ⟨s, some '\x22'⟩
  | _ => expectedAt .identifier found

/-- A name as it is written. -/
def named : Parser String := Name.text <$> identifier

def optionalIdentifier : Parser (Option Name) := attempt identifier

/-- Names between periods. -/
def dottedName : Parser DottedName := do
  let first ← identifier
  let rest ← many do if ← acceptSymbol .period then return some (← identifier) else return none
  return first :: rest

/-- A dotted name as it is written. -/
def dotted : Parser String := DottedName.text <$> dottedName

/-- Names between commas, in parentheses, as they are written. -/
def columnList : Parser String := do
  if ← atSymbol .lparen then listedInParens named else expected .columnList

/-- A list of names after a blank, empty if no parenthesis comes next. -/
def optionalColumnList : Parser String := do
  if ← atSymbol .lparen then return " " ++ (← columnList) else return ""

/-- The number that decimal digits stand for, read from the left below a bound. -/
def decimalBelow (bound : Nat) : List Char → Nat → Except NumberFault Nat
  | [], n => .ok n
  | c :: cs, n =>
    if c.isDigit then
      let n := n * 10 + (c.toNat - 48)
      if n < bound then decimalBelow bound cs n else .error .tooLarge
    else .error .badDigit

/-- The number of so many bits that digits found at a place stand for. -/
def numberOf (bits : Nat) (digits : String) (pos : Pos) : Parser Nat :=
  match decimalBelow (Nat.pow 2 bits) digits.toList 0 with
  | .ok n => pure n
  | .error fault => fail (.badNumber digits bits fault pos)

/-- An unsigned whole number of so many bits. -/
def unsigned (bits : Nat) : Parser Nat := do
  let found ← next
  match found with
  | some ⟨.number digits _, pos⟩ => numberOf bits digits pos
  | _ => expectedAt .literalInt found

/-- A string, or a bare word that means nothing else. -/
def literalString : Parser String := do
  let found ← next
  match Located.token? found with
  | some (.word w) =>
    if w.quote.isSome || !isKnownWord w.keyword then return w.value
    else expectedAt .literalString found
  | some (.literal .single s) | some (.literal .double s) | some (.literal .unicode s) => return s
  | some (.literal .escaped s) =>
    if (← rules).escapedStrings then return s else expectedAt .literalString found
  | _ => expectedAt .literalString found

/-- What names a parameter after its sign. -/
private def parameterName (sign : String) : Parser Value := do
  let name ← next
  match Located.token? name with
  | some (.word w) => return .placeholder (sign ++ w.value)
  | some (.number digits false) => return .placeholder (sign ++ digits)
  | _ => expectedAt .placeholderName name

/-- A literal or a placeholder. -/
def value : Parser Value := do
  let found ← next
  match Located.token? found with
  | some (.word w) =>
    match w.keyword, w.quote with
    | "TRUE", _ => return .constant "true"
    | "FALSE", _ => return .constant "false"
    | "NULL", _ => return .constant "NULL"
    | _, some '\x22' => return .literal .double w.value
    | _, some '\x27' => return .literal .single w.value
    | _, some _ => expectedAt .quotedValue found
    | _, none => expectedAt .concreteValue found
  | some (.number digits long) => return .number digits long
  | some (.literal kind s) => return .literal kind s
  | some (.placeholder spelling) => return .placeholder spelling
  | some (.symbol .colon) => parameterName ":"
  | some (.symbol .at) => parameterName "@"
  | _ => expectedAt .value found

/-- A number or a placeholder. -/
def numericValue : Parser String := do
  let before ← peek
  let v ← value
  if v.isNumeric then return v.text else expectedAt .literalNumber before

/-- A number or a placeholder, which may have a sign. -/
def signedNumber : Parser String := do
  if ← acceptSymbol .plus then return "+" ++ (← numericValue)
  else if ← acceptSymbol .minus then return "-" ++ (← numericValue)
  else numericValue

end Parser

end EntityGen.Sql
