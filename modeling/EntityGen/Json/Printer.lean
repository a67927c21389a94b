import EntityGen.Json.Value

/-! The written forms of a JSON value: on one line, and over several with an indent of two spaces.
Only quotes, backslashes and control characters are escaped. -/

namespace EntityGen.Json

/-- A hexadecimal digit, in lower case. -/
def hexDigit (n : Nat) : Char := if n < 10 then Char.ofNat (48 + n) else Char.ofNat (87 + n)

/-- A character as written inside a string. -/
def escapedChar (c : Char) : List Char :=
  if c = '\x22' then ['\\', '\x22']
  else if c = '\\' then ['\\', '\\']
  else if c = '\x08' then ['\\', 'b']
  else if c = '\t' then ['\\', 't']
  else if c = '\n' then ['\\', 'n']
  else if c = '\x0c' then ['\\', 'f']
  else if c = '\r' then ['\\', 'r']
  else if c.toNat < 0x20 then
    ['\\', 'u', '0', '0', hexDigit (c.toNat / 16), hexDigit (c.toNat % 16)]
  else [c]

/-- A string between quotes. -/
def quoted (s : String) : List Char := '\x22' :: s.toList.flatMap escapedChar ++ ['\x22']

/-- How the parts of an array or object are set apart. -/
structure Layout where
  /-- What stands before the first part, and between a comma and the next. -/
  lead : Nat → List Char
  /-- What stands after the last part. -/
  trail : Nat → List Char
  /-- What stands between a key and its value. -/
  colon : List Char

/-- Everything on one line without a space. -/
def Layout.compact : Layout := ⟨fun _ => [], fun _ => [], [':']⟩

private def indent (level : Nat) : List Char := '\n' :: List.replicate (2 * level) ' '

/-- Each part on a line of its own, indented by two spaces a level. -/
def Layout.pretty : Layout := ⟨fun level => indent (level + 1), indent, [':', ' ']⟩

mutual

/-- A value as laid out at a level of nesting. -/
def write (l : Layout) (level : Nat) : Json → List Char
  | .null => "null".toList
  | .bool b => (if b then "true" else "false").toList
  | .number n => n.text.toList
  | .string s => quoted s
  | .array [] => ['[', ']']
  | .array (item :: rest) =>
    '[' :: l.lead level ++ write l (level + 1) item ++ writeItems l level rest
      ++ l.trail level ++ [']']
  | .object [] => ['{', '}']
  | .object ((key, value) :: rest) =>
    '{' :: l.lead level ++ quoted key ++ l.colon ++ write l (level + 1) value
      ++ writeMembers l level rest ++ l.trail level ++ ['}']

/-- The further items of an array. -/
def writeItems (l : Layout) (level : Nat) : List Json → List Char
  | [] => []
  | item :: rest =>
    ',' :: l.lead level ++ write l (level + 1) item ++ writeItems l level rest

/-- The further members of an object. -/
def writeMembers (l : Layout) (level : Nat) : List (String × Json) → List Char
  | [] => []
  | (key, value) :: rest =>
    ',' :: l.lead level ++ quoted key ++ l.colon ++ write l (level + 1) value
      ++ writeMembers l level rest

end

/-- The text of a value on one line. -/
def compact (v : Json) : String := String.ofList (write .compact 0 v)

/-- The text of a value over several lines. -/
def pretty (v : Json) : String := String.ofList (write .pretty 0 v)

end EntityGen.Json
