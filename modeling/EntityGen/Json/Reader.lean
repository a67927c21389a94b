import EntityGen.Json.Range
import EntityGen.Json.Text

/-! How a JSON text is read: one value with white space around it. Values nest at most 127 deep. -/

namespace EntityGen.Json

open Reader

/-- The white space between the parts of a text. -/
def isSpace (c : Char) : Bool := c == ' ' || c == '\n' || c == '\t' || c == '\r'

/-- The next character that is no white space, which stays. -/
def peekPart : Reader (Option Char) := do
  discard (takeWhile isSpace)
  peek

/-- The rest of a word, letter by letter. -/
def word (value : Json) : List Char → Reader Json
  | [] => pure value
  | c :: cs => do
    match ← peek with
    | none => fail .endInValue
    | some d =>
      if d = c then
        discard next
        word value cs
      else failAhead .word

/-- The digits of a number before its point. Further digits may not follow a zero. -/
def wholeDigits : Reader (List Char) := do
  match ← peek with
  | none => fail .endInValue
  | some '0' =>
    discard next
    match ← peek with
    | some d => if d.isDigit then failAhead .number else return ['0']
    | none => return ['0']
  | some c => if c.isDigit then takeWhile Char.isDigit else failAhead .number

/-- The digits of a number after its point, if it has one. -/
def fractionDigits : Reader (Option (List Char)) := do
  if ← accept '.' then
    let ds ← takeWhile Char.isDigit
    if !ds.isEmpty then return some ds
    else
      match ← peek with
      | some _ => failAhead .number
      | none => failAhead .endInValue
  else return none

/-- The power of ten of a number, if it has one, after the digits before it. A power that is too
large is found out as its digits are read, unless all digits before it are zero. -/
def exponent (zero : Bool) : Reader (Option Exponent) := do
  let lower ← accept 'e'
  let marked ← if lower then pure true else accept 'E'
  if !marked then return none
  let plus ← accept '+'
  let negative ← if plus then pure false else accept '-'
  let start : Place ← fun s => .ok (s.place, s)
  match ← peek with
  | none => fail .endInValue
  | some c =>
    if !c.isDigit then failAhead .number
    else
      let ds ← takeWhile Char.isDigit
      match exponentOverflow? ds with
      | some k =>
        if !zero && !negative then
          fun _ => .error ⟨.range, ⟨start.line, start.column + k⟩⟩
        else return some ⟨negative, ds⟩
      | none => return some ⟨negative, ds⟩

/-- A number after its sign. -/
def numberAfter (negative : Bool) : Reader Json := do
  let whole ← wholeDigits
  let fraction ← fractionDigits
  let zero := (whole ++ fraction.getD []).all (· == '0')
  let literal : Literal := ⟨negative, whole, fraction, ← exponent zero⟩
  if literal.tooLarge then fail .range
  return .number literal.number

/-- The items of an array after its opening bracket. Each takes a character, so the text left
bounds their number. -/
def items (item : Reader Json) (first : Bool) : Nat → Reader (List Json)
  | 0 => fail .endInList
  | n + 1 => do
    match ← peekPart with
    | none => failAhead .endInList
    | some ']' => return []
    | some c =>
      if first then return (← item) :: (← items item false n)
      else if c = ',' then
        discard next
        match ← peekPart with
        | none => failAhead .endInValue
        | some ']' => failAhead .trailingComma
        | some _ => return (← item) :: (← items item false n)
      else failAhead .listContinuation

/-- A key, a colon and a value. -/
def member (item : Reader Json) : Reader (String × Json) := do
  discard next
  let key ← readString
  match ← peekPart with
  | none => failAhead .endInObject
  | some ':' =>
    discard next
    return (key, ← item)
  | some _ => failAhead .colon

/-- The members of an object after its opening brace. -/
def members (item : Reader Json) (first : Bool) : Nat → Reader (List (String × Json))
  | 0 => fail .endInObject
  | n + 1 => do
    match ← peekPart with
    | none => failAhead .endInObject
    | some '\x7d' => return []
    | some c =>
      if first then
        if c = '\x22' then return (← member item) :: (← members item false n)
        else failAhead .key
      else if c = ',' then
        discard next
        match ← peekPart with
        | none => failAhead .endInValue
        | some '\x22' => return (← member item) :: (← members item false n)
        | some '\x7d' => failAhead .trailingComma
        | some _ => failAhead .key
      else failAhead .objectContinuation

/-- The text that is left. -/
def textLeft : Reader Nat := fun s => .ok (s.rest.length, s)

/-- A value, given how the values inside it are read; `none` if nothing may be inside. -/
def valueOver (inner : Option (Reader Json)) : Reader Json := do
  match ← peekPart with
  | none => failAhead .endInValue
  | some 'n' =>
    discard next
    word .null ['u', 'l', 'l']
  | some 't' =>
    discard next
    word (.bool true) ['r', 'u', 'e']
  | some 'f' =>
    discard next
    word (.bool false) ['a', 'l', 's', 'e']
  | some '-' =>
    discard next
    numberAfter true
  | some '\x22' =>
    discard next
    return .string (← readString)
  | some '[' =>
    match inner with
    | none => failAhead .tooDeep
    | some item =>
      discard next
      let found ← items item true ((← textLeft) + 1)
      discard next
      return .array found
  | some '\x7b' =>
    match inner with
    | none => failAhead .tooDeep
    | some item =>
      discard next
      let found ← members item true ((← textLeft) + 1)
      discard next
      return .object (membersOf found)
  | some c => if c.isDigit then numberAfter false else failAhead .value

/-- A value with at most so many values nested around one another. -/
def value : Nat → Reader Json
  | 0 => valueOver none
  | depth + 1 => valueOver (some (value depth))

/-- How deep values may nest. -/
def maxDepth : Nat := 127

/-- The value that a whole text spells. -/
def read (text : List Char) : Except Failure Json :=
  match value maxDepth (Source.ofText text) with
  | .error e => .error e
  | .ok (v, s) =>
    match peekPart s with
    | .ok (none, _) => .ok v
    | .ok (some _, s) => .error ⟨.trailingText, s.ahead⟩
    | .error e => .error e

end EntityGen.Json
