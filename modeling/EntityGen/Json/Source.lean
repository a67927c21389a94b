import EntityGen.Text.CodeRange

/-! Texts that are read from the left, and where their readers stop. A place counts lines from one
and, within a line, the bytes that are already read. -/

namespace EntityGen.Json

/-- A place in a text. -/
structure Place where
  line : Nat
  column : Nat
  deriving DecidableEq, Repr

/-- The place after a character. -/
def Place.after (p : Place) (c : Char) : Place :=
  if c = '\n' then ⟨p.line + 1, 0⟩ else ⟨p.line, p.column + c.utf8Size⟩

/-- The place after so many bytes, which may end inside a character. -/
def Place.afterBytes (p : Place) : Nat → List Char → Place
  | 0, _ | _, [] => p
  | n + 1, c :: cs =>
    if c.utf8Size ≤ n + 1 then (p.after c).afterBytes (n + 1 - c.utf8Size) cs
    else ⟨p.line, p.column + (n + 1)⟩
termination_by _ cs => cs.length

/-- What is left of a text, and the place where it begins. -/
structure Source where
  rest : List Char
  place : Place
  deriving DecidableEq, Repr

/-- A text from its beginning. -/
def Source.ofText (text : List Char) : Source := ⟨text, ⟨1, 0⟩⟩

/-- The place after the next byte, if there is one. -/
def Source.ahead (s : Source) : Place := s.place.afterBytes 1 s.rest

/-- Why a text is no JSON value. -/
inductive Fault where
  | endInValue | endInList | endInObject | endInString
  | value | word | colon | listContinuation | objectContinuation | key
  | trailingComma | trailingText
  | number | range
  | escape | hexEnd | surrogate | control
  | tooDeep
  deriving DecidableEq, Repr

def Fault.text : Fault → String
  | .endInValue => "EOF while parsing a value"
  | .endInList => "EOF while parsing a list"
  | .endInObject => "EOF while parsing an object"
  | .endInString => "EOF while parsing a string"
  | .value => "expected value"
  | .word => "expected ident"
  | .colon => "expected `:`"
  | .listContinuation => "expected `,` or `]`"
  | .objectContinuation => "expected `,` or `\x7d`"
  | .key => "key must be a string"
  | .trailingComma => "trailing comma"
  | .trailingText => "trailing characters"
  | .number => "invalid number"
  | .range => "number out of range"
  | .escape => "invalid escape"
  | .hexEnd => "unexpected end of hex escape"
  | .surrogate => "lone leading surrogate in hex escape"
  | .control => "control character (\\u0000-\\u001F) found while parsing a string"
  | .tooDeep => "recursion limit exceeded"

/-- A fault and the place where it shows. -/
structure Failure where
  fault : Fault
  place : Place
  deriving DecidableEq, Repr

def Failure.text (f : Failure) : String :=
  f.fault.text ++ " at line " ++ toString f.place.line ++ " column " ++ toString f.place.column

/-- A reader of texts. -/
def Reader (α : Type) : Type := Source → Except Failure (α × Source)

namespace Reader

instance : Monad Reader where
  pure a := fun s => .ok (a, s)
  bind p f := fun s =>
    match p s with
    | .ok (a, rest) => f a rest
    | .error e => .error e

theorem pure_run {α : Type} (a : α) (s : Source) : (pure a : Reader α) s = .ok (a, s) := rfl

theorem bind_run {α β : Type} (p : Reader α) (f : α → Reader β) (s : Source) :
    (p >>= f) s =
      match p s with
      | .ok (a, rest) => f a rest
      | .error e => .error e := rfl

/-- Fails here. -/
def fail {α : Type} (fault : Fault) : Reader α := fun s => .error ⟨fault, s.place⟩

/-- Fails at the next byte. -/
def failAhead {α : Type} (fault : Fault) : Reader α := fun s => .error ⟨fault, s.ahead⟩

/-- The next character, which stays. -/
def peek : Reader (Option Char) := fun s => .ok (s.rest.head?, s)

/-- Takes the next character. -/
def next : Reader (Option Char) := fun s =>
  match s.rest with
  | [] => .ok (none, s)
  | c :: cs => .ok (some c, ⟨cs, s.place.after c⟩)

/-- Takes a character if it comes next. -/
def accept (c : Char) : Reader Bool := do
  if (← peek) = some c then
    let _ ← next
    return true
  else return false

/-- Takes characters from the front as long as they are of a kind. -/
def takeWhile (p : Char → Bool) : Reader (List Char) := fun s =>
  let taken := s.rest.takeWhile p
  .ok (taken, ⟨s.rest.dropWhile p, taken.foldl Place.after s.place⟩)

end Reader

end EntityGen.Json
