import EntityGen.Json.Source

/-! Strings of a JSON text. A character is written as itself or as an escape; one beyond the first
65536 is escaped as a pair of surrogates. -/

namespace EntityGen.Json

/-- The value of a hexadecimal digit. -/
def hexValue? (c : Char) : Option Nat :=
  if c.isDigit then some (c.toNat - 48)
  else if 'a' ≤ c ∧ c ≤ 'f' then some (c.toNat - 87)
  else if 'A' ≤ c ∧ c ≤ 'F' then some (c.toNat - 55)
  else none

/-- Four hexadecimal digits at the front of a text, and the rest. -/
def fourHex? : List Char → Option (Nat × List Char)
  | a :: b :: c :: d :: rest => do
    let a ← hexValue? a
    let b ← hexValue? b
    let c ← hexValue? c
    let d ← hexValue? d
    return (((a * 16 + b) * 16 + c) * 16 + d, rest)
  | _ => none

/-- The number of bytes of a text. -/
def byteCount (cs : List Char) : Nat := cs.foldl (fun n c => n + c.utf8Size) 0

/-- The number that the four bytes ahead spell. -/
def readHex : Reader Nat := fun s =>
  match fourHex? s.rest with
  | some (n, rest) => .ok (n, ⟨rest, s.place.afterBytes 4 s.rest⟩)
  | none =>
    let place := s.place.afterBytes 4 s.rest
    .error ⟨if byteCount s.rest < 4 then .endInString else .escape, place⟩

/-- Takes a character that must come next between the halves of a pair. -/
def pairMark (c : Char) : Reader Unit := do
  match ← Reader.peek with
  | none => Reader.fail .endInString
  | some d => if d = c then discard Reader.next else Reader.failAhead .hexEnd

def isHighSurrogate (n : Nat) : Bool := 0xD800 ≤ n && n ≤ 0xDBFF

def isLowSurrogate (n : Nat) : Bool := 0xDC00 ≤ n && n ≤ 0xDFFF

/-- The character of an escape after its `u`. -/
def readUnit : Reader Char := do
  let n ← readHex
  if isLowSurrogate n then Reader.fail .surrogate
  else if isHighSurrogate n then
    pairMark '\\'
    pairMark 'u'
    let low ← readHex
    if isLowSurrogate low then
      return Char.ofNat (0x10000 + (n - 0xD800) * 0x400 + (low - 0xDC00))
    else Reader.fail .surrogate
  else return Char.ofNat n

/-- The character that a letter after a backslash stands for. -/
def plainEscape? (c : Char) : Option Char :=
  match c with
  | '\x22' => some '\x22'
  | '\\' => some '\\'
  | '/' => some '/'
  | 'b' => some '\x08'
  | 'f' => some '\x0c'
  | 'n' => some '\n'
  | 'r' => some '\r'
  | 't' => some '\t'
  | _ => none

/-- The character of an escape after its backslash. -/
def readEscape : Reader Char := do
  match ← Reader.peek with
  | none => Reader.fail .endInString
  | some 'u' =>
    discard Reader.next
    readUnit
  | some c =>
    match plainEscape? c with
    | some d =>
      discard Reader.next
      return d
    | none => Reader.failAhead .escape

/-- The characters of a string up to its closing quote; each takes at least one character of the
text, so the text left bounds their number. -/
def stringFrom : Nat → Reader (List Char)
  | 0 => Reader.fail .endInString
  | n + 1 => do
    match ← Reader.next with
    | none => Reader.fail .endInString
    | some '\x22' => return []
    | some '\\' => do
      let c ← readEscape
      return c :: (← stringFrom n)
    | some c =>
      if c.toNat < 0x20 then Reader.fail .control
      else return c :: (← stringFrom n)

/-- A string after its opening quote. -/
def readString : Reader String := fun s =>
  (do return String.ofList (← stringFrom (s.rest.length + 1)) : Reader String) s

end EntityGen.Json
