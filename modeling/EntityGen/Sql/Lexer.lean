import EntityGen.Sql.Dialect
import EntityGen.Sql.Token
import EntityGen.Text.Blank

/-! From a text to its tokens. Every function reads a `Source`, the rest of the text with the place
it begins at, and hands on what is left of it. `lex` drops white space and comments; its fuel is
one more than the number of characters, and each step takes at least one. -/

namespace EntityGen.Sql

/-- What can be wrong with a text before any statement is read. -/
inductive LexicalFault where
  | openString
  | openWord (closing : Char)
  | openComment
  | openDollar
  | openDollarTag
  | openEscaped
  | openUnicode
  | missingHexDigit
  | badHexDigit (c : Char)
  | badCodePoint (n : Nat)
  deriving DecidableEq, Repr

/-- A number in lower-case hexadecimal. -/
def hexText (n : Nat) : String := String.ofList (Nat.toDigits 16 n)

def LexicalFault.text : LexicalFault → String
  | .openString => "Unterminated string literal"
  | .openWord c => "Expected close delimiter '" ++ c.toString ++ "' before EOF."
  | .openComment => "Unexpected EOF while in a multi-line comment"
  | .openDollar => "Unterminated dollar-quoted string"
  | .openDollarTag => "Unterminated dollar-quoted, expected $"
  | .openEscaped => "Unterminated encoded string literal"
  | .openUnicode => "Unterminated unicode encoded string literal"
  | .missingHexDigit => "Unexpected EOF while parsing hex digit in escaped unicode string."
  | .badHexDigit c => "Invalid hex digit in escaped unicode string: " ++ c.toString
  | .badCodePoint n => "Invalid unicode character: " ++ hexText n

/-- The rest of a text and the place where it begins. -/
structure Source where
  rest : List Char
  pos : Pos

namespace Source

/-- A whole text. -/
def ofText (cs : List Char) : Source := ⟨cs, ⟨1, 1⟩⟩

/-- The source without its first character. -/
def tail (s : Source) : Source :=
  match s.rest with
  | [] => s
  | c :: cs => ⟨cs, s.pos.after c⟩

/-- The source without its first characters. -/
def drop : Nat → Source → Source
  | 0, s => s
  | n + 1, s => drop n s.tail

@[simp] theorem tail_cons (c : Char) (cs : List Char) (pos : Pos) :
    tail ⟨c :: cs, pos⟩ = ⟨cs, pos.after c⟩ := rfl

@[simp] theorem drop_zero (s : Source) : s.drop 0 = s := rfl

@[simp] theorem drop_cons (n : Nat) (c : Char) (cs : List Char) (pos : Pos) :
    drop (n + 1) ⟨c :: cs, pos⟩ = drop n ⟨cs, pos.after c⟩ := rfl

@[simp] theorem rest_tail (s : Source) : s.tail.rest = s.rest.tail := by
  obtain ⟨_ | ⟨c, cs⟩, pos⟩ := s <;> rfl

@[simp] theorem rest_drop (n : Nat) (s : Source) : (s.drop n).rest = s.rest.drop n := by
  induction n generalizing s with
  | zero => rfl
  | succ n ih =>
    change (s.tail.drop n).rest = _
    rw [ih, rest_tail, List.drop_tail]

def peek? (s : Source) : Option Char := s.rest.head?

/-- The next character, if it is a quote that opens a string. -/
def peekQuote? (s : Source) : Option Char := s.peek?.filter fun c => c == '\x27' || c == '\x22'

def takeWhileFrom (p : Char → Bool) (pos : Pos) : List Char → List Char × Source
  | [] => ([], ⟨[], pos⟩)
  | c :: cs =>
    if p c then
      let (taken, s) := takeWhileFrom p (pos.after c) cs
      (c :: taken, s)
    else ([], ⟨c :: cs, pos⟩)

/-- The longest run of characters with a property, and the source after it. -/
def takeWhile (p : Char → Bool) (s : Source) : List Char × Source := takeWhileFrom p s.pos s.rest

theorem takeWhileFrom_eq (p : Char → Bool) (cs : List Char) : ∀ pos,
    (takeWhileFrom p pos cs).1 = cs.takeWhile p ∧
      (takeWhileFrom p pos cs).2.rest = cs.dropWhile p := by
  induction cs with
  | nil => intro pos; simp [takeWhileFrom]
  | cons c cs ih =>
    intro pos
    by_cases h : p c <;> simp [takeWhileFrom, h, (ih _).1, (ih _).2]

@[simp] theorem takeWhile_fst (p : Char → Bool) (s : Source) :
    (s.takeWhile p).1 = s.rest.takeWhile p := (takeWhileFrom_eq p s.rest s.pos).1

@[simp] theorem rest_takeWhile_snd (p : Char → Bool) (s : Source) :
    (s.takeWhile p).2.rest = s.rest.dropWhile p := (takeWhileFrom_eq p s.rest s.pos).2

end Source

/-! ### Quoted text -/

/-- The character that a backslash and `c` stand for. -/
def unescape (c : Char) : Char :=
  match c with
  | '0' => '\x00'
  | 'a' => '\x07'
  | 'b' => '\x08'
  | 'f' => '\x0c'
  | 'n' => '\n'
  | 'r' => '\r'
  | 't' => '\t'
  | 'Z' => '\x1a'
  | c => c

def push (c : Char) : Option (List Char × Source) → Option (List Char × Source)
  | some (cs, s) => some (c :: cs, s)
  | none => none

/-- The text up to a closing quote, a doubled quote standing for itself; `none` if the quote is
never closed. -/
def quotedBody (quote : Char) (escapes : Bool) (pos : Pos) :
    List Char → Option (List Char × Source)
  | [] => none
  | c :: cs =>
    if c = quote then
      match cs with
      | [] => some ([], ⟨[], pos.after c⟩)
      | d :: ds =>
        if d = quote then push c (quotedBody quote escapes ((pos.after c).after d) ds)
        else some ([], ⟨d :: ds, pos.after c⟩)
    else if escapes && c == '\\' then
      match cs with
      | [] => none
      | d :: ds => push (unescape d) (quotedBody quote escapes ((pos.after c).after d) ds)
    else push c (quotedBody quote escapes (pos.after c) cs)

/-- The text up to three closing quotes in a row. -/
def tripleBody (quote : Char) (run : Nat) (body : List Char) (pos : Pos) :
    List Char → Option (List Char × Source)
  | [] => none
  | c :: cs =>
    if c = quote then
      if run = 2 then some ((body.drop 2).reverse, ⟨cs, pos.after c⟩)
      else tripleBody quote (run + 1) (c :: body) (pos.after c) cs
    else tripleBody quote 0 (c :: body) (pos.after c) cs

/-- The digits at the head of a source, at most `limit` of them. -/
def takeDigits (isDigit : Char → Bool) : Nat → Source → List Char × Source
  | 0, s => ([], s)
  | n + 1, s =>
    match s.rest with
    | [] => ([], s)
    | c :: _ =>
      if isDigit c then
        let (ds, s') := takeDigits isDigit n s.tail
        (c :: ds, s')
      else ([], s)

/-- The value of a digit in bases up to sixteen. -/
def digitValue? (c : Char) : Option Nat :=
  if c.isDigit then some (c.toNat - 48)
  else if 'a' ≤ c ∧ c ≤ 'f' then some (c.toNat - 87)
  else if 'A' ≤ c ∧ c ≤ 'F' then some (c.toNat - 55)
  else none

def isHexDigit (c : Char) : Bool := (digitValue? c).isSome

def isOctalDigit (c : Char) : Bool := '0' ≤ c && c ≤ '7'

/-- The number that digits of a base stand for. -/
def numeral (base : Nat) (ds : List Char) : Nat :=
  ds.foldl (fun n c => n * base + (digitValue? c).getD 0) 0

/-- The character with a code point, surrogates and large numbers excluded. -/
def charOfCode? (n : Nat) : Option Char := if n.isValidChar then some (Char.ofNat n) else none

/-- A byte written in digits is a character only below U+0080, other than NUL. -/
def charOfByte? (n : Nat) : Option Char :=
  let byte := n % 256
  if 0 < byte ∧ byte ≤ 127 then some (Char.ofNat byte) else none

/-- A code point written in exactly `width` digits, a plus sign counting as one. -/
def codeOfDigits? (width : Nat) (cs : List Char) : Option Char :=
  let cs := cs.take width
  if cs.length < width then none
  else
    let ds := if cs.head? = some '+' then cs.drop 1 else cs
    if ds.isEmpty || !ds.all isHexDigit then none
    else
      match charOfCode? (numeral 16 ds) with
      | some '\x00' => none
      | c => c

/-- The text of an escaped string after its opening quote. -/
def escapedBody : Nat → Source → Option (List Char × Source)
  | 0, _ => none
  | fuel + 1, s =>
    match s.rest with
    | [] => none
    | '\x27' :: '\x27' :: _ => push '\x27' (escapedBody fuel (s.drop 2))
    | '\x27' :: _ => some ([], s.tail)
    | '\\' :: c :: cs =>
      let s' := s.drop 2
      match c with
      | 'b' => push '\x08' (escapedBody fuel s')
      | 'f' => push '\x0c' (escapedBody fuel s')
      | 'n' => push '\n' (escapedBody fuel s')
      | 'r' => push '\r' (escapedBody fuel s')
      | 't' => push '\t' (escapedBody fuel s')
      | 'u' => (codeOfDigits? 4 cs).bind fun c => push c (escapedBody fuel (s'.drop 4))
      | 'U' => (codeOfDigits? 8 cs).bind fun c => push c (escapedBody fuel (s'.drop 8))
      | 'x' =>
        let (ds, s'') := takeDigits isHexDigit 2 s'
        if ds.isEmpty then push 'x' (escapedBody fuel s')
        else (charOfByte? (numeral 16 ds)).bind fun c => push c (escapedBody fuel s'')
      | c =>
        if isOctalDigit c then
          let (ds, s'') := takeDigits isOctalDigit 2 s'
          (charOfByte? (numeral 8 (c :: ds))).bind fun c => push c (escapedBody fuel s'')
        else if c = '\x00' then none
        else push c (escapedBody fuel s')
    | '\\' :: [] => none
    | c :: _ => push c (escapedBody fuel s.tail)

/-- The hexadecimal digits of a Unicode escape. -/
def unicodeCode : Nat → Nat → Source → Except (LexicalFault × Pos) (Nat × Source)
  | 0, n, s => .ok (n, s)
  | width + 1, n, s =>
    match s.rest with
    | [] => .error (.missingHexDigit, s.pos)
    | c :: _ =>
      match digitValue? c with
      | some d => unicodeCode width (n * 16 + d) s.tail
      | none => .error (.badHexDigit c, s.tail.pos)

/-- The text of a Unicode string after its opening quote. -/
def unicodeBody : Nat → Source → Except (LexicalFault × Pos) (List Char × Source)
  | 0, s => .error (.openUnicode, s.pos)
  | fuel + 1, s =>
    let escape (width : Nat) (s : Source) : Except (LexicalFault × Pos) (List Char × Source) := do
      let (n, s) ← unicodeCode width 0 s
      match charOfCode? n with
      | some c =>
        let (cs, s) ← unicodeBody fuel s
        return (c :: cs, s)
      | none => throw (.badCodePoint n, s.pos)
    match s.rest with
    | [] => .error (.openUnicode, s.pos)
    | '\x27' :: '\x27' :: _ => do
      let (cs, s) ← unicodeBody fuel (s.drop 2)
      return ('\x27' :: cs, s)
    | '\x27' :: _ => .ok ([], s.tail)
    | '\\' :: '\\' :: _ => do
      let (cs, s) ← unicodeBody fuel (s.drop 2)
      return ('\\' :: cs, s)
    | '\\' :: '+' :: _ => escape 6 (s.drop 2)
    | '\\' :: _ => escape 4 s.tail
    | c :: _ => do
      let (cs, s) ← unicodeBody fuel s.tail
      return (c :: cs, s)

/-- The text between two pairs of dollar signs, after the first pair. `dollar` tells that the
character before was a dollar sign. -/
def dollarBody (dollar : Bool) (pos : Pos) : List Char → Option (List Char × Source)
  | [] => none
  | c :: cs =>
    if c = '$' then
      if dollar then some ([], ⟨cs, pos.after c⟩) else dollarBody true (pos.after c) cs
    else
      let found := push c (dollarBody false (pos.after c) cs)
      if dollar then push '$' found else found

/-- Reads a tag letter by letter; the first letter that differs is read as well. -/
def matchTag : List Char → Source → Option (Bool × List Char × Source)
  | [], s => some (true, [], s)
  | c :: cs, s =>
    match s.rest with
    | [] => none
    | d :: _ =>
      if d = c then (matchTag cs s.tail).map fun (hit, ds, s) => (hit, d :: ds, s)
      else some (false, [d], s.tail)

/-- The text up to a tag between dollar signs. -/
def taggedBody (tag : List Char) : Nat → Source → Except Pos (List Char × Source)
  | 0, s => .error s.pos
  | fuel + 1, s => do
    let (body, s) := s.takeWhile (· != '$')
    match s.rest with
    | [] => throw s.pos
    | _ :: _ =>
      match matchTag tag s.tail with
      | none => throw (s.tail.drop tag.length).pos
      | some (hit, seen, s) =>
        if hit && s.peek? == some '$' then return (body, s.tail)
        let (more, s) ← taggedBody tag fuel s
        return (body ++ '$' :: seen ++ more, s)

/-! ### Comments -/

/-- The source after a comment that runs to the end of its line. -/
def skipLine (s : Source) : Source := (s.takeWhile (· != '\n')).2.tail

/-- The source after a comment between `/*` and `*/`, which may hold others. `last` is the
character before; the opening two are already read. -/
def skipBlock (depth : Nat) (last : Char) (pos : Pos) : List Char → Except Pos Source
  | [] => .error pos
  | c :: cs =>
    if last = '/' ∧ c = '*' then skipBlock (depth + 1) c (pos.after c) cs
    else if last = '*' ∧ c = '/' then
      if depth = 1 then .ok ⟨cs, pos.after c⟩ else skipBlock (depth - 1) c (pos.after c) cs
    else skipBlock depth c (pos.after c) cs

/-! ### Tokens -/

/-- The symbols in an order in which a longer one comes before its beginnings. -/
def symbolsByLength : List Symbol :=
  [.notDoubleTildeStar,
   .longArrow, .cubeRoot, .spaceship, .notTildeStar, .notDoubleTilde, .doubleTildeStar,
   .hashLongArrow,
   .arrow, .squareRoot, .concat, .ltEq, .neq, .shiftLeft, .arrowAt, .gtEq, .shiftRight, .overlap,
   .tildeStar, .doubleTilde, .hashMinus, .hashArrow, .rightArrow, .doubleEq, .doubleBang,
   .notTilde, .doubleColon, .assign, .caretAt, .atArrow, .atQuestion, .atAt,
   .comma, .semicolon, .lparen, .rparen, .lbracket, .rbracket, .lbrace, .rbrace, .colon,
   .backslash, .eq, .lt, .gt, .plus, .minus, .star, .slash, .percent, .caret, .pipe, .ampersand,
   .bang, .tilde, .sharp, .at]

/-- The symbols by their spellings, a longer one before its beginnings. -/
def Symbol.spellings : List (List Char × Symbol) :=
  symbolsByLength.map fun s => (s.text.toList, s)

/-- The symbol with the longest spelling that a text begins with, and that spelling. -/
def Symbol.ofText? (cs : List Char) : Option (List Char × Symbol) :=
  spellings.find? fun entry => entry.1.isPrefixOf cs

/-- Whether further operator characters may lengthen a symbol into an operator of the user's. -/
def Symbol.lengthens : Symbol → Bool
  | .minus | .arrow | .longArrow | .percent | .squareRoot | .cubeRoot | .concat | .pipe
  | .spaceship | .ltEq | .neq | .shiftLeft | .arrowAt | .lt | .gtEq | .shiftRight | .gt
  | .overlap | .ampersand | .tildeStar | .doubleTildeStar | .doubleTilde | .tilde
  | .hashMinus | .hashLongArrow | .hashArrow | .sharp => true
  | _ => false

/-- What one step of the lexer finds: a token, or a stretch that is none. -/
abbrev Step := Except (LexicalFault × Pos) (Option Token × Source)

def found (t : Token) (s : Source) : Step := .ok (some t, s)

/-- A word whose first characters are read. -/
def readWord (r : Rules) (first : List Char) (s : Source) : Step :=
  let (more, s) := s.takeWhile r.continuesWord
  found (.word (.plain (String.ofList (first ++ more)))) s

/-- A string whose opening quote comes next. -/
def readString (kind : Literal) (quote : Char) (escapes : Bool) (s : Source) : Step :=
  match quotedBody quote escapes s.tail.pos s.tail.rest with
  | some (body, s) => found (.literal kind (String.ofList body)) s
  | none => .error (.openString, s.pos)

/-- A raw string whose opening quotes come next. -/
def readRaw (quote : Char) (s : Source) : Step :=
  match s.rest with
  | a :: b :: c :: _ =>
    if b = quote then
      if a = quote ∧ c = quote then
        let s := s.drop 3
        match tripleBody quote 0 [] s.pos s.rest with
        | some (body, s) => found (.literal (.raw quote 3) (String.ofList body)) s
        | none => .error (.openString, s.pos)
      else found (.literal (.raw quote 1) "") (s.drop 2)
    else single
  | _ :: b :: [] => if b = quote then found (.literal (.raw quote 1) "") (s.drop 2) else single
  | _ => single
where
  single : Step :=
    match quotedBody quote false s.tail.pos s.tail.rest with
    | some (body, s') => found (.literal (.raw quote 1) (String.ofList body)) s'
    | none => .error (.openString, s.tail.pos)

/-- A word whose opening quote comes next. -/
def readQuotedWord (quote : Char) (s : Source) : Step :=
  match quotedBody (closingQuote quote) false s.tail.pos s.tail.rest with
  | some (body, s) => found (.word (.quoted quote (String.ofList body))) s
  | none => .error (.openWord (closingQuote quote), s.pos)

/-- The sign that a text begins with, if any. -/
def signOf : List Char → List Char
  | '+' :: _ => ['+']
  | '-' :: _ => ['-']
  | _ => []

/-- The exponent at the head of a source, if a digit ends it, and whether it even begins one. -/
def readExponent (s : Source) : Bool × List Char × Source :=
  match s.rest with
  | e :: cs =>
    if e = 'e' ∨ e = 'E' then
      let sign := signOf cs
      let (digits, s') := (s.drop (sign.length + 1)).takeWhile Char.isDigit
      if digits.isEmpty then (true, [], s) else (true, e :: sign ++ digits, s')
    else (false, [], s)
  | [] => (false, [], s)

/-- A character at the head of a source, if it comes next. -/
def takeOptional (c : Char) (s : Source) : List Char × Source :=
  if s.peek? = some c then ([c], s.tail) else ([], s)

/-- A number whose digits before an exponent are read, or in some dialects a word that begins with
them. -/
def endNumber (r : Rules) (digits : List Char) (s : Source) : Step :=
  let (hasExponent, exponent, s) := readExponent s
  let digits := digits ++ exponent
  let (letters, s) := s.takeWhile fun c => r.digitWords && !hasExponent && r.continuesWord c
  if letters.isEmpty then
    let (mark, s) := takeOptional 'L' s
    found (.number (String.ofList digits) (!mark.isEmpty)) s
  else found (.word (.plain (String.ofList (digits ++ letters)))) s

/-- A number, a period, or in some dialects a word that begins with digits. -/
def readNumber (r : Rules) (s : Source) : Step :=
  let (whole, s) := s.takeWhile Char.isDigit
  if whole = ['0'] ∧ s.peek? = some 'x' then
    let (digits, s) := s.tail.takeWhile isHexDigit
    found (.literal .hex (String.ofList digits)) s
  else
    let (point, s) := takeOptional '.' s
    let (fraction, s) := s.takeWhile Char.isDigit
    let digits := whole ++ point ++ fraction
    if digits = ['.'] then found (.symbol .period) s else endNumber r digits s

/-- A parameter or a string between dollar signs. -/
def readDollar (s : Source) : Step :=
  let start := s.tail
  if start.peek? = some '$' then
    let s := start.tail
    match dollarBody false s.pos s.rest with
    | some (body, s) => found (.literal (.dollar "") (String.ofList body)) s
    | none => .error (.openDollar, (s.takeWhile fun _ => true).2.pos)
  else
    let (tag, s) := start.takeWhile fun c => Text.isLetter c || Text.isNumeric c || c == '_'
    if s.peek? = some '$' then
      match taggedBody tag (s.rest.length + 1) s.tail with
      | .ok (body, s) => found (.literal (.dollar (String.ofList tag)) (String.ofList body)) s
      | .error pos => .error (.openDollarTag, pos)
    else found (.placeholder (String.ofList ('$' :: tag))) s

/-- A symbol, perhaps lengthened into an operator of the user's. -/
def readSymbol (r : Rules) (s : Source) : Option (Token × Source) :=
  if s.rest.take 2 = ['!', '='] then some (.symbol .neq, s.drop 2)
  else
    (Symbol.ofText? s.rest).map fun (spelling, symbol) =>
      let s := s.drop spelling.length
      let (more, s') := s.takeWhile r.lengthensOperator
      if symbol.lengthens && !more.isEmpty then (.operator (String.ofList (spelling ++ more)), s')
      else (.symbol symbol, s)

/-- The characters that a word begins with, where a `#` or `@` may begin one and no operator stands
there. -/
def signedStart? : List Char → Option (List Char)
  | '#' :: '-' :: _ | '#' :: '>' :: _ | '#' :: ' ' :: _
  | '@' :: '>' :: _ | '@' :: '?' :: _ | '@' :: ' ' :: _ | '@' :: '@' :: ' ' :: _ => none
  | '@' :: '@' :: c :: _ => some ['@', '@', c]
  | ['@', '@'] => none
  | c :: d :: _ => some [c, d]
  | _ => none

/-- A symbol, or the character `c` that belongs to none. -/
def readMark (r : Rules) (c : Char) (s : Source) : Step :=
  match readSymbol r s with
  | some (t, s) => found t s
  | none => found (.stray c) s.tail

/-- An operator or a placeholder that begins with a question mark. -/
def readQuestion (r : Rules) (s : Source) : Step :=
  if r.questionOperators then
    match s.tail.peek? with
    | some '|' => found (.symbol .questionPipe) (s.drop 2)
    | some '&' => found (.symbol .questionAnd) (s.drop 2)
    | _ => found (.symbol .question) (s.drop 2)
  else
    let (digits, s) := s.tail.takeWhile Text.isNumeric
    found (.placeholder (String.ofList ('?' :: digits))) s

/-- A word or a symbol that begins with `#` or `@`. -/
def readSigned (r : Rules) (c : Char) (s : Source) : Step :=
  match signedStart? s.rest with
  | some first =>
    if r.startsWord c then readWord r first (s.drop first.length) else readMark r c s
  | none => readMark r c s

/-- What begins with a character of which nothing else is known. -/
def readUnmarked (r : Rules) (c : Char) (s : Source) : Step :=
  match readSymbol r s with
  | some (t, s) => found t s
  | none =>
    if r.startsWord c then readWord r [c] s.tail
    else if c = '$' then readDollar s
    else if Text.isBlank c then .ok (none, s.tail)
    else found (.stray c) s.tail

/-- A character that opens a word, a comment or an operator after all else is excluded. -/
def readOther (r : Rules) (c : Char) (s : Source) : Step :=
  if r.wordQuotes.contains c then readQuotedWord c s
  else if c = '\x22' then readString .double '\x22' r.backslashEscapes s
  else if c.isDigit || c = '.' then readNumber r s
  else if c = '/' ∧ r.doubleSlash ∧ s.rest.take 2 = ['/', '/'] then
    found (.symbol .doubleSlash) (s.drop 2)
  else if c = '?' then readQuestion r s
  else if c = '#' ∨ c = '@' then readSigned r c s
  else readUnmarked r c s

/-! A letter may mark the string after it; without one it begins a word. -/

def readByteString (r : Rules) (c : Char) (s : Source) : Step :=
  match s.tail.peekQuote?, r.byteStrings with
  | some quote, true => readString (.bytes quote) quote false s.tail
  | _, _ => readWord r [c] s.tail

def readRawString (r : Rules) (c : Char) (s : Source) : Step :=
  match s.tail.peekQuote?, r.byteStrings with
  | some quote, true => readRaw quote s.tail
  | _, _ => readWord r [c] s.tail

/-- A string whose mark changes only its kind. -/
def readMarkedString (kind : Literal) (r : Rules) (c : Char) (s : Source) : Step :=
  if s.tail.peek? = some '\x27' then readString kind '\x27' true s.tail else readWord r [c] s.tail

def readEscapedString (r : Rules) (c : Char) (s : Source) : Step :=
  if s.tail.peek? = some '\x27' then
    match escapedBody (s.rest.length + 1) (s.drop 2) with
    | some (body, s) => found (.literal .escaped (String.ofList body)) s
    | none => .error (.openEscaped, s.pos)
  else readWord r [c] s.tail

def readUnicodeString (r : Rules) (c : Char) (s : Source) : Step :=
  if r.unicodeStrings ∧ (s.rest.drop 1).take 2 = ['&', '\x27'] then
    match unicodeBody (s.rest.length + 1) (s.drop 3) with
    | .ok (body, s) => found (.literal .unicode (String.ofList body)) s
    | .error e => .error e
  else readWord r [c] s.tail

/-- One step of the lexer, on a text that begins with `c`. -/
def Source.step (r : Rules) (c : Char) (s : Source) : Step :=
  match c with
  | ' ' | '\t' | '\n' | '\r' => .ok (none, s.tail)
  | 'b' | 'B' => readByteString r c s
  | 'r' | 'R' => readRawString r c s
  | 'n' | 'N' => readMarkedString .national r c s
  | 'x' | 'X' => readMarkedString .hex r c s
  | 'e' | 'E' => readEscapedString r c s
  | 'u' | 'U' => readUnicodeString r c s
  | '\x27' => readString .single '\x27' r.backslashEscapes s
  | '-' => if s.tail.peek? = some '-' then .ok (none, skipLine s) else readOther r c s
  | '/' =>
    if s.tail.peek? = some '*' then
      let s := s.drop 2
      match skipBlock 1 ' ' s.pos s.rest with
      | .ok s => .ok (none, s)
      | .error pos => .error (.openComment, pos)
    else readOther r c s
  | '#' => if r.hashComments then .ok (none, skipLine s) else readOther r c s
  | c => readOther r c s

def lexFrom (r : Rules) : Nat → Source → Except (LexicalFault × Pos) (List Located)
  | 0, _ => .ok []
  | fuel + 1, s =>
    match s.rest with
    | [] => .ok []
    | c :: _ => do
      let (token?, s') ← s.step r c
      let rest ← lexFrom r fuel s'
      return match token? with
        | some t => ⟨t, s.pos⟩ :: rest
        | none => rest

section LexFrom

variable {r : Rules} {fuel : Nat} {s s' : Source} {c : Char} {t? : Option Token}
  {ls : List Located}

theorem lexFrom_nil (hs : s.rest = []) : lexFrom r fuel s = .ok [] := by
  cases fuel with
  | zero => rfl
  | succ fuel => simp only [lexFrom, hs]

theorem lexFrom_of_step (hs : s.peek? = some c) (hstep : s.step r c = .ok (t?, s'))
    (h : lexFrom r fuel s' = .ok ls) :
    lexFrom r (fuel + 1) s = .ok ((t?.map fun t => ⟨t, s.pos⟩).toList ++ ls) := by
  obtain ⟨cs, hs⟩ := List.head?_eq_some_iff.mp hs
  simp only [lexFrom, hs, hstep, bind, Except.bind, h]
  cases t? <;> rfl

/-- The tokens of a text that is not empty begin with what one step finds. -/
theorem lexFrom_eq_ok (hs : s.peek? = some c) (h : lexFrom r (fuel + 1) s = .ok ls) :
    ∃ t? s' ls', s.step r c = .ok (t?, s') ∧ lexFrom r fuel s' = .ok ls' ∧
      ls = (t?.map fun t => ⟨t, s.pos⟩).toList ++ ls' := by
  obtain ⟨cs, hrest⟩ := List.head?_eq_some_iff.mp hs
  cases hstep : s.step r c with
  | error e =>
    simp only [lexFrom, hrest, hstep, bind, Except.bind] at h
    cases h
  | ok read =>
    obtain ⟨t?, s'⟩ := read
    cases hlater : lexFrom r fuel s' with
    | error e =>
      simp only [lexFrom, hrest, hstep, bind, Except.bind, hlater] at h
      cases h
    | ok ls' =>
      rw [lexFrom_of_step hs hstep hlater] at h
      exact ⟨t?, s', ls', rfl, hlater, (Except.ok.inj h).symm⟩

end LexFrom

/-- The tokens of a text, or the first thing wrong with it and where. -/
def lex (r : Rules) (cs : List Char) : Except (LexicalFault × Pos) (List Located) :=
  lexFrom r (cs.length + 1) (.ofText cs)

end EntityGen.Sql
