import EntityGen.Sql.Failure

/-! Parsers on the tokens of a text. A `Parser` knows the dialect's rules and how much deeper
phrases may nest, takes tokens off the front and hands on the rest, after a failure too. That the
rest is a rest is part of every parser, so no phrase reads a token that is not in the text.
`attempt` turns a failure back into a choice and gives the tokens back; `recovering` keeps them
taken. -/

namespace EntityGen.Sql

/-- Whether a token is the given keyword. -/
def Token.isKeyword (t : Token) (k : String) : Bool :=
  match t with
  | .word w => w.keyword == k
  | _ => false

/-- Whether a failure ends the whole parse, whatever else might be tried. -/
def Failure.isFinal : Failure → Bool
  | .tooDeep | .crash => true
  | _ => false

/-- What a parser may ask about without reading. -/
structure Context where
  rules : Rules
  /-- How many more statements, queries and expressions may be opened inside one another. -/
  room : Nat
  /-- Whether rows are being related to those above them, so that `PRIOR` may refer to these. -/
  connecting : Bool

/-- A reader of tokens: what it finds or why it fails, and the tokens it leaves, which are the last
ones of those it is given. -/
structure Parser (α : Type) where
  run : Context → List Located → Except Failure α × List Located
  suffix (cx : Context) (ts : List Located) : (run cx ts).2 <:+ ts

namespace Parser

instance {α : Type} :
    CoeFun (Parser α) fun _ => Context → List Located → Except Failure α × List Located :=
  ⟨run⟩

theorem suffix_of_eq {α : Type} {p : Parser α} {cx : Context} {ts rest : List Located}
    {x : Except Failure α} (h : p cx ts = (x, rest)) : rest <:+ ts := by
  have hsuffix := p.suffix cx ts
  rwa [h] at hsuffix

instance : Monad Parser where
  pure a := ⟨fun _ ts => (.ok a, ts), fun _ ts => ts.suffix_refl⟩
  bind p f :=
    { run cx ts :=
        match p cx ts with
        | (.ok a, rest) => f a cx rest
        | (.error e, rest) => (.error e, rest)
      suffix cx ts := by
        split
        · rename_i a rest h
          exact ((f a).suffix cx rest).trans (suffix_of_eq h)
        · rename_i h
          exact suffix_of_eq h }

theorem pure_run {α : Type} (a : α) (cx : Context) (ts : List Located) :
    (pure a : Parser α) cx ts = (.ok a, ts) := rfl

theorem bind_run {α β : Type} (p : Parser α) (f : α → Parser β) (cx : Context)
    (ts : List Located) : (p >>= f) cx ts =
      match p cx ts with
      | (.ok a, rest) => f a cx rest
      | (.error e, rest) => (.error e, rest) := rfl

/-- A look at where a parser stands, which takes nothing. -/
def look {α : Type} (f : Context → List Located → Except Failure α) : Parser α :=
  ⟨fun cx ts => (f cx ts, ts), fun _ ts => ts.suffix_refl⟩

@[simp] theorem look_run {α : Type} (f : Context → List Located → Except Failure α) (cx : Context)
    (ts : List Located) : look f cx ts = (f cx ts, ts) := rfl

def fail {α : Type} (e : Failure) : Parser α := look fun _ _ => .error e

/-- The rules of the dialect that is read. -/
def rules : Parser Rules := look fun cx _ => .ok cx.rules

/-- Whether `PRIOR` may stand here. -/
def isConnecting : Parser Bool := look fun cx _ => .ok cx.connecting

/-- Reads how rows are related to those above them. -/
def connecting {α : Type} (p : Parser α) : Parser α where
  run cx ts := p { cx with connecting := true } ts
  suffix cx ts := p.suffix { cx with connecting := true } ts

/-- The next token, which stays. -/
def peek : Parser (Option Located) := look fun _ ts => .ok ts.head?

/-- The `n`-th token from here with its place. It stays. -/
def locatedAt (n : Nat) : Parser (Option Located) := look fun _ ts => .ok ts[n]?

/-- The `n`-th token from here, which stays. -/
def peekAt (n : Nat) : Parser (Option Token) := do return (← locatedAt n).map (·.token)

def peekToken : Parser (Option Token) := peekAt 0

/-- The keyword that the next token is, empty if it is none. -/
def peekKeyword : Parser String := do
  match ← peekToken with
  | some (.word w) => return w.keyword
  | _ => return ""

/-- The place of the next token. -/
def position : Parser (Option Pos) := look fun _ ts => .ok (ts.head?.map (·.pos))

/-- Takes the next token. -/
def next : Parser (Option Located) where
  run _ ts := (.ok ts.head?, ts.tail)
  suffix _ ts := ts.tail_suffix

/-- How many tokens are left. -/
def remaining : Parser Nat := look fun _ ts => .ok ts.length

/-- Fails at a token that is already taken. -/
def expectedAt {α : Type} (w : Wanted) (found : Option Located) : Parser α :=
  fail (.unexpected w found)

/-- Fails at the next token. -/
def expected {α : Type} (w : Wanted) : Parser α := do expectedAt w (← peek)

/-- Takes a symbol if it comes next. -/
def acceptSymbol (s : Symbol) : Parser Bool where
  run _ ts :=
    match ts with
    | t :: rest => if t.token = .symbol s then (.ok true, rest) else (.ok false, ts)
    | [] => (.ok false, ts)
  suffix _ ts := by
    cases ts with
    | nil => exact List.suffix_refl []
    | cons t rest =>
      dsimp only
      split
      · exact List.suffix_cons t rest
      · exact List.suffix_refl _

/-- The tokens after a row of keywords. -/
def afterKeywords : List String → List Located → Option (List Located)
  | [], ts => some ts
  | _ :: _, [] => none
  | k :: ks, t :: ts => if t.token.isKeyword k then afterKeywords ks ts else none

theorem afterKeywords_suffix {ks : List String} {ts rest : List Located}
    (h : afterKeywords ks ts = some rest) : rest <:+ ts := by
  fun_induction afterKeywords ks ts with
  | case1 ts => exact Option.some.inj h ▸ ts.suffix_refl
  | case2 => cases h
  | case3 k ks t ts _ ih => exact (ih h).trans (List.suffix_cons t ts)
  | case4 => cases h

/-- Takes a row of keywords, or nothing. -/
def acceptAll (ks : List String) : Parser Bool where
  run _ ts :=
    match afterKeywords ks ts with
    | some rest => (.ok true, rest)
    | none => (.ok false, ts)
  suffix _ ts := by
    split
    · rename_i h
      exact afterKeywords_suffix h
    · exact ts.suffix_refl

/-- Takes a keyword if it comes next. -/
def accept (k : String) : Parser Bool := acceptAll [k]

/-- Takes a keyword only where it means something. -/
def acceptKnown (known : Bool) (k : String) : Parser Bool :=
  if known then accept k else pure false

/-- Takes a row of keywords only where it means something. -/
def acceptAllKnown (known : Bool) (ks : List String) : Parser Bool :=
  if known then acceptAll ks else pure false

/-- Takes a row of keywords if it comes next, whether or not it means anything. `true` if it
does. -/
def acceptAllMeant (meant : Bool) (ks : List String) : Parser Bool := do
  return (← acceptAll ks) && meant

/-- Takes the first of some rows of keywords that comes next, and tells which. -/
def acceptPhrase : List (List String) → Parser (Option (List String))
  | [] => pure none
  | ks :: rest => do if ← acceptAll ks then return some ks else acceptPhrase rest

/-- Takes one of some keywords, and tells which. -/
def acceptOneOf (ks : List String) : Parser (Option String) where
  run _ ts :=
    match ts with
    | t :: rest =>
      match ks.find? t.token.isKeyword with
      | some k => (.ok (some k), rest)
      | none => (.ok none, ts)
    | [] => (.ok none, ts)
  suffix _ ts := by
    cases ts with
    | nil => exact List.suffix_refl []
    | cons t rest =>
      dsimp only
      split
      · exact List.suffix_cons t rest
      · exact List.suffix_refl _

/-- Whether a keyword comes next. -/
def atKeyword (k : String) : Parser Bool := do return (← peekToken).any (·.isKeyword k)

/-- Whether one of some keywords comes next. -/
def atOneOf (ks : List String) : Parser Bool := do
  return (← peekToken).any fun t => ks.any t.isKeyword

/-- Whether a symbol comes next. -/
def atSymbol (s : Symbol) : Parser Bool := do return (← peekToken) == some (.symbol s)

/-- Whether no token is left. -/
def atEnd : Parser Bool := do return (← peek).isNone

/-- Whether a query comes next. -/
def atQuery : Parser Bool := atOneOf ["SELECT", "WITH"]

def expectSymbol (s : Symbol) : Parser Unit := do
  if !(← acceptSymbol s) then expected (.symbol s)

def expect (k : String) : Parser Unit := do
  if !(← accept k) then expected (.keyword k)

/-- Takes a row of keywords one by one. -/
def expectAll : List String → Parser Unit
  | [] => pure ()
  | k :: ks => do expect k; expectAll ks

def expectOneOf (ks : List String) : Parser String := do
  match ← acceptOneOf ks with
  | some k => pure k
  | none => expected (.oneOf ks)

/-- Tries a parser; if it fails, nothing is taken. -/
def attempt {α : Type} (p : Parser α) : Parser (Option α) where
  run cx ts :=
    match p cx ts with
    | (.ok a, rest) => (.ok (some a), rest)
    | (.error e, rest) => if e.isFinal then (.error e, rest) else (.ok none, ts)
  suffix cx ts := by
    split
    · rename_i h
      exact suffix_of_eq h
    · rename_i h
      split
      · exact suffix_of_eq h
      · exact ts.suffix_refl

/-- Goes on with what a parser makes of its result, whether it succeeds or fails. What it has taken
stays taken. -/
def ending {α β : Type} (p : Parser α) (f : Except Failure α → Except Failure β) : Parser β where
  run cx ts := (f (p cx ts).1, (p cx ts).2)
  suffix cx ts := p.suffix cx ts

/-- Tries a parser; if it fails, what it has taken stays taken. Only a stop without a message
goes through. -/
def recovering {α : Type} (p : Parser α) : Parser (Option α) :=
  p.ending fun
    | .ok a => .ok (some a)
    | .error .crash => .error .crash
    | .error _ => .ok none

/-- Ends the whole parse without a message if a parser fails. -/
def orCrash {α : Type} (p : Parser α) : Parser α :=
  p.ending fun
    | .ok a => .ok a
    | .error _ => .error .crash

/-- Tries a parser that may find nothing; if so, nothing is taken. -/
def orBack {α : Type} (p : Parser (Option α)) : Parser (Option α) where
  run cx ts :=
    match p cx ts with
    | (.ok none, _) => (.ok none, ts)
    | (x, rest) => (x, rest)
  suffix cx ts := by
    split
    · exact ts.suffix_refl
    · rename_i h
      exact suffix_of_eq h

/-- What a parser finds, with the tokens it takes. -/
def withTaken {α : Type} (p : Parser α) : Parser (α × List Located) where
  run cx ts :=
    match p cx ts with
    | (.ok a, rest) => (.ok (a, ts.take (ts.length - rest.length)), rest)
    | (.error e, rest) => (.error e, rest)
  suffix cx ts := by
    split <;> exact suffix_of_eq ‹_›

/-- Opens one more level of nesting. -/
def nested {α : Type} (p : Parser α) : Parser α where
  run cx ts :=
    match cx.room with
    | 0 => (.error .tooDeep, ts)
    | room + 1 => p { cx with room } ts
  suffix cx ts := by
    split
    · exact ts.suffix_refl
    · exact p.suffix _ ts

def repeatFrom {α : Type} (p : Parser (Option α)) : Nat → Parser (List α)
  | 0 => pure []
  | n + 1 => do
    match ← p with
    | none => pure []
    | some a => return a :: (← repeatFrom p n)

/-- Runs a parser until it finds nothing. Each find takes a token, so the tokens left bound the
number of runs. -/
def many {α : Type} (p : Parser (Option α)) : Parser (List α) where
  run cx ts := repeatFrom p (ts.length + 1) cx ts
  suffix cx ts := (repeatFrom p (ts.length + 1)).suffix cx ts

def foldFrom {α : Type} (step : α → Parser (Option α)) : Nat → α → Parser α
  | 0, a => pure a
  | n + 1, a => do
    match ← step a with
    | none => pure a
    | some a => foldFrom step n a

/-- Carries a value through the runs of a parser until it finds nothing, as `many`. -/
def fold {α : Type} (a : α) (step : α → Parser (Option α)) : Parser α where
  run cx ts := foldFrom step (ts.length + 1) a cx ts
  suffix cx ts := (foldFrom step (ts.length + 1) a).suffix cx ts

/-- Runs a parser until it says that it is done. -/
def loop (p : Parser Bool) : Parser Unit := do
  let _ ← many do if ← p then pure (some ()) else pure none

/-- One or more items between commas. -/
def commaSeparated {α : Type} (p : Parser α) : Parser (List α) := do
  let first ← p
  let rest ← many do if ← acceptSymbol .comma then return some (← p) else return none
  return first :: rest

/-- Items between commas up to a closing symbol, perhaps none. -/
def commaSeparatedUntil {α : Type} (closing : Symbol) (p : Parser α) : Parser (List α) := do
  if ← atSymbol closing then return [] else commaSeparated p

/-- Something between parentheses. -/
def parenthesized {α : Type} (p : Parser α) : Parser α := do
  expectSymbol .lparen
  let a ← p
  expectSymbol .rparen
  return a

/-- Runs a parser after a keyword, if the keyword comes next. -/
def optionally {α : Type} (k : String) (p : Parser α) : Parser Unit := do
  if ← accept k then discard p

def ifExists : Parser Unit := discard (acceptAll ["IF", "EXISTS"])

def ifNotExists : Parser Unit := discard (acceptAll ["IF", "NOT", "EXISTS"])

/-! ### Written forms -/

/-- The written form of items between commas. -/
def listed (p : Parser String) : Parser String := do
  return ", ".intercalate (← commaSeparated p)

/-- The written form of items between commas, in parentheses. -/
def listedInParens (p : Parser String) : Parser String := do
  return "(" ++ (← parenthesized (listed p)) ++ ")"

/-- The written form of something in parentheses. -/
def inParens (p : Parser String) : Parser String := do return "(" ++ (← parenthesized p) ++ ")"

/-- The written form of a clause after a row of keywords, empty if they do not come next. -/
def clauseAll (ks : List String) (p : Parser String) : Parser String := do
  if ← acceptAll ks then return " " ++ " ".intercalate ks ++ " " ++ (← p) else return ""

/-- The written form of a clause after a keyword, empty if the keyword does not come next. -/
def clause (k : String) (p : Parser String) : Parser String := clauseAll [k] p

/-- The written form of a clause that only some dialects have. -/
def clauseKnown (known : Bool) (ks : List String) (p : Parser String) : Parser String :=
  if known then clauseAll ks p else pure ""

/-- The written form of a row of keywords, empty if they do not come next. -/
def flagAll (ks : List String) : Parser String := do
  if ← acceptAll ks then return " " ++ " ".intercalate ks else return ""

/-- The written form of the first of some rows of keywords that comes next, empty if none does. -/
def flagPhrase (rows : List (List String)) : Parser String := do
  match ← acceptPhrase rows with
  | some ks => return " " ++ " ".intercalate ks
  | none => return ""

/-- The written form of a keyword, empty if it does not come next. -/
def flag (k : String) : Parser String := flagAll [k]

end Parser

end EntityGen.Sql
