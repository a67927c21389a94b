import EntityGen.Sql.Call

/-! Operands: literals, names, calls, and the forms that a keyword begins. A word that begins no
such form is a name, even if it is a keyword elsewhere. -/

namespace EntityGen.Sql.Grammar

open EntityGen.Sql.Parser

/-- A type followed by a string of it. No type of the user's may stand here, since any word might
be one. -/
private def typedLiteral (g : Grammar) : Parser String := do
  match ← g.balancedType with
  | .bare "INTERVAL" => g.interval
  | .custom .. => expected .expression
  | type => return type.text ++ " " ++ quotedText '\x27' (← literalString)

private def caseForm (g : Grammar) : Parser String := do
  let subject ← do
    if ← atKeyword "WHEN" then pure "" else pure (" " ++ (← g.whole))
  expect "WHEN"
  let branch : Parser String := do
    let condition ← g.whole
    expect "THEN"
    return " WHEN " ++ condition ++ " THEN " ++ (← g.whole)
  let first ← branch
  let rest ← many do if ← accept "WHEN" then return some (← branch) else return none
  let last ← clause "ELSE" g.whole
  expect "END"
  return "CASE" ++ subject ++ String.join (first :: rest) ++ last ++ " END"

private def convertForm (g : Grammar) (keyword : String) : Parser String := do
  let inner ← inParens do
    let subject ← g.whole
    if ← accept "USING" then return subject ++ " USING " ++ (← dotted)
    expectSymbol .comma
    let type ← g.balancedType
    return subject ++ ", " ++ type.text ++ (← clauseAll ["CHARACTER", "SET"] dotted)
  return keyword ++ inner

private def castForm (g : Grammar) (keyword : String) : Parser String := do
  let inner ← inParens do
    let subject ← g.whole
    expect "AS"
    let type ← g.balancedType
    let format ← clause "FORMAT" do
      let text := (← value).text
      return text ++ (← clauseAll ["AT", "TIME", "ZONE"] (Value.text <$> value))
    return subject ++ " AS " ++ type.text ++ format
  return keyword ++ inner

private def extractForm (g : Grammar) : Parser String := do
  let inner ← inParens do
    let part ← datePart
    if ← accept "FROM" then return part ++ " FROM " ++ (← g.whole)
    let comma ← acceptSymbol .comma
    if !(comma && (← rules).commaForms) then fail .extractSeparator
    return part ++ ", " ++ (← g.whole)
  return "EXTRACT" ++ inner

private def roundingForm (g : Grammar) (keyword : String) : Parser String := do
  let inner ← inParens do
    let subject ← g.whole
    if ← accept "TO" then return subject ++ " TO " ++ (← datePart)
    else if ← acceptSymbol .comma then
      match ← value with
      | .number digits long => return subject ++ ", " ++ (Value.number digits long).text
      | _ => fail .scaleNotNumber
    else return subject
  return keyword ++ inner

private def positionForm (g : Grammar) (name : String) : Parser String := do
  let between ← level .between
  let found ← attempt <| inParens do
    let part ← g.expr between
    expect "IN"
    return part ++ " IN " ++ (← g.whole)
  match found with
  | some text => return "POSITION" ++ text
  | none => return name ++ (← g.call)

private def substringForm (g : Grammar) : Parser String := do
  let inner ← inParens do
    let subject ← g.whole
    let commas ← acceptSymbol .comma
    let start ← do
      if commas then pure (", " ++ (← g.whole)) else clause "FROM" g.whole
    let counted ← do if ← accept "FOR" then pure true else acceptSymbol .comma
    if counted then
      return subject ++ start ++ (if commas then ", " else " FOR ") ++ (← g.whole)
    else return subject ++ start
  return "SUBSTRING" ++ inner

private def overlayForm (g : Grammar) : Parser String := do
  let inner ← inParens do
    let subject ← g.whole
    expect "PLACING"
    let cover ← g.whole
    expect "FROM"
    let start ← g.whole
    return subject ++ " PLACING " ++ cover ++ " FROM " ++ start ++ (← clause "FOR" g.whole)
  return "OVERLAY" ++ inner

private def trimForm (g : Grammar) : Parser String := do
  let inner ← inParens do
    let side ← do
      match ← acceptOneOf ["BOTH", "LEADING", "TRAILING"] with
      | some k => pure (k ++ " ")
      | none => pure ""
    let first ← g.whole
    if ← accept "FROM" then return side ++ first ++ " FROM " ++ (← g.whole)
    else if ← acceptSymbol .comma then
      if (← rules).commaForms then return first ++ ", " ++ (← g.wholes) else return side ++ first
    else return side ++ first
  return "TRIM" ++ inner

private def searchModes : List (List String) :=
  [["IN", "NATURAL", "LANGUAGE", "MODE", "WITH", "QUERY", "EXPANSION"],
   ["IN", "NATURAL", "LANGUAGE", "MODE"], ["IN", "BOOLEAN", "MODE"],
   ["WITH", "QUERY", "EXPANSION"]]

private def searchForm : Parser String := do
  let columns ← columnList
  expect "AGAINST"
  let sought ← inParens do
    let text := (← value).text
    return text ++ (← flagPhrase searchModes)
  return "MATCH " ++ columns ++ " AGAINST " ++ sought

private def structForm (g : Grammar) (start : Option Pos) : Parser String := do
  let (fields, stray) ← g.structFields start
  if stray then fail (.misuse .openStructLiteral (← position))
  let typed := match fields with
    | .nil => false
    | .cons .. => true
  let values ← listedInParens do
    let text ← g.whole
    let here ← position
    if ← accept "AS" then
      if typed then fail (.misuse .typedStructAlias here)
      return text ++ " AS " ++ (← named)
    else return text
  return (DataType.struct fields).text ++ values

private def arrayForm (g : Grammar) : Parser String := do
  expectSymbol .lbracket
  let elements ← commaSeparatedUntil .rbracket g.whole
  expectSymbol .rbracket
  return "[" ++ ", ".intercalate elements ++ "]"

/-- Keys and values between braces; none only where that is allowed. -/
private def braceForm (g : Grammar) (mayBeEmpty : Bool) (key : Parser String) : Parser String := do
  expectSymbol .lbrace
  let entry : Parser String := do
    let name ← key
    expectSymbol .colon
    return name ++ ": " ++ (← g.whole)
  let entries ←
    if mayBeEmpty then commaSeparatedUntil .rbrace entry else commaSeparated entry
  expectSymbol .rbrace
  return "\x7b" ++ ", ".intercalate entries ++ "\x7d"

private def existsForm (g : Grammar) : Parser String := do return "EXISTS " ++ (← inParens g.query)

private def notForm (g : Grammar) : Parser String := do
  if ← accept "EXISTS" then return "NOT " ++ (← g.existsForm)
  else return "NOT " ++ (← g.expr (← level .not))

/-- The parts of a dotted name after its first, and whether a wildcard ends it. -/
private def nameParts (name : String) : Nat → Parser (String × Bool)
  | 0 => pure (name, false)
  | n + 1 => do
    if !(← acceptSymbol .period) then return (name, false)
    let found ← next
    match Located.token? found with
    | some (.word w) => nameParts (name ++ "." ++ Name.text ⟨w.value, w.quote⟩) n
    | some (.literal .single s) => nameParts (name ++ "." ++ Name.text ⟨s, some '\x27'⟩) n
    | some (.symbol .star) =>
      if (← rules).trailingWildcards then return (name ++ ".*", true)
      else expectedAt .identifierAfterPeriod found
    | _ => expectedAt .starAfterPeriod found

/-- A name, a call, or a string after the name of its character set. -/
private def nameForm (g : Grammar) (w : Word) : Parser String := do
  let name := Name.text ⟨w.value, w.quote⟩
  match ← peekToken with
  | some (.symbol .lparen) => return name ++ (← g.call)
  | some (.symbol .period) =>
    let (text, wild) ← nameParts name (← remaining)
    if !wild && (← atSymbol .lparen) then return text ++ (← g.call) else return text
  | some (.literal .single _) | some (.literal .double _) | some (.literal .hex _) =>
    if w.value.startsWith "_" then return w.value ++ " " ++ (← value).text else return name
  | _ => return name

/-- The functions that need no parentheses. -/
private def clockWords : List String :=
  ["CURRENT_TIMESTAMP", "CURRENT_TIME", "CURRENT_DATE", "LOCALTIME", "LOCALTIMESTAMP"]

private def sessionWords : List String :=
  ["CURRENT_CATALOG", "CURRENT_USER", "SESSION_USER", "USER"]

/-- The form that a word begins, `none` if it begins none here. -/
private def keywordForm (g : Grammar) (r : Rules) (connecting : Bool) (next : Option Token)
    (start : Option Pos) (w : Word) : Option (Parser String) :=
  match w.keyword with
  | "TRUE" => some (pure "true")
  | "FALSE" => some (pure "false")
  | "NULL" => some (pure "NULL")
  | "CASE" => some g.caseForm
  | "CONVERT" => some (g.convertForm "CONVERT")
  | "TRY_CONVERT" => if r.tryConvert then some (g.convertForm "TRY_CONVERT") else none
  | "CAST" | "TRY_CAST" | "SAFE_CAST" => some (g.castForm w.keyword)
  | "EXISTS" => some g.existsForm
  | "EXTRACT" => some g.extractForm
  | "CEIL" | "FLOOR" => some (g.roundingForm w.keyword)
  | "POSITION" => if next = some (.symbol .lparen) then some (g.positionForm w.value) else none
  | "SUBSTRING" => some g.substringForm
  | "OVERLAY" => some g.overlayForm
  | "TRIM" => some g.trimForm
  | "INTERVAL" => some g.interval
  | "ARRAY" =>
    if next = some (.symbol .lbracket) then some do return "ARRAY" ++ (← g.arrayForm)
    else if next = some (.symbol .lparen) then some do return w.value ++ (← inParens g.query)
    else none
  | "NOT" => some g.notForm
  | "MATCH" => if r.textSearch then some searchForm else none
  | "STRUCT" => if r.builtTypes then some (g.structForm start) else none
  | "PRIOR" =>
    if connecting then some do return "PRIOR " ++ (← g.expr (← level .sum)) else none
  | "MAP" =>
    if r.braceLiterals ∧ next = some (.symbol .lbrace) then
      some do return "MAP " ++ (← g.braceForm true g.whole)
    else none
  | k =>
    if k ∈ clockWords then
      some do if ← acceptSymbol .lparen then return w.value ++ (← g.arguments).1 else return w.value
    else if r.sessionCalls ∧ k ∈ sessionWords then some (pure w.value)
    else none

/-- What follows an opening parenthesis: a query, an expression, or several. A field of the value
may be named after it. -/
private def groupForm (g : Grammar) : Parser String := do
  let inner ← do
    if ← atQuery then g.query else g.wholes
  expectSymbol .rparen
  let text := "(" ++ inner ++ ")"
  if ← acceptSymbol .period then
    let found ← next
    match Located.token? found with
    | some (.word w) => return text ++ "." ++ Name.text ⟨w.value, w.quote⟩
    | _ => fail (.noField found)
  else return text

/-- A sign or another operator before an operand. -/
private def signed (g : Grammar) (binding : Binding) (s : Symbol) : Parser String := do
  return s.text ++ (← g.expr (← level binding))

/-- What a symbol at the place of an operand begins. -/
private def symbolForm (g : Grammar) (r : Rules) (s : Symbol) : Parser String := do
  match s with
  | .lbracket => g.arrayForm
  | .colon => return (← value).text
  | .lbrace => if r.braceLiterals then g.braceForm false named else failing
  | .at => if r.symbolicOperators then operator .sum else return (← value).text
  | .plus | .minus => operator .product
  | .lparen => do
    expectSymbol .lparen
    g.groupForm
  | .doubleBang | .squareRoot | .cubeRoot | .tilde =>
    if r.symbolicOperators then operator .sum else failing
  | _ => failing
where
  operator (binding : Binding) : Parser String := do
    let _ ← next
    g.signed binding s
  failing : Parser String := do expectedAt .expression (← next)

/-- An operand without a collation after it. -/
private def bareOperand (g : Grammar) : Parser String := do
  let r ← rules
  match ← peek with
  | some ⟨.word w, pos⟩ =>
    let _ ← next
    match g.keywordForm r (← isConnecting) (← peekToken) (some pos) w with
    | some p => p
    | none => g.nameForm w
  | some ⟨.symbol s, _⟩ => g.symbolForm r s
  | some ⟨.literal .escaped _, _⟩ =>
    if r.escapedStrings then return (← value).text else expectedAt .expression (← next)
  | some ⟨.number .., _⟩ | some ⟨.literal .., _⟩ | some ⟨.placeholder _, _⟩ =>
    return (← value).text
  | _ => expectedAt .expression (← next)

/-- An operand. -/
def readOperand (g : Grammar) : Parser String := do
  match ← attempt g.typedLiteral with
  | some text => return text
  | none =>
    let text ← g.bareOperand
    return text ++ (← clause "COLLATE" dotted)

end EntityGen.Sql.Grammar
