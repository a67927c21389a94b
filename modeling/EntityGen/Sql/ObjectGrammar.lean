import EntityGen.Sql.TableGrammar

/-! The objects of a database besides tables: views, indexes, schemas, sequences, types and what
guards them. Their definitions are read to tell where they end; nothing of them is kept. -/

namespace EntityGen.Sql.Grammar

open EntityGen.Sql.Parser

/-! ### Views and indexes -/

private def viewColumn (g : Grammar) : Parser Unit := do
  discard identifier
  if (← rules).viewOptions && (← atOneOf ["OPTIONS", "COMMENT"]) then discard g.columnOption

private def viewColumns (g : Grammar) : Parser Unit := do
  if ← atSymbol .lparen then discard (parenthesized (commaSeparatedUntil .rparen g.viewColumn))

private def viewComment : Parser Unit := do
  expectSymbol .eq
  let found ← next
  match Located.token? found with
  | some (.literal .single _) => pure ()
  | _ => expectedAt .stringLiteral found

/-- A view, from `MATERIALIZED` or `VIEW` on. -/
def viewDefinition (g : Grammar) : Parser Unit := do
  let r ← rules
  discard (accept "MATERIALIZED")
  expect "VIEW"
  if r.guardedViews then ifNotExists
  discard dottedName
  g.viewColumns
  g.settingsAfter "WITH"
  optionally "CLUSTER" do
    expect "BY"
    discard optionalColumnList
  if r.viewOptions then
    g.settingsAfter "OPTIONS"
    optionally "TO" dottedName
    optionally "COMMENT" viewComment
  expect "AS"
  discard g.query
  discard (acceptAllKnown r.viewOptions ["WITH", "NO", "SCHEMA", "BINDING"])

/-- An index after `INDEX`. -/
def indexDefinition (g : Grammar) : Parser Unit := do
  discard (accept "CONCURRENTLY")
  let guarded ← acceptAll ["IF", "NOT", "EXISTS"]
  let unnamed ← acceptKnown (!guarded) "ON"
  if !unnamed then
    discard dottedName
    expect "ON"
  discard dottedName
  optionally "USING" identifier
  discard (parenthesized g.orderings)
  optionally "INCLUDE" (listedInParens named)
  optionally "NULLS" do
    discard (accept "NOT")
    expect "DISTINCT"
  if (← rules).indexParameters then optionally "WITH" g.wholesInParens
  optionally "WHERE" g.whole

/-- A virtual table after `VIRTUAL`. -/
def virtualTable : Parser Unit := do
  expect "TABLE"
  ifNotExists
  discard dottedName
  expect "USING"
  discard identifier
  discard optionalColumnList

/-! ### Schemas, databases and extensions -/

def schemaDefinition : Parser Unit := do
  ifNotExists
  if ← accept "AUTHORIZATION" then discard identifier
  else
    discard dottedName
    optionally "AUTHORIZATION" identifier

def databaseDefinition : Parser Unit := do
  ifNotExists
  discard dottedName
  loop do
    match ← acceptOneOf ["LOCATION", "MANAGEDLOCATION"] with
    | some _ =>
      discard literalString
      return true
    | none => return false

def extensionDefinition : Parser Unit := do
  ifNotExists
  discard identifier
  if ← accept "WITH" then
    optionally "SCHEMA" identifier
    optionally "VERSION" identifier
    discard (accept "CASCADE")

/-! ### Sequences and types -/

def sequenceDefinition (g : Grammar) : Parser Unit := do
  ifNotExists
  discard dottedName
  optionally "AS" g.balancedType
  discard sequenceOptions
  if ← acceptAll ["OWNED", "BY"] then
    if !(← accept "NONE") then discard dottedName

private def typeAttribute (g : Grammar) : Parser Bool := do
  discard identifier
  discard g.balancedType
  optionally "COLLATE" dottedName
  let comma ← acceptSymbol .comma
  if ← acceptSymbol .rparen then return false
  if !comma then expected .attributeContinuation
  return true

/-- A type after `TYPE`: its attributes in parentheses, of which the last may have a comma. -/
def typeDefinition (g : Grammar) : Parser Unit := do
  discard dottedName
  expect "AS"
  if ← acceptSymbol .lparen then
    if !(← acceptSymbol .rparen) then loop g.typeAttribute

/-- What begins a type that lists its labels. -/
def labelTypeStart : Parser Unit := do
  expect "TYPE"
  discard dottedName
  expectAll ["AS", "ENUM"]

/-- A type that lists its labels, after `CREATE`. `false`, with nothing taken, if none comes
next. -/
def labelType : Parser Bool := do
  if (← attempt labelTypeStart).isNone then return false
  if !(← acceptSymbol .lparen) then expected .openingOfLabels
  discard (commaSeparatedUntil .rparen identifier)
  if !(← acceptSymbol .rparen) then expected .closingOfLabels
  return true

/-! ### Owners, policies and secrets -/

/-- Who owns an object or is given access to it. -/
def owner : Parser Unit := do
  if (← acceptOneOf ["CURRENT_USER", "CURRENT_ROLE", "SESSION_USER"]).isNone then
    let here ← peek
    if (← recovering identifier).isNone then fail (.misuse (.missingOwner here) none)

/-- Which rows a policy shows, and which it lets in. -/
def policyConditions (g : Grammar) : Parser Unit := do
  optionally "TO" (commaSeparated owner)
  optionally "USING" (parenthesized g.whole)
  if ← acceptAll ["WITH", "CHECK"] then discard (parenthesized g.whole)

def policyDefinition (g : Grammar) : Parser Unit := do
  discard identifier
  expect "ON"
  discard dottedName
  optionally "AS" (expectOneOf ["PERMISSIVE", "RESTRICTIVE"])
  optionally "FOR" (expectOneOf ["ALL", "SELECT", "INSERT", "UPDATE", "DELETE"])
  g.policyConditions

/-- The name of a secret and the place where it is kept, either of which may be missing. -/
private def secretName : Parser Unit := do
  if ← atSymbol .lparen then return
  let placed ← do
    if ← accept "IN" then pure (← recovering identifier).isSome
    else
      discard (recovering identifier)
      pure false
  if !placed then
    if ← accept "IN" then discard (recovering identifier)

def secretDefinition : Parser Unit := do
  ifNotExists
  secretName
  parenthesized do
    expect "TYPE"
    discard identifier
    if ← acceptSymbol .comma then
      discard <| commaSeparated do
        discard identifier
        discard identifier

end EntityGen.Sql.Grammar
