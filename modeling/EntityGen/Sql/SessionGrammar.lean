import EntityGen.Sql.Alias
import EntityGen.Sql.TransactionGrammar

/-! Statements about the session: its variables, what the server shows of itself, and the tables
it locks. -/

namespace EntityGen.Sql.Grammar

open EntityGen.Sql.Parser

/-! ### Variables -/

private def roleSetting : Parser Unit := do
  expect "ROLE"
  if !(← accept "NONE") then discard identifier

/-- What is set: one variable by its written name, or several in parentheses. -/
private def settingTarget : Parser (Option String) := do
  if ← acceptAll ["TIME", "ZONE"] then return some "TIMEZONE"
  else if (← rules).variableTuples && (← atSymbol .lparen) then
    discard (listedInParens named)
    return none
  else return some (← dotted)

private def characterSetting : Parser Unit := do
  if !(← accept "DEFAULT") then
    discard literalString
    optionally "COLLATE" literalString

/-- An expression that a variable is set to. What is read of it in vain stays read. -/
private def variableValue (g : Grammar) (wanted : Wanted) : Parser Unit := do
  if (← recovering g.whole).isNone then expected wanted

private def assignedValue (g : Grammar) : Parser Unit := do
  if ← atQuery then discard g.query else g.variableValue .variableValue

private def assignedValues (g : Grammar) (several : Bool) : Parser Unit := do
  if several then expectSymbol .lparen
  discard (commaSeparated g.assignedValue)
  if several then expectSymbol .rparen

/-- A setting that needs no equals sign, by the name of its variable. -/
private def namedSetting (g : Grammar) (qualified : Bool) (name : String) : Parser Unit := do
  if name.toList.map Char.toUpper = "TIMEZONE".toList then g.variableValue .timeZone
  else if name = "CHARACTERISTICS" then
    expectAll ["AS", "TRANSACTION"]
    transactionModes
  else if name = "TRANSACTION" ∧ !qualified then
    if ← accept "SNAPSHOT" then discard value else transactionModes
  else expected .assignmentSign

/-- What follows `SET`. -/
def variableSetting (g : Grammar) : Parser Unit := do
  let scope ← acceptOneOf ["SESSION", "LOCAL", "HIVEVAR"]
  let isRole ← do
    if scope = some "HIVEVAR" then
      expectSymbol .colon
      pure false
    else pure (← attempt roleSetting).isSome
  if isRole then return
  let target ← settingTarget
  let isCharacters := target.any fun name => name.toList.map Char.toUpper = "NAMES".toList
  if isCharacters && (← rules).serverStatements then return ← characterSetting
  let assigned ← do if ← acceptSymbol .eq then pure true else accept "TO"
  if assigned then g.assignedValues target.isNone
  else
    match target with
    | none => expected .assignedVariable
    | some name => g.namedSetting scope.isSome name

/-! ### Displays -/

/-- Which of the things to be shown are shown. -/
private def displayFilter (g : Grammar) : Parser Unit := do
  if (← acceptOneOf ["LIKE", "ILIKE"]).isSome then discard literalString
  else if ← accept "WHERE" then discard g.whole
  else discard (attempt literalString)

/-- The database whose things are shown. -/
private def displayPlace : Parser Unit := do
  if (← acceptOneOf ["FROM", "IN"]).isSome then discard identifier

private def columnDisplay (g : Grammar) : Parser Unit := do
  discard (expectOneOf ["FROM", "IN"])
  discard dottedName
  displayPlace
  g.displayFilter

private def definitionDisplay : Parser Unit := do
  discard (expectOneOf ["TABLE", "TRIGGER", "FUNCTION", "PROCEDURE", "EVENT", "VIEW"])
  discard dottedName

/-- Everything up to an equals sign, statement ends included. -/
private def looseDisplay : Parser Unit := loop do
  match ← peekToken with
  | none | some (.symbol .eq) => return false
  | some _ =>
    discard next
    return true

/-- What follows `SHOW`. -/
def display (g : Grammar) : Parser Unit := do
  let server := (← rules).serverStatements
  let extended ← accept "EXTENDED"
  let full ← accept "FULL"
  discard (accept "SESSION")
  discard (accept "GLOBAL")
  if (← acceptOneOf ["COLUMNS", "FIELDS"]).isSome then g.columnDisplay
  else if (← acceptPhrase [["TABLES"], ["MATERIALIZED", "VIEWS"], ["VIEWS"]]).isSome then
    displayPlace
    g.displayFilter
  else if ← accept "FUNCTIONS" then g.displayFilter
  else if extended || full then fail (.misuse .qualifiedShow none)
  else if ← accept "CREATE" then definitionDisplay
  else if ← accept "COLLATION" then g.displayFilter
  else if ← acceptAllMeant server ["VARIABLES"] then g.displayFilter
  else if ← acceptAllMeant server ["STATUS"] then g.displayFilter
  else if (← acceptOneOf ["DATABASES", "SCHEMAS"]).isSome then g.displayFilter
  else looseDisplay

/-! ### Directives and locks -/

private def directiveValue : Parser Unit := do
  let here ← peek
  match ← value with
  | .number .. | .placeholder _ | .literal .single _ | .literal .double _ => pure ()
  | _ => expectedAt .directiveValue here

/-- What follows `PRAGMA`. -/
def directive : Parser Unit := do
  discard dottedName
  if ← atSymbol .lparen then parenthesized directiveValue
  else if ← acceptSymbol .eq then directiveValue

/-- What follows `DISCARD`. -/
def discarding : Parser Unit := do
  if (← acceptOneOf ["ALL", "PLANS", "SEQUENCES", "TEMP", "TEMPORARY"]).isNone then
    expected .discardedObject

private def lockKinds : List (List String) :=
  [["READ", "LOCAL"], ["READ"], ["WRITE"], ["LOW_PRIORITY", "WRITE"]]

private def lockedTable : Parser Unit := do
  discard identifier
  discard (optionalAlias ["READ", "WRITE", "LOW_PRIORITY"])
  if (← acceptPhrase lockKinds).isNone then expected .tableLock

/-- What follows `LOCK TABLES`. -/
def tableLocks : Parser Unit := discard (commaSeparated lockedTable)

/-- What follows `NOTIFY`. -/
def notification : Parser Unit := do
  discard identifier
  if ← acceptSymbol .comma then discard literalString

end EntityGen.Sql.Grammar
