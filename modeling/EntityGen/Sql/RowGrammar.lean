import EntityGen.Sql.Selection
import EntityGen.Sql.Setting

/-! Statements that change the rows of a table. Two of them, `INSERT` and `UPDATE`, may also stand
where a query stands, and so give their written form. -/

namespace EntityGen.Sql.Grammar

open EntityGen.Sql.Parser

/-! ### Assignments -/

private def assignment (g : Grammar) : Parser String := do
  let target ← do
    if ← atSymbol .lparen then listedInParens dotted else dotted
  expectSymbol .eq
  return target ++ " = " ++ (← g.whole)

private def assignments (g : Grammar) : Parser String := listed g.assignment

private def returningClause (g : Grammar) : Parser String := clause "RETURNING" g.resultColumns

/-! ### New rows -/

private def conflictWords : List String := ["REPLACE", "ROLLBACK", "ABORT", "FAIL", "IGNORE"]

/-- What is to be done about a conflict, where the dialect lets a statement begin with it. -/
private def conflictClause : Parser (Option String) := do
  if !(← rules).conflictClauses then return none
  match ← acceptPhrase (conflictWords.map fun k => ["OR", k]) with
  | some ks => return some (" ".intercalate ks)
  | none => if ← accept "REPLACE" then return some "OR REPLACE" else return none

/-- What is done about a row that is there already. -/
private def duplicateClause (g : Grammar) : Parser String := do
  if !(← accept "ON") then return ""
  if ← accept "CONFLICT" then
    let target ← do
      if ← acceptAll ["ON", "CONSTRAINT"] then pure (" ON CONSTRAINT " ++ (← dotted))
      else if ← atSymbol .lparen then columnList
      else pure ""
    expect "DO"
    if ← accept "NOTHING" then return " ON CONFLICT" ++ target ++ " DO NOTHING"
    expectAll ["UPDATE", "SET"]
    let changes ← g.assignments
    return " ON CONFLICT" ++ target ++ " DO UPDATE SET " ++ changes ++ (← clause "WHERE" g.whole)
  else
    expectAll ["DUPLICATE", "KEY", "UPDATE"]
    return " ON DUPLICATE KEY UPDATE " ++ (← g.assignments)

/-- The columns that values are given for, if they are listed, with the blank after them. -/
private def filledColumns : Parser String := do
  if !(← atSymbol .lparen) then return ""
  let columns ← parenthesized do
    if (← rules).emptyRows then commaSeparatedUntil .rparen named else commaSeparated named
  return if columns.isEmpty then "" else "(" ++ ", ".intercalate columns ++ ") "

/-- Where new rows come from: columns and a query, or defaults alone. -/
private def insertedRows (g : Grammar) : Parser String := do
  if ← acceptAll ["DEFAULT", "VALUES"] then return "DEFAULT VALUES"
  let isQuery := (← atSymbol .lparen) && (← peekAt 1).any (·.isKeyword "SELECT")
  if isQuery then g.query
  else
    let columns ← filledColumns
    let partition ← do
      if ← accept "PARTITION" then pure ("PARTITION " ++ (← g.wholesInParens) ++ " ") else pure ""
    return columns ++ partition ++ (← g.query)

/-- The rows of a query written to a directory. -/
private def directoryRows (g : Grammar) (overwrite loc : String) : Parser String := do
  let path ← literalString
  let format ← clauseAll ["STORED", "AS"] fileFormat
  return "INSERT" ++ overwrite ++ loc ++ " DIRECTORY '" ++ path ++ "'" ++ format ++ " "
    ++ (← g.query)

/-- What follows `INSERT` or, as its name, `REPLACE`. -/
def insertion (g : Grammar) (name : String) : Parser String := do
  let r ← rules
  let conflict ← conflictClause
  let modified := r.insertModifiers
  let priority ←
    if modified then flagPhrase [["LOW_PRIORITY"], ["DELAYED"], ["HIGH_PRIORITY"]] else pure ""
  let ignore ← if modified then flag "IGNORE" else pure ""
  let overwrite ← flag "OVERWRITE"
  let into ← flag "INTO"
  let loc ← flag "LOCAL"
  if ← accept "DIRECTORY" then return ← g.directoryRows overwrite loc
  let table ← flag "TABLE"
  let target ← dotted
  let target := target ++ (← clauseKnown r.aliasedTargets ["AS"] named)
  let rows ← g.insertedRows
  let row ← clauseKnown modified ["AS"] do
    let other ← dotted
    return other ++ (← optionalColumnList)
  let duplicate ← g.duplicateClause
  let returning ← g.returningClause
  let start := match conflict with
    | some text => "INSERT " ++ text ++ " INTO"
    | none => name ++ priority ++ ignore ++ overwrite ++ into ++ table
  return start ++ " " ++ target ++ " " ++ rows ++ row ++ duplicate ++ returning

/-! ### Changed rows -/

/-- What follows `UPDATE`. Where no other tables can be read, their keyword is taken all the
same. -/
def revision (g : Grammar) : Parser String := do
  let table ← g.joined
  expect "SET"
  let changes ← g.assignments
  let sources ← do
    if (← accept "FROM") && (← rules).updateSources then pure (" FROM " ++ (← g.joined).text)
    else pure ""
  let condition ← clause "WHERE" g.whole
  return "UPDATE " ++ table.text ++ " SET " ++ changes ++ sources ++ condition
    ++ (← g.returningClause)

/-- What follows `DELETE`. -/
def deletion (g : Grammar) : Parser Unit := do
  if !(← accept "FROM") then
    if !(← rules).bareDeletions then
      discard (commaSeparated dottedName)
      expect "FROM"
  discard g.relations
  optionally "USING" g.relations
  optionally "WHERE" g.whole
  discard g.returningClause
  discard g.orderClause
  optionally "LIMIT" do if !(← accept "ALL") then discard g.whole

/-- The rows that a clause of a merge is about. -/
private def mergedRows : Parser String := do
  if ← accept "NOT" then
    expect "MATCHED"
    return "NOT MATCHED" ++ (← flagPhrase [["BY", "SOURCE"], ["BY", "TARGET"]])
  else
    expect "MATCHED"
    return "MATCHED"

/-- What a merge does with some rows. Only rows that are missing from the target are new. -/
private def mergeAction (g : Grammar) (rows : String) : Parser Unit := do
  let areNew := rows = "NOT MATCHED" ∨ rows = "NOT MATCHED BY TARGET"
  match ← acceptOneOf ["UPDATE", "INSERT", "DELETE"] with
  | some "INSERT" =>
    if ¬areNew then fail (.misuse (.barredMergeAction "INSERT" rows) none)
    discard filledColumns
    if !(← acceptKnown (← rules).wholeRowInserts "ROW") then
      expect "VALUES"
      discard (g.valueRows (← rules).emptyRows)
  | some action =>
    if areNew then fail (.misuse (.barredMergeAction action rows) none)
    if action = "UPDATE" then
      expect "SET"
      discard g.assignments
  | none => fail (.misuse .missingMergeAction none)

/-- What follows `MERGE`. Its clauses go on to the end of the statement. -/
def merging (g : Grammar) : Parser Unit := do
  let _ ← accept "INTO"
  discard g.table
  expect "USING"
  discard g.table
  expect "ON"
  discard g.whole
  loop do
    if (← atEnd) || (← atSymbol .semicolon) then return false
    expect "WHEN"
    let rows ← mergedRows
    optionally "AND" g.whole
    expect "THEN"
    g.mergeAction rows
    return true

/-- The name of the servers on which a statement is carried out. -/
def clusterClause : Parser Unit := do
  if ← acceptAll ["ON", "CLUSTER"] then discard identifier

/-- What follows `TRUNCATE`. -/
def truncation (g : Grammar) : Parser Unit := do
  let _ ← accept "TABLE"
  let _ ← accept "ONLY"
  discard (commaSeparated dottedName)
  optionally "PARTITION" g.wholesInParens
  if (← rules).restartedNumbers then
    discard (acceptPhrase [["RESTART", "IDENTITY"], ["CONTINUE", "IDENTITY"]])
    discard (acceptOneOf ["CASCADE", "RESTRICT"])
  clusterClause

end EntityGen.Sql.Grammar
