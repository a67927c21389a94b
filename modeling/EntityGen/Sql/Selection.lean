import EntityGen.Sql.RelationGrammar

/-! What a query selects: the columns of its result, the tables they come from, and the clauses
that filter, group and relate the rows. Each clause gives its written form after a blank, empty if
it is not there, so that a selection is written by joining its clauses. -/

namespace EntityGen.Sql.Grammar

open EntityGen.Sql.Parser

/-! ### Columns of the result -/

private def likeClause : Parser String := do
  if !(← accept "ILIKE") then return ""
  let found ← next
  match Located.token? found with
  | some (.literal .single s) => return " ILIKE " ++ quotedText '\x27' s
  | _ => expectedAt .likePattern found

private def excludeClause : Parser String := do
  if !(← accept "EXCLUDE") then return ""
  if ← atSymbol .lparen then return " EXCLUDE " ++ (← listedInParens named)
  else return " EXCLUDE " ++ (← named)

private def exceptClause : Parser String := do
  if !(← accept "EXCEPT") then return ""
  if ← atSymbol .lparen then return " EXCEPT " ++ (← columnList)
  else return " EXCEPT (" ++ (← named) ++ ")"

private def replaceClause (g : Grammar) : Parser String := do
  if !(← accept "REPLACE") then return ""
  if !(← atSymbol .lparen) then expected .replacedColumns
  let columns ← listedInParens do
    let text ← g.whole
    let mark ← flag "AS"
    return text ++ mark ++ " " ++ (← named)
  return " REPLACE " ++ columns

private def renameClause : Parser String := do
  let renamed : Parser String := do
    let name ← named
    expect "AS"
    return name ++ " AS " ++ (← named)
  if !(← accept "RENAME") then return ""
  if ← atSymbol .lparen then return " RENAME " ++ (← listedInParens renamed)
  else return " RENAME " ++ (← renamed)

/-- Which of all columns are left out, and how the others are changed. -/
private def wildcardOptions (g : Grammar) : Parser String := do
  if !(← rules).wildcardOptions then return ""
  let like ← likeClause
  let exclude ← if like = "" then excludeClause else pure ""
  let except ← exceptClause
  let replace ← g.replaceClause
  return like ++ exclude ++ except ++ replace ++ (← renameClause)

/-- One column of a result, or all of them. -/
def resultColumn (g : Grammar) : Parser String := do
  match ← g.item with
  | .wildcard text => return text ++ (← g.wildcardOptions)
  | .expression text =>
    if text.toList.map Char.toLower = "from".toList then
      fail (.misuse (.fromAsExpression text) (← position))
    return text ++ (← columnAlias)

/-- The columns of a result between commas. -/
def resultColumns (g : Grammar) : Parser String := listed g.resultColumn

/-- `DISTINCT`, perhaps on some expressions, or `ALL`. -/
private def distinctClause (g : Grammar) : Parser String := do
  let start ← position
  let all ← accept "ALL"
  if !(← accept "DISTINCT") then return ""
  if all then fail (.misuse .allAndDistinct start)
  if !(← accept "ON") then return " DISTINCT"
  let keys ← inParens do return ", ".intercalate (← commaSeparatedUntil .rparen g.whole)
  return " DISTINCT ON " ++ keys

private def topClause (g : Grammar) : Parser String := do
  if !(← accept "TOP") then return ""
  let count ← do
    if ← atSymbol .lparen then inParens g.whole else pure (toString (← unsigned 64))
  let percent ← flag "PERCENT"
  return " TOP " ++ count ++ percent ++ (← flagAll ["WITH", "TIES"])

private def intoClause : Parser String := do
  if !(← accept "INTO") then return ""
  let temporary := if (← acceptOneOf ["TEMP", "TEMPORARY"]).isSome then " TEMPORARY" else ""
  let unlogged ← flag "UNLOGGED"
  let table ← flag "TABLE"
  return " INTO" ++ temporary ++ unlogged ++ table ++ " " ++ (← dotted)

/-! ### Rows -/

/-- The tables of a query between commas. -/
def relations (g : Grammar) : Parser String := listed do return (← g.joined).text

/-- A row that a call unfolds into several. -/
private def lateralView (g : Grammar) : Parser (Option String) := do
  if !(← acceptAll ["LATERAL", "VIEW"]) then return none
  let outer ← flag "OUTER"
  let call ← g.whole
  let name ← dotted
  let columns := (← commaSeparated (optionalAlias notUnfoldedAliases)).filterMap id
  let columns := if columns.isEmpty then "" else " AS " ++ ", ".intercalate columns
  return some (" LATERAL VIEW" ++ outer ++ " " ++ call ++ " " ++ name ++ columns)

/-- Expressions in parentheses, perhaps none. -/
private def tuple (g : Grammar) : Parser String := inParens do
  return ", ".intercalate (← commaSeparatedUntil .rparen g.whole)

/-- One expression, or several in parentheses; the parentheses of one are dropped. -/
private def liftedTuple (g : Grammar) : Parser String := do
  if ← atSymbol .lparen then
    let values ← parenthesized (commaSeparatedUntil .rparen g.whole)
    match values with
    | [text] => return text
    | _ => return "(" ++ ", ".intercalate values ++ ")"
  else g.whole

/-- What rows are grouped by. -/
private def groupKey (g : Grammar) : Parser String := do
  if !(← rules).groupingSets then g.whole
  else if ← acceptAll ["GROUPING", "SETS"] then
    return "GROUPING SETS " ++ (← listedInParens g.tuple)
  else if ← accept "CUBE" then return "CUBE " ++ (← listedInParens g.liftedTuple)
  else if ← accept "ROLLUP" then return "ROLLUP " ++ (← listedInParens g.liftedTuple)
  else if (← atSymbol .lparen) && (← peekAt 1) == some (.symbol .rparen) then inParens (pure "")
  else g.whole

/-- `GROUP BY` and the keys after it. -/
def groupClause (g : Grammar) : Parser String := do
  if !(← acceptAll ["GROUP", "BY"]) then return ""
  let keys ← do if ← accept "ALL" then pure "ALL" else listed g.groupKey
  let known := (← rules).groupModifiers
  let modifiers ← many do
    if ← acceptKnown known "WITH" then
      return some (" WITH " ++ (← expectOneOf ["ROLLUP", "CUBE", "TOTALS"]))
    else return none
  return " GROUP BY " ++ keys ++ String.join modifiers

private def windowDefinition (g : Grammar) : Parser String := do
  let name ← named
  expect "AS"
  if ← acceptSymbol .lparen then return name ++ " AS (" ++ (← g.window) ++ ")"
  else if (← rules).windowReferences then return name ++ " AS " ++ (← named)
  else expected (.symbol .lparen)

/-- The windows of a query and the condition on what they compute, in either order. -/
private def windowClauses (g : Grammar) : Parser String := do
  let windows := clause "WINDOW" (listed g.windowDefinition)
  let qualify := clause "QUALIFY" g.whole
  if ← atKeyword "WINDOW" then
    let first ← windows
    return first ++ (← qualify)
  else
    let first ← qualify
    if first = "" then return "" else return first ++ (← windows)

/-- How rows are related to those above them, and where that begins. -/
private def hierarchyClause (g : Grammar) : Parser String := do
  let relationships : Parser String := do
    expectAll ["CONNECT", "BY"]
    connecting g.wholes
  let beginning : Parser String := do
    expectAll ["START", "WITH"]
    g.whole
  let written (start links : String) := " START WITH " ++ start ++ " CONNECT BY " ++ links
  if !(← rules).hierarchies then return ""
  if !(← atOneOf ["START", "CONNECT"]) then return ""
  if ← acceptAll ["CONNECT", "BY"] then
    let links ← connecting g.wholes
    return written (← beginning) links
  else
    let start ← beginning
    return written start (← relationships)

/-- The clauses of a query after `SELECT`. -/
def selection (g : Grammar) : Parser String := do
  let r ← rules
  let distinct ← g.distinctClause
  let top ← g.topClause
  let columns ← g.resultColumns
  let into ← intoClause
  let sources ← clause "FROM" g.relations
  let views ← many g.lateralView
  let before ← clauseKnown r.columnarQueries ["PREWHERE"] g.whole
  let condition ← clause "WHERE" g.whole
  let groups ← g.groupClause
  let cluster ← clauseAll ["CLUSTER", "BY"] g.wholes
  let distribute ← clauseAll ["DISTRIBUTE", "BY"] g.wholes
  let sort ← clauseAll ["SORT", "BY"] g.wholes
  let having ← clause "HAVING" g.whole
  let windows ← g.windowClauses
  let hierarchy ← g.hierarchyClause
  return "SELECT" ++ distinct ++ top ++ " " ++ columns ++ into ++ sources ++ String.join views
    ++ before ++ condition ++ groups ++ cluster ++ distribute ++ sort ++ having ++ windows
    ++ hierarchy

end EntityGen.Sql.Grammar
