import EntityGen.Sql.Call

/-! Statements that run others: cursors, which give the rows of a query bit by bit, prepared
statements, calls, and assertions. -/

namespace EntityGen.Sql.Grammar

open EntityGen.Sql.Parser

/-- What follows `DECLARE`. -/
def cursorDeclaration (g : Grammar) : Parser Unit := do
  discard identifier
  discard (accept "BINARY")
  discard (acceptOneOf ["INSENSITIVE", "ASENSITIVE"])
  discard (acceptPhrase [["SCROLL"], ["NO", "SCROLL"]])
  expect "CURSOR"
  if (← acceptOneOf ["WITH", "WITHOUT"]).isSome then expect "HOLD"
  expect "FOR"
  discard g.query

/-- Which rows a cursor gives next. -/
private def cursorStep : Parser Unit := do
  match ← acceptOneOf ["NEXT", "PRIOR", "FIRST", "LAST", "ABSOLUTE", "RELATIVE", "FORWARD",
      "BACKWARD", "ALL"] with
  | some "ABSOLUTE" | some "RELATIVE" => discard numericValue
  | some "FORWARD" | some "BACKWARD" => if !(← accept "ALL") then discard numericValue
  | some _ => pure ()
  | none => discard numericValue

/-- What follows `FETCH`. -/
def fetching : Parser Unit := do
  cursorStep
  discard (expectOneOf ["FROM", "IN"])
  discard identifier
  optionally "INTO" dottedName

/-- What follows `CLOSE`. -/
def closing : Parser Unit := do
  if !(← accept "ALL") then discard identifier

/-- What follows `CALL`. -/
def callStatement (g : Grammar) : Parser Unit := do
  discard dottedName
  if ← atSymbol .lparen then discard g.call

/-- What follows `ASSERT`. -/
def assertion (g : Grammar) : Parser Unit := do
  discard g.whole
  optionally "AS" g.whole

/-- What follows `DEALLOCATE`. -/
def deallocation : Parser Unit := do
  discard (accept "PREPARE")
  discard identifier

/-- What follows `EXECUTE`. The parameters need no parentheses. -/
def execution (g : Grammar) : Parser Unit := do
  discard dottedName
  if ← atSymbol .lparen then discard (parenthesized (commaSeparatedUntil .rparen g.whole))
  else
    let bare := (← atEnd) || (← atSymbol .semicolon) || (← atKeyword "USING")
    if !bare then discard g.wholes
  optionally "USING" g.wholes

/-- What follows `PREPARE`. -/
def preparation (g : Grammar) (statement : Parser Unit) : Parser Unit := do
  discard identifier
  if ← atSymbol .lparen then discard (parenthesized (commaSeparated g.balancedType))
  expect "AS"
  statement

end EntityGen.Sql.Grammar
