import EntityGen.Sql.RowGrammar

/-! Queries. They occur inside expressions and after `AS`, and a query alone is a statement. A
query selects rows or lists them, may combine with others by set operators, and may order its rows,
keep some of them and lock them. -/

namespace EntityGen.Sql

/-- How tightly a set operator binds. -/
def setOperators : List (String × Nat) := [("UNION", 10), ("EXCEPT", 10), ("INTERSECT", 20)]

namespace Grammar

open EntityGen.Sql.Parser

/-! ### Bodies -/

/-- A table that stands for its rows. Two more tokens are read to see whether its name is
qualified. -/
private def bareTable : Parser String := do
  let first ← next
  let second ← next
  let third ← next
  let word (wanted : Wanted) (t : Option Located) : Parser String := do
    match Located.token? t with
    | some (.word w) => return w.value
    | _ => expectedAt wanted t
  if Located.token? second = some (.symbol .period) then
    let schema ← word .schemaName first
    return "TABLE " ++ schema ++ "." ++ (← word .tableName third)
  else return "TABLE " ++ (← word .tableName first)

private def setQuantifiers : List (List String) :=
  [["DISTINCT", "BY", "NAME"], ["BY", "NAME"], ["ALL", "BY", "NAME"], ["ALL"], ["DISTINCT"]]

/-- The body of a query: rows, and set operators that bind tighter than a level. -/
def readBody (g : Grammar) (floor : Nat) : Parser String := do
  let first ← do
    if ← accept "SELECT" then g.selection
    else if ← atSymbol .lparen then inParens g.query
    else if ← accept "VALUES" then g.valueRows (← rules).emptyRows
    else if ← accept "TABLE" then bareTable
    else expected .queryBody
  fold first fun left => do
    match ← acceptOneOf ((setOperators.filter (·.2 > floor)).map (·.1)) with
    | none => return none
    | some k =>
      let quantifier ← flagPhrase setQuantifiers
      let right ← g.body ((setOperators.lookup k).getD 0)
      return some (left ++ " " ++ k ++ quantifier ++ " " ++ right)

/-! ### Order and range -/

private def interpolation (g : Grammar) : Parser String := do
  let column ← named
  return column ++ (← clause "AS" g.whole)

/-- The order of a query's rows, and how the rows that fill it get their values. -/
def queryOrder (g : Grammar) : Parser String := do
  let order ← g.orderClause
  if order = "" then return ""
  if !(← acceptKnown (← rules).columnarQueries "INTERPOLATE") then return order
  if ← atSymbol .lparen then
    let columns ← inParens do
      return ", ".intercalate (← commaSeparatedUntil .rparen g.interpolation)
    return order ++ " INTERPOLATE " ++ columns
  else return order ++ " INTERPOLATE"

/-- How many rows a query gives, and how many it leaves out first. -/
private structure RowRange where
  limit : Option String
  offset : Option String

private def RowRange.text (r : RowRange) : String :=
  ((r.limit.map (" LIMIT " ++ ·)).getD "") ++ ((r.offset.map (" OFFSET " ++ ·)).getD "")

/-- `LIMIT` and `OFFSET`, or a limit of two numbers of which the first is the offset. -/
private def rowRangeStep (g : Grammar) (range : RowRange) : Parser RowRange := do
  let limit ← do
    if ← acceptKnown range.limit.isNone "LIMIT" then
      if ← accept "ALL" then pure none else some <$> g.whole
    else pure range.limit
  let offset ← do
    if ← acceptKnown range.offset.isNone "OFFSET" then
      let count ← g.whole
      pure (some (count ++ (← flagPhrase [["ROW"], ["ROWS"]])))
    else pure range.offset
  let mayPair := (← rules).limitPairs && limit.isSome && offset.isNone
  if ← if mayPair then acceptSymbol .comma else pure false then
    return ⟨some (← g.whole), limit⟩
  else return ⟨limit, offset⟩

/-- The range of a query's rows, its two parts in either order. -/
private def rowRange (g : Grammar) : Parser String := do
  let range ← g.rowRangeStep (← g.rowRangeStep ⟨none, none⟩)
  return range.text

private def fetchClause : Parser String := do
  if !(← accept "FETCH") then return ""
  discard (expectOneOf ["FIRST", "NEXT"])
  let count ← do
    if (← acceptOneOf ["ROW", "ROWS"]).isSome then pure ""
    else
      let amount := (← value).text
      let percent ← flag "PERCENT"
      discard (expectOneOf ["ROW", "ROWS"])
      pure (amount ++ percent ++ " ")
  match ← acceptPhrase [["ONLY"], ["WITH", "TIES"]] with
  | some ks => return " FETCH FIRST " ++ count ++ "ROWS " ++ " ".intercalate ks
  | none => expected (.oneOf ["ONLY", "WITH TIES"])

/-! ### Locks and documents -/

private def lockClause : Parser String := do
  let kind ← expectOneOf ["UPDATE", "SHARE"]
  let table ← clause "OF" dotted
  return " FOR " ++ kind ++ table ++ (← flagPhrase [["NOWAIT"], ["SKIP", "LOCKED"]])

/-- A string in parentheses. -/
private def stringInParens : Parser String := do
  return "('" ++ (← parenthesized literalString) ++ "')"

private def optionalStringInParens : Parser String := do
  if ← atSymbol .lparen then stringInParens else return ""

/-- The options of a document, each after a comma; of each the last is kept, in a fixed order. -/
private def documentOptions (order : List String) (option : Parser (Option (String × String))) :
    Parser String := do
  let found ← many do
    if ← acceptSymbol .comma then return some (← option) else return none
  let found := (found.filterMap id).reverse
  return String.join (order.filterMap fun k => (found.lookup k).map (", " ++ k ++ ·))

private def markupOption : Parser (Option (String × String)) := do
  if ← accept "ELEMENTS" then return some ("ELEMENTS", "")
  else if ← accept "BINARY" then
    expect "BASE64"
    return some ("BINARY BASE64", "")
  else if ← accept "ROOT" then return some ("ROOT", ← stringInParens)
  else if ← accept "TYPE" then return some ("TYPE", "")
  else return none

/-- The rows of a query as one text of marked-up elements. -/
private def markupClause : Parser String := do
  let kind ← do
    match ← acceptOneOf ["RAW", "AUTO", "EXPLICIT", "PATH"] with
    | some "RAW" => pure ("RAW" ++ (← optionalStringInParens))
    | some "PATH" => pure ("PATH" ++ (← optionalStringInParens))
    | some k => pure k
    | none => fail (.misuse .markupKind none)
  return " FOR XML " ++ kind
    ++ (← documentOptions ["BINARY BASE64", "TYPE", "ROOT", "ELEMENTS"] markupOption)

private def objectOption : Parser (Option (String × String)) := do
  if ← accept "ROOT" then return some ("ROOT", ← stringInParens)
  else
    match ← acceptOneOf ["INCLUDE_NULL_VALUES", "WITHOUT_ARRAY_WRAPPER"] with
    | some k => return some (k, "")
    | none => return none

/-- The rows of a query as one text of objects. -/
private def objectClause : Parser String := do
  let kind ← do
    match ← acceptOneOf ["AUTO", "PATH"] with
    | some k => pure k
    | none => fail (.misuse .documentKind none)
  return " FOR JSON " ++ kind
    ++ (← documentOptions ["ROOT", "INCLUDE_NULL_VALUES", "WITHOUT_ARRAY_WRAPPER"] objectOption)

/-- What the rows of a query are for: locks, and at last perhaps a document. -/
private def purposeClauses : Nat → Parser String
  | 0 => pure ""
  | n + 1 => do
    if !(← accept "FOR") then return ""
    match ← acceptOneOf ["XML", "JSON", "BROWSE"] with
    | some "XML" => markupClause
    | some "JSON" => objectClause
    | some _ => return " FOR BROWSE"
    | none =>
      let lock ← lockClause
      return lock ++ (← purposeClauses n)

private def formatClause : Parser String := do
  if ← acceptKnown (← rules).columnarQueries "FORMAT" then
    if ← accept "NULL" then return " FORMAT NULL" else return " FORMAT " ++ (← named)
  else return ""

/-! ### Queries -/

/-- One table of a `WITH` clause. -/
private def namedQuery (g : Grammar) : Parser String := do
  let name ← named
  let columns ← do
    if ← atKeyword "AS" then pure "" else optionalColumnList
  expect "AS"
  let kept ←
    if (← rules).keptQueries then flagPhrase [["MATERIALIZED"], ["NOT", "MATERIALIZED"]]
    else pure ""
  let text ← inParens g.query
  return name ++ columns ++ " AS" ++ kept ++ " " ++ text ++ (← clause "FROM" named)

/-- The tables that a query names beforehand. -/
private def withClause (g : Grammar) : Parser String := do
  if !(← accept "WITH") then return ""
  let recursive := if ← accept "RECURSIVE" then "RECURSIVE " else ""
  return "WITH " ++ recursive ++ (← listed g.namedQuery) ++ " "

/-- A query. A statement that inserts or updates rows may stand for one. -/
def readQuery (g : Grammar) : Parser String := nested do
  let tables ← g.withClause
  if ← accept "INSERT" then return tables ++ (← g.insertion "INSERT")
  if ← accept "UPDATE" then return tables ++ (← g.revision)
  let columnar := (← rules).columnarQueries
  let body ← g.body 0
  let order ← g.queryOrder
  let range ← g.rowRange
  let groups ← clauseKnown columnar ["BY"] g.wholes
  let settings ← do
    if ← acceptKnown columnar "SETTINGS" then pure (" " ++ (← queryOptions)) else pure ""
  let fetch ← fetchClause
  let purpose ← purposeClauses (← remaining)
  return tables ++ body ++ order ++ range ++ groups ++ settings ++ fetch ++ purpose
    ++ (← formatClause)

end Grammar

end EntityGen.Sql
