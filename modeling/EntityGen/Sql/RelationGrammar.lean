import EntityGen.Sql.RowPattern

/-! The tables that a query reads: by name, computed by a call, made of values or of another query,
pivoted, and joined to one another. -/

namespace EntityGen.Sql.Grammar

open EntityGen.Sql.Parser

/-! ### Rows and settings -/

/-- Rows of values between commas, each perhaps after `ROW`. -/
def valueRows (g : Grammar) (mayBeEmpty : Bool) : Parser String := do
  let rows ← commaSeparated do
    let marked ← accept "ROW"
    let values ← inParens do
      if mayBeEmpty then return ", ".intercalate (← commaSeparatedUntil .rparen g.whole)
      else g.wholes
    return (marked, values)
  let mark := if rows.any (·.1) then "ROW" else ""
  return "VALUES " ++ ", ".intercalate (rows.map fun row => mark ++ row.2)

private def queryOption : Parser String := do
  let key ← named
  expectSymbol .eq
  return key ++ " = " ++ (← value).text

/-- Settings for the reading of a query, after their keyword. -/
def queryOptions : Parser String := do return "SETTINGS " ++ (← listed queryOption)

/-! ### Pivots -/

private def pivotedCall (g : Grammar) : Parser String := do
  match Located.token? (← next) with
  | some (.word w) =>
    let text ← g.call
    return w.value ++ text ++ (← markedAlias)
  | _ => expected .functionName

/-- Where the values come from that become columns. -/
private def pivotValues (g : Grammar) : Parser String := do
  if ← accept "ANY" then return "ANY" ++ (← g.orderClause)
  else if ← atQuery then g.query
  else listed do
    let text ← g.whole
    return text ++ (← markedAlias)

private def pivot (g : Grammar) (table : Relation) : Parser Relation := do
  let inner ← inParens do
    let calls ← listed g.pivotedCall
    expect "FOR"
    let column ← dotted
    expect "IN"
    let values ← inParens g.pivotValues
    let default ← do
      if ← acceptAll ["DEFAULT", "ON", "NULL"] then
        pure (" DEFAULT ON NULL " ++ (← inParens g.whole))
      else pure ""
    return calls ++ " FOR " ++ column ++ " IN " ++ values ++ default
  return ⟨table.text ++ " PIVOT" ++ inner, ← tableAlias, "", false⟩

private def unpivot (table : Relation) : Parser Relation := do
  let inner ← inParens do
    let value ← named
    expect "FOR"
    let name ← named
    expect "IN"
    return value ++ " FOR " ++ name ++ " IN " ++ (← columnList)
  return ⟨table.text ++ " UNPIVOT" ++ inner, ← tableAlias, "", false⟩

/-- The pivots of a table, one after another. -/
private def pivots (g : Grammar) (table : Relation) : Parser Relation :=
  fold table fun table => do
    match ← acceptOneOf ["PIVOT", "UNPIVOT"] with
    | some "PIVOT" => some <$> g.pivot table
    | some _ => some <$> unpivot table
    | none => return none

/-! ### Tables out of documents -/

/-- What stands for a value that a document lacks or spoils. -/
private def documentFallback : Parser (Option String) := do
  let text ← do
    if ← accept "NULL" then pure "NULL"
    else if ← accept "ERROR" then pure "ERROR"
    else if ← accept "DEFAULT" then pure ("DEFAULT " ++ (← value).text)
    else return none
  expect "ON"
  return some text

/-- The fallbacks of a column: for a missing value and for a spoiled one, the last of each. -/
private def documentFallbacks : Parser String := do
  let found ← fold ("", "") fun (empty, error) => do
    match ← documentFallback with
    | none => return none
    | some text =>
      if ← accept "EMPTY" then return some (" " ++ text ++ " ON EMPTY", error)
      expect "ERROR"
      return some (empty, " " ++ text ++ " ON ERROR")
  return found.1 ++ found.2

/-- A column read out of a document. `depth` bounds how many columns may be nested. -/
private def documentColumn (g : Grammar) : Nat → Parser String
  | 0 => fail .tooDeep
  | depth + 1 => do
    if ← accept "NESTED" then
      let _ ← accept "PATH"
      let path := (← value).text
      expect "COLUMNS"
      return "NESTED PATH " ++ path ++ " COLUMNS " ++ (← listedInParens (documentColumn g depth))
    let name ← named
    if ← accept "FOR" then
      expect "ORDINALITY"
      return name ++ " FOR ORDINALITY"
    let type ← g.balancedType
    let present ← flag "EXISTS"
    expect "PATH"
    let path := (← value).text
    return name ++ " " ++ type.text ++ present ++ " PATH " ++ path ++ (← documentFallbacks)

private def documentTable (g : Grammar) : Parser Relation := do
  let inner ← inParens do
    let document ← g.whole
    expectSymbol .comma
    let path := (← value).text
    expect "COLUMNS"
    let depth ← remaining
    return document ++ ", " ++ path ++ " COLUMNS" ++ (← listedInParens (g.documentColumn depth))
  return ⟨"JSON_TABLE" ++ inner, ← tableAlias, "", false⟩

/-! ### Tables -/

/-- A query in parentheses that stands for a table. -/
private def derivedTable (g : Grammar) (lead : String) : Parser Relation := do
  let text ← inParens g.query
  return ⟨lead ++ text, ← tableAlias, "", false⟩

/-- What follows `LATERAL`: a query, or a call. -/
private def lateralTable (g : Grammar) : Parser Relation := do
  if ← atSymbol .lparen then g.derivedTable "LATERAL "
  else
    let name ← dotted
    let arguments ← inParens do
      return ", ".intercalate (← commaSeparatedUntil .rparen g.argument)
    return ⟨"LATERAL " ++ name ++ arguments, ← tableAlias, "", false⟩

/-- What stands between parentheses is a query, or tables that are joined. -/
private def enclosedTable (g : Grammar) : Parser Relation := do
  match ← attempt (g.derivedTable "") with
  | some table => g.pivots table
  | none =>
    expectSymbol .lparen
    let inner ← g.joined
    if !inner.joins.isEmpty || inner.relation.isJoin then
      expectSymbol .rparen
      return ⟨"(" ++ inner.text ++ ")", ← tableAlias, "", true⟩
    if !(← rules).looseTables then expected .joinedTable
    expectSymbol .rparen
    match ← tableAlias, inner.relation.aliasName with
    | some _, some name => fail (.misuse (.repeatedAlias name) none)
    | some name, none => return { inner.relation with aliasName := some name }
    | none, _ => return inner.relation

private def unnestedTable (g : Grammar) : Parser Relation := do
  let values ← g.wholesInParens
  let numbered ← flagAll ["WITH", "ORDINALITY"]
  let aliasName ← tableAlias
  let counted ← do if ← accept "WITH" then accept "OFFSET" else pure false
  let trail ← if counted then pure (" WITH OFFSET" ++ (← columnAlias)) else pure ""
  return ⟨"UNNEST" ++ values ++ numbered, aliasName, trail, false⟩

/-- Arguments between commas up to settings, which end them. -/
private def argumentsFrom (g : Grammar) (settings : Bool) : Nat → Parser (List String)
  | 0 => pure []
  | n + 1 => do
    if ← acceptKnown settings "SETTINGS" then return [← queryOptions]
    let first ← g.argument
    if ← acceptSymbol .comma then return first :: (← argumentsFrom g settings n) else return [first]

/-- The arguments, after the opening parenthesis, of a call that stands for a table. -/
private def tableArguments (g : Grammar) : Parser String := do
  if ← acceptSymbol .rparen then return "()"
  let found ← g.argumentsFrom (← rules).columnarQueries (← remaining)
  expectSymbol .rparen
  return "(" ++ ", ".intercalate found ++ ")"

/-- Hints on how a table is read. `WITH` may belong to what comes after. -/
private def tableHints (g : Grammar) : Parser String := do
  if (← atKeyword "WITH") && (← peekAt 1) == some (.symbol .lparen) then
    expect "WITH"
    return " WITH " ++ (← g.wholesInParens)
  else return ""

private def namedTable (g : Grammar) : Parser Relation := do
  let r ← rules
  let name ← dotted
  let parts ← do
    if ← acceptKnown r.partitionedReads "PARTITION" then
      pure ("PARTITION " ++ (← listedInParens named))
    else pure ""
  let arguments ← do if ← acceptSymbol .lparen then g.tableArguments else pure ""
  let numbered ← flagAll ["WITH", "ORDINALITY"]
  let aliasName ← tableAlias
  let hints ← g.tableHints
  let table ← g.pivots ⟨name ++ parts ++ arguments ++ numbered, aliasName, hints, false⟩
  if ← acceptKnown r.rowPatterns "MATCH_RECOGNIZE" then g.rowSearch table else return table

/-- Whether a keyword with a parenthesis after it comes next. -/
private def atCall (keyword : String) : Parser Bool := do
  return (← atKeyword keyword) && (← peekAt 1) == some (.symbol .lparen)

/-- A table without what is joined to it. -/
def table (g : Grammar) : Parser Relation := do
  let r ← rules
  if ← accept "LATERAL" then g.lateralTable
  else if ← accept "TABLE" then
    let text ← inParens g.whole
    return ⟨"TABLE" ++ text, ← tableAlias, "", false⟩
  else if ← atSymbol .lparen then g.enclosedTable
  else if r.looseTables && (← atCall "VALUES") then
    expect "VALUES"
    let text ← g.valueRows false
    return ⟨"(" ++ text ++ ")", ← tableAlias, "", false⟩
  else if ← acceptKnown r.unnestedTables "UNNEST" then g.unnestedTable
  else if ← atCall "JSON_TABLE" then
    expect "JSON_TABLE"
    g.documentTable
  else g.namedTable

/-! ### Joins -/

/-- How the rows of two tables are matched. -/
private def joinCondition (g : Grammar) : Parser String := do
  if ← accept "ON" then return " ON " ++ (← g.whole)
  else if ← accept "USING" then return " USING" ++ (← columnList)
  else return ""

/-- A join on a condition, after its keywords. -/
private def conditionalJoin (g : Grammar) (keywords : String) (natural : Bool) : Parser String := do
  let table ← g.table
  if natural then return " NATURAL " ++ keywords ++ " " ++ table.text
  else return " " ++ keywords ++ " " ++ table.text ++ (← g.joinCondition)

/-- The keywords of a join on a condition, if one comes next. -/
private def joinKeywords (natural : Bool) : Parser (Option String) := do
  match ← acceptOneOf ["INNER", "JOIN", "LEFT", "RIGHT", "FULL"] with
  | some "JOIN" => return some "JOIN"
  | some "INNER" =>
    expect "JOIN"
    return some "JOIN"
  | some "FULL" =>
    let _ ← accept "OUTER"
    expect "JOIN"
    return some "FULL JOIN"
  | some side =>
    match ← acceptOneOf ["OUTER", "SEMI", "ANTI", "JOIN"] with
    | some "JOIN" => return some (side ++ " JOIN")
    | some k =>
      expect "JOIN"
      return some (if k = "OUTER" then side ++ " JOIN" else side ++ " " ++ k ++ " JOIN")
    | none => fail (.misuse (.sideWithoutJoin side) none)
  | none =>
    if ← atKeyword "OUTER" then expected .joinSide
    else if natural then expected .joinAfterNatural
    else return none

/-- A table joined to those before it, if one is. -/
private def join (g : Grammar) : Parser (Option String) := do
  let global ← flag "GLOBAL"
  let found ← do
    if ← accept "CROSS" then
      match ← acceptOneOf ["JOIN", "APPLY"] with
      | some k => pure (some (" CROSS " ++ k ++ " " ++ (← g.table).text))
      | none => expected .joinAfterCross
    else if ← accept "OUTER" then
      expect "APPLY"
      pure (some (" OUTER APPLY " ++ (← g.table).text))
    else if ← accept "ASOF" then
      expect "JOIN"
      let table ← g.table
      expect "MATCH_CONDITION"
      let condition ← inParens g.whole
      pure (some (" ASOF JOIN " ++ table.text ++ " MATCH_CONDITION " ++ condition
        ++ (← g.joinCondition)))
    else
      let natural ← accept "NATURAL"
      match ← joinKeywords natural with
      | some keywords => some <$> g.conditionalJoin keywords natural
      | none => pure none
  return found.map (global ++ ·)

/-- A table with what is joined to it. -/
def readJoined (g : Grammar) : Parser Joined := do
  let relation ← g.table
  return ⟨relation, String.join (← many g.join)⟩

end EntityGen.Sql.Grammar
