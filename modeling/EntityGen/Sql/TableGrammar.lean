import EntityGen.Sql.ColumnGrammar
import EntityGen.Sql.RowGrammar

/-! How a table definition is read: its name, its columns and constraints in parentheses, and the
clauses after them, which come in a fixed order. Only the name and the columns are kept. -/

namespace EntityGen.Sql

/-- A table as defined: its name and its columns in order. -/
structure TableDefinition where
  name : DottedName
  columns : List Column

namespace Grammar

open EntityGen.Sql.Parser

/-- One entry between the parentheses of a table; `none` if it is no column. -/
def tableEntry (g : Grammar) : Parser (Option Column) := do
  if ← g.tableConstraint then return none
  match ← peekToken with
  | some (.word _) => some <$> g.column
  | _ => expected .columnOrConstraint

/-- The entries of a table after its opening parenthesis. A comma must be followed by an entry. -/
def tableEntries (g : Grammar) : Nat → Parser (List Column)
  | 0 => expected .listContinuation
  | n + 1 => do
    let column ← g.tableEntry
    if ← acceptSymbol .comma then return column.toList ++ (← tableEntries g n)
    else if ← acceptSymbol .rparen then return column.toList
    else expected .listContinuation

/-- The columns of a table in parentheses, none if no parenthesis comes. -/
def tableColumns (g : Grammar) : Parser (List Column) := do
  if ← acceptSymbol .lparen then
    if ← acceptSymbol .rparen then return []
    else g.tableEntries ((← remaining) + 1)
  else return []

/-- A dotted name, given up at the first token that does not fit. -/
def looseName : Parser Unit := discard (recovering dottedName)

/-- The name of the table whose columns are taken over. -/
def sourceTable : Parser Unit := do
  if (← acceptOneOf ["LIKE", "ILIKE"]).isSome then looseName
  optionally "CLONE" looseName

def partitionColumns (g : Grammar) : Parser Unit := do
  if ← acceptAll ["PARTITIONED", "BY"] then
    discard (parenthesized (commaSeparated g.column))

def bucketClause (g : Grammar) : Parser Unit := do
  if ← acceptAll ["CLUSTERED", "BY"] then
    discard columnList
    if ← acceptAll ["SORTED", "BY"] then discard (parenthesized g.orderings)
    expect "INTO"
    discard numericValue
    expect "BUCKETS"

/-- How the parts of a stored row end. -/
private def rowDelimiters : Parser Unit := loop do
  let ended (ks : List String) : Parser Bool := do
    if ← acceptAll ks then
      discard identifier
      return true
    else return false
  match ← acceptOneOf ["FIELDS", "COLLECTION", "MAP", "LINES", "NULL"] with
  | some "FIELDS" =>
    if ← ended ["TERMINATED", "BY"] then
      discard (ended ["ESCAPED", "BY"])
      return true
    else return false
  | some "COLLECTION" => ended ["ITEMS", "TERMINATED", "BY"]
  | some "MAP" => ended ["KEYS", "TERMINATED", "BY"]
  | some "LINES" => ended ["TERMINATED", "BY"]
  | some _ => ended ["DEFINED", "AS"]
  | none => return false

private def rowFormat : Parser Unit := do
  expect "FORMAT"
  match ← acceptOneOf ["SERDE", "DELIMITED"] with
  | some "SERDE" => discard literalString
  | _ => rowDelimiters

private def storageFormat (g : Grammar) : Parser Unit := do
  expect "AS"
  if ← accept "INPUTFORMAT" then
    discard g.whole
    expect "OUTPUTFORMAT"
    discard g.whole
  else discard fileFormat

/-- Where and how the rows of a table are stored. -/
def storageClauses (g : Grammar) : Parser Unit := loop do
  match ← acceptOneOf ["ROW", "STORED", "LOCATION"] with
  | some "ROW" =>
    rowFormat
    return true
  | some "STORED" =>
    g.storageFormat
    return true
  | some _ =>
    discard literalString
    return true
  | none =>
    if ← acceptAll ["WITH", "SERDEPROPERTIES"] then
      discard g.settings
      return true
    else return false

private def plainWord : Parser Unit := do
  let found ← next
  match Located.token? found with
  | some (.word _) => pure ()
  | _ => expectedAt .identifier found

def engineClause : Parser Unit := optionally "ENGINE" do
  expectSymbol .eq
  plainWord
  if ← atSymbol .lparen then discard (listedInParens named)

def sortClause (g : Grammar) : Parser Unit := do
  if ← acceptAll ["ORDER", "BY"] then
    if ← atSymbol .lparen then
      discard (parenthesized (commaSeparatedUntil .rparen g.whole))
    else discard g.whole

def divisionClauses (g : Grammar) (r : Rules) : Parser Unit := do
  discard (clauseKnown r.partitionedTables ["PARTITION", "BY"] g.whole)
  if r.optionLists then
    discard (clauseAll ["CLUSTER", "BY"] (listed named))
    g.settingsAfter "OPTIONS"

def commitClauses : List (List String) :=
  [["ON", "COMMIT", "DELETE", "ROWS"], ["ON", "COMMIT", "PRESERVE", "ROWS"],
   ["ON", "COMMIT", "DROP"]]

def tableComment : Parser Unit := optionally "COMMENT" do
  discard (acceptSymbol .eq)
  let found ← next
  match Located.token? found with
  | some (.literal .single _) => pure ()
  | _ => expectedAt .tableComment found

/-- The clauses after the columns of a table, in their order. -/
def tableClauses (g : Grammar) : Parser Unit := do
  let r ← rules
  discard (acceptAll ["WITHOUT", "ROWID"])
  g.partitionColumns
  if r.columnarTables then g.bucketClause
  g.storageClauses
  g.settingsAfter "WITH"
  g.settingsAfter "TBLPROPERTIES"
  engineClause
  optionally "AUTO_INCREMENT" do
    discard (acceptSymbol .eq)
    discard (unsigned 32)
  discard (clauseKnown r.columnarTables ["PRIMARY", "KEY"] g.whole)
  g.sortClause
  g.divisionClauses r
  if ← acceptAll ["DEFAULT", "CHARSET"] then
    expectSymbol .eq
    plainWord
  optionally "COLLATE" do
    expectSymbol .eq
    plainWord
  discard (acceptPhrase commitClauses)
  discard (accept "STRICT")
  tableComment
  optionally "AS" g.query

def newName : Parser DottedName := do
  ifNotExists
  dottedName

/-- A table definition after `TABLE`. -/
def tableDefinition (g : Grammar) : Parser TableDefinition := do
  let name ← newName
  clusterClause
  sourceTable
  let columns ← g.tableColumns
  g.tableClauses
  return ⟨name, columns⟩

/-- The definition, after `TABLE`, of a table whose rows are kept elsewhere. -/
def externalTable (g : Grammar) : Parser TableDefinition := do
  let name ← newName
  let columns ← g.tableColumns
  g.partitionColumns
  g.storageClauses
  g.settingsAfter "TBLPROPERTIES"
  return ⟨name, columns⟩

end Grammar

end EntityGen.Sql
