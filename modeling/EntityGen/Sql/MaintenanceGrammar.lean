import EntityGen.Sql.RowGrammar

/-! The upkeep of a database and its server: statistics, caches, logs, attached files, and remarks
on its objects. -/

namespace EntityGen.Sql.Grammar

open EntityGen.Sql.Parser

/-! ### Tables -/

/-- What follows `ANALYZE`. -/
def analysis (g : Grammar) : Parser Unit := do
  expect "TABLE"
  discard dottedName
  loop do
    match ← acceptOneOf ["PARTITION", "FOR", "CACHE", "NOSCAN", "COMPUTE"] with
    | some "PARTITION" => discard g.wholesInParens
    | some "FOR" =>
      expect "COLUMNS"
      discard (attempt (commaSeparated identifier))
    | some "CACHE" => expect "METADATA"
    | some "COMPUTE" => expect "STATISTICS"
    | some _ => pure ()
    | none => return false
    return true

private def partitionRepair : Parser Unit := do
  discard (acceptOneOf ["ADD", "DROP", "SYNC"])
  expect "PARTITIONS"

/-- What follows `MSCK`. -/
def metadataCheck : Parser Unit := do
  discard (accept "REPAIR")
  expect "TABLE"
  discard dottedName
  discard (attempt partitionRepair)

/-- A table that is cached: its options, and a query that gives its rows. -/
private def cachedTable (g : Grammar) : Parser Unit := do
  discard dottedName
  g.settingsAfter "OPTIONS"
  if ← atEnd then return
  match ← peekToken with
  | some (.word _) =>
    discard (accept "AS")
    discard g.query
  | _ => expected .cachedQuery

/-- What follows `CACHE`. At the end of the text the last token is to blame. -/
def caching (g : Grammar) : Parser Unit := do
  if ← accept "TABLE" then g.cachedTable
  else
    let (_, taken) ← withTaken dottedName
    if ← accept "TABLE" then g.cachedTable
    else if ← atEnd then expectedAt .cachedTable taken.getLast?
    else expected .cachedTable

/-- What follows `UNCACHE`. -/
def uncaching : Parser Unit := do
  expect "TABLE"
  ifExists
  discard dottedName

/-- What follows `OPTIMIZE`. -/
def optimization (g : Grammar) : Parser Unit := do
  expect "TABLE"
  discard dottedName
  clusterClause
  optionally "PARTITION" do
    if ← accept "ID" then discard identifier else discard g.whole
  discard (accept "FINAL")
  optionally "DEDUPLICATE" (optionally "BY" g.whole)

/-! ### Files -/

/-- What follows `ATTACH`. -/
def attachment (g : Grammar) : Parser Unit := do
  discard (accept "DATABASE")
  discard g.whole
  expect "AS"
  discard identifier

/-- What follows `DETACH`. -/
def detachment : Parser Unit := do
  discard (accept "DATABASE")
  ifExists
  discard identifier

/-! ### The server -/

/-- What follows `KILL`. -/
def killing : Parser Unit := do
  let kind ← acceptOneOf ["CONNECTION", "QUERY", "MUTATION"]
  discard (unsigned 64)
  if kind = some "MUTATION" ∧ !(← rules).tableParts then expected .killedKind

private def flushedObjects : List (List String) :=
  [["BINARY", "LOGS"], ["ENGINE", "LOGS"], ["ERROR", "LOGS"], ["GENERAL", "LOGS"], ["HOSTS"],
   ["PRIVILEGES"], ["OPTIMIZER_COSTS"], ["RELAY", "LOGS"], ["SLOW", "LOGS"], ["STATUS"],
   ["USER_RESOURCES"], ["LOGS"], ["TABLES"]]

/-- The channel of relayed logs. If no name follows, the whole parse ends without a message. -/
private def relayChannel : Parser Unit := do
  if ← acceptAll ["FOR", "CHANNEL"] then
    if (← recovering dottedName).isNone then fail .crash

/-- The tables that are flushed, and for what. The token that ends them is taken too. -/
private def flushedTables : Parser Unit := loop do
  match ← peekToken with
  | some (.word w) =>
    if isKnownWord w.keyword then
      discard next
      if w.keyword = "WITH" then discard (acceptAll ["READ", "LOCK"])
      else if w.keyword = "FOR" then discard (accept "EXPORT")
    else discard (commaSeparated dottedName)
    return true
  | _ =>
    discard next
    return false

/-- What follows `FLUSH`. -/
def flushing : Parser Unit := do
  if !(← rules).serverStatements then
    fail (.misuse (.unsupportedStatement "FLUSH") (← position))
  discard (acceptOneOf ["NO_WRITE_TO_BINLOG", "LOCAL"])
  match ← acceptPhrase flushedObjects with
  | some ["RELAY", "LOGS"] => relayChannel
  | some ["TABLES"] => flushedTables
  | some _ => pure ()
  | none => expected .flushedObject

/-! ### Remarks -/

/-- What follows `COMMENT`. -/
def remark : Parser Unit := do
  ifExists
  expect "ON"
  if (← acceptOneOf ["COLUMN", "TABLE", "EXTENSION"]).isNone then expected .commentedObject
  discard dottedName
  expect "IS"
  if !(← accept "NULL") then discard literalString

end EntityGen.Sql.Grammar
