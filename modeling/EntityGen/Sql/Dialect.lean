import EntityGen.Text.Letter

/-! The four SQL dialects and what sets them apart. Each decision is a field of `Rules`, so the
lexer and the grammar never ask which dialect they read, only what it permits. -/

namespace EntityGen.Sql

/-- A dialect in which a table definition may be written. -/
inductive Dialect where
  | mysql
  | postgres
  | sqlite
  | generic
  deriving DecidableEq, Repr

/-- The decisions of a dialect. -/
structure Rules where
  /-- Characters that begin an unquoted word. -/
  startsWord : Char → Bool
  /-- Characters that continue an unquoted word. -/
  continuesWord : Char → Bool
  /-- Opening quotes of a quoted word. -/
  wordQuotes : List Char
  /-- An unquoted word may begin with digits. -/
  digitWords : Bool := false
  /-- A backslash escapes the next character of a string. -/
  backslashEscapes : Bool := false
  /-- A `#` begins a comment. -/
  hashComments : Bool := false
  /-- Byte and raw strings, `b'..'` and `r'..'`. -/
  byteStrings : Bool := false
  /-- Unicode strings, `U&'..'`. -/
  unicodeStrings : Bool := false
  /-- Characters that lengthen an operator into one of the user's own. -/
  lengthensOperator : Char → Bool := fun _ => false
  /-- A `?` is an operator, not a placeholder. -/
  questionOperators : Bool := false
  /-- A double slash divides integers. -/
  doubleSlash : Bool := false
  /-- Lists of keys stand among the columns: `KEY`, `INDEX`, `FULLTEXT`, `SPATIAL`. -/
  keyEntries : Bool := false
  /-- The column option `AUTO_INCREMENT`. -/
  underscoredIncrement : Bool := false
  /-- The column option `AUTOINCREMENT`. -/
  joinedIncrement : Bool := false
  /-- The column options `ASC` and `DESC`. -/
  columnOrder : Bool := false
  /-- The column option `ON UPDATE`. -/
  columnOnUpdate : Bool := false
  /-- The column option `AS (..)`. -/
  computedAs : Bool := false
  /-- The column option `ON CONFLICT`. -/
  columnOnConflict : Bool := false
  /-- `COLLATE` may be repeated among the column options. -/
  collateOption : Bool := false
  /-- A computed column must be `STORED`. -/
  storedOnly : Bool := false
  /-- The column options `MATERIALIZED`, `ALIAS` and `EPHEMERAL`. -/
  derivedColumns : Bool := false
  /-- The column option `OPTIONS (..)`, and the same clause after a table. -/
  optionLists : Bool := false
  /-- The column option `IDENTITY`. -/
  identityColumns : Bool := false
  /-- A column may come without a type. -/
  typelessColumns : Bool := false
  /-- An array type may give its size. -/
  sizedArrays : Bool := false
  /-- Types built from others: `STRUCT`, `UNION`, `NULLABLE`, `MAP`, `TUPLE` and their like. -/
  builtTypes : Bool := false
  /-- A table may be divided by `PARTITION BY`. -/
  partitionedTables : Bool := false
  /-- The table clauses `CLUSTERED BY` and `PRIMARY KEY`. -/
  columnarTables : Bool := false
  /-- Expressions of the server's own: unary `!!`, `|/`, `||/`, `@` and `~`. -/
  symbolicOperators : Bool := false
  /-- Shifts, `&&` and `^@` between expressions. -/
  extendedOperators : Bool := false
  /-- `CURRENT_USER` and its like are calls without parentheses. -/
  sessionCalls : Bool := false
  /-- Escaped strings are expressions. -/
  escapedStrings : Bool := false
  /-- `MATCH (..) AGAINST (..)`. -/
  textSearch : Bool := false
  /-- `DIV` divides, and must be followed by an expression. -/
  wordDivision : Bool := false
  /-- `TRY_CONVERT` converts. -/
  tryConvert : Bool := false
  /-- A subscript or a slice may follow an expression; without this, keys between brackets. -/
  subscripts : Bool := false
  /-- An interval takes a whole expression and must name its unit. -/
  intervalUnits : Bool := false
  /-- A date part may be any word or a quoted string. -/
  customDateParts : Bool := false
  /-- The list after `IN` may be empty. -/
  emptyInList : Bool := false
  /-- A second list of arguments may follow the first. -/
  parametricCalls : Bool := false
  /-- Clauses among the arguments of a call: `IGNORE NULLS`, `HAVING MAX`. -/
  argumentClauses : Bool := false
  /-- A `SEPARATOR` clause among the arguments of a call. -/
  argumentSeparator : Bool := false
  /-- Arguments named by `:=`. -/
  assignedArguments : Bool := false
  /-- A comma may separate what `EXTRACT` and `TRIM` take. -/
  commaForms : Bool := false
  /-- A week may name the day it begins on. -/
  weekStarts : Bool := false
  /-- Structures and maps between braces. -/
  braceLiterals : Bool := false
  /-- A `FILTER` clause may follow a call. -/
  filteredCalls : Bool := false
  /-- A wildcard may end a dotted name anywhere. -/
  trailingWildcards : Bool := false
  /-- `GROUP BY` takes sets of expressions. -/
  groupingSets : Bool := false
  /-- `GROUP BY` takes `WITH ROLLUP` and its like. -/
  groupModifiers : Bool := false
  /-- Clauses of queries on stored columns: `PREWHERE`, `LIMIT .. BY`, `SETTINGS`, `FORMAT`, and
  `WITH FILL` and `INTERPOLATE` in an order. -/
  columnarQueries : Bool := false
  /-- A wildcard may leave out, replace and rename columns. -/
  wildcardOptions : Bool := false
  /-- `CONNECT BY` relates rows to those above them. -/
  hierarchies : Bool := false
  /-- A window may be named after another. -/
  windowReferences : Bool := false
  /-- Rows stand for a table without parentheses, and a lone table may stand between them. -/
  looseTables : Bool := false
  /-- `UNNEST` stands for a table. -/
  unnestedTables : Bool := false
  /-- A query may read single partitions of a table. -/
  partitionedReads : Bool := false
  /-- `MATCH_RECOGNIZE` finds patterns among rows. -/
  rowPatterns : Bool := false
  /-- A row of values, and a list of columns to fill, may be empty. -/
  emptyRows : Bool := false
  /-- A query of a `WITH` clause may say whether its rows are kept. -/
  keptQueries : Bool := false
  /-- New rows may have a priority and another name, and old ones may be ignored. -/
  insertModifiers : Bool := false
  /-- `REPLACE` is a statement. -/
  replaceStatements : Bool := false
  /-- A statement that changes rows may say what to do about a conflict after `OR`. -/
  conflictClauses : Bool := false
  /-- The table that rows go into may have another name. -/
  aliasedTargets : Bool := false
  /-- An update may read other tables. -/
  updateSources : Bool := true
  /-- A deletion may leave out `FROM`. -/
  bareDeletions : Bool := false
  /-- A merge may insert a row as a whole. -/
  wholeRowInserts : Bool := false
  /-- An emptied table may restart what numbers its rows. -/
  restartedNumbers : Bool := false
  /-- Statements on the server itself: `FLUSH`, `SHOW VARIABLES`, `SET NAMES`. -/
  serverStatements : Bool := false
  /-- Temporary objects may be dropped as such. -/
  temporaryDrops : Bool := false
  /-- A column may be put before or after others. -/
  columnPositions : Bool := false
  /-- Several tables are locked by one statement. -/
  tableLocks : Bool := false
  /-- Roles have options and may be altered. -/
  roleOptions : Bool := false
  /-- Sessions notify each other. -/
  notifications : Bool := false
  /-- `COMMENT ON` is a statement. -/
  commentStatements : Bool := false
  /-- A type may list its labels. -/
  labelTypes : Bool := false
  /-- A constraint may be renamed. -/
  renamedConstraints : Bool := false
  /-- `ALTER COLUMN` may give a type without `SET DATA`, and convert what is stored. -/
  typedColumnChanges : Bool := false
  /-- A table has an owner, and a new column may be there already. -/
  ownedTables : Bool := false
  /-- Functions and triggers may be made and dropped. -/
  routines : Bool := false
  /-- Indexes take parameters. -/
  indexParameters : Bool := false
  /-- `EXPLAIN` takes options in parentheses. -/
  explainOptions : Bool := false
  /-- Several variables may be set at once. -/
  variableTuples : Bool := false
  /-- A transaction may begin `DEFERRED`, `IMMEDIATE` or `EXCLUSIVE`. -/
  transactionKinds : Bool := false
  /-- A view may be there already. -/
  guardedViews : Bool := false
  /-- Databases are attached, extensions installed, and macros defined. -/
  attachments : Bool := false
  /-- Parts of tables are detached, frozen and optimized, and projections of them kept. -/
  tableParts : Bool := false
  /-- A view has options, a target and a comment. -/
  viewOptions : Bool := false
  /-- `LIMIT` may take two numbers. -/
  limitPairs : Bool := false
  /-- The tighter binding of operators written as symbols. -/
  tightSymbols : Bool := false

private def inBasicPlane (first : Nat) (c : Char) : Bool := first ≤ c.toNat && c.toNat ≤ 0xFFFF

private def mysqlStart (c : Char) : Bool :=
  Text.isLetter c || c == '_' || c == '$' || c == '@' || inBasicPlane 0x80 c

private def sqliteStart (c : Char) : Bool := c.isAlpha || c == '_' || inBasicPlane 0x7F c

def Rules.mysql : Rules where
  startsWord := mysqlStart
  continuesWord c := mysqlStart c || c.isDigit
  wordQuotes := ['\x60']
  digitWords := true
  backslashEscapes := true
  hashComments := true
  keyEntries := true
  underscoredIncrement := true
  columnOnUpdate := true
  computedAs := true
  collateOption := true
  textSearch := true
  wordDivision := true
  argumentSeparator := true
  intervalUnits := true
  partitionedReads := true
  emptyRows := true
  insertModifiers := true
  replaceStatements := true
  updateSources := false
  serverStatements := true
  temporaryDrops := true
  columnPositions := true
  tableLocks := true
  limitPairs := true

def Rules.postgres : Rules where
  startsWord c := Text.isLetter c || c == '_'
  continuesWord c := Text.isLetter c || c.isDigit || c == '$' || c == '_'
  wordQuotes := ['\x22']
  unicodeStrings := true
  lengthensOperator c := "+-*/<>=~!@#%^&|\x60?".toList.contains c
  questionOperators := true
  storedOnly := true
  sizedArrays := true
  partitionedTables := true
  symbolicOperators := true
  extendedOperators := true
  sessionCalls := true
  escapedStrings := true
  subscripts := true
  customDateParts := true
  filteredCalls := true
  trailingWildcards := true
  groupingSets := true
  unnestedTables := true
  keptQueries := true
  aliasedTargets := true
  restartedNumbers := true
  roleOptions := true
  notifications := true
  commentStatements := true
  labelTypes := true
  renamedConstraints := true
  typedColumnChanges := true
  ownedTables := true
  routines := true
  indexParameters := true
  explainOptions := true
  tightSymbols := true

def Rules.sqlite : Rules where
  startsWord := sqliteStart
  continuesWord c := sqliteStart c || c.isDigit
  wordQuotes := ['\x60', '\x22', '[']
  joinedIncrement := true
  columnOrder := true
  computedAs := true
  columnOnConflict := true
  typelessColumns := true
  emptyInList := true
  filteredCalls := true
  replaceStatements := true
  conflictClauses := true
  transactionKinds := true
  guardedViews := true
  limitPairs := true

def Rules.generic : Rules where
  startsWord c := Text.isLetter c || c == '_' || c == '#' || c == '@'
  continuesWord c :=
    Text.isLetter c || c.isDigit || c == '@' || c == '$' || c == '#' || c == '_'
  wordQuotes := ['\x22', '\x60']
  byteStrings := true
  unicodeStrings := true
  doubleSlash := true
  keyEntries := true
  underscoredIncrement := true
  joinedIncrement := true
  columnOrder := true
  columnOnUpdate := true
  computedAs := true
  columnOnConflict := true
  collateOption := true
  derivedColumns := true
  optionLists := true
  identityColumns := true
  sizedArrays := true
  builtTypes := true
  partitionedTables := true
  columnarTables := true
  extendedOperators := true
  sessionCalls := true
  escapedStrings := true
  textSearch := true
  tryConvert := true
  subscripts := true
  customDateParts := true
  parametricCalls := true
  argumentClauses := true
  argumentSeparator := true
  assignedArguments := true
  commaForms := true
  weekStarts := true
  braceLiterals := true
  groupingSets := true
  groupModifiers := true
  columnarQueries := true
  wildcardOptions := true
  hierarchies := true
  windowReferences := true
  looseTables := true
  unnestedTables := true
  partitionedReads := true
  rowPatterns := true
  insertModifiers := true
  replaceStatements := true
  bareDeletions := true
  wholeRowInserts := true
  restartedNumbers := true
  serverStatements := true
  temporaryDrops := true
  columnPositions := true
  ownedTables := true
  routines := true
  indexParameters := true
  explainOptions := true
  variableTuples := true
  transactionKinds := true
  guardedViews := true
  attachments := true
  tableParts := true
  viewOptions := true
  limitPairs := true

/-- What a dialect permits. -/
def Dialect.rules : Dialect → Rules
  | .mysql => .mysql
  | .postgres => .postgres
  | .sqlite => .sqlite
  | .generic => .generic

/-- The quote in which a dialect's tools write names. -/
def Dialect.nameQuote : Dialect → Char
  | .postgres => '\x22'
  | _ => '\x60'

theorem Dialect.nameQuote_mem_wordQuotes (d : Dialect) : d.nameQuote ∈ d.rules.wordQuotes := by
  cases d <;> decide

end EntityGen.Sql
