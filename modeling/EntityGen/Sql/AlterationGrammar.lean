import EntityGen.Sql.PrivilegeGrammar
import EntityGen.Sql.Query

/-! Changes of what is already there. A table may take several changes in one statement; other
objects take one. -/

namespace EntityGen.Sql.Grammar

open EntityGen.Sql.Parser

/-- Where a new column stands among the others. -/
private def columnPosition : Parser Unit := do
  if (← rules).columnPositions then
    if !(← accept "FIRST") then optionally "AFTER" identifier

/-! ### Additions -/

/-- Rows of a table, grouped and ordered, that are kept beside it. -/
private def projectionDefinition (g : Grammar) : Parser Unit := do
  ifNotExists
  discard identifier
  parenthesized do
    expect "SELECT"
    discard g.resultColumns
    discard g.groupClause
    discard g.queryOrder

private def partitionAddition (g : Grammar) : Parser (Option Unit) := do
  if ← accept "PARTITION" then
    discard g.wholesInParens
    return some ()
  else return none

private def addition (g : Grammar) : Parser Unit := do
  let r ← rules
  if ← g.tableConstraint then return
  if ← acceptKnown r.tableParts "PROJECTION" then return ← g.projectionDefinition
  ifNotExists
  if (← many g.partitionAddition).isEmpty then
    discard (accept "COLUMN")
    if r.ownedTables then ifNotExists
    discard g.column
    columnPosition

/-! ### Names -/

private def renamed : Parser Unit := do
  discard identifier
  expect "TO"
  discard identifier

private def tableRenaming : Parser Unit := do
  if ← acceptKnown (← rules).renamedConstraints "CONSTRAINT" then renamed
  else if ← accept "TO" then discard dottedName
  else
    discard (accept "COLUMN")
    renamed

/-! ### Rules and triggers -/

private def disabling : Parser Unit := do
  match ← acceptPhrase [["ROW", "LEVEL", "SECURITY"], ["RULE"], ["TRIGGER"]] with
  | some ["ROW", _, _] => pure ()
  | some _ => discard identifier
  | none => expected .disabledPart

private def enabling : Parser Unit := do
  match ← acceptPhrase [["ALWAYS", "RULE"], ["ALWAYS", "TRIGGER"], ["ROW", "LEVEL", "SECURITY"],
      ["REPLICA", "RULE"], ["REPLICA", "TRIGGER"], ["RULE"], ["TRIGGER"]] with
  | some ["ROW", _, _] => pure ()
  | some _ => discard identifier
  | none => expected .enabledPart

/-! ### Parts -/

private def storedProjection : Parser Unit := do
  ifExists
  discard identifier
  if ← acceptAll ["IN", "PARTITION"] then discard identifier

private def guardedName : Parser Unit := do
  ifExists
  discard identifier

private def dropping (g : Grammar) : Parser Unit := do
  let r ← rules
  if ← acceptAll ["IF", "EXISTS", "PARTITION"] then discard g.wholesInParens
  else if ← accept "PARTITION" then discard g.wholesInParens
  else if ← accept "CONSTRAINT" then
    guardedName
    discard (accept "CASCADE")
  else if ← acceptAllMeant r.keyEntries ["PRIMARY", "KEY"] then pure ()
  else if ← acceptAllMeant r.tableParts ["PROJECTION"] then guardedName
  else
    discard (accept "COLUMN")
    guardedName
    discard (accept "CASCADE")

private def partitionRenaming (g : Grammar) : Parser Unit := do
  discard g.wholesInParens
  expectAll ["RENAME", "TO", "PARTITION"]
  discard g.wholesInParens

/-- A part of a table, by its name or by its value. -/
private def tablePart (g : Grammar) : Parser Unit := do
  discard (expectOneOf ["PART", "PARTITION"])
  discard g.whole

private def frozenPart (g : Grammar) : Parser Unit := do
  g.tablePart
  optionally "WITH" do
    expect "NAME"
    discard identifier

/-! ### Columns -/

/-- The type and the options that a column is to have. -/
private def columnRedefinition (g : Grammar) : Parser Unit := do
  discard g.balancedType
  discard (many g.columnOption)
  columnPosition

private def identityAddition : Parser Unit := do
  discard (acceptPhrase [["ALWAYS"], ["BY", "DEFAULT"]])
  expectAll ["AS", "IDENTITY"]
  discard identityOptions

private def columnChange (g : Grammar) : Parser Unit := do
  let typed := (← rules).typedColumnChanges
  discard (accept "COLUMN")
  discard identifier
  match ← acceptPhrase [["SET", "NOT", "NULL"], ["DROP", "NOT", "NULL"], ["SET", "DEFAULT"],
      ["DROP", "DEFAULT"]] with
  | some ["SET", "DEFAULT"] => discard g.whole
  | some _ => pure ()
  | none =>
    let retyped ← do
      if ← acceptAll ["SET", "DATA", "TYPE"] then pure true else acceptKnown typed "TYPE"
    if retyped then
      discard g.balancedType
      if typed then optionally "USING" g.whole
    else if ← acceptAll ["ADD", "GENERATED"] then identityAddition
    else expected (.columnChange typed)

/-! ### Tables -/

/-- A change of the parts of a table, where tables have parts. `false` if none comes next. -/
private def partChange (g : Grammar) : Parser Bool := do
  match ← acceptOneOf ["ATTACH", "DETACH", "FREEZE", "UNFREEZE"] with
  | some "ATTACH" | some "DETACH" =>
    g.tablePart
    return true
  | some _ =>
    g.frozenPart
    return true
  | none => return false

/-- The changes that begin with a keyword of their own in every dialect. -/
private def commonChange (g : Grammar) : String → Parser Unit
  | "ADD" => g.addition
  | "RENAME" => tableRenaming
  | "DISABLE" => disabling
  | "ENABLE" => enabling
  | "DROP" => g.dropping
  | "PARTITION" => g.partitionRenaming
  | "CHANGE" => do
    discard (accept "COLUMN")
    discard identifier
    discard identifier
    g.columnRedefinition
  | "MODIFY" => do
    discard (accept "COLUMN")
    discard identifier
    g.columnRedefinition
  | "ALTER" => g.columnChange
  | _ => do
    expect "WITH"
    discard dottedName

/-- One change of a table. -/
private def tableChange (g : Grammar) : Parser Unit := do
  let r ← rules
  let early ← acceptOneOf ["ADD", "RENAME", "DISABLE", "ENABLE"]
  if let some k := early then return ← g.commonChange k
  if ← acceptAllMeant r.tableParts ["CLEAR", "PROJECTION"] then return ← storedProjection
  if ← acceptAllMeant r.tableParts ["MATERIALIZE", "PROJECTION"] then return ← storedProjection
  let late ← acceptOneOf ["DROP", "PARTITION", "CHANGE", "MODIFY", "ALTER", "SWAP"]
  if let some k := late then return ← g.commonChange k
  if ← acceptAllKnown r.ownedTables ["OWNER", "TO"] then return ← owner
  let parts ← if r.tableParts then g.partChange else pure false
  if !parts then
    if ← acceptAll ["SET", "TBLPROPERTIES"] then discard g.settings else expected .alteration

private def tableAlteration (g : Grammar) : Parser Unit := do
  ifExists
  discard (accept "ONLY")
  discard dottedName
  clusterClause
  discard (commaSeparated g.tableChange)
  let moved ← acceptPhrase [["LOCATION"], ["SET", "LOCATION"]]
  if moved.isSome then discard identifier

/-! ### Other objects -/

private def viewAlteration (g : Grammar) : Parser Unit := do
  discard dottedName
  discard optionalColumnList
  g.settingsAfter "WITH"
  expect "AS"
  discard g.query

private def indexAlteration : Parser Unit := do
  discard dottedName
  if !(← accept "RENAME") then expected .indexChange
  if !(← accept "TO") then expected .newName
  discard dottedName

/-- What follows `ALTER`. -/
def alteration (g : Grammar) : Parser Unit := do
  match ← expectOneOf ["VIEW", "TABLE", "INDEX", "ROLE", "POLICY"] with
  | "VIEW" => g.viewAlteration
  | "TABLE" => g.tableAlteration
  | "INDEX" => indexAlteration
  | "ROLE" => g.roleChange
  | _ => g.policyChange

end EntityGen.Sql.Grammar
