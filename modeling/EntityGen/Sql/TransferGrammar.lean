import EntityGen.Sql.Setting
import EntityGen.Text.Quote

/-! Rows that go to and come from files: `COPY` and `UNLOAD`. Rows that are copied from the text
itself run up to a mark of their own. -/

namespace EntityGen.Sql.Grammar

open EntityGen.Sql.Parser

/-- A string of one byte. -/
private def literalChar : Parser Unit := do
  let here ← position
  let s ← literalString
  if s.utf8ByteSize ≠ 1 then fail (.misuse (.notOneChar (Text.quoted s)) here)

/-- An option of a transfer. -/
private def copyOption : Parser Unit := do
  match ← acceptOneOf ["FORMAT", "FREEZE", "HEADER", "DELIMITER", "QUOTE", "ESCAPE", "NULL",
      "ENCODING", "FORCE_QUOTE", "FORCE_NOT_NULL", "FORCE_NULL"] with
  | some "FORMAT" => discard identifier
  | some "FREEZE" | some "HEADER" => discard (acceptOneOf ["TRUE", "FALSE"])
  | some "DELIMITER" | some "QUOTE" | some "ESCAPE" => literalChar
  | some "NULL" | some "ENCODING" => discard literalString
  | some _ => discard columnList
  | none => expected .copyOption

/-- An option for fields between commas, as it was once written. -/
private def fieldOption : Parser Unit := do
  match ← acceptOneOf ["HEADER", "QUOTE", "ESCAPE", "FORCE"] with
  | some "HEADER" => pure ()
  | some "FORCE" =>
    if (← acceptPhrase [["NOT", "NULL"], ["QUOTE"]]).isNone then expected .copyOption
    discard (commaSeparated identifier)
  | some _ =>
    discard (accept "AS")
    literalChar
  | none => expected .copyOption

/-- An option of a transfer as it was once written, without parentheses. -/
private def plainOption : Parser Unit := do
  match ← acceptOneOf ["BINARY", "DELIMITER", "NULL", "CSV"] with
  | some "BINARY" => pure ()
  | some "DELIMITER" =>
    discard (accept "AS")
    literalChar
  | some "NULL" =>
    discard (accept "AS")
    discard literalString
  | some _ => discard (many (attempt fieldOption))
  | none => expected .copyOption

/-- Rows in the text itself, up to a backslash and a period. A backslash takes what follows it. -/
private def inlineRows : Parser Unit := loop do
  match Located.token? (← next) with
  | none => return false
  | some (.symbol .backslash) =>
    if ← acceptSymbol .period then return false
    discard next
    return true
  | some _ => return true

/-- What follows `COPY`. -/
def copying (g : Grammar) : Parser Unit := do
  let isQuery ← atSymbol .lparen
  if isQuery then discard (parenthesized g.query)
  else
    discard dottedName
    discard optionalColumnList
  match ← acceptOneOf ["FROM", "TO"] with
  | some k => if k = "FROM" && isQuery then fail (.misuse .queryAsSource none)
  | none => expected .copyDirection
  let isInline ← accept "STDIN"
  if !isInline then
    if !(← accept "STDOUT") then
      discard (accept "PROGRAM")
      discard literalString
  discard (accept "WITH")
  if ← atSymbol .lparen then discard (parenthesized (commaSeparated copyOption))
  discard (many (attempt plainOption))
  if isInline then
    expectSymbol .semicolon
    inlineRows

/-- What follows `UNLOAD`. -/
def unloading (g : Grammar) : Parser Unit := do
  discard (parenthesized g.query)
  expect "TO"
  discard identifier
  g.settingsAfter "WITH"

end EntityGen.Sql.Grammar
