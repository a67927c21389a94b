import EntityGen.Sql.Grammar

/-! Constraints on the rows of a table, and the clauses that a constraint on one column shares with
them: what a reference does when its target changes, and when a constraint is checked. -/

namespace EntityGen.Sql

namespace Grammar

open EntityGen.Sql.Parser

/-- What a reference does when its target changes. -/
private def referentialAction : Parser String := do
  match ← acceptPhrase [["RESTRICT"], ["CASCADE"], ["SET", "NULL"], ["NO", "ACTION"],
      ["SET", "DEFAULT"]] with
  | some ks => return " ".intercalate ks
  | none => expected .referentialAction

/-- What stands after the target of a reference: what is done on deletion and on update, each at
most once. -/
def referenceClauses : Parser String := do
  let found ← fold ("", "") fun (deletion, update) => do
    if ← acceptAllKnown (deletion = "") ["ON", "DELETE"] then
      return some (" ON DELETE " ++ (← referentialAction), update)
    else if ← acceptAllKnown (update = "") ["ON", "UPDATE"] then
      return some (deletion, " ON UPDATE " ++ (← referentialAction))
    else return none
  return found.1 ++ found.2

/-- When a constraint is checked: each of its three clauses at most once. -/
def characteristics : Parser String := do
  let oneOf (taken : String) (rows : List (List String)) : Parser String :=
    if taken = "" then flagPhrase rows else pure ""
  let found ← fold ("", "", "") fun (deferrable, initially, enforced) => do
    let word ← oneOf deferrable [["NOT", "DEFERRABLE"], ["DEFERRABLE"]]
    if word ≠ "" then return some (word, initially, enforced)
    if (← oneOf initially [["INITIALLY"]]) ≠ "" then
      match ← acceptOneOf ["DEFERRED", "IMMEDIATE"] with
      | some k => return some (deferrable, " INITIALLY " ++ k, enforced)
      | none => expected .deferral
    let word ← oneOf enforced [["NOT", "ENFORCED"], ["ENFORCED"]]
    if word ≠ "" then return some (deferrable, initially, word) else return none
  return found.1 ++ found.2.1 ++ found.2.2

/-- How an index is kept, if that is told. -/
def indexMethod : Parser Unit :=
  optionally "USING" do
    if (← acceptOneOf ["BTREE", "HASH"]).isNone then expected .indexMethod

def indexOptions : Parser Unit := loop do
  if ← atKeyword "USING" then
    indexMethod
    return true
  else if ← accept "COMMENT" then
    discard literalString
    return true
  else return false

/-- The columns of a key with what may stand before and after them. -/
def keyBody : Parser Unit := do
  discard optionalIdentifier
  indexMethod
  discard columnList
  indexOptions
  discard characteristics

/-- `KEY` or `INDEX` where the dialect has lists of keys; elsewhere a name or columns must come. -/
private def indexWord : Parser Unit := do
  if (← acceptOneOf ["KEY", "INDEX"]).isSome then
    if !(← rules).keyEntries then expected .indexNameOrColumns

private def foreignKey : Parser Unit := do
  discard columnList
  expect "REFERENCES"
  discard dottedName
  discard columnList
  discard referenceClauses
  discard characteristics

/-- A list of keys: its name, how it is kept, and its columns. -/
private def keyEntry : Parser Unit := do
  if !(← atKeyword "USING") then discard optionalIdentifier
  indexMethod
  discard columnList

/-- The columns of an index for searching, which has no name before its keyword. -/
private def searchEntry (name : Option Name) (found : Option Located) : Parser Unit := do
  match name, found with
  | some n, some t =>
    expectedAt .unnamedSearchIndex (some { t with token := .word (.plain n.text) })
  | _, _ => pure ()
  discard (acceptOneOf ["KEY", "INDEX"])
  discard optionalIdentifier
  discard columnList

/-- An entry of a table that is no column. `false` if none comes next. -/
def tableConstraint (g : Grammar) : Parser Bool := do
  let name ← do if ← accept "CONSTRAINT" then some <$> identifier else pure none
  let keys := (← rules).keyEntries
  let here ← peek
  if ← accept "UNIQUE" then
    indexWord
    keyBody
    return true
  else if ← accept "PRIMARY" then
    expect "KEY"
    keyBody
    return true
  else if ← accept "FOREIGN" then
    expect "KEY"
    foreignKey
    return true
  else if ← accept "CHECK" then
    discard (inParens g.whole)
    return true
  else
    let entry ← if keys && name.isNone then acceptOneOf ["INDEX", "KEY"] else pure none
    let search ← if keys && entry.isNone then acceptOneOf ["FULLTEXT", "SPATIAL"] else pure none
    if entry.isSome then
      keyEntry
      return true
    else if search.isSome then
      searchEntry name here
      return true
    else if name.isSome then expectedAt .constraintKind here
    else return false

end Grammar

end EntityGen.Sql
