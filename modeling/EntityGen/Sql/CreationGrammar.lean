import EntityGen.Sql.PrivilegeGrammar
import EntityGen.Sql.RoutineGrammar

/-! What `CREATE` may make. Of all objects only a table is kept; the others are read to tell where
their definitions end. -/

namespace EntityGen.Sql.Grammar

open EntityGen.Sql.Parser

/-- Words before the object, about how long it lives and who sees it. -/
def lifetimeWords : Parser Unit := do
  discard (accept "LOCAL")
  discard (accept "GLOBAL")
  discard (accept "TRANSIENT")
  discard (acceptOneOf ["TEMP", "TEMPORARY"])

/-- An object by the keywords that begin it, and whether the dialect knows it. -/
private structure CreatedObject where
  keywords : List String
  definition : Parser Unit
  isKnown : Bool

/-- The objects that may replace others of their name. -/
private def replacingObjects (g : Grammar) (r : Rules) : List CreatedObject :=
  [⟨["POLICY"], g.policyDefinition, true⟩,
   ⟨["FUNCTION"], g.functionDefinition, r.routines⟩,
   ⟨["TRIGGER"], g.triggerDefinition, r.routines⟩,
   ⟨["CONSTRAINT", "TRIGGER"], g.triggerDefinition, r.routines⟩,
   ⟨["MACRO"], g.macroDefinition, r.attachments⟩,
   ⟨["SECRET"], secretDefinition, true⟩]

/-- The objects that are made anew. -/
private def newObjects (g : Grammar) (statements : Parser Unit) : List CreatedObject :=
  [⟨["EXTENSION"], extensionDefinition, true⟩,
   ⟨["INDEX"], g.indexDefinition, true⟩,
   ⟨["UNIQUE", "INDEX"], g.indexDefinition, true⟩,
   ⟨["VIRTUAL"], virtualTable, true⟩,
   ⟨["SCHEMA"], schemaDefinition, true⟩,
   ⟨["DATABASE"], databaseDefinition, true⟩,
   ⟨["ROLE"], roleDefinition, true⟩,
   ⟨["SEQUENCE"], g.sequenceDefinition, true⟩,
   ⟨["TYPE"], g.typeDefinition, true⟩,
   ⟨["PROCEDURE"], g.procedureDefinition statements, true⟩]

/-- The first of some objects whose keywords come next. An object that the dialect does not know is
refused at the last of its keywords. -/
private def acceptObject : List CreatedObject → Parser Bool
  | [] => pure false
  | object :: rest => do
    let last ← locatedAt (object.keywords.length - 1)
    if !(← acceptAll object.keywords) then return ← acceptObject rest
    if !object.isKnown then expectedAt .createdObject last
    object.definition
    return true

/-- What follows `CREATE`. `statements` reads the body of a procedure. -/
def creation (g : Grammar) (statements : Parser Unit) : Parser (Option TableDefinition) := do
  let r ← rules
  if r.labelTypes then
    if ← labelType then return none
  let replacing ← acceptAll ["OR", "REPLACE"]
  discard (acceptAll ["OR", "ALTER"])
  lifetimeWords
  if ← accept "TABLE" then return some (← g.tableDefinition)
  if ← accept "EXTERNAL" then
    expect "TABLE"
    return some (← g.externalTable)
  if ← atOneOf ["MATERIALIZED", "VIEW"] then g.viewDefinition
  else if !(← acceptObject (g.replacingObjects r)) then
    if replacing then expected .replacedObject
    if !(← acceptObject (g.newObjects statements)) then expected .createdObject
  return none

end EntityGen.Sql.Grammar
