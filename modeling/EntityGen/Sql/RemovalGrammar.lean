import EntityGen.Sql.RoutineGrammar

/-! Removal of objects: most by a list of names, some by a form of their own. -/

namespace EntityGen.Sql

/-- The objects that are dropped by a list of names. -/
def listedObjects : List String :=
  ["TABLE", "VIEW", "INDEX", "ROLE", "SCHEMA", "DATABASE", "SEQUENCE", "STAGE", "TYPE"]

namespace Grammar

open EntityGen.Sql.Parser

/-- What is done about the objects that depend on a dropped one. -/
private def dependents : Parser Unit := discard (acceptOneOf ["CASCADE", "RESTRICT"])

private def listedRemoval (object : String) : Parser Unit := do
  ifExists
  discard (commaSeparated dottedName)
  let start ← position
  let cascade ← accept "CASCADE"
  let restrict ← accept "RESTRICT"
  let purge ← accept "PURGE"
  if cascade && restrict then fail (.misuse .cascadeAndRestrict start)
  if object = "ROLE" ∧ (cascade || restrict || purge) then
    fail (.misuse .dependentsOfRole start)

private def routineRemoval (g : Grammar) : Parser Unit := do
  ifExists
  discard (commaSeparated g.routineReference)
  dependents

private def policyRemoval : Parser Unit := do
  ifExists
  discard identifier
  expect "ON"
  discard dottedName
  dependents

private def secretRemoval : Parser Unit := do
  ifExists
  discard identifier
  optionally "FROM" (recovering identifier)

private def triggerRemoval (keyword : Option Located) : Parser Unit := do
  if !(← rules).routines then expectedAt .droppedRoutine keyword
  ifExists
  discard dottedName
  expect "ON"
  discard dottedName
  dependents

/-- What follows `DROP`. -/
def removal (g : Grammar) : Parser Unit := do
  discard (acceptKnown (← rules).temporaryDrops "TEMPORARY")
  let here ← peek
  match ← acceptOneOf (listedObjects
      ++ ["FUNCTION", "POLICY", "PROCEDURE", "SECRET", "TRIGGER"]) with
  | some "FUNCTION" | some "PROCEDURE" => g.routineRemoval
  | some "POLICY" => policyRemoval
  | some "SECRET" => secretRemoval
  | some "TRIGGER" => triggerRemoval here
  | some object => listedRemoval object
  | none => expected .droppedObject

end Grammar

end EntityGen.Sql
