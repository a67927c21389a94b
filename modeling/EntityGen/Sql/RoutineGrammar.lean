import EntityGen.Sql.ObjectGrammar

/-! Routines: functions, triggers, macros and procedures. What a routine does is read as far as the
text shows it: an expression, a query, statements, or a string that holds them. -/

namespace EntityGen.Sql.Grammar

open EntityGen.Sql.Parser

/-- An argument of a function. A first word that names no built-in type is the argument's name. -/
private def routineArgument (g : Grammar) : Parser Unit := do
  discard (acceptOneOf ["IN", "OUT", "INOUT"])
  match ← g.balancedType with
  | .custom .. => discard g.balancedType
  | _ => pure ()
  let assigned ← do if ← accept "DEFAULT" then pure true else acceptSymbol .eq
  if assigned then discard g.whole

/-- The name of a function, perhaps with its arguments. -/
def routineReference (g : Grammar) : Parser Unit := do
  discard dottedName
  if ← atSymbol .lparen then
    discard (parenthesized (commaSeparatedUntil .rparen g.routineArgument))

/-! ### Functions -/

/-- The properties of a function, of which each may be given once. -/
private inductive RoutineProperty where
  | body | language | volatility | nullInput | parallelism
  deriving DecidableEq

/-- A property of a function by the keywords that begin it: how its clause is called in messages,
and what follows the keywords. -/
private structure RoutineClause where
  keywords : List String
  property : RoutineProperty
  name : String
  rest : Parser Unit

private def bodyString : Parser Unit := do
  match ← peekToken with
  | some (.literal (.dollar _) _) => discard next
  | _ => discard literalString

private def parallelSafety : Parser Unit := do
  if (← acceptOneOf ["UNSAFE", "RESTRICTED", "SAFE"]).isNone then expected .parallelSafety

private def volatilityName : String := "IMMUTABLE | STABLE | VOLATILE"

private def nullInputName : String := "CALLED ON NULL INPUT | RETURNS NULL ON NULL INPUT | STRICT"

private def routineClauses (g : Grammar) : List RoutineClause :=
  [⟨["AS"], .body, "AS", bodyString⟩,
   ⟨["LANGUAGE"], .language, "LANGUAGE", discard identifier⟩,
   ⟨["IMMUTABLE"], .volatility, volatilityName, pure ()⟩,
   ⟨["STABLE"], .volatility, volatilityName, pure ()⟩,
   ⟨["VOLATILE"], .volatility, volatilityName, pure ()⟩,
   ⟨["CALLED", "ON", "NULL", "INPUT"], .nullInput, nullInputName, pure ()⟩,
   ⟨["RETURNS", "NULL", "ON", "NULL", "INPUT"], .nullInput, nullInputName, pure ()⟩,
   ⟨["STRICT"], .nullInput, nullInputName, pure ()⟩,
   ⟨["PARALLEL"], .parallelism, "PARALLEL \x7b UNSAFE | RESTRICTED | SAFE \x7d", parallelSafety⟩,
   ⟨["RETURN"], .body, "RETURN", discard g.whole⟩]

/-- The clause whose keywords come next. -/
private def acceptClause : List RoutineClause → Parser (Option RoutineClause)
  | [] => pure none
  | c :: rest => do if ← acceptAll c.keywords then return some c else acceptClause rest

private def routineProperties (g : Grammar) : Parser Unit :=
  discard <| fold ([] : List RoutineProperty) fun given => do
    match ← acceptClause g.routineClauses with
    | none => return none
    | some c =>
      if c.property ∈ given then fail (.misuse (.repeatedClause c.name) none)
      c.rest
      return some (c.property :: given)

/-- A function after `FUNCTION`. -/
def functionDefinition (g : Grammar) : Parser Unit := do
  discard dottedName
  discard (parenthesized (commaSeparatedUntil .rparen g.routineArgument))
  optionally "RETURNS" g.balancedType
  g.routineProperties

/-! ### Triggers -/

private def triggerEvent : Parser Unit := do
  if (← expectOneOf ["INSERT", "UPDATE", "DELETE", "TRUNCATE"]) = "UPDATE" then
    optionally "OF" (commaSeparated identifier)

/-- The names under which a trigger sees the rows before and after. -/
private def triggerRows : Parser Unit := loop do
  match ← acceptOneOf ["OLD", "NEW"] with
  | none => return false
  | some _ =>
    if !(← accept "TABLE") then return false
    discard (accept "AS")
    discard dottedName
    return true

/-- A trigger after `TRIGGER`. -/
def triggerDefinition (g : Grammar) : Parser Unit := do
  discard dottedName
  if (← expectOneOf ["BEFORE", "AFTER", "INSTEAD"]) = "INSTEAD" then expect "OF"
  triggerEvent
  loop do
    if ← accept "OR" then
      triggerEvent
      return true
    else return false
  expect "ON"
  discard dottedName
  optionally "FROM" looseName
  discard characteristics
  optionally "REFERENCING" triggerRows
  expect "FOR"
  discard (accept "EACH")
  discard (expectOneOf ["ROW", "STATEMENT"])
  optionally "WHEN" g.whole
  expect "EXECUTE"
  discard (expectOneOf ["FUNCTION", "PROCEDURE"])
  g.routineReference

/-! ### Macros and procedures -/

private def macroArgument (g : Grammar) : Parser Unit := do
  discard identifier
  let assigned ← do if ← acceptSymbol .assign then pure true else acceptSymbol .rightArrow
  if assigned then discard g.whole

/-- A macro after `MACRO`. -/
def macroDefinition (g : Grammar) : Parser Unit := do
  discard dottedName
  discard (parenthesized (commaSeparatedUntil .rparen g.macroArgument))
  expect "AS"
  if ← accept "TABLE" then discard g.query else discard g.whole

private def procedureParameter (g : Grammar) : Parser Bool := do
  match ← peekToken with
  | some (.word _) =>
    discard identifier
    discard g.balancedType
  | _ => pure ()
  let comma ← acceptSymbol .comma
  if ← acceptSymbol .rparen then return false
  if !comma then expected .parameterContinuation
  return true

/-- A procedure after `PROCEDURE`. -/
def procedureDefinition (g : Grammar) (statements : Parser Unit) : Parser Unit := do
  discard dottedName
  if ← acceptSymbol .lparen then
    if !(← acceptSymbol .rparen) then loop g.procedureParameter
  expectAll ["AS", "BEGIN"]
  statements
  expect "END"

end EntityGen.Sql.Grammar
