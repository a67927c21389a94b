import EntityGen.Sql.Constraint
import EntityGen.Sql.Setting

/-! How a column is read: its name, its type, and the options after them. An option that only some
dialects have may lose its first keyword before that is found out; the options then go on with
those that are tried later. -/

namespace EntityGen.Sql.Grammar

open EntityGen.Sql.Parser

/-- A number of a sequence after its keywords, of which the last may be missing. -/
private def sequenceNumber (k filler : String) : Parser String := do
  if ← accept k then
    let filler ← flag filler
    return " " ++ k ++ filler ++ " " ++ (← signedNumber)
  else return ""

/-- A bound of a sequence, which may be said not to be there. -/
private def sequenceBound (k : String) : Parser String := do
  if ← accept k then return " " ++ k ++ " " ++ (← signedNumber) else flagAll ["NO", k]

/-- The options of a sequence, each at most once and in this order. -/
def sequenceOptions : Parser String := do
  let increment ← sequenceNumber "INCREMENT" "BY"
  let least ← sequenceBound "MINVALUE"
  let most ← sequenceBound "MAXVALUE"
  let start ← sequenceNumber "START" "WITH"
  let cache ← clause "CACHE" signedNumber
  return increment ++ least ++ most ++ start ++ cache ++ (← flagPhrase [["NO", "CYCLE"], ["CYCLE"]])

/-- The options, in parentheses, of the sequence that numbers the rows of a column. -/
def identityOptions : Parser String := do
  if ← atSymbol .lparen then
    let text ← parenthesized sequenceOptions
    return if text = "" then "" else " (" ++ text ++ " )"
  else return ""

/-- How the value of a column is generated, `none` if nothing that generates comes next. -/
def generation (g : Grammar) : Parser (Option String) := do
  if ← acceptAll ["ALWAYS", "AS", "IDENTITY"] then
    return some ("GENERATED ALWAYS AS IDENTITY" ++ (← identityOptions))
  else if ← acceptAll ["BY", "DEFAULT", "AS", "IDENTITY"] then
    return some ("GENERATED BY DEFAULT AS IDENTITY" ++ (← identityOptions))
  else if ← acceptAll ["ALWAYS", "AS"] then
    if !(← atSymbol .lparen) then return none
    let text ← inParens g.whole
    let stored ← flag "STORED"
    if stored = "" ∧ (← rules).storedOnly then expected .stored
    let mode ← if stored = "" then flag "VIRTUAL" else pure stored
    return some ("GENERATED ALWAYS AS " ++ text ++ mode)
  else return none

private def identityClause : Parser String := do
  if !(← atSymbol .lparen) then return "IDENTITY"
  let inner ← inParens do
    let seed ← signedNumber
    expectSymbol .comma
    return seed ++ ", " ++ (← signedNumber)
  return "IDENTITY" ++ inner

/-- The options that follow a keyword in some dialects only. -/
def lateOption (g : Grammar) (r : Rules) : Parser (Option String) := do
  if ← acceptAllMeant r.underscoredIncrement ["AUTO_INCREMENT"] then return some "AUTO_INCREMENT"
  else if ← acceptAllMeant r.joinedIncrement ["AUTOINCREMENT"] then return some "AUTOINCREMENT"
  else if ← acceptAllMeant r.columnOrder ["ASC"] then return some "ASC"
  else if ← acceptAllMeant r.columnOrder ["DESC"] then return some "DESC"
  else if ← acceptAllMeant r.columnOnUpdate ["ON", "UPDATE"] then
    return some ("ON UPDATE " ++ (← g.whole))
  else if ← accept "GENERATED" then g.generation
  else if ← acceptKnown r.optionLists "OPTIONS" then return some ("OPTIONS" ++ (← g.settings))
  else if ← acceptAllMeant r.computedAs ["AS"] then
    let text ← inParens g.whole
    return some ("AS " ++ text ++ (← flagPhrase [["STORED"], ["VIRTUAL"]]))
  else if ← acceptAllMeant r.identityColumns ["IDENTITY"] then return some (← identityClause)
  else if ← acceptAllKnown r.columnOnConflict ["ON", "CONFLICT"] then
    let k ← expectOneOf ["ROLLBACK", "ABORT", "FAIL", "IGNORE", "REPLACE"]
    return some ("ON CONFLICT " ++ k)
  else return none

/-- A default for the rows that give no value, perhaps none. -/
private def ephemeral (g : Grammar) : Parser String := do
  if (← atSymbol .comma) || (← atSymbol .rparen) then return "EPHEMERAL"
  else return "EPHEMERAL " ++ (← g.whole)

private def columnComment : Parser String := do
  let found ← next
  match Located.token? found with
  | some (.literal .single s) => return "COMMENT " ++ quotedText '\x27' s
  | _ => expectedAt .columnString found

private def reference : Parser String := do
  let table ← dotted
  let columns ← optionalColumnList
  let actions ← referenceClauses
  return "REFERENCES " ++ table ++ columns ++ actions ++ (← characteristics)

/-- An option of a column, `none` if none comes next. -/
def columnOption (g : Grammar) : Parser (Option String) := do
  let r ← rules
  let derived := r.derivedColumns
  if ← acceptAll ["CHARACTER", "SET"] then return some ("CHARACTER SET " ++ (← dotted))
  else if ← acceptAll ["NOT", "NULL"] then return some "NOT NULL"
  else if ← accept "COMMENT" then return some (← columnComment)
  else if ← accept "NULL" then return some "NULL"
  else if ← accept "DEFAULT" then return some ("DEFAULT " ++ (← g.whole))
  else if ← acceptKnown derived "MATERIALIZED" then return some ("MATERIALIZED " ++ (← g.whole))
  else if ← acceptKnown derived "ALIAS" then return some ("ALIAS " ++ (← g.whole))
  else if ← acceptKnown derived "EPHEMERAL" then return some (← g.ephemeral)
  else if ← acceptAll ["PRIMARY", "KEY"] then return some ("PRIMARY KEY" ++ (← characteristics))
  else if ← accept "UNIQUE" then return some ("UNIQUE" ++ (← characteristics))
  else if ← accept "REFERENCES" then return some (← reference)
  else if ← accept "CHECK" then return some ("CHECK " ++ (← inParens g.whole))
  else g.lateOption r

/-- The words after which a column without a type goes on. -/
def typelessEnds : List String :=
  ["CONSTRAINT", "PRIMARY", "NOT", "UNIQUE", "CHECK", "DEFAULT", "COLLATE", "REFERENCES",
   "GENERATED", "AS"]

/-- The type of a column, which some dialects let be missing. -/
def columnType (g : Grammar) : Parser DataType := do
  let missing ← do
    if (← rules).typelessColumns then
      match ← peekToken with
      | some (.word w) => pure (typelessEnds.contains w.keyword)
      | _ => pure true
    else pure false
  if missing then return .missing else g.balancedType

/-- One more option of a column after those already read. A collation among the options takes the
place of an earlier one. -/
def furtherOption (g : Grammar) (again : Bool) :
    String × String → Parser (Option (String × String))
  | (collation, options) => do
    if ← accept "CONSTRAINT" then
      let name ← named
      match ← g.columnOption with
      | some text => return some (collation, options ++ " CONSTRAINT " ++ name ++ " " ++ text)
      | none => expected .constraintDetails
    else
      match ← g.columnOption with
      | some text => return some (collation, options ++ " " ++ text)
      | none =>
        if ← acceptKnown again "COLLATE" then
          return some (" COLLATE " ++ (← dotted), options)
        else return none

/-- The collation and the options of a column. -/
def columnOptions (g : Grammar) (collation : String) : Parser (String × String) := do
  let again := (← rules).collateOption
  fold (collation, "") (g.furtherOption again)

/-- A column. -/
def readColumn (g : Grammar) : Parser Column := do
  let name ← identifier
  let type ← g.columnType
  let (collation, options) ← g.columnOptions (← clause "COLLATE" dotted)
  return ⟨name, type, collation ++ options⟩

end EntityGen.Sql.Grammar
